import NatTraversal.Wire.Bytes

namespace NatTraversal

/-- How much of the remote endpoint a translator looks at: to choose a mapping, or to let a packet in. -/
inductive Dependence where
  | endpointIndependent
  | addressDependent
  | addressAndPortDependent
deriving DecidableEq, Repr

/-- How a translator picks the public port of a new mapping. -/
inductive Allocation where
  | portPreservation
  | portContiguity
  | random
deriving DecidableEq, Repr

/-- What gets through a translator. -/
inductive Technique where
  | none
  | simple
  | prediction
  | impossible
deriving DecidableEq, Repr

namespace Dependence

def code : Dependence → UInt8
  | endpointIndependent => 0
  | addressDependent => 1
  | addressAndPortDependent => 2

def ofCode? : UInt8 → Option Dependence
  | 0 => some endpointIndependent
  | 1 => some addressDependent
  | 2 => some addressAndPortDependent
  | _ => .none

def abbreviation : Dependence → String
  | endpointIndependent => "EI"
  | addressDependent => "HD"
  | addressAndPortDependent => "PD"

theorem ofCode?_eq_some_iff {c : UInt8} {d : Dependence} : ofCode? c = some d ↔ c = d.code := by
  constructor
  · intro h; unfold ofCode? at h; split at h <;> cases h <;> rfl
  · rintro rfl; cases d <;> rfl

end Dependence

namespace Allocation

def code : Allocation → UInt8
  | portPreservation => 0
  | portContiguity => 1
  | random => 2

def ofCode? : UInt8 → Option Allocation
  | 0 => some portPreservation
  | 1 => some portContiguity
  | 2 => some random
  | _ => .none

def abbreviation : Allocation → String
  | portPreservation => "PP"
  | portContiguity => "PC"
  | random => "RD"

theorem ofCode?_eq_some_iff {c : UInt8} {a : Allocation} : ofCode? c = some a ↔ c = a.code := by
  constructor
  · intro h; unfold ofCode? at h; split at h <;> cases h <;> rfl
  · rintro rfl; cases a <;> rfl

end Allocation

namespace Technique

def code : Technique → UInt8
  | .none => 0
  | simple => 1
  | prediction => 2
  | impossible => 3

def ofCode? : UInt8 → Option Technique
  | 0 => some .none
  | 1 => some simple
  | 2 => some prediction
  | 3 => some impossible
  | _ => Option.none

def isPossible (technique : Technique) : Bool := technique != impossible

/-- A mapping that ignores the destination can be punched; any other has to be predicted, which a random port
defeats. -/
def forMapping : Dependence → Allocation → Technique
  | .endpointIndependent, _ => simple
  | _, .random => impossible
  | _, _ => prediction

theorem ofCode?_eq_some_iff {c : UInt8} {t : Technique} : ofCode? c = some t ↔ c = t.code := by
  constructor
  · intro h; unfold ofCode? at h; split at h <;> cases h <;> rfl
  · rintro rfl; cases t <;> rfl

end Technique

/-- What a node knows and tells of the translator in front of it. An open node is reachable as it is and needs no
parents. Nothing ties `technique` to the other fields: a received description keeps what its sender wrote. -/
structure NatType where
  isOpen : Bool
  mapping : Dependence
  allocation : Allocation
  filtering : Dependence
  technique : Technique
  /-- The step between the ports of successive mappings. -/
  delta : UInt8
  /-- How long an idle mapping lives, in milliseconds. -/
  bindingTimeout : UInt32
  upnpPort : Option UInt16
deriving DecidableEq, Repr

namespace NatType

inductive Field where
  | mapping
  | allocation
  | filtering
  | technique
deriving DecidableEq, Repr

/-- Why bytes are no description of a translator. -/
inductive Malformed where
  | truncated (need left : Nat)
  | code (field : Field) (value : UInt8)
deriving DecidableEq, Repr

def wireLength : Nat := 12

def Field.name : Field → String
  | mapping => "mapping"
  | allocation => "allocation"
  | filtering => "filtering"
  | technique => "hp_algorithm"

def Malformed.text : Malformed → String
  | truncated need left => s!"truncated: need {need} bytes but {left} remain"
  | code field value => s!"invalid nat descriptor: {field.name} = {value}"

def unrestricted : NatType :=
  ⟨true, .endpointIndependent, .portPreservation, .endpointIndependent, .none, 0, 0, none⟩

def natted (mapping : Dependence) (allocation : Allocation) (filtering : Dependence) : NatType :=
  ⟨false, mapping, allocation, filtering, .forMapping mapping allocation, 0, 0, none⟩

def isUpnp (nat : NatType) : Bool := nat.upnpPort.isSome

def text (nat : NatType) : String :=
  if nat.isOpen then "OPEN"
  else
    let policies := s!"NAT_{nat.mapping.abbreviation}_{nat.allocation.abbreviation}_{nat.filtering.abbreviation}"
    match nat.upnpPort with
    | some port => s!"{policies}_UPNP({port})"
    | none => policies

/-- Bit 0 says open, bit 1 that a mapped port follows. -/
def flags (nat : NatType) : UInt8 :=
  (if nat.isOpen then 1 else 0) + (if nat.upnpPort.isSome then 2 else 0)

def encode (nat : NatType) : Bytes :=
  [nat.flags, nat.mapping.code, nat.allocation.code, nat.filtering.code, nat.technique.code, nat.delta] ++
    Bytes.u32 nat.bindingTimeout ++ Bytes.u16 (nat.upnpPort.getD 0)

def known {α : Type} (field : Field) (value : UInt8) : Option α → Except Malformed α
  | some a => .ok a
  | none => .error (.code field value)

/-- Reads the fixed-length form; the length is looked at before any field, the higher flag bits never. -/
def decode : Bytes → Except Malformed (NatType × Bytes)
  | flags :: m :: a :: f :: t :: delta :: t3 :: t2 :: t1 :: t0 :: p1 :: p0 :: rest => do
    let mapping ← known .mapping m (Dependence.ofCode? m)
    let allocation ← known .allocation a (Allocation.ofCode? a)
    let filtering ← known .filtering f (Dependence.ofCode? f)
    let technique ← known .technique t (Technique.ofCode? t)
    return ({
      isOpen := flags % 2 == 1
      mapping, allocation, filtering, technique, delta
      bindingTimeout := .ofNat (Bytes.value [t3, t2, t1, t0])
      upnpPort := if flags / 2 % 2 == 1 then some (.ofNat (Bytes.value [p1, p0])) else none }, rest)
  | short => .error (.truncated wireLength short.length)

theorem encode_length (nat : NatType) : nat.encode.length = wireLength := by
  simp [encode, Bytes.u32, Bytes.u16, wireLength]

end NatType

end NatTraversal
