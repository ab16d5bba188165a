import NatTraversal.Text.Hex

namespace NatTraversal

structure Ipv4 where
  bits : UInt32
deriving DecidableEq, Repr

namespace Ipv4

def ofOctets (a b c d : Nat) : Ipv4 := ⟨UInt32.ofNat (((a * 256 + b) * 256 + c) * 256 + d)⟩

def octets (ip : Ipv4) : List Nat :=
  let n := ip.bits.toNat
  [n / 16777216, n / 65536 % 256, n / 256 % 256, n % 256]

def unspecified : Ipv4 := ⟨0⟩

def loopback : Ipv4 := ofOctets 127 0 0 1

def text (ip : Ipv4) : String := String.intercalate "." (ip.octets.map toString)

/-- A decimal octet: one to three digits, at most 255, no leading zero. -/
def takeOctet (cs : List Char) : Option (Nat × List Char) :=
  let digits := cs.takeWhile Char.isDigit
  let n := digits.foldl (fun n c => 10 * n + (c.toNat - '0'.toNat)) 0
  if digits.isEmpty || digits.length > 3 || n > 255 || (digits.head? == some '0' && digits.length > 1) then none
  else some (n, cs.drop digits.length)

/-- A dotted quad at the head of a text, and what follows it. -/
def take? (cs : List Char) : Option (Ipv4 × List Char) := do
  let (a, cs) ← takeOctet cs
  let (b, cs) ← dotted cs
  let (c, cs) ← dotted cs
  let (d, cs) ← dotted cs
  return (ofOctets a b c d, cs)
where
  dotted : List Char → Option (Nat × List Char)
    | '.' :: cs => takeOctet cs
    | _ => none

def parse? (cs : List Char) : Option Ipv4 :=
  match take? cs with
  | some (ip, []) => some ip
  | _ => none

end Ipv4

structure Ipv6 where
  groups : Vector UInt16 8
deriving DecidableEq, Repr

namespace Ipv6

/-- The IPv4 address inside `::ffff:a.b.c.d`. -/
def mapped? (ip : Ipv6) : Option Ipv4 :=
  match ip.groups.toList with
  | [0, 0, 0, 0, 0, 0xffff, high, low] => some ⟨UInt32.ofNat (high.toNat * 65536 + low.toNat)⟩
  | _ => none

/-- Start and length of the longest run of zero groups, the first of equally long ones. -/
def longestZeroRun (groups : List UInt16) : Nat × Nat :=
  (List.range groups.length).foldl (fun best start =>
    let len := ((groups.drop start).takeWhile (· == 0)).length
    if len > best.2 then (start, len) else best) (0, 0)

def groupsText (groups : List UInt16) : String :=
  String.intercalate ":" (groups.map fun g => String.ofList (hexTrimmed g.toNat))

/-- The shortest usual form: the longest run of two or more zero groups is written `::`. -/
def text (ip : Ipv6) : String :=
  match ip.mapped? with
  | some v4 => s!"::ffff:{v4.text}"
  | none =>
    let groups := ip.groups.toList
    let (start, len) := longestZeroRun groups
    if len > 1 then s!"{groupsText (groups.take start)}::{groupsText (groups.drop (start + len))}"
    else groupsText groups

def takeGroup (cs : List Char) : Option (UInt16 × List Char) :=
  let digits := cs.takeWhile fun c => (hexValue? c).isSome
  if digits.isEmpty || digits.length > 4 then none
  else some (UInt16.ofNat (digits.foldl (fun n c => 16 * n + (hexValue? c).getD 0) 0), cs.drop digits.length)

/-- At most `limit` groups separated by colons, an IPv4 address standing for two of them and ending the list.
Also tells whether it did, and what follows. -/
def takeGroups : (limit : Nat) → (first : Bool) → List Char → List UInt16 × Bool × List Char
  | 0, _, cs => ([], false, cs)
  | limit + 1, first, cs =>
    let body? := if first then some cs else match cs with
      | ':' :: rest => some rest
      | _ => none
    match body? with
    | none => ([], false, cs)
    | some body =>
      let quad := if limit ≥ 1 then Ipv4.take? body else none
      match quad with
      | some (v4, rest) => ([UInt16.ofNat (v4.bits.toNat / 65536), UInt16.ofNat v4.bits.toNat], true, rest)
      | none =>
        match takeGroup body with
        | none => ([], false, cs)
        | some (group, rest) =>
          let (groups, quad, rest) := takeGroups limit false rest
          (group :: groups, quad, rest)

def take? (cs : List Char) : Option (Ipv6 × List Char) :=
  let (head, quad, rest) := takeGroups 8 true cs
  if full : head.length = 8 then some (⟨⟨head.toArray, full⟩⟩, rest)
  else if quad then none
  else match rest with
    | ':' :: ':' :: rest =>
      let (tail, _, rest) := takeGroups (7 - head.length) true rest
      let groups := head ++ List.replicate (8 - (head.length + tail.length)) 0 ++ tail
      if whole : groups.length = 8 then some (⟨⟨groups.toArray, whole⟩⟩, rest) else none
    | _ => none

end Ipv6

inductive Ip where
  | v4 (ip : Ipv4)
  | v6 (ip : Ipv6)
deriving DecidableEq, Repr

namespace Ip

def text : Ip → String
  | v4 ip => ip.text
  | v6 ip => ip.text

/-- The IPv4 address that stands for an address; an IPv6 one that maps none becomes the unspecified address. -/
def toIpv4 : Ip → Ipv4
  | v4 ip => ip
  | v6 ip => ip.mapped?.getD .unspecified

end Ip

end NatTraversal
