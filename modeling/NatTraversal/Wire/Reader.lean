import NatTraversal.NatType
import NatTraversal.Text.Hex
import NatTraversal.Text.Utf8

namespace NatTraversal

/-- The one-byte codes of a message body. -/
inductive Code where
  | echoKind
  | registerStatus
  | unregisterStatus
  | keepAliveStatus
  | connectStatus
deriving DecidableEq, Repr

/-- Why bytes are no message. `truncated` is the first read that does not fit. -/
inductive Malformed where
  | truncated (need left : Nat)
  | magic (found : UInt32)
  | opcode (found : UInt8)
  | flag (found : UInt8)
  | code (what : Code) (found : UInt8)
  | string (fault : Utf8Fault)
  | nat (fault : NatType.Malformed)
  | trailing (count : Nat)
deriving DecidableEq, Repr

def Code.name : Code → String
  | echoKind => "EchoKind"
  | registerStatus => "RegisterStatus"
  | unregisterStatus => "UnregisterStatus"
  | keepAliveStatus => "KeepAliveStatus"
  | connectStatus => "ConnectStatus"

namespace Malformed

def text : Malformed → String
  | truncated need left => s!"truncated: need {need} bytes, {left} left"
  | magic found => s!"bad magic 0x{hexText 8 found.toNat}"
  | opcode found => s!"unknown opcode 0x{hexText 2 found.toNat}"
  | flag found => s!"bool byte {found}"
  | code what found => s!"{what.name} {found}"
  | string fault => s!"string: {fault.text}"
  | nat fault => fault.text
  | trailing count => s!"{count} trailing bytes"

end Malformed

/-- Takes what it needs from the head of a frame and leaves the rest. -/
abbrev Reader (α : Type) := StateT Bytes (Except Malformed) α

namespace Reader

def fail {α : Type} (fault : Malformed) : Reader α := fun _ => .error fault

def bytes (count : Nat) : Reader Bytes := fun frame =>
  if frame.length < count then .error (.truncated count frame.length)
  else .ok (frame.take count, frame.drop count)

def u8 : Reader UInt8
  | [] => .error (.truncated 1 0)
  | b :: rest => .ok (b, rest)

def u16 : Reader UInt16 := (.ofNat <| Bytes.value ·) <$> bytes 2

def u32 : Reader UInt32 := (.ofNat <| Bytes.value ·) <$> bytes 4

def u64 : Reader UInt64 := (.ofNat <| Bytes.value ·) <$> bytes 8

def flag : Reader Bool := do
  match ← u8 with
  | 0 => return false
  | 1 => return true
  | b => fail (.flag b)

def coded {α : Type} (what : Code) (ofCode? : UInt8 → Option α) : Reader α := do
  let value ← u8
  match ofCode? value with
  | some a => return a
  | none => fail (.code what value)

/-- Text behind its length in one byte. -/
def string : Reader String := do
  let count ← u8
  match Utf8.decode (← bytes count.toNat) with
  | .ok text => return text
  | .error fault => fail (.string fault)

def nat : Reader NatType := fun frame =>
  match NatType.decode frame with
  | .ok result => .ok result
  | .error fault => .error (.nat fault)

def times {α : Type} (item : Reader α) : Nat → Reader (List α)
  | 0 => return []
  | n + 1 => do
    let a ← item
    let rest ← times item n
    return a :: rest

/-- A list behind its length in one byte. -/
def list {α : Type} (item : Reader α) : Reader (List α) := do
  let count ← u8
  times item count.toNat

/-- The result of a reader that has to use up the frame. -/
def run {α : Type} (reader : Reader α) (frame : Bytes) : Except Malformed α :=
  match reader frame with
  | .error fault => .error fault
  | .ok (a, []) => .ok a
  | .ok (_, rest) => .error (.trailing rest.length)

end Reader

end NatTraversal
