namespace NatTraversal

/-- What a message is for, as its first byte after the magic number says. -/
inductive Opcode where
  | echoRequest
  | echoResponse
  | reportRequest
  | reportResponse
  | registerRequest
  | registerResponse
  | unregisterRequest
  | unregisterResponse
  | keepAliveRequest
  | keepAliveResponse
  | connectRequest
  | connectResponse
  | punchPing
  | punchPong
  | deleteConnection
  | expire
  | connectionPing
  | connectionPong
  | data
deriving DecidableEq, Repr

namespace Opcode

def code : Opcode → UInt8
  | echoRequest => 0x01
  | echoResponse => 0x02
  | reportRequest => 0x03
  | reportResponse => 0x04
  | registerRequest => 0x20
  | registerResponse => 0x21
  | unregisterRequest => 0x22
  | unregisterResponse => 0x23
  | keepAliveRequest => 0x24
  | keepAliveResponse => 0x25
  | connectRequest => 0x26
  | connectResponse => 0x27
  | punchPing => 0x28
  | punchPong => 0x29
  | deleteConnection => 0x2a
  | expire => 0x2b
  | connectionPing => 0x50
  | connectionPong => 0x51
  | data => 0x60

def ofCode? : UInt8 → Option Opcode
  | 0x01 => some echoRequest
  | 0x02 => some echoResponse
  | 0x03 => some reportRequest
  | 0x04 => some reportResponse
  | 0x20 => some registerRequest
  | 0x21 => some registerResponse
  | 0x22 => some unregisterRequest
  | 0x23 => some unregisterResponse
  | 0x24 => some keepAliveRequest
  | 0x25 => some keepAliveResponse
  | 0x26 => some connectRequest
  | 0x27 => some connectResponse
  | 0x28 => some punchPing
  | 0x29 => some punchPong
  | 0x2a => some deleteConnection
  | 0x2b => some expire
  | 0x50 => some connectionPing
  | 0x51 => some connectionPong
  | 0x60 => some data
  | _ => none

/-- Codes below 0x20 look for the node's own public address. -/
def isStun (opcode : Opcode) : Bool := opcode.code < 0x20

def isHolePunching (opcode : Opcode) : Bool := 0x20 ≤ opcode.code && opcode.code < 0x40

def isApplication : Opcode → Bool
  | connectionPing | connectionPong | data => true
  | _ => false

theorem ofCode?_eq_some_iff {c : UInt8} {o : Opcode} : ofCode? c = some o ↔ c = o.code := by
  constructor
  · intro h; unfold ofCode? at h; split at h <;> cases h <;> rfl
  · rintro rfl; cases o <;> rfl

end Opcode

end NatTraversal
