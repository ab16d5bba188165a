namespace NatTraversal

/-- Where a byte string stops being UTF-8: `valid` bytes are good; then `broken` bytes start a character that the
next byte cannot go on with, or (`none`) the bytes end inside a character. -/
structure Utf8Fault where
  valid : Nat
  broken : Option Nat
deriving DecidableEq, Repr

namespace Utf8Fault

def text (fault : Utf8Fault) : String :=
  match fault.broken with
  | some count => s!"invalid utf-8 sequence of {count} bytes from index {fault.valid}"
  | none => s!"incomplete utf-8 byte sequence from index {fault.valid}"

end Utf8Fault

namespace Utf8

/-- The ranges that the bytes after a first byte have to lie in. Narrowed second bytes keep out overlong forms,
surrogates and everything above U+10FFFF. -/
def tailRanges? (lead : UInt8) : Option (List (UInt8 × UInt8)) :=
  if lead ≤ 0x7F then some []
  else if 0xC2 ≤ lead ∧ lead ≤ 0xDF then some [(0x80, 0xBF)]
  else if lead = 0xE0 then some [(0xA0, 0xBF), (0x80, 0xBF)]
  else if lead = 0xED then some [(0x80, 0x9F), (0x80, 0xBF)]
  else if 0xE1 ≤ lead ∧ lead ≤ 0xEF then some [(0x80, 0xBF), (0x80, 0xBF)]
  else if lead = 0xF0 then some [(0x90, 0xBF), (0x80, 0xBF), (0x80, 0xBF)]
  else if 0xF1 ≤ lead ∧ lead ≤ 0xF3 then some [(0x80, 0xBF), (0x80, 0xBF), (0x80, 0xBF)]
  else if lead = 0xF4 then some [(0x80, 0x8F), (0x80, 0xBF), (0x80, 0xBF)]
  else none

/-- The first fault of the bytes that follow `valid` bytes of whole characters and `opened` bytes of the current
one, which still owes a byte in each range of `owed`. -/
def scan (valid opened : Nat) : (owed : List (UInt8 × UInt8)) → List UInt8 → Option Utf8Fault
  | [], [] => none
  | _ :: _, [] => some ⟨valid, none⟩
  | [], b :: rest =>
    match tailRanges? b with
    | none => some ⟨valid + opened, some 1⟩
    | some owed => scan (valid + opened) 1 owed rest
  | (low, high) :: owed, b :: rest =>
    if low ≤ b ∧ b ≤ high then scan valid (opened + 1) owed rest
    else some ⟨valid, some opened⟩

def fault? (bytes : List UInt8) : Option Utf8Fault := scan 0 0 [] bytes

def encode (text : String) : List UInt8 := text.toUTF8.data.toList

/-- Refuses exactly the byte strings that are not the UTF-8 form of a text. -/
def decode (bytes : List UInt8) : Except Utf8Fault String :=
  match String.fromUTF8? ⟨bytes.toArray⟩ with
  | some text => .ok text
  | none => .error ((fault? bytes).getD ⟨bytes.length, none⟩)

theorem encode_length (text : String) : (encode text).length = text.utf8ByteSize := by
  rfl

end Utf8

end NatTraversal
