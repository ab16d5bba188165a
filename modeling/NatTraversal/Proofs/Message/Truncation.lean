import NatTraversal.Proofs.Message.RoundTrip
import NatTraversal.Proofs.Wire.Takes

namespace NatTraversal

open Reader

/-- Node, IP and port. -/
def Address.takes : List Take := [.bytes 4, .bytes 4, .bytes 2]

theorem Address.read_keeps : Keeps Address.read (.of fun _ => takes) :=
  u32_keeps.bind fun _ => u32_keeps.bind fun _ => u16_keeps.bind fun _ => .pure rfl

namespace Contact

def parentsTakes (parents : List Address) : List Take := .bytes 1 :: parents.flatMap fun _ => Address.takes

def takes (contact : Contact) : List Take := Address.takes ++ [.bytes 4, .nat] ++ parentsTakes contact.parents

theorem readParents_keeps : Keeps readParents (.of parentsTakes) := list_keeps Address.read_keeps

theorem read_keeps : Keeps Contact.read (.of takes) :=
  Address.read_keeps.bind fun _ => u32_keeps.bind fun _ => nat_keeps.bind fun _ => readParents_keeps.bind fun _ =>
    .pure (by simp [TakeForm.of, takes])

end Contact

namespace Body

/-- Flags and codes are one byte each, texts and payloads stand behind their lengths. -/
def takes : Body → List Take
  | echoRequest _ replyTo => [.bytes 1, .bytes 1] ++ if replyTo.isSome then Address.takes else []
  | echoResponse .. => Address.takes ++ [.bytes 1, .bytes 2]
  | reportRequest report => [.bytes 1, .bytes (Utf8.encode report).length]
  | registerRequest .. => [.bytes 4, .bytes 4]
  | registerResponse .. | unregisterResponse .. | keepAliveResponse .. => [.bytes 1]
  | unregisterRequest .. => [.bytes 4, .bytes 1]
  | connectRequest peer _ => peer.takes ++ [.bytes 1]
  | connectResponse .. => [.bytes 1, .bytes 4]
  | deleteConnection .. => [.bytes 4]
  | data payload => [.bytes 2, .bytes payload.length]
  | reportResponse | keepAliveRequest | punchPing | punchPong | expire | connectionPing | connectionPong => []

theorem echoRequest_keeps : Keeps (Body.read .echoRequest) (.of takes) := by
  refine coded_keeps.bind fun kind => flag_keeps.bind fun replies => ?_
  cases replies with
  | false => exact .pure rfl
  | true =>
    have reply : Keeps (some <$> Address.read) (.of fun replyTo => if replyTo.isSome then Address.takes else []) :=
      Address.read_keeps.map fun _ => rfl
    exact reply.bind fun _ => .pure (by simp [TakeForm.of, takes])

/-- The reader of an opcode's body goes through the takes of the body that it comes out with. -/
theorem read_keeps (opcode : Opcode) : Keeps (Body.read opcode) (.of takes) := by
  cases opcode with
  | echoRequest => exact echoRequest_keeps
  | echoResponse =>
    exact Address.read_keeps.bind fun _ => coded_keeps.bind fun _ => u16_keeps.bind fun _ => .pure rfl
  | reportRequest => exact string_keeps.map fun _ => rfl
  | registerRequest => exact u32_keeps.bind fun _ => u32_keeps.bind fun _ => .pure rfl
  | registerResponse | unregisterResponse | keepAliveResponse => exact coded_keeps.map fun _ => rfl
  | unregisterRequest => exact u32_keeps.bind fun _ => coded_keeps.bind fun _ => .pure rfl
  | connectRequest => exact Contact.read_keeps.bind fun _ => flag_keeps.bind fun _ => .pure rfl
  | connectResponse => exact coded_keeps.bind fun _ => u32_keeps.bind fun _ => .pure rfl
  | deleteConnection => exact u32_keeps.map fun _ => rfl
  | data => exact u16_keeps.bind fun count => (bytes_keeps count.toNat).map fun _ => rfl
  | reportResponse | keepAliveRequest | punchPing | punchPong | expire | connectionPing | connectionPong => exact .pure rfl

end Body

namespace Message

/-- Magic number and opcode, both addresses, overlay, ticket and translator, the parents, and what the body is of. -/
def takes (message : Message) : List Take :=
  [.bytes 4, .bytes 1] ++ Address.takes ++ Address.takes ++ [.bytes 4, .bytes 8, .nat] ++
    Contact.parentsTakes message.source.parents ++ message.body.takes

theorem read_keeps (transport : Transport) : Keeps (read transport) (.of takes) := by
  rw [read_eq]
  refine u32_keeps.bind fun found => ?_
  split
  · refine u8_keeps.bind fun code => ?_
    unfold readBehind
    cases Opcode.ofCode? code with
    | some opcode =>
      exact Address.read_keeps.bind fun _ => Address.read_keeps.bind fun _ => u32_keeps.bind fun _ => u64_keeps.bind fun _ =>
        nat_keeps.bind fun _ => Contact.readParents_keeps.bind fun _ => (Body.read_keeps opcode).bind fun _ =>
        .pure (by simp [TakeForm.of, takes])
    | none => exact .fail _
  · exact .fail _

/-- A frame that has been cut short fails at the first take that no longer fits, and one that goes on behind its message
fails for nothing but what is left over. -/
theorem decode_cut_or_extended {frame : Bytes} {transport : Transport} {message : Message}
    (accepted : decode frame transport = .ok message) :
    (∀ n < frame.length, ∃ take left, Take.FirstShort message.takes n take left ∧
      decode (frame.take n) transport = .error (take.short left)) ∧
    ∀ extra, extra ≠ [] → decode (frame ++ extra) transport = .error (.trailing extra.length) := by
  have whole : read transport frame = .ok (message, []) := by
    rw [read_reads transport frame message []]
    exact ⟨frame, decode_eq_ok_iff.mp accepted, (List.append_nil frame).symm⟩
  obtain ⟨_, taken, rfl, rfl, length, beyond, cut⟩ := read_keeps transport _ _ _ whole
  rw [List.append_nil]
  constructor
  · intro n inside
    obtain ⟨take, left, short⟩ := Take.exists_firstShort (length ▸ inside)
    refine ⟨take, left, short, ?_⟩
    simp only [decode, run, cut n take left short]
  · intro extra more
    unfold decode run
    rw [beyond extra]
    cases extra with
    | nil => exact absurd rfl more
    | cons b extra => rfl

/-- Cut within its translator's description, which is measured as a whole, and within its second parent's port. -/
theorem decode_cut_mappedToZero : ∃ frame, mappedToZero.encode = .ok frame ∧ decode frame .udp = .ok mappedToZero ∧
    decode (frame.take 42) .udp = .error (.nat (.truncated 12 5)) ∧ decode (frame.take 69) .udp = .error (.truncated 2 1) ∧
    (∃ take left, Take.FirstShort mappedToZero.takes 69 take left ∧ decode (frame.take 69) .udp = .error (take.short left)) ∧
    decode (frame ++ [0, 0]) .udp = .error (.trailing 2) :=
  ⟨_, rfl, rfl, rfl, rfl, (decode_cut_or_extended rfl).1 69 (by decide), (decode_cut_or_extended rfl).2 [0, 0] (by decide)⟩

end Message

end NatTraversal
