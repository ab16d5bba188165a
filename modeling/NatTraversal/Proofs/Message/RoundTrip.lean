import NatTraversal.Proofs.Message.Forms

namespace NatTraversal

namespace Message

open Reader

/-- The header up to the sender's translator is 37 bytes long; the parents take ten bytes each behind their number, and
the body follows them. -/
def freeBits (message : Message) (i : Nat) : UInt8 :=
  let header := 50 + 10 * message.source.parents.length
  if i < header then SameBut.after 37 message.source.nat.freeBits i else message.body.freeBits (i - header)

theorem preamble_length (message : Message) : message.preamble.length = 37 := by
  simp only [preamble, List.length_append, Address.encode_length, Bytes.u32, Bytes.u64, Bytes.bigEndian_length,
    Address.wireLength, List.length_singleton]

theorem encode_eq_ok_iff {message : Message} {written : Bytes} : message.encode = .ok written ↔
    ∃ parents body, Contact.encodeParents message.source.parents = .ok parents ∧ message.body.encode = .ok body ∧
      written = message.preamble ++ message.source.nat.encode ++ parents ++ body := by
  unfold encode
  cases counted : Contact.encodeParents message.source.parents with
  | error fault => simp [counted, bind, Except.bind]
  | ok parents =>
    cases known : message.body.encode with
    | error fault => simp [counted, bind, Except.bind]
    | ok body => simp [counted, bind, Except.bind, pure, Except.pure, preamble, eq_comm]

/-- A form of a message is a form of its header before a form of its body. -/
theorem sameBut_iff {message : Message} {parents body taken : Bytes}
    (known : Contact.encodeParents message.source.parents = .ok parents) :
    SameBut message.freeBits (message.preamble ++ message.source.nat.encode ++ parents ++ body) taken ↔
      ∃ nat last, SameBut message.source.nat.freeBits message.source.nat.encode nat ∧ SameBut message.body.freeBits body last ∧
        taken = message.preamble ++ (nat ++ (parents ++ last)) := by
  have count : parents.length = 1 + 10 * message.source.parents.length := by
    obtain ⟨_, rfl⟩ := Contact.encodeParents_eq_ok_iff.mp known
    simp only [List.length_cons, List.length_flatMap, Address.encode_length, Address.wireLength, List.map_const',
      List.sum_replicate_nat]
    omega
  have width : (message.preamble ++ message.source.nat.encode ++ parents).length = 50 + 10 * message.source.parents.length := by
    simp only [List.length_append, preamble_length, NatType.encode_length, NatType.wireLength]
    omega
  have front : ∀ i, i < (message.preamble ++ message.source.nat.encode ++ parents).length →
      message.freeBits i = SameBut.after 37 message.source.nat.freeBits i := by
    intro i inside
    rw [width] at inside
    exact if_pos inside
  have back : (fun i => message.freeBits ((message.preamble ++ message.source.nat.encode ++ parents).length + i)) =
      message.body.freeBits := by
    funext i
    rw [width, freeBits]
    simp only [if_neg (show ¬ 50 + 10 * message.source.parents.length + i < 50 + 10 * message.source.parents.length by omega),
      Nat.add_sub_cancel_left]
  rw [SameBut.append_iff, back]
  simp only [SameBut.congr front]
  simp only [List.append_assoc, SameBut.after_append_iff message.preamble_length,
    SameBut.append_fixed_iff fun i beyond => message.source.nat.freeBits_beyond (message.source.nat.encode_length ▸ beyond)]
  constructor
  · rintro ⟨_, last, ⟨_, ⟨nat, same, rfl⟩, rfl⟩, rest, rfl⟩
    exact ⟨nat, last, same, rest, by simp only [List.append_assoc]⟩
  · rintro ⟨nat, last, same, rest, rfl⟩
    exact ⟨_, last, ⟨_, ⟨nat, same, rfl⟩, rfl⟩, rest, by simp only [List.append_assoc]⟩

/-- What follows magic number and opcode. -/
def readFields (transport : Transport) (opcode : Opcode) : Reader Message := do
  let address ← Address.read
  let dest ← Address.read
  let overlay ← Reader.u32
  let ticket ← Reader.u64
  let nat ← Reader.nat
  let parents ← Contact.readParents
  let body ← Body.read opcode
  return ⟨{ address, overlay, nat, parents }, dest, ⟨ticket⟩, transport, body⟩

/-- The forms of what follows magic number and opcode. -/
def Fields : WireForm Message := fun message taken =>
  ∃ nat parents last, SameBut message.source.nat.freeBits message.source.nat.encode nat ∧
    Contact.encodeParents message.source.parents = .ok parents ∧ WireForm.upTo Body.encode Body.freeBits message.body last ∧
    taken = message.source.address.encode ++ (message.dest.encode ++ (Bytes.u32 message.source.overlay ++
      (Bytes.u64 message.ticket.value ++ (nat ++ (parents ++ last)))))

theorem upTo_iff {message : Message} {taken : Bytes} : WireForm.upTo encode freeBits message taken ↔
    ∃ fields, Fields message fields ∧ taken = Bytes.u32 magic ++ ([message.opcode.code] ++ fields) := by
  simp only [WireForm.upTo, encode_eq_ok_iff]
  constructor
  · rintro ⟨_, ⟨parents, body, known, encoded, rfl⟩, same⟩
    obtain ⟨nat, last, head, stands, rfl⟩ := (sameBut_iff known).mp same
    exact ⟨_, ⟨nat, parents, last, head, known, ⟨body, encoded, stands⟩, rfl⟩, by simp only [preamble, List.append_assoc]⟩
  · rintro ⟨_, ⟨nat, parents, last, head, known, ⟨body, encoded, stands⟩, rfl⟩, rfl⟩
    refine ⟨_, ⟨parents, body, known, encoded, rfl⟩, (sameBut_iff known).mpr ⟨nat, last, head, stands, ?_⟩⟩
    simp only [preamble, List.append_assoc]

theorem readFields_reads (transport : Transport) (opcode : Opcode) : Reads (readFields transport opcode) fun message taken =>
    message.transport = transport ∧ message.opcode = opcode ∧ Fields message taken := by
  refine (Address.read_reads.then fun address => Address.read_reads.then fun dest => u32_reads.then fun overlay =>
    u64_reads.then fun ticket => nat_reads.bind fun nat => Contact.readParents_reads.bind fun parents =>
    (Body.read_reads opcode).bind fun body => Reads.pure (Message.mk ⟨address, overlay, nat, parents⟩ dest ⟨ticket⟩ transport body)).congr ?_
  intro message taken
  constructor
  · rintro ⟨address, _, ⟨dest, _, ⟨overlay, _, ⟨ticket, _, ⟨nat, head, _, same, ⟨parents, counted, _, known,
      ⟨body, last, _, ⟨named, stands⟩, ⟨rfl, rfl⟩, rfl⟩, rfl⟩, rfl⟩, rfl⟩, rfl⟩, rfl⟩, rfl⟩
    exact ⟨rfl, named, head, counted, last, same, known, stands, by rw [List.append_nil]⟩
  · rintro ⟨rfl, rfl, nat, parents, last, same, known, stands, rfl⟩
    exact ⟨_, _, ⟨_, _, ⟨_, _, ⟨_, _, ⟨_, nat, _, same, ⟨_, parents, _, known, ⟨_, last, [], ⟨rfl, stands⟩, ⟨rfl, rfl⟩, rfl⟩,
      rfl⟩, rfl⟩, rfl⟩, rfl⟩, rfl⟩, by rw [List.append_nil]⟩

/-- Behind the magic number and any code that is no opcode stands no message. -/
def readBehind (transport : Transport) (code : UInt8) : Reader Message :=
  match Opcode.ofCode? code with
  | some opcode => readFields transport opcode
  | none => Reader.fail (.opcode code)

theorem readBehind_reads (transport : Transport) (code : UInt8) : Reads (readBehind transport code) fun message taken =>
    message.transport = transport ∧ code = message.opcode.code ∧ Fields message taken := by
  unfold readBehind
  cases found : Opcode.ofCode? code with
  | some opcode =>
    refine (readFields_reads transport opcode).congr ?_
    intro message taken
    rw [← Opcode.ofCode?_eq_some_iff, found, Option.some.injEq, eq_comm (a := opcode)]
  | none =>
    refine (Reads.fail _).congr ?_
    intro message taken
    rw [← Opcode.ofCode?_eq_some_iff, found]
    simp

theorem read_eq (transport : Transport) : read transport = Reader.u32 >>= fun found =>
    if found = magic then Reader.u8 >>= readBehind transport else Reader.fail (.magic found) := by
  unfold read
  congr 1
  funext found
  by_cases same : found = magic
  · simp only [same, ne_eq, not_true_eq_false, if_false, if_true]
    show Reader.u8 >>= _ = _
    congr 1
    funext code
    unfold readBehind
    cases Opcode.ofCode? code <;> rfl
  · simp only [same, ne_eq, not_false_eq_true, if_false, if_true]
    rfl

/-- The reader takes what the encoder writes for messages of its channel, up to free bits. -/
theorem read_reads (transport : Transport) : Reads (read transport) fun message taken =>
    message.transport = transport ∧ WireForm.upTo encode freeBits message taken := by
  have behind (found : UInt32) : Reads
      (if found = magic then Reader.u8 >>= readBehind transport else Reader.fail (.magic found)) fun message taken =>
        found = magic ∧ message.transport = transport ∧ ∃ fields, Fields message fields ∧ taken = [message.opcode.code] ++ fields := by
    split
    · rename_i same
      refine (u8_reads.then (readBehind_reads transport)).congr ?_
      intro message taken
      constructor
      · rintro ⟨_, fields, ⟨channel, rfl, stands⟩, rfl⟩
        exact ⟨same, channel, fields, stands, rfl⟩
      · rintro ⟨_, channel, fields, stands, rfl⟩
        exact ⟨_, fields, ⟨channel, rfl, stands⟩, rfl⟩
    · rename_i different
      exact (Reads.fail _).congr fun _ _ => iff_of_false id fun stands => different stands.1
  rw [read_eq]
  refine (u32_reads.then behind).congr ?_
  intro message taken
  rw [upTo_iff]
  constructor
  · rintro ⟨_, _, ⟨rfl, channel, fields, stands, rfl⟩, rfl⟩
    exact ⟨channel, fields, stands, rfl⟩
  · rintro ⟨channel, fields, stands, rfl⟩
    exact ⟨magic, _, ⟨rfl, channel, fields, stands, rfl⟩, rfl⟩

theorem decode_eq_ok_iff {frame : Bytes} {transport : Transport} {message : Message} :
    decode frame transport = .ok message ↔ message.transport = transport ∧ WireForm.upTo encode freeBits message frame :=
  (read_reads transport).run_eq_ok_iff

theorem encode_ok_iff {message : Message} : (∃ written, message.encode = .ok written) ↔
    message.source.parents.length ≤ 255 ∧ ∃ body, message.body.encode = .ok body := by
  simp only [encode_eq_ok_iff, Contact.encodeParents_eq_ok_iff]
  constructor
  · rintro ⟨_, _, body, ⟨few, _⟩, encoded, _⟩
    exact ⟨few, body, encoded⟩
  · rintro ⟨few, body, encoded⟩
    exact ⟨_, _, body, ⟨few, rfl⟩, encoded, rfl⟩

/-- Only a message that is too long for the counts of its wire form has none, and every other message is read back whole
from what is written for it. -/
theorem encode_domain_decode (message : Message) :
    ((∃ fault, message.encode = .error fault) ↔ 255 < message.source.parents.length ∨
      (∃ peer forwarded, message.body = .connectRequest peer forwarded ∧ 255 < peer.parents.length) ∨
      (∃ report, message.body = .reportRequest report ∧ 255 < (Utf8.encode report).length) ∨
      ∃ payload, message.body = .data payload ∧ 65535 < payload.length) ∧
    ∀ frame, message.encode = .ok frame → decode frame message.transport = .ok message := by
  constructor
  · have fails : (∃ fault, message.encode = .error fault) ↔ ¬ ∃ written, message.encode = .ok written := by
      cases message.encode <;> simp
    rw [fails, encode_ok_iff, Body.encode_ok_iff, not_and_or, not_not, Nat.not_le]
  · intro frame written
    exact decode_eq_ok_iff.mpr ⟨rfl, frame, written, SameBut.refl _ _⟩

/-- A message whose translator has a mapped port 0 and no consistent technique, and whose parent is named twice. -/
def mappedToZero : Message :=
  ⟨⟨⟨⟨0x0A000001⟩, 4000, 7⟩, 9, ⟨false, .endpointIndependent, .random, .addressDependent, .impossible, 3, 30, some 0⟩,
    [⟨⟨2⟩, 5000, 8⟩, ⟨⟨2⟩, 5000, 8⟩]⟩, ⟨⟨3⟩, 6000, 9⟩, ⟨77⟩, .udp, .deleteConnection 5⟩

theorem decode_encode_mappedToZero : ∃ frame, mappedToZero.encode = .ok frame ∧ decode frame .udp = .ok mappedToZero :=
  ⟨_, rfl, (encode_domain_decode mappedToZero).2 _ rfl⟩

/-- The frames of a message are its encoding up to the bits that no reader looks at. -/
theorem decode_language (message : Message) (frame other : Bytes) (transport channel : Transport) :
    (decode frame transport = .ok message ↔
      message.transport = transport ∧ ∃ written, message.encode = .ok written ∧ SameBut message.freeBits written frame) ∧
    (decode frame transport = .ok message → ∃ written, message.encode = .ok written) ∧
    (decode frame transport = .ok message → decode other channel = .ok message → SameBut message.freeBits frame other) := by
  refine ⟨decode_eq_ok_iff, ?_, ?_⟩
  · intro accepted
    obtain ⟨_, written, known, _⟩ := decode_eq_ok_iff.mp accepted
    exact ⟨written, known⟩
  · intro accepted again
    obtain ⟨_, written, known, same⟩ := decode_eq_ok_iff.mp accepted
    obtain ⟨_, rewritten, knownAgain, sameAgain⟩ := decode_eq_ok_iff.mp again
    obtain rfl : written = rewritten := Except.ok.inj (known.symm.trans knownAgain)
    exact same.symm.trans sameAgain

/-- One message in two frames, of which the second has something in every free bit. -/
def unmapped : Message :=
  ⟨⟨⟨⟨1⟩, 4000, 7⟩, 9, ⟨true, .endpointIndependent, .random, .addressDependent, .simple, 3, 30, none⟩, []⟩, ⟨⟨3⟩, 6000, 9⟩,
    ⟨77⟩, .tcp, .punchPong⟩

def unmappedFrame (flags p1 p0 : UInt8) : Bytes := unmapped.preamble ++ [flags, 0, 2, 1, 1, 3, 0, 0, 0, 30, p1, p0, 0]

theorem decode_language_unmapped : unmapped.encode = .ok (unmappedFrame 1 0 0) ∧
    decode (unmappedFrame 0xFD 0xFF 0xFF) .tcp = .ok unmapped ∧
    SameBut unmapped.freeBits (unmappedFrame 1 0 0) (unmappedFrame 0xFD 0xFF 0xFF) :=
  ⟨rfl, rfl, (decode_language unmapped (unmappedFrame 1 0 0) (unmappedFrame 0xFD 0xFF 0xFF) .tcp .tcp).2.2 rfl rfl⟩

/-- No frame is the beginning of another, whatever channels the two come by. -/
theorem decode_prefix_free {message other : Message} {transport channel : Transport} {frame rest : Bytes}
    (short : decode frame transport = .ok message) (long : decode (frame ++ rest) channel = .ok other) : rest = [] := by
  obtain ⟨rfl, stands⟩ := decode_eq_ok_iff.mp short
  obtain ⟨rfl, written, known, same⟩ := decode_eq_ok_iff.mp long
  -- The channel is not in the frame, so that the second could have come by the first one's.
  let moved := { other with transport := message.transport }
  have again : WireForm.upTo encode freeBits moved (frame ++ rest) := ⟨written, known, same⟩
  exact (read_reads message.transport).prefix_free (a := message) (b := moved) ⟨rfl, stands⟩ ⟨rfl, again⟩

/-- A frame that has been cut is no message. -/
theorem decode_take_ne_ok {message : Message} {frame : Bytes} (known : message.encode = .ok frame) {n : Nat}
    (cut : n < frame.length) (transport : Transport) (other : Message) : decode (frame.take n) transport ≠ .ok other := by
  intro accepted
  have whole : decode (frame.take n ++ frame.drop n) message.transport = .ok message := by
    rw [List.take_append_drop]
    exact decode_eq_ok_iff.mpr ⟨rfl, frame, known, SameBut.refl _ _⟩
  have none := decode_prefix_free accepted whole
  rw [List.drop_eq_nil_iff] at none
  omega

/-- What is encoded behind something is what is encoded alone. -/
theorem encodeOnto_of_ok {message : Message} {frame : Bytes} (known : message.encode = .ok frame) (buffer : Bytes) :
    message.encodeOnto buffer = (.ok (), buffer ++ frame) := by
  obtain ⟨parents, body, counted, encoded, rfl⟩ := encode_eq_ok_iff.mp known
  simp only [encodeOnto, counted, encoded, List.append_assoc]

theorem encodeOnto_of_error {message : Message} {fault : Oversize} (failed : message.encode = .error fault) (buffer : Bytes) :
    (message.encodeOnto buffer).1 = .error fault := by
  simp only [encode, bind, Except.bind, pure, Except.pure] at failed
  cases counted : Contact.encodeParents message.source.parents with
  | error many =>
    rw [counted] at failed
    cases failed
    simp only [encodeOnto, counted]
  | ok parents =>
    cases encoded : message.body.encode with
    | error long =>
      rw [counted, encoded] at failed
      cases failed
      simp only [encodeOnto, counted, encoded]
    | ok body =>
      rw [counted, encoded] at failed
      cases failed

/-- A message that has a frame also has one from the local end of a stream, of the same length. -/
theorem encode_withLocal {message : Message} {frame : Bytes} (known : message.encode = .ok frame) (here : Socket) :
    ∃ moved, (message.withLocal here).encode = .ok moved ∧ moved.length = frame.length := by
  obtain ⟨parents, body, counted, encoded, rfl⟩ := encode_eq_ok_iff.mp known
  refine ⟨_, encode_eq_ok_iff.mpr ⟨parents, body, counted, encoded, rfl⟩, ?_⟩
  simp only [List.length_append, preamble_length]
  rfl

theorem encode_of_withLocal {message : Message} {here : Socket} {moved : Bytes}
    (known : (message.withLocal here).encode = .ok moved) : ∃ frame, message.encode = .ok frame ∧ frame.length = moved.length := by
  obtain ⟨parents, body, counted, encoded, rfl⟩ := encode_eq_ok_iff.mp known
  refine ⟨_, encode_eq_ok_iff.mpr ⟨parents, body, counted, encoded, rfl⟩, ?_⟩
  simp only [List.length_append, preamble_length]
  rfl

end Message

end NatTraversal
