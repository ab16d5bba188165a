import NatTraversal.Message.Codec
import NatTraversal.Proofs.Wire.FreeBits

namespace NatTraversal

open Reader

theorem Address.read_reads : Reads Address.read (.of Address.encode) := by
  refine (u32_reads.then fun node => u32_reads.then fun bits => u16_reads.then fun port =>
    Reads.pure (Address.mk ⟨bits⟩ port node)).congr ?_
  intro address taken
  constructor
  · rintro ⟨node, _, ⟨bits, _, ⟨port, _, ⟨rfl, rfl⟩, rfl⟩, rfl⟩, rfl⟩
    simp [WireForm.of, encode]
  · rintro rfl
    exact ⟨_, _, ⟨_, _, ⟨_, _, ⟨rfl, rfl⟩, rfl⟩, rfl⟩, by simp [encode]⟩

namespace Contact

/-- The description of the translator comes fourteen bytes in, behind address and overlay. -/
def freeBits (contact : Contact) : Nat → UInt8 := SameBut.after 14 contact.nat.freeBits

theorem encodeParents_eq_ok_iff {parents : List Address} {written : Bytes} : encodeParents parents = .ok written ↔
    parents.length ≤ 255 ∧ written = UInt8.ofNat parents.length :: parents.flatMap Address.encode := by
  unfold encodeParents
  split
  · simp only [reduceCtorEq, false_iff]
    omega
  · simp only [Except.ok.injEq]
    constructor
    · rintro rfl
      exact ⟨by omega, rfl⟩
    · rintro ⟨_, rfl⟩
      rfl

theorem encode_eq_ok_iff {contact : Contact} {written : Bytes} : contact.encode = .ok written ↔
    ∃ parents, encodeParents contact.parents = .ok parents ∧
      written = contact.address.encode ++ Bytes.u32 contact.overlay ++ contact.nat.encode ++ parents := by
  unfold encode
  cases encodeParents contact.parents with
  | error fault => simp [bind, Except.bind]
  | ok parents => simp [bind, Except.bind, pure, Except.pure, eq_comm]

theorem freeBits_beyond (contact : Contact) {i : Nat} (beyond : 26 ≤ i) : contact.freeBits i = 0 := by
  rw [freeBits, SameBut.after, if_neg (by omega)]
  exact contact.nat.freeBits_beyond (show 12 ≤ i - 14 by omega)

theorem encode_length_ge {contact : Contact} {written : Bytes} (known : contact.encode = .ok written) :
    26 ≤ written.length := by
  obtain ⟨parents, _, rfl⟩ := encode_eq_ok_iff.mp known
  simp only [List.length_append, Address.encode_length, NatType.encode_length, Bytes.u32, Bytes.bigEndian_length,
    Address.wireLength, NatType.wireLength]
  omega

theorem readParents_reads : Reads readParents fun parents taken => encodeParents parents = .ok taken :=
  (list_reads Address.read_reads).congr fun _ _ => encodeParents_eq_ok_iff.symm

theorem read_reads : Reads Contact.read (.upTo Contact.encode freeBits) := by
  refine (Address.read_reads.then fun address => u32_reads.then fun overlay => nat_reads.bind fun nat =>
    readParents_reads.bind fun parents => Reads.pure (Contact.mk address overlay nat parents)).congr ?_
  intro contact taken
  have front : (contact.address.encode ++ Bytes.u32 contact.overlay).length = 14 := by
    rw [List.length_append, Address.encode_length, Bytes.u32, Bytes.bigEndian_length, Address.wireLength]
  have spread (parents : Bytes) : SameBut contact.freeBits
      (contact.address.encode ++ Bytes.u32 contact.overlay ++ contact.nat.encode ++ parents) taken ↔
      ∃ nat, SameBut contact.nat.freeBits contact.nat.encode nat ∧
        taken = contact.address.encode ++ (Bytes.u32 contact.overlay ++ (nat ++ parents)) := by
    rw [List.append_assoc, freeBits, SameBut.after_append_iff front]
    simp only [SameBut.append_fixed_iff fun i beyond => contact.nat.freeBits_beyond (contact.nat.encode_length ▸ beyond)]
    constructor
    · rintro ⟨_, ⟨nat, same, rfl⟩, rfl⟩
      exact ⟨nat, same, by simp only [List.append_assoc]⟩
    · rintro ⟨nat, same, rfl⟩
      exact ⟨_, ⟨nat, same, rfl⟩, by simp only [List.append_assoc]⟩
  simp only [WireForm.upTo, encode_eq_ok_iff]
  constructor
  · rintro ⟨address, _, ⟨overlay, _, ⟨nat, head, _, same, ⟨parents, counted, _, known, ⟨rfl, rfl⟩, rfl⟩, rfl⟩, rfl⟩, rfl⟩
    exact ⟨_, ⟨counted, known, rfl⟩, (spread counted).mpr ⟨head, same, by rw [List.append_nil]⟩⟩
  · rintro ⟨_, ⟨counted, known, rfl⟩, stands⟩
    obtain ⟨head, same, rfl⟩ := (spread counted).mp stands
    exact ⟨contact.address, _, ⟨contact.overlay, _, ⟨contact.nat, head, _, same,
      ⟨contact.parents, counted, [], known, ⟨rfl, rfl⟩, rfl⟩, rfl⟩, rfl⟩, by rw [List.append_nil]⟩

end Contact

namespace Body

/-- Only the contact in a connect request has free bits. It comes first in the body. -/
def freeBits : Body → Nat → UInt8
  | connectRequest peer _ => peer.freeBits
  | _ => fun _ => 0

/-- The forms of the bodies of one opcode. -/
def Stands (opcode : Opcode) : WireForm Body := fun body taken => body.opcode = opcode ∧ WireForm.upTo encode freeBits body taken

theorem upTo_of_fixed {body : Body} {written taken : Bytes} (known : body.encode = .ok written)
    (fixed : body.freeBits = fun _ => 0) : WireForm.upTo encode freeBits body taken ↔ taken = written := by
  have same : SameBut (body.freeBits) written taken ↔ taken = written := by
    rw [fixed]
    exact SameBut.iff_eq fun _ _ => rfl
  simp only [WireForm.upTo, known, Except.ok.injEq, exists_eq_left', same]

section

variable {α β : Type} {opcode : Opcode}

theorem bare_reads {bare : Body} (shape : ∀ body : Body, body.opcode = opcode ↔ body = bare) (known : bare.encode = .ok [])
    (fixed : bare.freeBits = fun _ => 0) : Reads (pure bare) (Stands opcode) := by
  refine (Reads.pure bare).congr ?_
  intro body taken
  constructor
  · rintro ⟨rfl, rfl⟩
    exact ⟨(shape body).mpr rfl, (upTo_of_fixed known fixed).mpr rfl⟩
  · rintro ⟨same, stands⟩
    obtain rfl := (shape body).mp same
    exact ⟨rfl, (upTo_of_fixed known fixed).mp stands⟩

theorem field_reads {reader : Reader α} {encodeField : α → Bytes} {make : α → Body} (reads : Reads reader (.of encodeField))
    (shape : ∀ body : Body, body.opcode = opcode ↔ ∃ a, body = make a) (known : ∀ a, (make a).encode = .ok (encodeField a))
    (fixed : ∀ a, (make a).freeBits = fun _ => 0) : Reads (make <$> reader) (Stands opcode) := by
  refine (reads.map make).congr ?_
  intro body taken
  constructor
  · rintro ⟨a, rfl, rfl⟩
    exact ⟨(shape _).mpr ⟨a, rfl⟩, (upTo_of_fixed (known a) (fixed a)).mpr rfl⟩
  · rintro ⟨same, stands⟩
    obtain ⟨a, rfl⟩ := (shape body).mp same
    exact ⟨a, (upTo_of_fixed (known a) (fixed a)).mp stands, rfl⟩

theorem pair_reads {first : Reader α} {second : Reader β} {encodeFirst : α → Bytes} {encodeSecond : β → Bytes}
    {make : α → β → Body} (reads : Reads first (.of encodeFirst)) (follows : Reads second (.of encodeSecond))
    (shape : ∀ body : Body, body.opcode = opcode ↔ ∃ a b, body = make a b)
    (known : ∀ a b, (make a b).encode = .ok (encodeFirst a ++ encodeSecond b)) (fixed : ∀ a b, (make a b).freeBits = fun _ => 0) :
    Reads (first >>= fun a => second >>= fun b => pure (make a b)) (Stands opcode) := by
  refine (reads.then fun a => follows.then fun b => Reads.pure (make a b)).congr ?_
  intro body taken
  constructor
  · rintro ⟨a, _, ⟨b, _, ⟨rfl, rfl⟩, rfl⟩, rfl⟩
    exact ⟨(shape _).mpr ⟨a, b, rfl⟩, (upTo_of_fixed (known a b) (fixed a b)).mpr (by rw [List.append_nil])⟩
  · rintro ⟨same, stands⟩
    obtain ⟨a, b, rfl⟩ := (shape body).mp same
    rw [upTo_of_fixed (known a b) (fixed a b)] at stands
    exact ⟨a, _, ⟨b, _, ⟨rfl, rfl⟩, rfl⟩, by rw [stands, List.append_nil]⟩

end

theorem echoRequest_reads : Reads (Body.read .echoRequest) (Stands .echoRequest) := by
  have answered (kind : EchoKind) (replies : Bool) : Reads
      (if replies then some <$> Address.read >>= fun replyTo => pure (echoRequest kind replyTo)
        else pure none >>= fun replyTo => pure (echoRequest kind replyTo))
      fun body taken => ∃ replyTo, body = echoRequest kind replyTo ∧ replyTo.isSome = replies ∧
        taken = (replyTo.map Address.encode).getD [] := by
    cases replies with
    | false =>
      refine (Reads.pure (echoRequest kind none)).congr ?_
      intro body taken
      simp
    | true =>
      refine ((Address.read_reads.map some).bind fun replyTo => Reads.pure (echoRequest kind replyTo)).congr ?_
      intro body taken
      simp [WireForm.of, Option.isSome_iff_exists]
  refine ((coded_reads EchoKind.ofCode?_eq_some_iff).then fun kind => flag_reads.then (answered kind)).congr ?_
  intro body taken
  constructor
  · rintro ⟨kind, _, ⟨_, _, ⟨replyTo, rfl, rfl, rfl⟩, rfl⟩, rfl⟩
    exact ⟨rfl, (upTo_of_fixed rfl rfl).mpr (by simp)⟩
  · rintro ⟨same, stands⟩
    cases body <;> cases same
    rename_i kind replyTo
    rw [upTo_of_fixed rfl rfl] at stands
    exact ⟨kind, _, ⟨_, _, ⟨replyTo, rfl, rfl, rfl⟩, rfl⟩, by simpa using stands⟩

theorem echoResponse_reads : Reads (Body.read .echoResponse) (Stands .echoResponse) := by
  refine (Address.read_reads.then fun observed => (coded_reads EchoKind.ofCode?_eq_some_iff).then fun kind =>
    u16_reads.then fun altPort => Reads.pure (echoResponse observed kind altPort)).congr ?_
  intro body taken
  constructor
  · rintro ⟨observed, _, ⟨kind, _, ⟨altPort, _, ⟨rfl, rfl⟩, rfl⟩, rfl⟩, rfl⟩
    exact ⟨rfl, (upTo_of_fixed rfl rfl).mpr (by simp)⟩
  · rintro ⟨same, stands⟩
    cases body <;> cases same
    rw [upTo_of_fixed rfl rfl] at stands
    exact ⟨_, _, ⟨_, _, ⟨_, _, ⟨rfl, rfl⟩, rfl⟩, rfl⟩, by simpa using stands⟩

theorem encode_reportRequest_eq_ok_iff {report : String} {written : Bytes} : (reportRequest report).encode = .ok written ↔
    (Utf8.encode report).length ≤ 255 ∧ written = UInt8.ofNat (Utf8.encode report).length :: Utf8.encode report := by
  simp only [encode]
  split
  · simp only [throw, throwThe, MonadExceptOf.throw, reduceCtorEq, false_iff]
    omega
  · simp only [pure, Except.pure, Except.ok.injEq, eq_comm]
    exact (and_iff_right (by omega)).symm

theorem encode_data_eq_ok_iff {payload written : Bytes} : (data payload).encode = .ok written ↔
    payload.length ≤ 65535 ∧ written = Bytes.u16 (.ofNat payload.length) ++ payload := by
  simp only [encode]
  split
  · simp only [throw, throwThe, MonadExceptOf.throw, reduceCtorEq, false_iff]
    omega
  · simp only [pure, Except.pure, Except.ok.injEq, eq_comm]
    exact (and_iff_right (by omega)).symm

theorem encode_connectRequest_eq_ok_iff {peer : Contact} {forwarded : Bool} {written : Bytes} :
    (connectRequest peer forwarded).encode = .ok written ↔
      ∃ contact, peer.encode = .ok contact ∧ written = contact ++ Bytes.flag forwarded := by
  simp only [encode]
  cases peer.encode with
  | error fault => simp [bind, Except.bind]
  | ok contact => simp [bind, Except.bind, pure, Except.pure, eq_comm]

/-- Only a count that does not fit into the field before it leaves a body without a wire form. -/
theorem encode_ok_iff {body : Body} : (∃ written, body.encode = .ok written) ↔
    ¬ ((∃ peer forwarded, body = .connectRequest peer forwarded ∧ 255 < peer.parents.length) ∨
      (∃ report, body = .reportRequest report ∧ 255 < (Utf8.encode report).length) ∨
      ∃ payload, body = .data payload ∧ 65535 < payload.length) := by
  cases body with
  | connectRequest peer forwarded =>
    simp [encode_connectRequest_eq_ok_iff, Contact.encode_eq_ok_iff, Contact.encodeParents_eq_ok_iff]
  | reportRequest report => simp [encode_reportRequest_eq_ok_iff]
  | data payload => simp [encode_data_eq_ok_iff]
  | _ => simp [encode, pure, Except.pure]

theorem unregisterRequest_reads : Reads (Body.read .unregisterRequest) (Stands .unregisterRequest) := by
  have shape (body : Body) : body.opcode = .unregisterRequest ↔
      ∃ (delay : UInt32) (previous : RegisterStatus), body = unregisterRequest delay.toInt32 previous := by
    constructor
    · intro same
      cases body <;> cases same
      rename_i delay previous
      exact ⟨delay.toUInt32, previous, rfl⟩
    · rintro ⟨delay, previous, rfl⟩
      rfl
  have known (delay : UInt32) (previous : RegisterStatus) :
      (unregisterRequest delay.toInt32 previous).encode = .ok (Bytes.u32 delay ++ [previous.code]) := by
    simp only [encode, pure, Except.pure, UInt32.toUInt32_toInt32]
  exact pair_reads u32_reads (coded_reads RegisterStatus.ofCode?_eq_some_iff) shape known fun _ _ => rfl

theorem reportRequest_reads : Reads (Body.read .reportRequest) (Stands .reportRequest) := by
  refine (string_reads.map reportRequest).congr ?_
  intro body taken
  constructor
  · rintro ⟨report, stands, rfl⟩
    exact ⟨rfl, taken, encode_reportRequest_eq_ok_iff.mpr stands, SameBut.refl _ _⟩
  · rintro ⟨same, written, known, stands⟩
    cases body <;> cases same
    obtain rfl := (SameBut.iff_eq fun _ _ => rfl).mp stands
    exact ⟨_, encode_reportRequest_eq_ok_iff.mp known, rfl⟩

theorem data_reads : Reads (Body.read .data) (Stands .data) := by
  refine (u16_reads.then fun count => (bytes_reads count.toNat).map data).congr ?_
  intro body taken
  constructor
  · rintro ⟨count, _, ⟨payload, ⟨length, rfl⟩, rfl⟩, rfl⟩
    have bound := count.toNat_lt
    refine ⟨rfl, _, encode_data_eq_ok_iff.mpr ⟨by omega, ?_⟩, SameBut.refl _ _⟩
    rw [length, UInt16.ofNat_toNat]
  · rintro ⟨same, written, known, stands⟩
    cases body <;> cases same
    rename_i payload
    obtain rfl := (SameBut.iff_eq fun _ _ => rfl).mp stands
    obtain ⟨bound, rfl⟩ := encode_data_eq_ok_iff.mp known
    have small : payload.length < UInt16.size := by
      show payload.length < 65536
      omega
    exact ⟨_, _, ⟨payload, ⟨(UInt16.toNat_ofNat_of_lt' small).symm, rfl⟩, rfl⟩, rfl⟩

theorem connectRequest_reads : Reads (Body.read .connectRequest) (Stands .connectRequest) := by
  refine (Contact.read_reads.bind fun peer => flag_reads.then fun forwarded => Reads.pure (connectRequest peer forwarded)).congr ?_
  intro body taken
  have spread {peer : Contact} {forwarded : Bool} {contact : Bytes} (known : peer.encode = .ok contact) :
      SameBut (connectRequest peer forwarded).freeBits (contact ++ Bytes.flag forwarded) taken ↔
        ∃ head, SameBut peer.freeBits contact head ∧ taken = head ++ Bytes.flag forwarded := by
    refine SameBut.append_fixed_iff ?_
    intro i beyond
    exact peer.freeBits_beyond (Nat.le_trans (Contact.encode_length_ge known) beyond)
  constructor
  · rintro ⟨peer, head, _, ⟨contact, known, same⟩, ⟨forwarded, _, ⟨rfl, rfl⟩, rfl⟩, rfl⟩
    refine ⟨rfl, _, encode_connectRequest_eq_ok_iff.mpr ⟨contact, known, rfl⟩, ?_⟩
    exact (spread known).mpr ⟨head, same, by rw [List.append_nil]⟩
  · rintro ⟨same, written, known, stands⟩
    cases body <;> cases same
    rename_i peer forwarded
    obtain ⟨contact, encoded, rfl⟩ := encode_connectRequest_eq_ok_iff.mp known
    obtain ⟨head, same, rfl⟩ := (spread encoded).mp stands
    exact ⟨peer, head, _, ⟨contact, encoded, same⟩, ⟨forwarded, _, ⟨rfl, rfl⟩, rfl⟩, by rw [List.append_nil]⟩

/-- The reader of an opcode's body takes what the encoder writes for the bodies of that opcode, up to free bits. -/
theorem read_reads (opcode : Opcode) : Reads (Body.read opcode) (Stands opcode) := by
  cases opcode with
  | echoRequest => exact echoRequest_reads
  | echoResponse => exact echoResponse_reads
  | reportRequest => exact reportRequest_reads
  | connectRequest => exact connectRequest_reads
  | data => exact data_reads
  | registerRequest =>
    exact pair_reads u32_reads u32_reads (fun body => by cases body <;> simp [Body.opcode]) (fun _ _ => rfl) fun _ _ => rfl
  | registerResponse =>
    exact field_reads (coded_reads RegisterStatus.ofCode?_eq_some_iff) (fun body => by cases body <;> simp [Body.opcode])
      (fun _ => rfl) fun _ => rfl
  | unregisterRequest => exact unregisterRequest_reads
  | unregisterResponse =>
    exact field_reads (coded_reads UnregisterStatus.ofCode?_eq_some_iff) (fun body => by cases body <;> simp [Body.opcode])
      (fun _ => rfl) fun _ => rfl
  | keepAliveResponse =>
    exact field_reads (coded_reads KeepAliveStatus.ofCode?_eq_some_iff) (fun body => by cases body <;> simp [Body.opcode])
      (fun _ => rfl) fun _ => rfl
  | connectResponse =>
    exact pair_reads (coded_reads ConnectStatus.ofCode?_eq_some_iff) u32_reads
      (fun body => by cases body <;> simp [Body.opcode]) (fun _ _ => rfl) fun _ _ => rfl
  | deleteConnection =>
    exact field_reads u32_reads (fun body => by cases body <;> simp [Body.opcode]) (fun _ => rfl) fun _ => rfl
  | reportResponse | keepAliveRequest | punchPing | punchPong | expire | connectionPing | connectionPong =>
    exact bare_reads (fun body => by cases body <;> simp [Body.opcode]) rfl rfl

end Body

end NatTraversal
