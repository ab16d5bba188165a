import NatTraversal.Endpoint.Delivery
import NatTraversal.Proofs.Message.RoundTrip

namespace NatTraversal

namespace Traffic

theorem addRead_zero (traffic : Traffic) : traffic.addRead 0 = traffic := by
  simp [addRead, add]

theorem addWritten_zero (traffic : Traffic) : traffic.addWritten 0 = traffic := by
  simp [addWritten, add]

theorem addRead_addRead (traffic : Traffic) (m n : Nat) : (traffic.addRead m).addRead n = traffic.addRead (m + n) := by
  simp [addRead, add, UInt64.ofNat_add, UInt64.add_assoc]

theorem addWritten_addWritten (traffic : Traffic) (m n : Nat) :
    (traffic.addWritten m).addWritten n = traffic.addWritten (m + n) := by
  simp [addWritten, add, UInt64.ofNat_add, UInt64.add_assoc]

end Traffic

namespace Framing

/-- A frame as it stands in a stream. -/
def framed (frame : Bytes) : Bytes := Bytes.bigEndian 4 frame.length ++ frame

theorem framed_length (frame : Bytes) : (framed frame).length = frame.length + 4 := by
  rw [framed, List.length_append, Bytes.bigEndian_length, Nat.add_comm]

theorem write_of_le {limit : Nat} {frame : Bytes} (fits : frame.length ≤ limit) : write limit frame = .ok (framed frame) :=
  if_neg (Nat.not_lt.mpr fits)

variable {limit : Nat}

/-- A frame is read back whatever stands behind it, as long as its length has room in four bytes. -/
theorem read_framed (word : limit < 4294967296) {frame : Bytes} (fits : frame.length ≤ limit) (rest : Bytes) :
    read limit (framed frame ++ rest) = .ok (frame, rest) := by
  have head : (framed frame ++ rest).take 4 = Bytes.bigEndian 4 frame.length := by
    rw [framed, List.append_assoc]
    exact List.take_left' (Bytes.bigEndian_length 4 _)
  have tail : (framed frame ++ rest).drop 4 = frame ++ rest := by
    rw [framed, List.append_assoc]
    exact List.drop_left' (Bytes.bigEndian_length 4 _)
  have announced : Bytes.value (Bytes.bigEndian 4 frame.length) = frame.length := by
    rw [Bytes.value_bigEndian]
    exact Nat.mod_eq_of_lt (Nat.lt_of_le_of_lt fits word)
  have begun : ¬ (framed frame ++ rest).length < 4 := by
    rw [List.length_append, framed_length]
    omega
  have complete : ¬ (frame ++ rest).length < frame.length := by
    rw [List.length_append]
    omega
  simp only [read, if_neg begun, head, tail, announced, if_neg (Nat.not_lt.mpr fits), if_neg complete, List.take_left,
    List.drop_left]

theorem readAll_of_read {stream frame rest : Bytes} (next : read limit stream = .ok (frame, rest)) :
    readAll limit stream = (frame :: (readAll limit rest).1, (readAll limit rest).2) := by
  rw [readAll]
  split
  · rename_i failed
    cases next.symm.trans failed
  · rename_i found
    cases next.symm.trans found
    rfl

/-- The frames of a stream are read back in order, up to where the stream ends. -/
theorem readAll_framed (word : limit < 4294967296) {frames : List Bytes} (fit : ∀ frame ∈ frames, frame.length ≤ limit) :
    readAll limit (frames.flatMap framed) = (frames, .io .unexpectedEnd) := by
  induction frames with
  | nil =>
    rw [List.flatMap_nil, readAll]
    rfl
  | cons frame frames ih =>
    rw [List.forall_mem_cons] at fit
    rw [List.flatMap_cons, readAll_of_read (read_framed word fit.1 _), ih fit.2]

end Framing

namespace Endpoint

open Framing

variable {config : EndpointConfig} {message : Message} {here : Socket}

theorem encode_eq_ok_iff {frame : Bytes} :
    encode config message = .ok frame ↔ message.encode = .ok frame ∧ frame.length ≤ config.maxFrame.toNat := by
  unfold encode
  cases known : message.encode with
  | error fault => simp
  | ok written =>
    simp only [Except.ok.injEq]
    split
    · rename_i long
      simp only [reduceCtorEq, false_iff, not_and]
      rintro rfl
      exact Nat.not_le.mpr long
    · rename_i short
      simp only [Except.ok.injEq, iff_self_and]
      rintro rfl
      exact Nat.not_lt.mp short

/-- A frame is what ends up in an empty buffer, unless the message cannot be encoded. -/
theorem encodeOnto_nil (config : EndpointConfig) (message : Message) :
    (∃ frame, encode config message = .ok frame ∧ encodeOnto config message [] = (.ok (), frame)) ∨
    ∃ error left, encode config message = .error error ∧ encodeOnto config message [] = (.error error, left) := by
  unfold encode encodeOnto
  cases known : message.encode with
  | error fault =>
    refine .inr ⟨_, (message.encodeOnto []).2, rfl, ?_⟩
    have failed := Message.encodeOnto_of_error known []
    revert failed
    cases message.encodeOnto [] with
    | mk answer buffer =>
      rintro rfl
      rfl
  | ok frame =>
    rw [Message.encodeOnto_of_ok known, List.nil_append]
    dsimp only
    split
    · exact .inr ⟨_, frame, rfl, rfl⟩
    · exact .inl ⟨frame, rfl, rfl⟩

/-- Whether the frame of a message is within the limit. -/
def fits (config : EndpointConfig) (message : Message) : Bool := (encode config message).toOption.isSome

theorem fits_iff :
    fits config message = true ↔ ∃ frame, message.encode = .ok frame ∧ frame.length ≤ config.maxFrame.toNat := by
  simp only [← encode_eq_ok_iff, fits]
  cases encode config message <;> simp [Except.toOption]

/-- Where a message goes out from makes no difference to its length. -/
theorem fits_withLocal (config : EndpointConfig) (message : Message) (here : Socket) :
    fits config (message.withLocal here) = fits config message := by
  rw [Bool.eq_iff_iff, fits_iff, fits_iff]
  constructor
  · rintro ⟨moved, known, short⟩
    obtain ⟨frame, encoded, same⟩ := Message.encode_of_withLocal known
    exact ⟨frame, encoded, same ▸ short⟩
  · rintro ⟨frame, known, short⟩
    obtain ⟨moved, encoded, same⟩ := Message.encode_withLocal known here
    exact ⟨moved, encoded, same ▸ short⟩

/-- The frames that a writer makes of the messages given to it. -/
def frames (config : EndpointConfig) (here : Socket) (messages : List Message) : List Bytes :=
  messages.filterMap fun message => (encode config (message.withLocal here)).toOption

theorem frames_cons_of_ok {frame : Bytes} (known : encode config (message.withLocal here) = .ok frame)
    (messages : List Message) : frames config here (message :: messages) = frame :: frames config here messages := by
  simp only [frames, List.filterMap_cons, known, Except.toOption]

theorem frames_cons_of_error {error : LinkError} (failed : encode config (message.withLocal here) = .error error)
    (messages : List Message) : frames config here (message :: messages) = frames config here messages := by
  simp only [frames, List.filterMap_cons, failed, Except.toOption]

theorem frames_fit {messages : List Message} : ∀ frame ∈ frames config here messages, frame.length ≤ config.maxFrame.toNat := by
  intro frame made
  obtain ⟨message, _, known⟩ := List.mem_filterMap.mp made
  cases encoded : encode config (message.withLocal here) with
  | error error => simp [encoded, Except.toOption] at known
  | ok written =>
    simp only [encoded, Except.toOption, Option.some.injEq] at known
    exact known ▸ (encode_eq_ok_iff.mp encoded).2

theorem streamOut_eq (config : EndpointConfig) (here : Socket) (messages : List Message) :
    streamOut config here messages = (frames config here messages).flatMap framed := by
  induction messages with
  | nil => rfl
  | cons message messages ih =>
    rw [streamOut, List.flatMap_cons, ← streamOut, ih]
    cases known : encode config (message.withLocal here) with
    | error error =>
      rw [frames_cons_of_error known]
      rfl
    | ok frame =>
      rw [frames_cons_of_ok known, List.flatMap_cons]
      simp only [write_of_le (encode_eq_ok_iff.mp known).2, Except.toOption, Option.getD_some]

/-- The messages that go out: those whose frames are within the limit, each from the local end of the stream. -/
def outgoing (config : EndpointConfig) (here : Socket) (messages : List Message) : List Message :=
  (messages.filter (fits config)).map (·.withLocal here)

theorem outgoing_cons_of_ok {frame : Bytes} (known : encode config (message.withLocal here) = .ok frame)
    (messages : List Message) :
    outgoing config here (message :: messages) = message.withLocal here :: outgoing config here messages := by
  have short : fits config message = true := by
    rw [← fits_withLocal config message here, fits, known]
    rfl
  rw [outgoing, List.filter_cons_of_pos short, List.map_cons, ← outgoing]

theorem outgoing_cons_of_error {error : LinkError} (failed : encode config (message.withLocal here) = .error error)
    (messages : List Message) : outgoing config here (message :: messages) = outgoing config here messages := by
  have long : ¬ fits config message = true := by
    rw [← fits_withLocal config message here, fits, failed]
    exact Bool.false_ne_true
  rw [outgoing, List.filter_cons_of_neg long, ← outgoing]

/-- The frames are the encodings of the messages that go out. -/
theorem mapM_encode_outgoing (config : EndpointConfig) (here : Socket) (messages : List Message) :
    (outgoing config here messages).mapM Message.encode = .ok (frames config here messages) := by
  induction messages with
  | nil => rfl
  | cons message messages ih =>
    cases known : encode config (message.withLocal here) with
    | error error => rw [outgoing_cons_of_error known, frames_cons_of_error known, ih]
    | ok frame =>
      rw [outgoing_cons_of_ok known, frames_cons_of_ok known, List.mapM_cons, (encode_eq_ok_iff.mp known).1, ih]
      rfl

/-- The frames are read as the messages that go out. -/
theorem filterMap_decode_frames {messages : List Message} (channel : ∀ message ∈ messages, message.transport = .tcp) :
    (frames config here messages).filterMap (fun frame => (Message.decode frame .tcp).toOption) =
      outgoing config here messages := by
  induction messages with
  | nil => rfl
  | cons message messages ih =>
    rw [List.forall_mem_cons] at channel
    cases known : encode config (message.withLocal here) with
    | error error => rw [outgoing_cons_of_error known, frames_cons_of_error known, ih channel.2]
    | ok frame =>
      have decoded : Message.decode frame .tcp = .ok (message.withLocal here) :=
        Message.decode_eq_ok_iff.mpr ⟨channel.1, frame, (encode_eq_ok_iff.mp known).1, SameBut.refl _ _⟩
      rw [outgoing_cons_of_ok known, frames_cons_of_ok known, List.filterMap_cons, decoded, ih channel.2]
      rfl

/-- Reading frames tells of those that are messages, in order, and counts all of them as they stand in the stream. -/
theorem foldl_readFrame (remote here : Socket) (frames : List Bytes) (told : List EndpointEvent) (e : Endpoint) :
    frames.foldl (readFrame remote here) (told, e) =
      (told ++ (frames.filterMap fun frame => (Message.decode frame .tcp).toOption).map (.message · remote here),
        { e with traffic := e.traffic.addRead (frames.flatMap framed).length }) := by
  induction frames generalizing told e with
  | nil => simp only [List.foldl_nil, List.filterMap_nil, List.map_nil, List.append_nil, List.flatMap_nil, List.length_nil,
      Traffic.addRead_zero]
  | cons frame frames ih =>
    have counted : (e.traffic.addRead (frame.length + 4)).addRead (frames.flatMap framed).length =
        e.traffic.addRead ((frame :: frames).flatMap framed).length := by
      rw [Traffic.addRead_addRead, List.flatMap_cons, List.length_append, framed_length]
    rw [List.foldl_cons, readFrame]
    cases decoded : Message.decode frame .tcp with
    | error fault => simp only [ih, counted, List.filterMap_cons, decoded, Except.toOption]
    | ok message =>
      simp only [ih, counted, List.filterMap_cons, decoded, Except.toOption, List.map_cons, List.append_assoc,
        List.singleton_append]

/-- A reader tells of the messages in its stream and counts the frames up to its first error. -/
theorem readStream_eq (e : Endpoint) (remote here : Socket) (stream : Bytes) :
    e.readStream remote here stream =
      (((streamIn e.config .tcp stream).map (.message · remote here),
        { e with traffic := e.traffic.addRead ((readAll e.config.maxFrame.toNat stream).1.flatMap framed).length }),
        (readAll e.config.maxFrame.toNat stream).2) := by
  simp only [readStream, foldl_readFrame, List.nil_append, streamIn]

theorem readStream_framed {e : Endpoint} (word : e.config.maxFrame.toNat < 4294967296) {frames : List Bytes}
    (fit : ∀ frame ∈ frames, frame.length ≤ e.config.maxFrame.toNat) (remote here : Socket) :
    e.readStream remote here (frames.flatMap framed) =
      (((frames.filterMap fun frame => (Message.decode frame .tcp).toOption).map (.message · remote here),
        { e with traffic := e.traffic.addRead (frames.flatMap framed).length }), .io .unexpectedEnd) := by
  rw [readStream_eq, streamIn, readAll_framed word fit]

end Endpoint

namespace StreamWriter

open Framing

variable {here : Socket} {w : StreamWriter} {message : Message}

/-- A message that cannot be encoded leaves its trace in the buffer only. -/
theorem take_of_error {error : LinkError} (runs : w.failure = none)
    (failed : Endpoint.encode w.endpoint.config (message.withLocal here) = .error error) :
    ∃ buffer, w.take here message = { w with buffer } := by
  obtain ⟨frame, known, _⟩ | ⟨_, left, _, onto⟩ := Endpoint.encodeOnto_nil w.endpoint.config (message.withLocal here)
  · cases failed.symm.trans known
  · refine ⟨left, ?_⟩
    simp only [take, runs, Option.isSome_none, Bool.false_eq_true, if_false, onto]

/-- Any other message is written as a frame, whatever the buffer held. -/
theorem take_of_ok {frame : Bytes} (runs : w.failure = none)
    (known : Endpoint.encode w.endpoint.config (message.withLocal here) = .ok frame) :
    w.take here message = { w with
      buffer := frame
      stream := w.stream ++ framed frame
      endpoint := { w.endpoint with traffic := w.endpoint.traffic.addWritten (framed frame).length } } := by
  obtain ⟨_, again, onto⟩ | ⟨_, _, failed, _⟩ := Endpoint.encodeOnto_nil w.endpoint.config (message.withLocal here)
  · cases known.symm.trans again
    have short := (Endpoint.encode_eq_ok_iff.mp known).2
    simp only [take, runs, Option.isSome_none, Bool.false_eq_true, if_false, onto, flush, write_of_le short, framed_length]
  · cases known.symm.trans failed

/-- Between messages nothing is carried over: a stream is what the messages come to one by one. -/
theorem foldl_take (here : Socket) (messages : List Message) (w : StreamWriter) (runs : w.failure = none) :
    ∃ buffer, messages.foldl (take here) w = { w with
      buffer
      stream := w.stream ++ Endpoint.streamOut w.endpoint.config here messages
      endpoint := { w.endpoint with
        traffic := w.endpoint.traffic.addWritten (Endpoint.streamOut w.endpoint.config here messages).length } } := by
  simp only [Endpoint.streamOut_eq]
  induction messages generalizing w with
  | nil =>
    refine ⟨w.buffer, ?_⟩
    simp only [Endpoint.frames, List.filterMap_nil, List.flatMap_nil, List.append_nil, List.length_nil,
      Traffic.addWritten_zero, List.foldl_nil]
  | cons message messages ih =>
    rw [List.foldl_cons]
    cases known : Endpoint.encode w.endpoint.config (message.withLocal here) with
    | error error =>
      obtain ⟨left, same⟩ := take_of_error runs known
      obtain ⟨buffer, rest⟩ := ih { w with buffer := left } runs
      exact ⟨buffer, by rw [same, rest, Endpoint.frames_cons_of_error known]⟩
    | ok frame =>
      obtain ⟨buffer, rest⟩ := ih (w.take here message) (by rw [take_of_ok runs known]; exact runs)
      refine ⟨buffer, ?_⟩
      rw [rest, take_of_ok runs known, Endpoint.frames_cons_of_ok known]
      simp only [List.flatMap_cons, List.append_assoc, List.length_append, Traffic.addWritten_addWritten]

end StreamWriter

namespace Endpoint

/-- What goes into a stream of an IPv4 address comes out of it: the messages whose frames are within the limit, in order
and from that address, whatever else has been tried in between. Both ends count every byte. -/
theorem stream_delivered (sender receiver : Endpoint) (ip : Ipv4) (port : UInt16) (remote here : Socket) (messages : List Message)
    (channel : ∀ message ∈ messages, message.transport = .tcp) (same : receiver.config.maxFrame = sender.config.maxFrame)
    (word : sender.config.maxFrame.toNat ≤ 4294967295) :
    let w := messages.foldl (StreamWriter.take (.v4 ip port)) { endpoint := sender }
    let sent := (messages.filter (fits sender.config)).map fun message =>
      { message with source := { message.source with address := { message.source.address with ip, port } } }
    ∃ frames, sent.mapM Message.encode = .ok frames ∧
      w.stream = (frames.flatMap fun frame => Bytes.bigEndian 4 frame.length ++ frame) ∧ w.failure = none ∧
      w.endpoint = { sender with traffic := sender.traffic.addWritten w.stream.length } ∧
      receiver.readStream remote here w.stream =
        ((sent.map (.message · remote here), { receiver with traffic := receiver.traffic.addRead w.stream.length }),
          .io .unexpectedEnd) := by
  intro w sent
  obtain ⟨buffer, run⟩ := StreamWriter.foldl_take (.v4 ip port) messages { endpoint := sender } rfl
  have written : w.stream = (frames sender.config (.v4 ip port) messages).flatMap Framing.framed := by
    rw [← streamOut_eq]
    exact congrArg StreamWriter.stream run
  have encoded : sent.mapM Message.encode = .ok (frames sender.config (.v4 ip port) messages) :=
    mapM_encode_outgoing sender.config (.v4 ip port) messages
  refine ⟨frames sender.config (.v4 ip port) messages, encoded, written, congrArg StreamWriter.failure run, ?_, ?_⟩
  · rw [written, ← streamOut_eq]
    exact congrArg StreamWriter.endpoint run
  · have word' : receiver.config.maxFrame.toNat < 4294967296 := by
      rw [same]
      omega
    have fit : ∀ frame ∈ frames sender.config (.v4 ip port) messages, frame.length ≤ receiver.config.maxFrame.toNat := by
      rw [same]
      exact frames_fit
    rw [written, readStream_framed word' fit, filterMap_decode_frames channel]
    rfl

/-- Two messages come through a stream, with one between them that leaves its header in the buffer and one that is beyond
the limit. -/
theorem stream_delivered_past_leftovers :
    let e : Endpoint := { config := { maxFrame := 100 } }
    let pong := Message.unmapped
    let crowded := { pong with body := .connectRequest { pong.source with parents := .replicate 256 pong.dest } false }
    let bulky := { pong with body := .data (.replicate 80 0) }
    let ping := { pong with body := .punchPing }
    let here := Socket.v4 ⟨0x0A000001⟩ 50000
    let w := [pong, crowded, bulky, ping].foldl (StreamWriter.take here) { endpoint := e }
    (StreamWriter.take here { endpoint := e } crowded).buffer.length = 50 ∧
      (e.readStream here here w.stream).1.1 = [.message (pong.withLocal here) here here, .message (ping.withLocal here) here here] ∧
      w.endpoint.traffic.written = 108 := by
  intro e pong crowded bulky ping here w
  obtain ⟨frames, encoded, written, _, counted, read⟩ := stream_delivered e e ⟨0x0A000001⟩ 50000 here here [pong, crowded, bulky, ping]
    (by decide) rfl (by decide)
  refine ⟨by decide +kernel, ?_, ?_⟩
  · rw [read]
    decide +kernel
  · rw [counted]
    decide +kernel

end Endpoint

end NatTraversal
