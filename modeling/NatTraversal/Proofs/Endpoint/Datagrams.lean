import NatTraversal.Proofs.Endpoint.Sockets

namespace NatTraversal

namespace Endpoint

variable {e : Endpoint} {message : Message} {frame : Bytes}

/-- A datagram that is accepted goes out as the frame of its message. -/
theorem send_of_accept {outside : Outside} (channel : message.transport = .udp)
    (apart : message.sourceSocket ≠ message.destSocket) (accepted : e.accept outside message = .ok ()) :
    ∃ frame, message.encode = .ok frame ∧
      (e.send outside message).1 = [.transmit message.sourceSocket message.destSocket frame] := by
  have away : isLooped message = false := by
    rw [isLooped, beq_eq_false_iff_ne]
    exact apart
  simp only [accept, away, Bool.false_eq_true, if_false, channel] at accepted
  cases known : e.datagram message with
  | error error =>
    rw [known] at accepted
    cases accepted
  | ok frame =>
    rw [known] at accepted
    change (outside.carry frame message.destSocket).mapError LinkError.io = .ok () at accepted
    refine ⟨frame, (datagram_eq_ok known).2, ?_⟩
    cases carried : outside.carry frame message.destSocket with
    | error kind =>
      rw [carried] at accepted
      cases accepted
    | ok _ => simp only [send, away, Bool.false_eq_true, if_false, channel, known, carried]

/-- The frame of a datagram is told of if it fits the buffer; what is left of a longer one is not. -/
theorem receive_encoded (channel : message.transport = .udp) (known : message.encode = .ok frame) (remote here : Socket) :
    e.receive frame remote here =
      (if frame.length ≤ e.config.receiveBuffer.toNat then [.message message remote here] else [],
        { e with traffic := e.traffic.addRead (min e.config.receiveBuffer.toNat frame.length) }) := by
  simp only [receive, List.length_take]
  split
  · rename_i told accepted
    split
    · rename_i whole
      rw [List.take_of_length_le whole, Message.decode_eq_ok_iff.mpr ⟨channel, frame, known, SameBut.refl _ _⟩] at accepted
      cases accepted
      rfl
    · rename_i long
      exact absurd accepted (Message.decode_take_ne_ok known (Nat.not_le.mp long) .udp told)
  · rename_i fault refused
    split
    · rename_i whole
      rw [List.take_of_length_le whole, Message.decode_eq_ok_iff.mpr ⟨channel, frame, known, SameBut.refl _ _⟩] at refused
      cases refused
    · rfl

end Endpoint

namespace Listener

/-- As long as it is heard, a listener goes on after a datagram whatever is in it. -/
theorem turn_datagram {l : Listener} (runs : l.running = true) (datagram : Bytes) (remote : Socket) :
    l.turn true (.ok (datagram, remote)) = { l with
      endpoint := (l.endpoint.receive datagram remote l.here).2
      told := l.told ++ (l.endpoint.receive datagram remote l.here).1 } := by
  simp only [turn, runs, if_true, Bool.true_or]

theorem turn_of_transient {kind : IoKind} (transient : kind.isTransient = true) (heard : Bool) (l : Listener) :
    l.turn heard (.error kind) = l := by
  simp only [turn, transient, if_true, ite_self]

/-- What is told of an arrival, if it is the frame of a message: the message, if all of the frame fits. -/
def toldOf (size : Nat) (here : Socket) : Except IoKind (Message × Bytes × Socket) → Option EndpointEvent
  | .ok (message, frame, remote) => if frame.length ≤ size then some (.message message remote here) else none
  | .error _ => none

/-- A run over the frames of messages, with errors in between that a socket survives, ends with the listener still there
and having told of each message whose frame fits, in order. -/
theorem foldl_turn (arrivals : List (Except IoKind (Message × Bytes × Socket))) (l : Listener) (runs : l.running = true)
    (frames : ∀ message frame remote, .ok (message, frame, remote) ∈ arrivals →
      message.transport = .udp ∧ message.encode = .ok frame)
    (survived : ∀ kind, .error kind ∈ arrivals → kind.isTransient = true) :
    ((arrivals.map (·.map Prod.snd)).foldl (turn true) l).running = true ∧
      ((arrivals.map (·.map Prod.snd)).foldl (turn true) l).told =
        l.told ++ arrivals.filterMap (toldOf l.endpoint.config.receiveBuffer.toNat l.here) := by
  induction arrivals generalizing l with
  | nil => exact ⟨runs, (List.append_nil _).symm⟩
  | cons arrival arrivals ih =>
    have later (after : Listener) (still : after.running = true) := ih after still
      (fun message frame remote there => frames message frame remote (List.mem_cons_of_mem _ there))
      (fun kind there => survived kind (List.mem_cons_of_mem _ there))
    rw [List.map_cons, List.foldl_cons]
    cases arrival with
    | error kind =>
      rw [Except.map, turn_of_transient (survived kind List.mem_cons_self)]
      exact later l runs
    | ok arrived =>
      obtain ⟨message, frame, remote⟩ := arrived
      obtain ⟨channel, known⟩ := frames message frame remote List.mem_cons_self
      rw [Except.map, turn_datagram runs, Endpoint.receive_encoded channel known]
      obtain ⟨still, told⟩ := later { l with
        endpoint := { l.endpoint with
          traffic := l.endpoint.traffic.addRead (min l.endpoint.config.receiveBuffer.toNat frame.length) }
        told := l.told ++ if frame.length ≤ l.endpoint.config.receiveBuffer.toNat then [.message message remote l.here] else [] }
        runs
      refine ⟨still, told.trans ?_⟩
      simp only [List.filterMap_cons, toldOf, List.append_assoc]
      split <;> rfl

/-- A message that is accepted for a datagram reaches a listener as it is if its frame fits the listener's buffer, and not
at all otherwise. Either way the listener goes on, and nothing that is left of the frame can be taken for a message. -/
theorem turn_of_accept (sender : Endpoint) (outside : Outside) (message : Message) (l : Listener) (remote : Socket)
    (channel : message.transport = .udp) (apart : message.sourceSocket ≠ message.destSocket)
    (accepted : sender.accept outside message = .ok ()) (runs : l.running = true) :
    ∃ frame, message.encode = .ok frame ∧
      (sender.send outside message).1 = [.transmit message.sourceSocket message.destSocket frame] ∧
      l.turn true (.ok (frame, remote)) = { l with
        endpoint := { l.endpoint with
          traffic := l.endpoint.traffic.addRead (min l.endpoint.config.receiveBuffer.toNat frame.length) }
        told := l.told ++ if frame.length ≤ l.endpoint.config.receiveBuffer.toNat then [.message message remote l.here] else []
        running := true } ∧
      ∀ n < frame.length, ∀ transport other, Message.decode (frame.take n) transport ≠ .ok other := by
  obtain ⟨frame, known, sent⟩ := Endpoint.send_of_accept channel apart accepted
  refine ⟨frame, known, sent, ?_, fun n cut => Message.decode_take_ne_ok known cut⟩
  rw [turn_datagram runs, Endpoint.receive_encoded channel known, runs]

/-- A frame of 74 bytes gets into a buffer of 74 bytes, but not into one that is a byte smaller. -/
theorem turn_of_accept_mappedToZero :
    let message := Message.mappedToZero
    let sender := (({ config := {} } : Endpoint).bind message.sourceSocket .udp (.bound message.sourceSocket.port)).2.2
    let outside : Outside := ⟨fun _ _ => .inUse, fun _ _ => .ok (), fun _ => .taken⟩
    let listener := fun size => Listener.mk { config := { receiveBuffer := size } } message.destSocket [] true
    ∃ frame, (sender.send outside message).1 = [.transmit message.sourceSocket message.destSocket frame] ∧
      ((listener 74).turn true (.ok (frame, message.sourceSocket))).told =
        [.message message message.sourceSocket message.destSocket] ∧
      ((listener 73).turn true (.ok (frame, message.sourceSocket))).told = [] ∧
      ((listener 73).turn true (.ok (frame, message.sourceSocket))).running = true := by
  intro message sender outside listener
  obtain ⟨frame, known, sent, whole, _⟩ := turn_of_accept sender outside message (listener 74) message.sourceSocket rfl
    (by decide +kernel) (by decide +kernel) rfl
  obtain ⟨again, knownAgain, _, cut, _⟩ := turn_of_accept sender outside message (listener 73) message.sourceSocket rfl
    (by decide +kernel) (by decide +kernel) rfl
  cases known.symm.trans knownAgain
  have length : frame.length = 74 := by
    have fixed : (message.encode.map List.length) = .ok 74 := by decide +kernel
    rw [known] at fixed
    exact Except.ok.inj fixed
  refine ⟨frame, sent, ?_, ?_, ?_⟩
  · rw [whole, length]
    rfl
  · rw [cut, length]
    rfl
  · rw [cut]

end Listener

end NatTraversal
