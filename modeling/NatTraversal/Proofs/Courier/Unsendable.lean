import NatTraversal.Node.Application
import NatTraversal.Node.Building
import NatTraversal.Proofs.Chance

namespace NatTraversal

namespace Endpoint

variable {e : Endpoint} {fault : LinkError} {message : Message}

/-- Why a datagram without a frame is refused. The port comes first. -/
def refusal (e : Endpoint) (message : Message) (fault : LinkError) : LinkError :=
  if (e.udp.get? message.sourceSocket.port).isNone then .notBound message.sourceSocket.port .udp else fault

theorem datagram_of_unframed (unframed : encode e.config message = .error fault) :
    e.datagram message = .error (e.refusal message fault) := by
  unfold datagram refusal
  split
  · rfl
  · exact unframed

theorem accept_of_looped (looped : isLooped message = true) (outside : Outside) : e.accept outside message = .ok () := if_pos looped

theorem accept_of_unframed (unframed : encode e.config message = .error fault) (udp : message.transport = .udp)
    (away : isLooped message = false) (outside : Outside) : e.accept outside message = .error (e.refusal message fault) := by
  simp only [accept, away, Bool.false_eq_true, if_false, udp, datagram_of_unframed unframed]
  rfl

theorem send_of_unframed (unframed : encode e.config message = .error fault) (udp : message.transport = .udp)
    (away : isLooped message = false) (outside : Outside) : e.send outside message = ([], e) := by
  simp only [send, away, Bool.false_eq_true, if_false, udp, datagram_of_unframed unframed]

end Endpoint

namespace Courier

variable {c : CourierContext} {courier : Courier} {dest : Contact} {error : LinkError} {parcel : Parcel} {path : Path}

/-- What is handed to the endpoint for a destination that there is a path to. -/
def addressed (courier : Courier) (dest : Contact) (path : Path) (parcel : Parcel) : Message :=
  if dest.isOpen then { Message.plain courier.contact dest.address parcel.body with ticket := parcel.ticket }
  else courier.directMessage dest.key path parcel

theorem addressed_udp : (courier.addressed dest path parcel).transport = .udp := by
  unfold addressed
  split <;> rfl

def withoutPath (courier : Courier) (key : PeerKey) : Courier := { courier with paths := courier.paths.erase key }

theorem send_of_accepted (known : courier.paths.get? dest.key = some path)
    (taken : c.accept (courier.addressed dest path parcel) = .ok ()) :
    courier.send c dest parcel = (.ok (), courier, [.send (courier.addressed dest path parcel)]) := by
  unfold addressed at taken ⊢
  unfold send
  split at taken
  · rename_i is_open
    simp only [is_open, if_true, taken]
    rfl
  · rename_i natted
    simp only [natted, Bool.false_eq_true, if_false, known, taken]

theorem send_of_declined (known : courier.paths.get? dest.key = some path)
    (lost : c.accept (courier.addressed dest path parcel) = .error error) :
    courier.send c dest parcel = (.error (.link error),
      if dest.isOpen then (courier, [.send (courier.addressed dest path parcel)])
      else (courier.withoutPath dest.key, [.send (courier.addressed dest path parcel), .closePath dest.key])) := by
  unfold addressed at lost ⊢
  unfold send
  split at lost
  · rename_i is_open
    simp only [is_open, if_true, lost]
    rfl
  · rename_i natted
    have held : courier.paths.contains dest.key = true := by
      rw [Table.contains_eq_isSome, known]
      rfl
    simp only [natted, Bool.false_eq_true, if_false, known, lost, closePath, held, if_true, withoutPath]

/-- Without a path nothing is sent to a natted node at once. -/
theorem send_of_pathless (natted : dest.isOpen = false) (pathless : courier.paths.get? dest.key = none) (message : Message) :
    .send message ∉ (courier.send c dest parcel).2.2 := by
  simp only [send, natted, Bool.false_eq_true, if_false, pathless, giveUp, enqueue]
  repeat' split
  all_goals simp

end Courier

namespace Puncher

/-- A path that is given up leaves nothing behind. -/
theorem handle_closePath {p : Puncher} {cached : CachedPath} {key : PeerKey} (going : p.halted = false)
    (found : p.paths.get? key = some cached) (c : Surroundings) :
    p.handle c (.closePath key) = (({ p with paths := p.paths.erase key }).cancel cached.expiryId,
      releasing cached.allocated ++ [.report (.pathClosed key cached.path)]) := by
  simp only [handle, going, Bool.false_eq_true, if_false, closePath, found]

end Puncher

namespace Node

variable {courier : Courier} {dest : Contact} {fault : LinkError} {message : Message} {n : Node} {now : Nat} {outside : Outside}
  {parcel : Parcel} {path : Path}

theorem leave_nil (n : Node) : n.leave [] = n := by
  simp only [leave, List.append_nil]

/-- A node whose courier has given up a path, which the puncher is to learn. -/
def losingPath (n : Node) (courier : Courier) (key : PeerKey) : Node :=
  ({ n with courier := some (courier.withoutPath key) }).leave [.punch (.closePath key)]

/-- A node whose puncher has given up a path. -/
def closingPath (n : Node) (p : Puncher) (key : PeerKey) (cached : CachedPath) : Node :=
  ({ n with
    puncher := some (({ p with paths := p.paths.erase key }).cancel cached.expiryId)
    endpoint := (n.endpoint.release cached.allocated .udp).2 }).leave [.punchEvent (.pathClosed key cached.path)]

theorem run_closePath {p : Puncher} {cached : CachedPath} {key : PeerKey} (punches : n.puncher = some p) (going : p.halted = false)
    (found : p.paths.get? key = some cached) : n.run now outside (.punch (.closePath key)) = n.closingPath p key cached := by
  simp only [run, command, punches, punched, Puncher.handle_closePath going found, Puncher.releasing]
  split
  · rename_i none
    have unmoved : (n.endpoint.release cached.allocated .udp).2 = n.endpoint := by
      simp [List.isEmpty_iff.mp none, Endpoint.release]
    rw [closingPath, unmoved]
    rfl
  · rfl

theorem transmit_of_looped (looped : Endpoint.isLooped message = true) : n.transmit outside message =
    n.leave [.endpointEvent (.message message message.sourceSocket message.destSocket)] := by
  simp only [transmit, Endpoint.send, looped, if_true]
  rfl

theorem transmit_of_unframed (unframed : Endpoint.encode n.endpoint.config message = .error fault) (udp : message.transport = .udp)
    (away : Endpoint.isLooped message = false) : n.transmit outside message = n := by
  simp only [transmit, Endpoint.send_of_unframed unframed udp away]
  exact leave_nil n

/-- What a parcel becomes along a path has no frame, or a longer one than the endpoint takes. -/
structure Unframed (n : Node) (courier : Courier) (dest : Contact) (path : Path) (parcel : Parcel) (fault : LinkError) : Prop where
  up : n.down = false
  carries : n.courier = some courier
  known : courier.paths.get? dest.key = some path
  unframed : Endpoint.encode n.endpoint.config (courier.addressed dest path parcel) = .error fault

theorem send_eq (up : n.down = false) (carries : n.courier = some courier) (now : Nat) (outside : Outside) (dest : Contact)
    (parcel : Parcel) : n.send now outside dest parcel =
    let (answer, step) := courier.send (n.courierContext outside) dest parcel
    (answer, n.carried now outside step) := by
  unfold send
  rw [if_neg (by rw [up]; decide), carries]

theorem send_of_accepted (up : n.down = false) (carries : n.courier = some courier)
    (known : courier.paths.get? dest.key = some path)
    (taken : n.endpoint.accept outside (courier.addressed dest path parcel) = .ok ()) :
    n.send now outside dest parcel = (.ok (), n.transmit outside (courier.addressed dest path parcel)) := by
  rw [send_eq up carries, Courier.send_of_accepted (c := n.courierContext outside) known taken]
  show (_, ({ n with courier := some courier } : Node).transmit outside _) = _
  rw [← carries]

/-- A message without a frame is delivered all the same where it loops. Anywhere else it is refused; nothing more happens if
it was for an open node, but a natted one loses its path, and so does the puncher as soon as it gets to it. -/
theorem send_unframed (hopeless : n.Unframed courier dest path parcel fault) (now : Nat) (outside : Outside) :
    let message := courier.addressed dest path parcel
    let sent := n.send now outside dest parcel
    let goesOn := ∀ (outside : Outside) (next : Parcel), n.endpoint.accept outside (courier.addressed dest path next) = .ok () →
      sent.2.send now outside dest next = (.ok (), sent.2.transmit outside (courier.addressed dest path next))
    (Endpoint.isLooped message = true →
      sent = (.ok (), n.leave [.endpointEvent (.message message message.sourceSocket message.destSocket)]) ∧ goesOn) ∧
    (Endpoint.isLooped message = false → dest.isOpen = true →
      sent = (.error (.link (n.endpoint.refusal message fault)), n) ∧ goesOn) ∧
    (Endpoint.isLooped message = false → dest.isOpen = false →
      sent = (.error (.link (n.endpoint.refusal message fault)), n.losingPath courier dest.key) ∧
      (∀ c next later, .send later ∉ ((courier.withoutPath dest.key).send c dest next).2.2) ∧
      ∀ (m : Node) (p : Puncher) (cached : CachedPath), m.puncher = some p → p.halted = false →
        p.paths.get? dest.key = some cached → m.run now outside (.punch (.closePath dest.key)) = m.closingPath p dest.key cached) := by
  intro message sent
  obtain ⟨up, carries, known, unframed⟩ := hopeless
  have udp : message.transport = .udp := Courier.addressed_udp
  refine ⟨fun looped => ?_, fun away is_open => ?_, fun away natted => ?_⟩
  · have delivered : sent = (.ok (), n.leave [.endpointEvent (.message message message.sourceSocket message.destSocket)]) := by
      have taken := Endpoint.accept_of_looped (e := n.endpoint) looped outside
      rw [← transmit_of_looped looped]
      exact send_of_accepted up carries known taken
    rw [delivered]
    exact ⟨rfl, fun _ _ taken => send_of_accepted (n := n.leave _) up carries known taken⟩
  · have refused : sent = (.error (.link (n.endpoint.refusal message fault)), n) := by
      have lost := Endpoint.accept_of_unframed (e := n.endpoint) unframed udp away outside
      have answered := send_eq up carries now outside dest parcel
      rw [Courier.send_of_declined (c := n.courierContext outside) known lost, if_pos is_open] at answered
      refine answered.trans (Prod.ext rfl ?_)
      show ({ n with courier := some courier } : Node).transmit outside message = n
      rw [← carries]
      exact transmit_of_unframed unframed udp away
    rw [refused]
    exact ⟨rfl, fun _ _ taken => send_of_accepted up carries known taken⟩
  · refine ⟨?_, ?_, fun m p cached punches going found => run_closePath punches going found⟩
    · have lost := Endpoint.accept_of_unframed (e := n.endpoint) unframed udp away outside
      have answered := send_eq up carries now outside dest parcel
      rw [Courier.send_of_declined (c := n.courierContext outside) known lost, natted] at answered
      refine answered.trans (Prod.ext rfl ?_)
      let pathless : Node := { n with courier := some (courier.withoutPath dest.key) }
      have unsent : pathless.transmit outside message = pathless := transmit_of_unframed unframed udp away
      show (pathless.transmit outside message).leave [.punch (.closePath dest.key)] = _
      rw [unsent]
      rfl
    · intro c next later
      exact Courier.send_of_pathless natted ((Table.get?_erase ..).trans (if_pos rfl)) later

/-- A network that takes every datagram. -/
def calm : Outside := ⟨fun _ socket => .bound socket.port, fun _ _ => .ok (), fun _ => .taken⟩

def calmPeer : Contact :=
  ⟨⟨.ofOctets 10 0 0 2, 5000, 20⟩, 0, .natted .endpointIndependent .portPreservation .endpointIndependent,
    [⟨.ofOctets 10 0 0 91, 3478, 91⟩]⟩

/-- An open node with frames of at most 128 bytes has called a natted one, and a pong has come from a socket. -/
def provedAt (remote : Socket) : Option Node := do
  let config : Config := { endpoint := { maxFrame := 128 } }
  let plan : NodePlan := { node := some 10, ip := some (.ofOctets 10 0 0 1), port := 4000, nat := some .unrestricted, config }
  let n ← (start plan (.counting 0) 0 calm).toOption
  let called := (n.send 0 calm calmPeer ⟨.connectionPing, .none⟩).2.settle 4 0 calm
  let pong : Message := ⟨calmPeer, n.me.address, (n.chanceOf .puncher).ticket 0, .udp, .punchPong⟩
  return (called.leave [.endpointEvent (.message pong remote n.me.address.socket)]).settle 4 0 calm

/-- A parcel for a frame of 152 bytes. -/
def longParcel : Parcel := ⟨.data (List.replicate 100 0), .none⟩

/-- Whether a node has the path, and no frame for the long parcel along it. -/
def isStuck (n : Node) (path : Path) (loops : Bool) : Bool :=
  !n.down && n.courier.any fun courier =>
    let message := courier.addressed calmPeer path longParcel
    courier.paths.get? calmPeer.key == some path && Endpoint.isLooped message == loops &&
      (Endpoint.encode n.endpoint.config message).toOption.isNone

theorem unframed_of_isStuck {loops : Bool} (stuck : n.isStuck path loops = true) : ∃ courier fault,
    n.Unframed courier calmPeer path longParcel fault ∧ Endpoint.isLooped (courier.addressed calmPeer path longParcel) = loops := by
  simp only [isStuck, Bool.and_eq_true, Bool.not_eq_true', Option.any_eq_true_iff_get, beq_iff_eq] at stuck
  obtain ⟨up, here, ⟨known, looped⟩, encoded⟩ := stuck
  cases failed : Endpoint.encode n.endpoint.config ((n.courier.get here).addressed calmPeer path longParcel) with
  | error fault => exact ⟨_, fault, ⟨up, (Option.some_get here).symm, known, failed⟩, looped⟩
  | ok frame => simp [failed, Except.toOption] at encoded

/-- The long parcel is refused, and the path along which it was to go is lost on both sides. -/
theorem send_unframed_longParcel : ∃ n courier p cached fault, provedAt calmPeer.address.socket = some n ∧
    n.Unframed courier calmPeer ⟨calmPeer.address.socket, 4000⟩ longParcel fault ∧
    n.send 0 calm calmPeer longParcel = (.error (.link (n.endpoint.refusal
      (courier.addressed calmPeer ⟨calmPeer.address.socket, 4000⟩ longParcel) fault)), n.losingPath courier calmPeer.key) ∧
    n.puncher = some p ∧ p.paths.get? calmPeer.key = some cached ∧
    n.run 0 calm (.punch (.closePath calmPeer.key)) = n.closingPath p calmPeer.key cached := by
  have proved : (provedAt calmPeer.address.socket).any (fun n => n.isStuck ⟨calmPeer.address.socket, 4000⟩ false &&
      n.puncher.any fun p => !p.halted && (p.paths.get? calmPeer.key).isSome) = true := by
    decide +kernel
  obtain ⟨n, reached, seen⟩ := (Option.any_eq_true _ _).mp proved
  obtain ⟨stuck, punches⟩ := Bool.and_eq_true_iff.mp seen
  obtain ⟨p, punches, seen⟩ := (Option.any_eq_true _ _).mp punches
  obtain ⟨going, found⟩ := Bool.and_eq_true_iff.mp seen
  obtain ⟨cached, found⟩ := Option.isSome_iff_exists.mp found
  obtain ⟨courier, fault, hopeless, away⟩ := unframed_of_isStuck stuck
  obtain ⟨refused, _, closes⟩ := (send_unframed hopeless 0 calm).2.2 away rfl
  exact ⟨n, courier, p, cached, fault, reached, hopeless, refused, punches, found,
    closes n p cached punches (by simpa using going) found⟩

/-- What goes back to its own socket is taken, and what does not costs the path. -/
theorem not_always_refused_or_kept :
    (¬ ∀ (n : Node) (courier : Courier) (dest : Contact) (path : Path) (parcel : Parcel) (fault : LinkError) (now : Nat)
        (outside : Outside), n.Unframed courier dest path parcel fault →
        ∃ error, (n.send now outside dest parcel).1 = .error error) ∧
      ¬ ∀ (n : Node) (courier : Courier) (dest : Contact) (path : Path) (parcel : Parcel) (fault : LinkError) (now : Nat)
        (outside : Outside), n.Unframed courier dest path parcel fault →
        ((n.send now outside dest parcel).2.courier.bind (·.paths.get? dest.key)) = some path := by
  constructor
  · intro always
    have proved : (provedAt (.v4 (.ofOctets 10 0 0 1) 4000)).any (fun n => n.isStuck ⟨.v4 (.ofOctets 10 0 0 1) 4000, 4000⟩ true &&
        (n.send 0 calm calmPeer longParcel).1.toOption.isSome) = true := by
      decide +kernel
    obtain ⟨n, _, seen⟩ := (Option.any_eq_true _ _).mp proved
    obtain ⟨stuck, taken⟩ := Bool.and_eq_true_iff.mp seen
    obtain ⟨courier, fault, hopeless, _⟩ := unframed_of_isStuck stuck
    obtain ⟨error, refused⟩ := always n courier _ _ _ fault 0 calm hopeless
    rw [refused] at taken
    cases taken
  · intro always
    have proved : (provedAt calmPeer.address.socket).any (fun n => n.isStuck ⟨calmPeer.address.socket, 4000⟩ false &&
        ((n.send 0 calm calmPeer longParcel).2.courier.bind (·.paths.get? calmPeer.key)).isNone) = true := by
      decide +kernel
    obtain ⟨n, _, seen⟩ := (Option.any_eq_true _ _).mp proved
    obtain ⟨stuck, gone⟩ := Bool.and_eq_true_iff.mp seen
    obtain ⟨courier, fault, hopeless, _⟩ := unframed_of_isStuck stuck
    rw [always n courier _ _ _ fault 0 calm hopeless] at gone
    cases gone

end Node

end NatTraversal
