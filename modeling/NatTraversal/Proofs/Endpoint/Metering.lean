import NatTraversal.Proofs.Endpoint.Sockets

namespace NatTraversal

namespace Endpoint

/-- The same endpoint with other counts of bytes. -/
def metered (e : Endpoint) (traffic : Traffic) : Endpoint := { e with traffic }

section

variable (e : Endpoint) (traffic : Traffic)

theorem accept_metered (outside : Outside) (message : Message) :
    (e.metered traffic).accept outside message = e.accept outside message := rfl

theorem tryBind_metered (socket : Socket) (transport : Transport) (answer : BindAnswer) :
    (e.metered traffic).tryBind socket transport answer =
      (e.tryBind socket transport answer).map fun bound => (bound.1, bound.2.metered traffic) := by
  have table (transport : Transport) : (e.metered traffic).table transport = e.table transport := by
    cases transport <;> rfl
  simp only [tryBind, table]
  split
  · rfl
  · split
    · rfl
    · split
      · rfl
      · rfl
      · split
        · cases transport <;> rfl
        · rfl

theorem allocFrom_metered (chance : Chance) (ip : Ip) (count : Nat) (transport : Transport) (systems : List (Socket → BindAnswer))
    (bound : List UInt16) :
    allocFrom chance ip count transport systems bound (e.metered traffic) =
      ((allocFrom chance ip count transport systems bound e).1,
        (allocFrom chance ip count transport systems bound e).2.metered traffic) := by
  induction systems generalizing bound e with
  | nil => rfl
  | cons system systems ih =>
    have redrawn : (e.metered traffic).redrawn = e.redrawn.metered traffic := rfl
    have held : (e.redrawn.metered traffic).isHeld = e.redrawn.isHeld := rfl
    have port : chance.port (e.metered traffic).drawn = chance.port e.drawn := rfl
    rw [allocFrom_cons, allocFrom_cons, redrawn, held, port, tryBind_metered]
    split
    · rfl
    · split
      · exact ih _ _
      · cases e.redrawn.tryBind ⟨ip, chance.port e.drawn⟩ transport (system ⟨ip, chance.port e.drawn⟩) with
        | error _ => exact ih _ _
        | ok bound => exact ih _ _

theorem alloc_metered (chance : Chance) (system : Socket → BindAnswer) (ip : Ip) (count : Nat) (transport : Transport) :
    (e.metered traffic).alloc chance system ip count transport =
      ((e.alloc chance system ip count transport).1, (e.alloc chance system ip count transport).2.metered traffic) := by
  unfold alloc allocEach
  rw [allocFrom_metered]

theorem release_metered (ports : List UInt16) (transport : Transport) :
    (e.metered traffic).release ports transport =
      ((e.release ports transport).1, (e.release ports transport).2.metered traffic) := by
  have one (closed : List UInt16) (e : Endpoint) (port : UInt16) : releaseOne transport (closed, e.metered traffic) port =
      ((releaseOne transport (closed, e) port).1, (releaseOne transport (closed, e) port).2.metered traffic) := by
    have table : (e.metered traffic).table transport = e.table transport := by
      cases transport <;> rfl
    simp only [releaseOne, table]
    split
    · cases transport <;> rfl
    · rfl
  have all (closing closed : List UInt16) (e : Endpoint) : closing.foldl (releaseOne transport) (closed, e.metered traffic) =
      ((closing.foldl (releaseOne transport) (closed, e)).1, (closing.foldl (releaseOne transport) (closed, e)).2.metered traffic) := by
    induction closing generalizing closed e with
    | nil => rfl
    | cons port closing ih => rw [List.foldl_cons, List.foldl_cons, one, ih]
  rw [release_eq, release_eq, all]

end

/-- A datagram is refused, or it stays at home, or it leaves as a frame that is read back as the same message. The counts
of bytes have no part in it. -/
theorem send_cases {outside : Outside} (carries : ∀ frame dest, outside.carry frame dest = .ok ()) {message : Message}
    (datagram : message.transport = .udp) (e : Endpoint) :
    (∃ error, e.accept outside message = .error error ∧
        ∀ traffic, (e.metered traffic).send outside message = ([], e.metered traffic)) ∨
      e.accept outside message = .ok () ∧ ∃ effects,
        (∀ traffic, ∃ more, (e.metered traffic).send outside message = (effects, e.metered more)) ∧
        ((∃ event, effects = [.report event]) ∨ ∃ frame, Message.decode frame .udp = .ok message ∧
          effects = [.transmit message.sourceSocket message.destSocket frame]) := by
  have same (traffic : Traffic) : (e.metered traffic).datagram message = e.datagram message := rfl
  by_cases looped : isLooped message = true
  · let event : EndpointEvent := .message message message.sourceSocket message.destSocket
    refine .inr ⟨by rw [accept, if_pos looped], [.report event], fun traffic => ⟨traffic, ?_⟩, .inl ⟨event, rfl⟩⟩
    rw [send, if_pos looped]
  · simp only [accept, send, if_neg looped, datagram, same]
    cases leaves : e.datagram message with
    | error error => exact .inl ⟨error, rfl, fun _ => rfl⟩
    | ok frame =>
      obtain ⟨_, encoded⟩ := datagram_eq_ok leaves
      have decoded := Message.decode_eq_ok_iff.mpr ⟨datagram, frame, encoded, SameBut.refl _ _⟩
      simp only [carries]
      exact .inr ⟨rfl, _, fun traffic => ⟨_, rfl⟩, .inr ⟨frame, decoded, rfl⟩⟩

end Endpoint

end NatTraversal
