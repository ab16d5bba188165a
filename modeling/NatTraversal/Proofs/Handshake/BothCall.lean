import NatTraversal.Proofs.Handshake.Pending
import NatTraversal.Proofs.Network.Rehearsal

namespace NatTraversal

namespace World

def called (w : World) (side : Side) : Prop := w.calls side = []

/-- The port that a node calls from. Once it is released, both have called and the path from it has been closed. -/
structure Punches (c : Crossing) (side : Side) (w : World) : Prop where
  mapping : c.port side ≠ c.mainPort side → (c.contact side.other).nat.mapping ≠ .endpointIndependent
  hub : c.socket side (c.port side) ≠ c.hub
  apart : ¬ w.held side.other (c.socket side (c.port side))
  released : ¬ w.held side (c.socket side (c.port side)) → w.called side.other ∧
    ∃ path, .pathClosed (c.key side.other) path ∈ (w.peer side).log ∧ path.localPort = c.port side

/-- Two nodes that call each other, and what is under way. -/
structure Crosses (c : Crossing) (horizon : Nat) (signals : List Signal) (w : World) : Prop where
  stands : w.Stands c.toParties
  lists : ∀ side, w.Lists c.toParties horizon side
  calls : ∀ side, w.called side ∨ w.calls side = [c.contact side.other] ∧ c.port side = c.mainPort side
  punches : ∀ side, w.Punches c side
  sound : ∀ signal ∈ signals, c.Sound w.called signal
  goes : ∀ side, c.Goes side (w.view side) (w.held side) (w.held side.other) (w.called side) signals

/-- Something has arrived, and what is still under way has been joined by what was sent. -/
def GoesOn (c : Crossing) (horizon : Nat) (rest : List Signal) (w : World) : Prop :=
  ∃ sent, w.Crosses c horizon (rest ++ sent) ∧ w.Flies c.toParties (rest ++ sent)

variable {c : Crossing} {horizon now clock : Nat} {side : Side} {signal : Signal} {signals rest sent : List Signal} {w opened : World}
  {packet : Packet} {socket source dest : Socket} {hs : Handshake}

theorem Punches.of_same {later : World} (punches : w.Punches c side) (peer : later.peer = w.peer) (calls : later.calls = w.calls) :
    later.Punches c side := by
  obtain ⟨mapping, hub, apart, released⟩ := punches
  unfold held called holds at *
  rw [← peer] at apart released
  rw [← calls] at released
  exact ⟨mapping, hub, apart, released⟩

/-- A socket where a node is to be found is bound by it or, if it has been released, by nobody. -/
theorem Crosses.finds (crosses : w.Crosses c horizon signals) (near : c.Near side socket) : w.held side socket ∨
    socket = c.socket side (c.port side) ∧ (∀ one, w.holds one socket = false) ∧ socket ≠ c.hub := by
  rcases near with rfl | rfl
  · exact .inl (crosses.stands.main side)
  · by_cases own : w.held side (c.socket side (c.port side))
    · exact .inl own
    · refine .inr ⟨rfl, ?_, (crosses.punches side).hub⟩
      intro one
      rcases side.eq_or_eq_other one with rfl | rfl
      · exact Bool.not_eq_true _ ▸ own
      · exact Bool.not_eq_true _ ▸ (crosses.punches side).apart

theorem Crosses.opens (crosses : w.Crosses c horizon signals) (opens : w.Opens c.toParties signals packet signal rest opened) :
    opened.Crosses c horizon (signal :: rest) := by
  obtain ⟨_, perm, _, stands, peer, server, calls⟩ := opens
  have same : opened = { w with flight := opened.flight, serverRoster := opened.serverRoster, serverChance := opened.serverChance } := by
    cases opened
    cases peer
    cases server
    cases calls
    rfl
  rw [same] at stands ⊢
  refine ⟨stands, crosses.lists, crosses.calls, fun side => (crosses.punches side).of_same rfl rfl,
    fun other member => crosses.sound other (perm.mem_iff.mpr member), ?_⟩
  intro side
  refine (crosses.goes side).mono (fun _ held => held) ?_
  intro _ _ _ other member serves
  exact .inl ⟨other, perm.mem_iff.mp member, serves⟩

theorem keeps_of_not_serves (idle : ¬ c.Serves side hs signal) : ∀ other ∈ signal :: rest, c.Serves side hs other →
    other ∈ rest ++ sent := by
  intro other member serves
  rcases List.mem_cons.mp member with rfl | later
  · exact absurd serves idle
  · exact List.mem_append_left _ later

theorem Crosses.passes {forwarding : List (UInt32 × UInt32)} {packets : List Packet}
    (crosses : w.Crosses c horizon (signal :: rest)) (sound : ∀ signal ∈ sent, c.Sound w.called signal)
    (idle : ∀ side hs, (w.view side).handshake (c.key side.other) = some hs →
      c.Pends side (w.held side) (w.held side.other) (w.called side) (signal :: rest) hs → c.Serves side hs signal →
      c.Strands side hs (w.held side.other)) :
    (w.relaying forwarding packets).Crosses c horizon (rest ++ sent) := by
  refine ⟨crosses.stands.relaying forwarding packets, crosses.lists, crosses.calls,
    fun side => (crosses.punches side).of_same rfl rfl, ?_, ?_⟩
  · intro other member
    rcases List.mem_append.mp member with old | new
    · exact crosses.sound other (List.mem_cons_of_mem _ old)
    · exact sound other new
  · intro side
    refine (crosses.goes side).mono (fun _ held => held) ?_
    intro hs found pends other member serves
    rcases List.mem_cons.mp member with rfl | later
    · exact .inr (idle side hs found pends serves)
    · exact .inl ⟨other, List.mem_append_left _ later, serves⟩

/-- A node takes in what has arrived, and may release the port that it has called from. -/
theorem Crosses.take {view : PunchView} {own : Socket → Prop} {events : List PunchEvent} {result : Peer × List Packet}
    (crosses : w.Crosses c horizon (signal :: rest))
    (outcome : Peer.Outcome c.toParties side (w.peer side) view own events sent result)
    (less : ∀ socket, own socket → w.held side socket) (main : own (c.main side))
    (released : ¬ own (c.socket side (c.port side)) → w.held side (c.socket side (c.port side)) → w.called side.other ∧
      ∃ path, .pathClosed (c.key side.other) path ∈ events ∧ path.localPort = c.port side)
    (sound : ∀ signal ∈ sent, c.Sound w.called signal)
    (goes : c.Goes side view own (w.held side.other) (w.called side) (rest ++ sent))
    (answers : ∀ hs, w.held side.other (c.socket side.other hs.punchPort) → c.Serves side.other hs signal →
      ∃ signal ∈ sent, c.Serves side.other hs signal) :
    (w.take side result).Crosses c horizon (rest ++ sent) := by
  refine ⟨crosses.stands.take_of_le outcome main less, crosses.lists, crosses.calls, ?_, ?_, ?_⟩
  · intro one
    obtain ⟨mapping, hub, apart, before⟩ := crosses.punches one
    rcases side.eq_or_eq_other one with rfl | rfl
    · refine ⟨mapping, hub, ?_, ?_⟩
      · rw [take_held_other]
        exact apart
      · rw [take_held outcome, take_log outcome]
        intro unheld
        by_cases held : w.held one (c.socket one (c.port one))
        · obtain ⟨called, path, told, port⟩ := released unheld held
          exact ⟨called, path, List.mem_append_right _ told, port⟩
        · obtain ⟨called, path, told, port⟩ := before held
          exact ⟨called, path, List.mem_append_left _ told, port⟩
    · refine ⟨mapping, hub, ?_, ?_⟩
      · rw [Side.other_other] at apart ⊢
        rw [take_held outcome]
        exact fun mine => apart (less _ mine)
      · rw [take_held_other, take_peer_other]
        exact before
  · intro one member
    rcases List.mem_append.mp member with old | new
    · exact crosses.sound one (List.mem_cons_of_mem _ old)
    · exact sound one new
  · intro one
    rcases side.eq_or_eq_other one with rfl | rfl
    · rw [take_view outcome, take_held outcome, take_held_other]
      exact goes
    · have still := crosses.goes side.other
      rw [Side.other_other] at still ⊢
      rw [take_view_other, take_held_other, take_held outcome]
      refine still.mono less ?_
      intro hs _ pends signal member serves
      rcases List.mem_cons.mp member with rfl | later
      · obtain ⟨answer, member, serves⟩ := answers hs pends.held serves
        exact .inl ⟨answer, List.mem_append_right _ member, serves⟩
      · exact .inl ⟨signal, List.mem_append_left _ later, serves⟩

theorem relaying_self (w : World) : w.relaying w.server.sessions.forwarding [] = w := by
  simp [World.relaying]

/-- What is for a socket that nobody holds is lost. A handshake that it serves is stranded. -/
theorem Crosses.loses (crosses : w.Crosses c horizon (signal :: rest)) (flies : w.Flies c.toParties rest)
    (nobody : ∀ one, w.holds one packet.dest = false) (elsewhere : packet.dest ≠ c.hub)
    (idle : ∀ side hs, c.Pends side (w.held side) (w.held side.other) (w.called side) (signal :: rest) hs → c.Serves side hs signal →
      c.Strands side hs (w.held side.other)) : (w.deliver now clock packet).GoesOn c horizon rest := by
  have passes : (w.relaying w.server.sessions.forwarding []).Crosses c horizon (rest ++ []) :=
    crosses.passes (by simp) fun side hs _ => idle side hs
  rw [relaying_self] at passes
  rw [deliver_to_nobody crosses.stands nobody elsewhere]
  refine ⟨[], passes, ?_⟩
  rw [List.append_nil]
  exact flies

/-- A node takes in a packet and releases nothing. -/
theorem Crosses.keeps {view : PunchView} {events : List PunchEvent} (crosses : w.Crosses c horizon (signal :: rest))
    (flies : w.Flies c.toParties rest) (here : w.held side packet.dest)
    (outcome : Peer.Outcome c.toParties side (w.peer side) view (w.held side) events sent
      ((w.peer side).handle now (.inbound packet.message packet.source packet.dest)))
    (sound : ∀ signal ∈ sent, c.Sound w.called signal)
    (goes : c.Goes side view (w.held side) (w.held side.other) (w.called side) (rest ++ sent))
    (answers : ∀ hs, w.held side.other (c.socket side.other hs.punchPort) → c.Serves side.other hs signal →
      ∃ signal ∈ sent, c.Serves side.other hs signal) : (w.deliver now clock packet).GoesOn c horizon rest := by
  rw [deliver_to_holder crosses.stands here]
  exact ⟨sent, crosses.take outcome (fun _ held => held) (crosses.stands.main side) (fun unheld held => absurd held unheld) sound goes
    answers, flies.take outcome⟩

section

variable {port : UInt16} {id : Ticket}

theorem Crosses.sound_pong (crosses : w.Crosses c horizon (.ping side.other port dest id :: rest)) :
    c.Sound w.called (.pong dest (c.socket side.other port) id) := by
  obtain ⟨leaves, aims, draws⟩ := crosses.sound _ List.mem_cons_self
  exact ⟨side.other, aims, leaves, draws⟩

theorem Crosses.on_ping_of_none (now clock : Nat) (crosses : w.Crosses c horizon (.ping side.other port dest id :: rest))
    (flies : w.Flies c.toParties rest) (carries : c.Carries packet (.ping side.other port dest id)) {q : UInt16}
    (here : dest = c.socket side q) (held : w.held side dest) (idle : (w.view side).handshake (c.key side.other) = none) :
    (w.deliver now clock packet).GoesOn c horizon rest := by
  have outcome := Peer.on_ping_of_none now (crosses.stands.plays side) carries here held idle
  refine crosses.keeps flies (carries.2.1 ▸ held) outcome ?_ ?_ ?_
  · intro signal member
    rw [List.mem_singleton.mp member]
    exact crosses.sound_pong
  · refine (crosses.goes side).mono (fun _ held => held) ?_
    intro hs known
    rw [idle] at known
    cases known
  · exact fun hs _ serves => ⟨_, List.mem_singleton_self _, serves.answered⟩

/-- A handshake that is pinged turns to where the ping has come from. -/
theorem Crosses.on_ping_of_handshake (now clock : Nat) (crosses : w.Crosses c horizon (.ping side.other port dest id :: rest))
    (flies : w.Flies c.toParties rest) (carries : c.Carries packet (.ping side.other port dest id)) {q : UInt16}
    (here : dest = c.socket side q) (held : w.held side dest) (found : (w.view side).handshake (c.key side.other) = some hs) :
    (w.deliver now clock packet).GoesOn c horizon rest := by
  have plays := crosses.stands.plays side
  have goes := crosses.goes side
  obtain ⟨leaves, _, _⟩ := crosses.sound _ List.mem_cons_self
  obtain ⟨_, _, pends⟩ := goes.pending hs found
  have stray : ¬ c.Serves side hs (.ping side.other port dest id) := by
    intro serves
    exact side.other_ne serves.of_ping.1
  by_cases same : hs.remote = c.socket side.other port
  · have outcome := Peer.on_ping_of_same now plays carries here held found same
    refine crosses.keeps flies (carries.2.1 ▸ held) outcome ?_ ?_ ?_
    · intro signal member
      rw [List.mem_singleton.mp member]
      exact crosses.sound_pong
    · refine goes.shaken found rfl (.staged ?_ .holeOpen)
      refine pends.mono (fun _ held => held) ?_
      exact fun signal member serves => .inl ⟨signal, keeps_of_not_serves stray signal member serves, serves⟩
    · exact fun hs _ serves => ⟨_, List.mem_singleton_self _, serves.answered⟩
  · let moved : Handshake := { hs with stage := .holeOpen, remote := c.socket side.other port }
    have outcome := Peer.on_ping_of_moved now plays carries here held found pends.shakes pends.held same rfl
    have sent : .ping side hs.punchPort (c.socket side.other port) hs.pingId ∈
        rest ++ .pong dest (c.socket side.other port) id :: Parties.attempt side moved :=
      List.mem_append_right _ (List.mem_cons_of_mem _ (Parties.mem_attempt side moved))
    have turned := pends.turned (pends.shakes.moved .holeOpen port) leaves rfl (keeps_of_not_serves stray) sent
    refine crosses.keeps flies (carries.2.1 ▸ held) outcome ?_ (goes.shaken found rfl turned.attempted) ?_
    · intro signal member
      rcases List.mem_cons.mp member with rfl | attempt
      · exact crosses.sound_pong
      · exact turned.sound_attempt signal attempt
    · exact fun hs _ serves => ⟨_, List.mem_cons_self, serves.answered⟩

theorem Crosses.on_ping (now clock : Nat) (crosses : w.Crosses c horizon (.ping side.other port dest id :: rest))
    (flies : w.Flies c.toParties rest) (carries : c.Carries packet (.ping side.other port dest id)) :
    (w.deliver now clock packet).GoesOn c horizon rest := by
  obtain ⟨_, aims, _⟩ := crosses.sound _ List.mem_cons_self
  rw [Side.other_other] at aims
  have target : packet.dest = dest := carries.2.1
  rcases crosses.finds aims with held | ⟨_, nobody, elsewhere⟩
  · obtain ⟨q, here⟩ : ∃ q, dest = c.socket side q := by
      rcases aims with main | called
      · exact ⟨_, main⟩
      · exact ⟨_, called⟩
    cases found : (w.view side).handshake (c.key side.other) with
    | none => exact crosses.on_ping_of_none now clock flies carries here held found
    | some hs => exact crosses.on_ping_of_handshake now clock flies carries here held found
  · refine crosses.loses flies (target ▸ nobody) (target ▸ elsewhere) ?_
    intro one hs pends serves
    obtain ⟨rfl, _, _, toMain | ⟨responder, remote, aimed⟩⟩ := serves.of_ping
    · rw [Side.other_other] at toMain
      have main := crosses.stands.main side
      rw [← toMain, nobody] at main
      cases main
    · refine ⟨responder, remote.trans aimed, ?_⟩
      rw [← aimed, held, nobody]
      simp

end

theorem Crosses.on_pong {id : Ticket} (now clock : Nat) (crosses : w.Crosses c horizon (.pong source dest id :: rest))
    (flies : w.Flies c.toParties rest) (carries : c.Carries packet (.pong source dest id)) :
    (w.deliver now clock packet).GoesOn c horizon rest := by
  obtain ⟨side, near, aims, draws⟩ := crosses.sound _ List.mem_cons_self
  have target : packet.dest = dest := carries.2.1
  rcases crosses.finds aims with held | ⟨released, nobody, elsewhere⟩
  · have plays := crosses.stands.plays side
    have goes := crosses.goes side
    -- It is not for the other node, which does not hold the socket.
    have foreign : ∀ hs, w.held side.other (c.socket side.other hs.punchPort) → ¬ c.Serves side.other hs (.pong source dest id) := by
      intro hs theirs serves
      have apart := crosses.stands.apart side dest held
      rw [serves.of_pong.1, theirs] at apart
      cases apart
    rcases goes.fresh.owned id draws with unowned | ⟨owned, hs, found, rfl⟩
    · have outcome := Peer.on_pong_of_none now plays carries unowned (goes.fresh.unprobed id draws)
      refine crosses.keeps flies (target ▸ held) outcome (by simp) ?_ ?_
      · refine goes.mono (fun _ held => held) ?_
        intro hs found _ signal member serves
        obtain ⟨_, owned, _⟩ := goes.pending hs found
        have stray : ¬ c.Serves side hs (.pong source dest id) := by
          intro serves
          rw [← serves.of_pong.2, unowned] at owned
          cases owned
        exact .inl ⟨signal, keeps_of_not_serves stray signal member serves, serves⟩
      · exact fun hs theirs serves => absurd serves (foreign hs theirs)
    · obtain ⟨apart, _, pends⟩ := goes.pending hs found
      have outcome := Peer.on_pong_of_owner now plays carries owned found pends.shakes apart (crosses.stands.main side)
      refine crosses.keeps flies (target ▸ held) outcome ?_ (goes.verified found near) ?_
      · intro signal member
        rw [List.mem_singleton.mp member]
        trivial
      · exact fun hs theirs serves => absurd serves (foreign hs theirs)
  · refine crosses.loses flies (target ▸ nobody) (target ▸ elsewhere) ?_
    intro one hs pends serves
    have held := pends.held
    rw [← serves.of_pong.1, World.held, nobody] at held
    cases held

/-- A request that is passed on while the node that it reaches shakes hands turns the handshake to where it has come from. -/
theorem Crosses.on_forward_of_handshake (now clock : Nat)
    (crosses : w.Crosses c horizon (.forward side.other (c.port side.other) :: rest)) (flies : w.Flies c.toParties rest)
    (carries : c.Carries packet (.forward side.other (c.port side.other))) (held : w.held side packet.dest)
    (found : (w.view side).handshake (c.key side.other) = some hs) : (w.deliver now clock packet).GoesOn c horizon rest := by
  have plays := crosses.stands.plays side
  have goes := crosses.goes side
  obtain ⟨_, _, pends⟩ := goes.pending hs found
  let moved : Handshake := { hs with
    remote := c.socket side.other (c.port side.other), parent := hs.parent.or (some c.relay.address) }
  have outcome := Peer.on_forward_of_handshake now plays carries found pends.shakes pends.held rfl
  have stray : ¬ c.Serves side hs (.forward side.other (c.port side.other)) := by
    intro serves
    cases serves
  have sent : .ping side hs.punchPort (c.socket side.other (c.port side.other)) hs.pingId ∈ rest ++ Parties.attempt side moved :=
    List.mem_append_right _ (Parties.mem_attempt side moved)
  have turned := pends.turned (pends.shakes.redirected c.relay.address (c.port side.other)) (.socket c side.other) rfl
    (keeps_of_not_serves stray) sent
  refine crosses.keeps flies held outcome turned.sound_attempt (goes.shaken found rfl turned.attempted) ?_
  intro hs _ serves
  cases serves

/-- A request that is passed on late closes the path of the node that it reaches. -/
theorem Crosses.on_forward_of_none (now clock : Nat)
    (crosses : w.Crosses c horizon (.forward side.other (c.port side.other) :: rest)) (flies : w.Flies c.toParties rest)
    (carries : c.Carries packet (.forward side.other (c.port side.other))) (held : w.held side packet.dest)
    (called : w.called side.other) (idle : (w.view side).handshake (c.key side.other) = none) :
    (w.deliver now clock packet).GoesOn c horizon rest := by
  have plays := crosses.stands.plays side
  have goes := crosses.goes side
  have main := crosses.stands.main side
  have own : ∀ cached, (w.view side).path (c.key side.other) = some cached → c.mainPort side ∉ cached.allocated := by
    intro cached known
    rcases (goes.settled cached known).own with none | ⟨one, port, elsewhere⟩
    · simp [none]
    · rw [one, port, List.mem_singleton]
      exact elsewhere.symm
  have outcome := Peer.on_forward_of_none now plays carries idle rfl main own rfl
  have draws : c.Draws side (Peer.responding c.toParties side (w.peer side) now (c.port side.other)).pingId := by
    have next := goes.fresh.next
    rwa [← plays.chance] at next
  let left : Socket → Prop := fun socket => (w.peer side).holds socket = true ∧ ∀ cached,
    (w.view side).path (c.key side.other) = some cached → socket.port ∉ cached.allocated
  have pends : c.Pends side left (w.held side.other) (w.called side) (rest ++ Parties.attempt side _) _ :=
    .of_responding rfl draws ⟨main, own⟩
  rw [deliver_to_holder crosses.stands held]
  refine ⟨_, crosses.take outcome (fun _ held => held.1) ⟨main, own⟩ ?_ pends.sound_attempt
    (.begins goes.fresh idle pends.attempted) ?_, flies.take outcome⟩
  · intro unheld held
    simp only [not_and, not_forall, not_not] at unheld
    obtain ⟨cached, known, member⟩ := unheld held
    refine ⟨called, cached.path, ?_, ?_⟩
    · rw [show (w.peer side).puncher.view.path (c.key side.other) = some cached from known]
      exact List.mem_singleton_self _
    · rcases (goes.settled cached known).own with none | ⟨_, port, _⟩
      · rw [none] at member
        cases member
      · exact port
  · intro hs _ serves
    cases serves

theorem Crosses.on_forward {port : UInt16} (now clock : Nat) (crosses : w.Crosses c horizon (.forward side.other port :: rest))
    (flies : w.Flies c.toParties rest) (carries : c.Carries packet (.forward side.other port)) :
    (w.deliver now clock packet).GoesOn c horizon rest := by
  obtain ⟨rfl, called⟩ := crosses.sound _ List.mem_cons_self
  have target : packet.dest = c.main side := by rw [carries.1, Side.other_other]
  have held : w.held side packet.dest := target ▸ crosses.stands.main side
  cases found : (w.view side).handshake (c.key side.other) with
  | none => exact crosses.on_forward_of_none now clock flies carries held called found
  | some hs => exact crosses.on_forward_of_handshake now clock flies carries held found

theorem Crosses.on_answer (now clock : Nat) (crosses : w.Crosses c horizon (.answer dest :: rest)) (flies : w.Flies c.toParties rest)
    (carries : c.Carries packet (.answer dest)) : (w.deliver now clock packet).GoesOn c horizon rest := by
  obtain ⟨side, rfl, _⟩ := crosses.sound _ List.mem_cons_self
  have stray : ∀ one hs, ¬ c.Serves one hs (.answer (c.socket side (c.port side))) := by
    intro one hs serves
    cases serves
  rcases crosses.finds (.socket c side) with held | ⟨_, nobody, elsewhere⟩
  · have outcome := Peer.on_answer now (crosses.stands.plays side) carries
    refine crosses.keeps flies (carries.1 ▸ held) outcome (by simp) ?_ ?_
    · refine (crosses.goes side).mono (fun _ held => held) ?_
      intro hs _ _ signal member serves
      exact .inl ⟨signal, keeps_of_not_serves (stray side hs) signal member serves, serves⟩
    · exact fun hs _ serves => absurd serves (stray side.other hs)
  · exact crosses.loses flies (carries.1 ▸ nobody) (carries.1 ▸ elsewhere) fun one hs _ serves => absurd serves (stray one hs)

theorem Crosses.on_request {port : UInt16} (now : Nat) (crosses : w.Crosses c horizon (.request side port :: rest))
    (flies : w.Flies c.toParties rest) (carries : c.Carries packet (.request side port)) (early : clock ≤ horizon) :
    (w.deliver now clock packet).GoesOn c horizon rest := by
  obtain ⟨rfl, called⟩ := crosses.sound _ List.mem_cons_self
  obtain ⟨forwarding, packets, served, carried⟩ := serve_request now crosses.stands (crosses.lists side.other) early carries
  have delivers : w.deliver now clock packet = w.relaying forwarding packets :=
    (deliver_to_hub crosses.stands carries.2.1).trans served
  rw [delivers]
  refine ⟨_, crosses.passes ?_ ?_, flies.relaying forwarding carried⟩
  · intro signal member
    simp only [List.mem_cons, List.not_mem_nil, or_false] at member
    rcases member with rfl | rfl
    · exact ⟨rfl, called⟩
    · exact ⟨side, rfl, called⟩
  · intro one hs _ _ serves
    cases serves

theorem Crosses.on_delete (now clock : Nat) (crosses : w.Crosses c horizon (.delete side :: rest)) (flies : w.Flies c.toParties rest)
    (carries : c.Carries packet (.delete side)) : (w.deliver now clock packet).GoesOn c horizon rest := by
  obtain ⟨forwarding, served, _⟩ := serve_delete w now clock carries
  have delivers : w.deliver now clock packet = w.relaying forwarding [] := (deliver_to_hub crosses.stands carries.1).trans served
  rw [delivers]
  refine ⟨[], crosses.passes (by simp) ?_, flies.relaying forwarding .nil⟩
  intro one hs _ _ serves
  cases serves

theorem Crosses.delivers (now : Nat) (crosses : w.Crosses c horizon (signal :: rest)) (flies : w.Flies c.toParties rest)
    (carries : c.Carries packet signal) (early : clock ≤ horizon) : (w.deliver now clock packet).GoesOn c horizon rest := by
  cases signal with
  | request side port => exact crosses.on_request now flies carries early
  | forward side port =>
    rw [← side.other_other] at crosses carries
    exact crosses.on_forward now clock flies carries
  | answer dest => exact crosses.on_answer now clock flies carries
  | ping side port dest id =>
    rw [← side.other_other] at crosses carries
    exact crosses.on_ping now clock flies carries
  | pong source dest id => exact crosses.on_pong now clock flies carries
  | delete side => exact crosses.on_delete now clock flies carries

section

variable {port : UInt16} {later : World}

/-- Whether a node may call from a port. -/
def Free (c : Crossing) (side : Side) (port : UInt16) (w : World) : Prop :=
  port = c.mainPort side ∨ (c.contact side.other).nat.mapping ≠ .endpointIndependent ∧
    (∀ one, w.holds one (c.socket side port) = false) ∧ c.socket side port ≠ c.hub

theorem Crosses.not_held_of_free (crosses : w.Crosses c horizon signals) (free : w.Free c side port) :
    ¬ w.held side.other (c.socket side port) := by
  rw [held, Bool.not_eq_true]
  rcases free with rfl | ⟨_, nobody, _⟩
  · exact crosses.stands.apart side _ (crosses.stands.main side)
  · exact nobody side.other

theorem Crosses.punches_self (crosses : w.Crosses c horizon signals) (free : w.Free c side port)
    (own : ∀ socket, later.held side socket ↔ w.held side socket ∨ socket = c.socket side port)
    (theirs : later.held side.other = w.held side.other) : later.Punches (c.punching side port) side := by
  refine ⟨?_, ?_, ?_, ?_⟩
  · rw [Crossing.punching_self]
    exact fun elsewhere => (free.resolve_left elsewhere).1
  · rw [Crossing.punching_self]
    rcases free with rfl | ⟨_, _, elsewhere⟩
    · exact crosses.stands.ne_hub (crosses.stands.main side)
    · exact elsewhere
  · rw [Crossing.punching_self, theirs]
    exact crosses.not_held_of_free free
  · rw [Crossing.punching_self]
    exact fun unheld => absurd ((own _).mpr (.inr rfl)) unheld

theorem Crosses.punches_other (crosses : w.Crosses c horizon signals) (uncalled : ¬ w.called side) (free : w.Free c side port)
    (own : ∀ socket, later.held side socket ↔ w.held side socket ∨ socket = c.socket side port)
    (theirs : later.held side.other = w.held side.other) : later.Punches (c.punching side port) side.other := by
  obtain ⟨mapping, hub, apart, released⟩ := crosses.punches side.other
  rw [Side.other_other] at apart released
  have bound : w.held side.other (c.socket side.other (c.port side.other)) := by
    by_contra unheld
    exact uncalled (released unheld).1
  refine ⟨?_, ?_, ?_, ?_⟩
  · rw [Crossing.punching_other]
    exact mapping
  · rw [Crossing.punching_other]
    exact hub
  · rw [Crossing.punching_other, Side.other_other, own]
    intro met
    rcases met with mine | same
    · exact apart mine
    · have alike : c.socket side.other (c.port side.other) = c.socket side port := same
      rw [alike] at bound
      exact crosses.not_held_of_free free bound
  · rw [Crossing.punching_other, theirs]
    exact fun unheld => absurd bound unheld

/-- A node has called from a port: its main port, or one that it has been given for it. -/
theorem Crosses.calls_from {view : PunchView} {own : Socket → Prop} {events : List PunchEvent} {result : Peer × List Packet}
    (crosses : w.Crosses c horizon signals) (uncalled : w.calls side = [c.contact side.other]) (main : c.port side = c.mainPort side)
    (outcome : Peer.Outcome c.toParties side ((w.telling side []).peer side) view own events sent result)
    (same : later = (w.telling side []).take side result) (stands : later.Stands c.toParties)
    (more : ∀ socket, own socket ↔ w.held side socket ∨ socket = c.socket side port) (free : w.Free c side port)
    (sound : ∀ signal ∈ sent, (c.punching side port).Sound later.called signal)
    (goes : (c.punching side port).Goes side view own (w.held side.other) (later.called side) (signals ++ sent)) :
    later.Crosses (c.punching side port) horizon (signals ++ sent) := by
  subst same
  have before : ¬ w.called side := by
    rw [called, uncalled]
    simp
  have theirs : ((w.telling side []).take side result).held side.other = w.held side.other := take_held_other ..
  have ours : ∀ socket, ((w.telling side []).take side result).held side socket ↔ w.held side socket ∨ socket = c.socket side port := by
    rw [take_held outcome]
    exact more
  have calledNow : ((w.telling side []).take side result).called side := Function.update_self ..
  have otherCalls : ((w.telling side []).take side result).calls side.other = w.calls side.other := Function.update_of_ne side.other_ne ..
  refine ⟨stands, crosses.lists, ?_, ?_, ?_, ?_⟩
  · intro one
    rcases side.eq_or_eq_other one with rfl | rfl
    · exact .inl calledNow
    · rw [called, otherCalls, Crossing.punching_other]
      exact crosses.calls side.other
  · intro one
    rcases side.eq_or_eq_other one with rfl | rfl
    · exact crosses.punches_self free ours theirs
    · exact crosses.punches_other before free ours theirs
  · intro signal member
    rcases List.mem_append.mp member with old | new
    · refine (crosses.sound signal old).punching main before ?_
      intro one calledBefore
      rcases side.eq_or_eq_other one with rfl | rfl
      · exact calledNow
      · rwa [called, otherCalls]
    · exact sound signal new
  · intro one
    rcases side.eq_or_eq_other one with rfl | rfl
    · rw [take_view outcome, take_held outcome, theirs]
      exact goes
    · have homed : w.held side (c.main side) := crosses.stands.main side
      have turned : (c.punching side.other.other port).Goes side.other (w.view side.other) (w.held side.other) own
          (w.called side.other) (signals ++ sent) :=
        (crosses.goes side.other).punching (by rw [Side.other_other, main]) (by rw [Side.other_other]; exact homed)
          (List.subset_append_left ..)
      rw [Side.other_other] at turned
      rw [take_view_other, theirs, Side.other_other, take_held outcome, called, otherCalls]
      exact turned

/-- A node has called, from a port that is now settled, and what was under way has been joined by what it sent. -/
def Calls (c : Crossing) (horizon : Nat) (signals : List Signal) (w : World) : Prop :=
  ∃ d sent, d.toParties = c.toParties ∧ w.Crosses d horizon (signals ++ sent) ∧ w.Flies c.toParties (signals ++ sent)

/-- A node that already has a handshake or a path is told to call, and need not. -/
theorem Crosses.on_call_of_known {system : Socket → BindAnswer} (crosses : w.Crosses c horizon signals)
    (flies : w.Flies c.toParties signals) (uncalled : w.calls side = [c.contact side.other]) (main : c.port side = c.mainPort side)
    (known : (w.view side).handshake (c.key side.other) ≠ none ∨ (w.view side).path (c.key side.other) ≠ none)
    (step : w.step? now clock (.call side system) = some later) : later.Calls c horizon signals := by
  have homed : w.held side (c.main side) := crosses.stands.main side
  obtain ⟨events, outcome⟩ := Peer.on_connect_of_known now system (crosses.stands.plays side) known
  simp only [step?, uncalled, Option.some.injEq] at step
  subst step
  have stands := (crosses.stands.telling side []).take_of_le outcome homed fun _ held => held
  have more : ∀ socket, w.held side socket ↔ w.held side socket ∨ socket = c.socket side (c.mainPort side) := by
    intro socket
    refine ⟨.inl, fun either => either.elim id ?_⟩
    rintro rfl
    exact homed
  have begun : (w.telling side []).called side := Function.update_self ..
  have still : (c.punching side (c.mainPort side)).Goes side (w.view side) (w.held side) (w.held side.other) ((w.telling side []).called side)
      (signals ++ []) := by
    rw [Crossing.punching_main main, List.append_nil]
    exact (crosses.goes side).of_known begun known
  have pending : (w.telling side []).Flies c.toParties signals := flies
  exact ⟨c.punching side (c.mainPort side), [], rfl,
    crosses.calls_from uncalled main outcome rfl stands more (.inl rfl) (by simp) still, pending.take outcome⟩

theorem Crosses.on_call_of_none {system : Socket → BindAnswer} (crosses : w.Crosses c horizon signals)
    (flies : w.Flies c.toParties signals) (uncalled : w.calls side = [c.contact side.other]) (main : c.port side = c.mainPort side)
    (idle : (w.view side).handshake (c.key side.other) = none) (apart : (w.view side).path (c.key side.other) = none)
    (honest : w.Honest (.call side system)) (step : w.step? now clock (.call side system) = some later) :
    later.Calls c horizon signals := by
  have plays := crosses.stands.plays side
  have goes := crosses.goes side
  have homed : w.held side (c.main side) := crosses.stands.main side
  have allowed := Peer.may_connect now plays (by rw [c.parents]; simp) (.inr (c.has_parent side))
  obtain ⟨port, allocated, hs, result, same, given, outcome, rfl, stands⟩ := step?_call crosses.stands (c.natted side.other)
    (c.parents side.other) idle apart allowed uncalled honest step
  have free : w.Free c side port := given.imp And.right And.right
  let own : Socket → Prop := fun socket => w.held side socket ∨ ∃ port ∈ allocated, socket = c.socket side port
  have more : ∀ socket, own socket ↔ w.held side socket ∨ socket = c.socket side port := by
    intro socket
    show (_ ∨ _) ↔ _
    rcases given with ⟨rfl, rfl⟩ | ⟨rfl, _⟩
    · simp only [List.not_mem_nil, false_and, exists_false, or_false]
      exact ⟨.inl, fun either => either.elim id fun home => home ▸ homed⟩
    · simp only [List.mem_singleton, exists_eq_left]
  have apartFromMain : allocated = [] ∧ port = c.mainPort side ∨ allocated = [port] ∧ port ≠ c.mainPort side := by
    rcases given with none | ⟨one, _, nobody, _⟩
    · exact .inl none
    · refine .inr ⟨one, ?_⟩
      intro home
      rw [home] at nobody
      exact Bool.false_ne_true ((nobody side).symm.trans homed)
  have draws : c.Draws side hs.pingId := by
    have next := goes.fresh.next
    rw [← plays.chance] at next
    rw [same]
    exact next
  have begun : (w.telling side []).called side := Function.update_self ..
  have pends : (c.punching side port).Pends side own (w.held side.other) ((w.telling side []).called side)
      (signals ++ Parties.attempt side hs) (Puncher.attempted hs) :=
    .of_calling same draws apartFromMain ((more _).mpr (.inr rfl)) begun
  have bare : (w.view side).path ((c.punching side port).key side.other) = none := apart
  have still := Crossing.Goes.begins goes.fresh.punching idle pends
  rw [PunchView.withPath_eq_self bare] at still
  have pending : (w.telling side []).Flies c.toParties signals := flies
  exact ⟨c.punching side port, _, rfl, crosses.calls_from uncalled main outcome rfl stands more free pends.sound_attempt still,
    pending.take outcome⟩

theorem Crosses.on_call {system : Socket → BindAnswer} (crosses : w.Crosses c horizon signals)
    (flies : w.Flies c.toParties signals) (honest : w.Honest (.call side system))
    (step : w.step? now clock (.call side system) = some later) : later.Calls c horizon signals := by
  rcases crosses.calls side with called | ⟨uncalled, main⟩
  · have none : w.calls side = [] := called
    simp [step?, none] at step
  · by_cases known : (w.view side).handshake (c.key side.other) ≠ none ∨ (w.view side).path (c.key side.other) ≠ none
    · exact crosses.on_call_of_known flies uncalled main known step
    · simp only [not_or, not_not] at known
      exact crosses.on_call_of_none flies uncalled main known.1 known.2 honest step

end

/-- A world in which two natted nodes are to call each other, both with the server as their only parent, and nothing has
passed between them. -/
structure BothCall (w : World) (horizon : Nat) : Prop where
  stands : w.Stands w.parties
  lists : ∀ side, w.Lists w.parties horizon side
  natted : ∀ side, (w.parties.contact side).isOpen = false
  parents : ∀ side, (w.parties.contact side).parents = [w.server.me.address]
  idle : ∀ side, (w.view side).handshake (w.parties.key side.other) = none
  apart : ∀ side, (w.view side).path (w.parties.key side.other) = none
  calls : ∀ side, w.calls side = [w.parties.contact side.other]
  flight : w.flight = []
  fresh : ∀ side n, (w.view side).drawn ≤ n → (w.view side).owner ((w.parties.chance side).ticket n) = none ∧
    (w.view side).probe ((w.parties.chance side).ticket n) = none

theorem BothCall.crosses {initial : World} (start : initial.BothCall horizon) :
    ∃ c : Crossing, c.toParties = initial.parties ∧ initial.Crosses c horizon [] := by
  let c : Crossing := ⟨initial.parties, start.natted, start.parents, initial.parties.mainPort, fun side => (initial.view side).drawn⟩
  have uncalled : ∀ side, ¬ initial.called side := by
    intro side
    rw [called, start.calls]
    simp
  refine ⟨c, rfl, start.stands, start.lists, fun side => .inr ⟨start.calls side, rfl⟩, ?_, by simp, ?_⟩
  · intro side
    have homed : initial.held side (c.main side) := start.stands.main side
    refine ⟨fun elsewhere => absurd rfl elsewhere, start.stands.ne_hub homed, ?_, fun unheld => absurd homed unheld⟩
    have apart := start.stands.apart side _ homed
    exact fun met => Bool.false_ne_true (apart.symm.trans met)
  · intro side
    refine ⟨⟨Nat.le_refl _, ?_, ?_⟩, fun called => absurd called (uncalled side), ?_, ?_⟩
    · rintro id ⟨n, drawn, rfl⟩
      exact (start.fresh side n drawn).2
    · rintro id ⟨n, drawn, rfl⟩
      exact .inl (start.fresh side n drawn).1
    · intro hs found
      cases (start.idle side).symm.trans found
    · intro cached found
      cases (start.apart side).symm.trans found

theorem BothCall.reaches {initial : World} (start : initial.BothCall horizon) (reach : Reach horizon initial w) :
    ∃ c : Crossing, ∃ signals, c.toParties = initial.parties ∧ w.Crosses c horizon signals ∧ w.Flies c.toParties signals := by
  induction reach with
  | start =>
    obtain ⟨c, same, crosses⟩ := start.crosses
    exact ⟨c, [], same, crosses, .of_nil start.flight⟩
  | next _ early honest step ih =>
    rename_i now clock move _
    obtain ⟨c, signals, same, crosses, flies⟩ := ih
    cases move with
    | call side system =>
      -- The crossing changes with each call, since only then the port is settled that the node calls from.
      obtain ⟨d, sent, alike, still, flying⟩ := crosses.on_call flies honest step
      exact ⟨d, _, alike.trans same, still, alike ▸ flying⟩
    | deliver index =>
      obtain ⟨packet, signal, rest, opened, opens, rfl⟩ := step?_deliver crosses.stands flies step
      obtain ⟨sent, still, flying⟩ := (crosses.opens opens).delivers now opens.flies opens.carries early
      exact ⟨c, _, same, still, flying⟩

/-- A node has a path to a socket that the other holds. -/
def Arrives (parties : Parties) (side : Side) (w : World) : Prop :=
  ∃ cached, (w.view side).path (parties.key side.other) = some cached ∧ w.holds side.other cached.path.remote = true

/-- A node whose path, or whose pings while it responds, lead to a port that the other has released. The other had called
from there, because of this node's translator, and has closed its path from there. -/
structure Misled (parties : Parties) (side : Side) (w : World) : Prop where
  mapping : (parties.contact side).nat.mapping ≠ .endpointIndependent
  closed : ∃ closed, .pathClosed (parties.key side) closed ∈ (w.peer side.other).log ∧
    closed.localPort ≠ parties.mainPort side.other ∧
    w.holds side.other (parties.socket side.other closed.localPort) = false ∧
    ((∃ cached, (w.view side).path (parties.key side.other) = some cached ∧
        cached.path.remote = parties.socket side.other closed.localPort) ∨
      ∃ hs, (w.view side).handshake (parties.key side.other) = some hs ∧ hs.responder = true ∧
        hs.remote = parties.socket side.other closed.localPort)

/-- Once both nodes have called and nothing is under way any more, each reaches the other or has been misled by it. -/
theorem BothCall.arrives_or_misled {initial : World} (start : initial.BothCall horizon) (reach : Reach horizon initial w)
    (quiet : w.IsQuiet) (side : Side) : w.Arrives initial.parties side ∨ w.Misled initial.parties side := by
  obtain ⟨c, signals, same, crosses, flies⟩ := start.reaches reach
  obtain rfl := flies.eq_nil quiet.1
  rw [← same]
  have goes := crosses.goes side
  -- A port that has been released is the only place where a node can be lost.
  have misled : ¬ w.held side.other (c.socket side.other (c.port side.other)) →
      ((∃ cached, (w.view side).path (c.key side.other) = some cached ∧
          cached.path.remote = c.socket side.other (c.port side.other)) ∨
        ∃ hs, (w.view side).handshake (c.key side.other) = some hs ∧ hs.responder = true ∧
          hs.remote = c.socket side.other (c.port side.other)) → w.Misled c.toParties side := by
    intro unheld leads
    obtain ⟨mapping, _, _, released⟩ := crosses.punches side.other
    rw [Side.other_other] at mapping released
    obtain ⟨_, path, told, port⟩ := released unheld
    have elsewhere : c.port side.other ≠ c.mainPort side.other := by
      intro home
      rw [home] at unheld
      exact unheld (crosses.stands.main side.other)
    rw [← port] at unheld leads elsewhere
    exact ⟨mapping (port ▸ elsewhere), path, told, elsewhere, Bool.not_eq_true _ ▸ unheld, leads⟩
  rcases goes.begun (quiet.2 side) with shaking | settled
  · obtain ⟨hs, found⟩ := Option.ne_none_iff_exists'.mp shaking
    obtain ⟨_, _, pends⟩ := goes.pending hs found
    rcases pends.waits with ⟨_, member, _⟩ | strands
    · cases member
    · exact .inr (misled strands.released (.inr ⟨hs, found, strands.responder, strands.remote⟩))
  · obtain ⟨cached, found⟩ := Option.ne_none_iff_exists'.mp settled
    rcases crosses.finds (goes.settled cached found).near with held | ⟨remote, nobody, _⟩
    · exact .inl ⟨cached, found, held⟩
    · refine .inr (misled ?_ (.inl ⟨cached, found, remote⟩))
      rw [← remote, World.held, nobody]
      simp

/-- No two of the tickets that the nodes have drawn are alike. -/
def Distinct (w : World) : Prop :=
  ∀ one another, ∀ m < (w.view one).drawn, ∀ n < (w.view another).drawn,
    (w.peer one).chance.ticket m = (w.peer another).chance.ticket n → one = another ∧ m = n

instance (w : World) : Decidable w.Distinct := inferInstanceAs (Decidable (∀ _ _ : Side, ∀ m < _, ∀ n < _, _ → _ ∧ _))

/-- Two nodes behind alike translators call each other. -/
def crossedCalls : World := .fresh (.alike .addressDependent) fun side => [(Parties.alike .addressDependent).contact side.other]

theorem crossedCalls_bothCall : crossedCalls.BothCall 0 where
  stands := fresh_stands (by decide) (by decide)
  lists := fresh_lists (by decide) (Nat.zero_le _)
  natted := by decide
  parents := by decide
  idle _ := rfl
  apart _ := rfl
  calls _ := rfl
  flight := rfl
  fresh _ _ _ := ⟨rfl, rfl⟩

/-- Both call before anything arrives, and everything arrives in the order in which it was sent. -/
def inOrder : List Turn :=
  [.call .left (crossedCalls.parties.socket .left firstEphemeralPort), .call .right (crossedCalls.parties.socket .right firstEphemeralPort)] ++
    List.replicate 32 (.deliver 0)

theorem crossedCalls_arrives_or_misled : crossedCalls.BothCall 0 ∧ ∃ w, Reach 0 crossedCalls w ∧ w.IsQuiet ∧
    ∀ side, w.Arrives crossedCalls.parties side ∨ w.Misled crossedCalls.parties side := by
  have ends : (crossedCalls.after? inOrder).any (fun w => decide w.IsQuiet) = true := by decide +kernel
  obtain ⟨w, reach, quiet⟩ := exists_reach_of_after? ends
  have still := of_decide_eq_true quiet
  exact ⟨crossedCalls_bothCall, w, reach, still, crossedCalls_bothCall.arrives_or_misled reach still⟩

/-- The two need not reach each other, however distinct their tickets are. -/
theorem not_always_arrives : ¬ ∀ (horizon : Nat) (initial w : World), initial.BothCall horizon →
    (initial.parties.me .left).node ≠ (initial.parties.me .right).node → Reach horizon initial w → w.Distinct → w.IsQuiet →
    ∀ side, w.Arrives initial.parties side := by
  intro always
  have ends : (crossedCalls.after? inOrder).any (fun w => decide w.IsQuiet && decide w.Distinct &&
      ((w.view .left).path (crossedCalls.parties.key .right)).all fun cached => !w.holds .right cached.path.remote) = true := by
    decide +kernel
  obtain ⟨w, reach, property⟩ := exists_reach_of_after? ends
  simp only [Bool.and_eq_true, decide_eq_true_eq] at property
  obtain ⟨⟨quiet, distinct⟩, unheld⟩ := property
  obtain ⟨cached, found, held⟩ := always 0 crossedCalls w crossedCalls_bothCall (by decide) reach distinct quiet .left
  have found : (w.view .left).path (crossedCalls.parties.key .right) = some cached := found
  rw [found, Option.all_some, Bool.not_eq_true'] at unheld
  cases unheld.symm.trans held

end World

end NatTraversal
