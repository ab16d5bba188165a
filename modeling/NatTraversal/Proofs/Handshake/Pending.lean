import NatTraversal.Proofs.Network.Standing

namespace NatTraversal

/-- Two natted nodes with one server that both call each other: the port that each calls from, and the first ticket that
each draws. -/
structure Crossing extends Parties where
  natted : ∀ side, (toParties.contact side).isOpen = false
  parents : ∀ side, (toParties.contact side).parents = [toParties.relay.address]
  /-- Until a node has called, and where it calls from its main socket, its main port. -/
  port : Side → UInt16
  first : Side → Nat

namespace Crossing

/-- Where a node is to be found: at its main socket, or at the port that it calls from. -/
def Near (c : Crossing) (side : Side) (socket : Socket) : Prop :=
  socket = c.main side ∨ socket = c.socket side (c.port side)

def Draws (c : Crossing) (side : Side) (id : Ticket) : Prop := ∃ n, c.first side ≤ n ∧ id = (c.chance side).ticket n

/-- What can be under way. Only a node that has called is asked for. -/
def Sound (c : Crossing) (called : Side → Prop) : Signal → Prop
  | .request side port => port = c.port side ∧ called side
  | .forward side port => port = c.port side ∧ called side
  | .answer dest => ∃ side, dest = c.socket side (c.port side) ∧ called side
  | .ping side port dest id => c.Near side (c.socket side port) ∧ c.Near side.other dest ∧ c.Draws side id
  | .pong source dest id => ∃ side, c.Near side.other source ∧ c.Near side dest ∧ c.Draws side id
  | .delete _ => True

/-- What brings a handshake on: its ping to the other's main socket, its pong and, where it responds, its ping to the port
that the other calls from. -/
inductive Serves (c : Crossing) (side : Side) (hs : Handshake) : Signal → Prop
  | ping : Serves c side hs (.ping side hs.punchPort (c.main side.other) hs.pingId)
  | pong (source : Socket) : Serves c side hs (.pong source (c.socket side hs.punchPort) hs.pingId)
  | aimed : hs.responder = true → hs.remote = c.socket side.other (c.port side.other) →
      Serves c side hs (.ping side hs.punchPort (c.socket side.other (c.port side.other)) hs.pingId)

/-- A responder whose pings go to a port that the other has released. -/
structure Strands (c : Crossing) (side : Side) (hs : Handshake) (theirs : Socket → Prop) : Prop where
  responder : hs.responder = true
  remote : hs.remote = c.socket side.other (c.port side.other)
  released : ¬ theirs (c.socket side.other (c.port side.other))

/-- A handshake that is under way, between a node that holds `own` sockets and one that holds `theirs`. -/
structure Pends (c : Crossing) (side : Side) (own theirs : Socket → Prop) (called : Prop) (signals : List Signal) (hs : Handshake) :
    Prop where
  shakes : c.Shakes side hs
  draws : c.Draws side hs.pingId
  aims : c.Near side.other hs.remote
  punch : hs.allocated = [] ∧ hs.punchPort = c.mainPort side ∨
    hs.allocated = [hs.punchPort] ∧ hs.punchPort = c.port side ∧ c.port side ≠ c.mainPort side
  held : own (c.socket side hs.punchPort)
  calls : hs.responder = false → hs.punchPort = c.port side ∧ called
  waits : (∃ signal ∈ signals, c.Serves side hs signal) ∨ c.Strands side hs theirs

/-- A path that a handshake has left. -/
structure Settled (c : Crossing) (side : Side) (cached : CachedPath) : Prop where
  near : c.Near side.other cached.path.remote
  own : cached.allocated = [] ∨
    cached.allocated = [cached.path.localPort] ∧ cached.path.localPort = c.port side ∧ c.port side ≠ c.mainPort side

/-- Of the tickets that a node draws, at most that of its handshake is waited for. -/
structure Fresh (c : Crossing) (side : Side) (view : PunchView) : Prop where
  drawn : c.first side ≤ view.drawn
  unprobed : ∀ id, c.Draws side id → view.probe id = none
  owned : ∀ id, c.Draws side id → view.owner id = none ∨
    view.owner id = some (c.key side.other) ∧ ∃ hs, view.handshake (c.key side.other) = some hs ∧ hs.pingId = id

/-- How a node stands to the other. -/
structure Goes (c : Crossing) (side : Side) (view : PunchView) (own theirs : Socket → Prop) (called : Prop) (signals : List Signal) :
    Prop where
  fresh : c.Fresh side view
  begun : called → view.handshake (c.key side.other) ≠ none ∨ view.path (c.key side.other) ≠ none
  pending : ∀ hs, view.handshake (c.key side.other) = some hs → view.path (c.key side.other) = none ∧
    view.owner hs.pingId = some (c.key side.other) ∧ c.Pends side own theirs called signals hs
  settled : ∀ cached, view.path (c.key side.other) = some cached → c.Settled side cached

variable {c : Crossing} {side : Side} {view : PunchView} {own theirs fewer : Socket → Prop} {called : Prop}
  {signals later : List Signal} {hs : Handshake}

theorem has_parent (c : Crossing) (side : Side) : (c.me side).parents (c.roster side) ≠ [] := by
  intro none
  have parents := c.parents side
  rw [Parties.contact, Identity.contact_parents_of_nil none] at parents
  cases parents

theorem Near.main (c : Crossing) (side : Side) : c.Near side (c.main side) := .inl rfl

theorem Near.socket (c : Crossing) (side : Side) : c.Near side (c.socket side (c.port side)) := .inr rfl

theorem Fresh.next (fresh : c.Fresh side view) : c.Draws side ((c.chance side).ticket view.drawn) := ⟨view.drawn, fresh.drawn, rfl⟩

theorem Serves.of_ping {one : Side} {port : UInt16} {dest : Socket} {id : Ticket} (serves : c.Serves side hs (.ping one port dest id)) :
    one = side ∧ port = hs.punchPort ∧ id = hs.pingId ∧ (dest = c.main side.other ∨
      hs.responder = true ∧ hs.remote = dest ∧ dest = c.socket side.other (c.port side.other)) := by
  cases serves with
  | ping => exact ⟨rfl, rfl, rfl, .inl rfl⟩
  | aimed responder remote => exact ⟨rfl, rfl, rfl, .inr ⟨responder, remote, rfl⟩⟩

theorem Serves.of_pong {source dest : Socket} {id : Ticket} (serves : c.Serves side hs (.pong source dest id)) :
    dest = c.socket side hs.punchPort ∧ id = hs.pingId := by
  cases serves
  exact ⟨rfl, rfl⟩

theorem Serves.answered {one : Side} {port : UInt16} {dest : Socket} {id : Ticket}
    (serves : c.Serves side hs (.ping one port dest id)) : c.Serves side hs (.pong dest (c.socket one port) id) := by
  obtain ⟨rfl, rfl, rfl, _⟩ := serves.of_ping
  exact .pong dest

theorem Serves.staged {signal : Signal} (serves : c.Serves side hs signal) (stage : Stage) (parent : Option Address) :
    c.Serves side { hs with stage, parent } signal := by
  cases serves with
  | ping => exact .ping
  | pong source => exact .pong source
  | aimed responder remote => exact .aimed responder remote

/-- A handshake waits on while nothing that serves it is lost. -/
theorem Pends.mono (pends : c.Pends side own theirs called signals hs) (less : ∀ socket, fewer socket → theirs socket)
    (keeps : ∀ signal ∈ signals, c.Serves side hs signal → (∃ signal ∈ later, c.Serves side hs signal) ∨ c.Strands side hs fewer) :
    c.Pends side own fewer called later hs := by
  refine ⟨pends.shakes, pends.draws, pends.aims, pends.punch, pends.held, pends.calls, ?_⟩
  rcases pends.waits with ⟨signal, member, serves⟩ | strands
  · exact keeps signal member serves
  · exact .inr ⟨strands.responder, strands.remote, fun held => strands.released (less _ held)⟩

theorem Pends.staged (pends : c.Pends side own theirs called signals hs) (stage : Stage) :
    c.Pends side own theirs called signals { hs with stage } := by
  refine ⟨pends.shakes.staged stage, pends.draws, pends.aims, pends.punch, pends.held, pends.calls, ?_⟩
  rcases pends.waits with ⟨signal, member, serves⟩ | strands
  · exact .inl ⟨signal, member, serves.staged stage hs.parent⟩
  · exact .inr ⟨strands.responder, strands.remote, strands.released⟩

theorem Pends.attempted (pends : c.Pends side own theirs called signals hs) :
    c.Pends side own theirs called signals (Puncher.attempted hs) := by
  refine ⟨pends.shakes.attempted, pends.draws, pends.aims, pends.punch, pends.held, pends.calls, ?_⟩
  rcases pends.waits with ⟨signal, member, serves⟩ | strands
  · exact .inl ⟨signal, member, serves.staged _ _⟩
  · exact .inr ⟨strands.responder, strands.remote, strands.released⟩

/-- A handshake that is turned to where the other is to be found, and pings there. -/
theorem Pends.turned {moved : Handshake} {port : UInt16} (pends : c.Pends side own theirs called signals hs)
    (shakes : c.Shakes side moved) (near : c.Near side.other (c.socket side.other port))
    (same : moved = { hs with stage := moved.stage, remote := c.socket side.other port, parent := moved.parent })
    (keeps : ∀ signal ∈ signals, c.Serves side hs signal → signal ∈ later)
    (sent : .ping side hs.punchPort (c.socket side.other port) hs.pingId ∈ later) :
    c.Pends side own theirs called later moved := by
  have remote : moved.remote = c.socket side.other port := by rw [same]
  have punchPort : moved.punchPort = hs.punchPort := by rw [same]
  have pingId : moved.pingId = hs.pingId := by rw [same]
  have allocated : moved.allocated = hs.allocated := by rw [same]
  have responder : moved.responder = hs.responder := by rw [same]
  refine ⟨shakes, pingId ▸ pends.draws, remote ▸ near, ?_, punchPort ▸ pends.held, ?_, .inl ?_⟩
  · rw [allocated, punchPort]
    exact pends.punch
  · rw [responder, punchPort]
    exact pends.calls
  · rw [← punchPort, ← pingId] at sent
    rcases near with main | called
    · rw [main] at sent
      exact ⟨_, sent, .ping⟩
    · cases responds : hs.responder with
      | true =>
        rw [called] at sent remote
        exact ⟨_, sent, .aimed (responder.trans responds) remote⟩
      | false =>
        rcases pends.waits with ⟨signal, member, serves⟩ | strands
        · refine ⟨signal, keeps signal member serves, ?_⟩
          cases serves with
          | ping =>
            rw [← punchPort, ← pingId]
            exact .ping
          | pong source =>
            rw [← punchPort, ← pingId]
            exact .pong source
          | aimed responder _ =>
            rw [responds] at responder
            cases responder
        · have responder := strands.responder
          rw [responds] at responder
          cases responder

theorem Pends.near (pends : c.Pends side own theirs called signals hs) : c.Near side (c.socket side hs.punchPort) := by
  rcases pends.punch with ⟨_, main⟩ | ⟨_, port, _⟩
  · rw [main]
    exact .main c side
  · rw [port]
    exact .socket c side

theorem Pends.sound_attempt {called : Side → Prop} (pends : c.Pends side own theirs (called side) signals hs) :
    ∀ signal ∈ Parties.attempt side hs, c.Sound called signal := by
  intro signal member
  have ping : c.Sound called (.ping side hs.punchPort hs.remote hs.pingId) := ⟨pends.near, pends.aims, pends.draws⟩
  rcases List.mem_append.mp member with request | last
  · cases responds : hs.responder with
    | true => simp [responds] at request
    | false =>
      simp only [responds, Bool.false_eq_true, if_false, List.mem_singleton] at request
      rw [request]
      exact pends.calls responds
  · rw [List.mem_singleton.mp last]
    exact ping

/-- A node that nothing happens to, while the other releases no more than what serves it allows. -/
theorem Goes.mono (goes : c.Goes side view own theirs called signals) (less : ∀ socket, fewer socket → theirs socket)
    (keeps : ∀ hs, view.handshake (c.key side.other) = some hs → c.Pends side own theirs called signals hs →
      ∀ signal ∈ signals, c.Serves side hs signal → (∃ signal ∈ later, c.Serves side hs signal) ∨ c.Strands side hs fewer) :
    c.Goes side view own fewer called later := by
  refine ⟨goes.fresh, goes.begun, ?_, goes.settled⟩
  intro hs found
  obtain ⟨apart, owned, pends⟩ := goes.pending hs found
  exact ⟨apart, owned, pends.mono less (keeps hs found pends)⟩

theorem Goes.shaken {moved : Handshake} (goes : c.Goes side view own theirs called signals)
    (found : view.handshake (c.key side.other) = some hs) (pingId : moved.pingId = hs.pingId)
    (pends : c.Pends side own theirs called later moved) :
    c.Goes side (view.withHandshake (c.key side.other) (some moved)) own theirs called later := by
  obtain ⟨apart, owned, _⟩ := goes.pending hs found
  refine ⟨⟨goes.fresh.drawn, goes.fresh.unprobed, ?_⟩, fun _ => .inl (by simp), ?_, goes.settled⟩
  · intro id draws
    rcases goes.fresh.owned id draws with stray | ⟨own, former, known, same⟩
    · exact .inl stray
    · rw [found] at known
      cases known
      exact .inr ⟨own, moved, view.handshake_withHandshake .., pingId.trans same⟩
  · intro other known
    simp only [PunchView.handshake_withHandshake, Option.some.injEq] at known
    subst known
    exact ⟨apart, pingId ▸ owned, pends⟩

theorem Goes.verified {source : Socket} {expiryId : Ticket} (goes : c.Goes side view own theirs called signals)
    (found : view.handshake (c.key side.other) = some hs) (near : c.Near side.other source) :
    c.Goes side ((((view.withHandshake (c.key side.other) none).withOwner hs.pingId none).withPath (c.key side.other)
      (some ⟨⟨source, hs.punchPort⟩, hs.allocated, expiryId⟩)).drawing 1) own theirs called later := by
  obtain ⟨_, _, pends⟩ := goes.pending hs found
  refine ⟨⟨Nat.le_add_right_of_le goes.fresh.drawn, goes.fresh.unprobed, ?_⟩, fun _ => .inr (by simp), ?_, ?_⟩
  · intro id draws
    refine .inl ?_
    by_cases waited : id = hs.pingId
    · simp [waited]
    · have before : view.owner id = none := by
        rcases goes.fresh.owned id draws with stray | ⟨_, former, known, same⟩
        · exact stray
        · rw [found] at known
          cases known
          exact absurd same.symm waited
      exact (PunchView.owner_withOwner_of_ne _ _ waited _).trans before
  · intro other known
    simp at known
  · intro cached known
    simp only [PunchView.path_drawing, PunchView.path_withPath, Option.some.injEq] at known
    subst known
    refine ⟨near, ?_⟩
    rcases pends.punch with ⟨none, _⟩ | own
    · exact .inl none
    · exact .inr own

/-- A handshake begins in place of a path, if there is one. -/
theorem Goes.begins (fresh : c.Fresh side view) (idle : view.handshake (c.key side.other) = none)
    (pends : c.Pends side own theirs called later (Puncher.attempted hs)) :
    c.Goes side ((((view.withPath (c.key side.other) none).withOwner hs.pingId (some (c.key side.other))).withHandshake
      (c.key side.other) (some (Puncher.attempted hs))).drawing 3) own theirs called later := by
  refine ⟨⟨Nat.le_add_right_of_le fresh.drawn, fresh.unprobed, ?_⟩, fun _ => .inl (by simp), ?_, ?_⟩
  · intro id draws
    by_cases waited : id = hs.pingId
    · exact .inr ⟨by simp [waited], Puncher.attempted hs, by simp, waited.symm⟩
    · have before : view.owner id = none := by
        rcases fresh.owned id draws with stray | ⟨_, former, known, _⟩
        · exact stray
        · rw [idle] at known
          cases known
      exact .inl ((PunchView.owner_withOwner_of_ne _ _ waited _).trans before)
  · intro other known
    simp only [PunchView.handshake_drawing, PunchView.handshake_withHandshake, Option.some.injEq] at known
    subst known
    exact ⟨by simp, PunchView.owner_withOwner .., pends⟩
  · intro cached known
    simp at known

theorem Goes.of_known {recalled : Prop} (goes : c.Goes side view own theirs called signals) (begun : recalled)
    (known : view.handshake (c.key side.other) ≠ none ∨ view.path (c.key side.other) ≠ none) :
    c.Goes side view own theirs recalled signals := by
  refine ⟨goes.fresh, fun _ => known, ?_, goes.settled⟩
  intro hs found
  obtain ⟨apart, owned, pends⟩ := goes.pending hs found
  exact ⟨apart, owned, pends.shakes, pends.draws, pends.aims, pends.punch, pends.held, fun initiates => ⟨(pends.calls initiates).1, begun⟩,
    pends.waits⟩

/-- The same two nodes, one of which calls from a port. -/
def punching (c : Crossing) (side : Side) (port : UInt16) : Crossing := { c with port := Function.update c.port side port }

theorem punching_main (main : c.port side = c.mainPort side) : c.punching side (c.mainPort side) = c := by
  rw [punching, ← main, Function.update_eq_self]

variable {one : Side} {port : UInt16}

theorem punching_self (c : Crossing) (side : Side) (port : UInt16) : (c.punching side port).port side = port := Function.update_self ..

theorem punching_other (c : Crossing) (side : Side) (port : UInt16) : (c.punching side port).port side.other = c.port side.other :=
  Function.update_of_ne side.other_ne ..

theorem Near.punching {socket : Socket} (main : c.port side = c.mainPort side) (near : c.Near one socket) :
    (c.punching side port).Near one socket := by
  rcases near with home | called
  · exact .inl home
  · rcases side.eq_or_eq_other one with rfl | rfl
    · rw [main] at called
      exact .inl called
    · rw [← c.punching_other side port] at called
      exact .inr called

theorem Fresh.punching (fresh : c.Fresh one view) : (c.punching side port).Fresh one view :=
  ⟨fresh.drawn, fresh.unprobed, fresh.owned⟩

theorem Sound.punching {signal : Signal} {before after : Side → Prop} (main : c.port side = c.mainPort side)
    (uncalled : ¬ before side) (still : ∀ one, before one → after one) (sound : c.Sound before signal) :
    (c.punching side port).Sound after signal := by
  have unmoved : ∀ one, before one → (c.punching side port).port one = c.port one := by
    intro one called
    rcases side.eq_or_eq_other one with rfl | rfl
    · exact absurd called uncalled
    · exact c.punching_other side port
  cases signal with
  | request one q =>
    obtain ⟨rfl, called⟩ := sound
    exact ⟨(unmoved one called).symm, still one called⟩
  | forward one q =>
    obtain ⟨rfl, called⟩ := sound
    exact ⟨(unmoved one called).symm, still one called⟩
  | answer dest =>
    obtain ⟨one, rfl, called⟩ := sound
    refine ⟨one, ?_, still one called⟩
    rw [unmoved one called]
    rfl
  | ping one q dest id =>
    obtain ⟨leaves, aims, draws⟩ := sound
    exact ⟨leaves.punching main, aims.punching main, draws⟩
  | pong source dest id =>
    obtain ⟨one, near, aims, draws⟩ := sound
    exact ⟨one, near.punching main, aims.punching main, draws⟩
  | delete one => trivial

theorem Goes.punching (goes : c.Goes side view own theirs called signals) (main : c.port side.other = c.mainPort side.other)
    (held : theirs (c.main side.other)) (more : List.Subset signals later) :
    (c.punching side.other port).Goes side view own fewer called later := by
  have unmoved : (c.punching side.other port).port side = c.port side := Function.update_of_ne side.ne_other ..
  refine ⟨goes.fresh.punching, goes.begun, ?_, ?_⟩
  · intro hs found
    obtain ⟨apart, owned, pends⟩ := goes.pending hs found
    refine ⟨apart, owned, pends.shakes, pends.draws, pends.aims.punching main, ?_, pends.held, ?_, ?_⟩
    · rw [unmoved]
      exact pends.punch
    · rw [unmoved]
      exact pends.calls
    · rcases pends.waits with ⟨signal, member, serves⟩ | strands
      · refine .inl ⟨signal, more member, ?_⟩
        cases serves with
        | ping => exact .ping
        | pong source => exact .pong source
        | aimed _ _ =>
          rw [main]
          exact .ping
      · have released := strands.released
        rw [main] at released
        exact absurd held released
  · intro cached found
    obtain ⟨near, own⟩ := goes.settled cached found
    refine ⟨near.punching main, ?_⟩
    rw [unmoved]
    exact own

theorem Pends.of_calling {x : Peer} {now : Nat} {allocated : List UInt16}
    (same : hs = Peer.calling c.toParties side x now (port, allocated)) (draws : c.Draws side hs.pingId)
    (given : allocated = [] ∧ port = c.mainPort side ∨ allocated = [port] ∧ port ≠ c.mainPort side)
    (held : own (c.socket side port)) (begun : called) :
    (c.punching side port).Pends side own theirs called (signals ++ Parties.attempt side hs) (Puncher.attempted hs) := by
  have shakes : c.Shakes side (Puncher.attempted hs) :=
    same ▸ Peer.calling_shakes x now _ (c.natted side.other) (c.parents side.other)
  have remote : hs.remote = c.main side.other := by rw [same]; rfl
  have punchPort : (Puncher.attempted hs).punchPort = port := by rw [same]; rfl
  have own : (Puncher.attempted hs).allocated = allocated := by rw [same]; rfl
  have moved : (c.punching side port).port side = port := c.punching_self side port
  refine ⟨shakes, draws, .inl remote, ?_, ?_, ?_, .inl ?_⟩
  · rw [own, punchPort, moved]
    rcases given with none | ⟨one, elsewhere⟩
    · exact .inl none
    · exact .inr ⟨one, rfl, elsewhere⟩
  · rw [punchPort]
    exact held
  · intro _
    rw [punchPort, moved]
    exact ⟨rfl, begun⟩
  · refine ⟨_, List.mem_append_right _ (Parties.mem_attempt side hs), ?_⟩
    rw [remote]
    exact .ping

theorem Pends.of_responding {x : Peer} {now : Nat} (same : hs = Peer.responding c.toParties side x now (c.port side.other))
    (draws : c.Draws side hs.pingId) (held : own (c.main side)) :
    c.Pends side own theirs called (signals ++ Parties.attempt side hs) (Puncher.attempted hs) := by
  subst same
  refine ⟨(Peer.responding_shakes ..).attempted, draws, .socket c side.other, .inl ⟨rfl, rfl⟩, held, nofun, .inl ?_⟩
  exact ⟨_, List.mem_append_right _ (Parties.mem_attempt side _), .aimed rfl rfl⟩

end Crossing

end NatTraversal
