import NatTraversal.Proofs.Chance
import NatTraversal.Proofs.Network.Standing

namespace NatTraversal

/-- A node that has bound its main socket and has done nothing else. -/
def Peer.fresh (parties : Parties) (side : Side) : Peer where
  puncher := .ofConfig {} (parties.me side)
  endpoint :=
    { config := {}
      udp := ⟨Table.empty.insert (parties.mainPort side) (parties.main side), Table.empty.insert (parties.main side) ()⟩ }
  roster := parties.roster side
  chance := parties.chance side

theorem Sessions.register_of_none (sessions : Sessions) (client : Contact) (seen : Address) (now : Nat)
    (absent : sessions.table.get? client.node = none) (room : sessions.size < sessions.capacity) :
    (sessions.register client seen now).2 = { sessions with
      table := sessions.table.insert client.node ⟨client.node, seen, client.address, client.overlay, now, sessions.ttl, false⟩ } := by
  simp only [register, absent, ge_iff_le, Nat.not_le.mpr room, if_false]

namespace Parties

def sessionTtl : Nat := Time.ofMillis 120000

/-- The sessions of a server that one node has registered with from its main socket. -/
def firstSession (parties : Parties) : Sessions :=
  ((Sessions.empty sessionTtl 2).register (parties.contact .left) (parties.me .left).address 0).2

/-- The sessions once the other node has registered as well. -/
def sessions (parties : Parties) : Sessions :=
  (parties.firstSession.register (parties.contact .right) (parties.me .right).address 0).2

theorem contact_node (parties : Parties) (side : Side) : (parties.contact side).node = (parties.me side).node :=
  congrArg PeerKey.node ((parties.me side).contact_key (parties.roster side))

theorem sessions_get? {parties : Parties} (distinct : (parties.me .left).node ≠ (parties.me .right).node) (side : Side) :
    ∃ overlay, parties.sessions.table.get? (parties.me side).node =
      some ⟨(parties.me side).node, (parties.me side).address, (parties.contact side).address, overlay, 0, sessionTtl, false⟩ := by
  have first : parties.firstSession = _ := Sessions.register_of_none (.empty sessionTtl 2) _ _ 0 rfl (by decide)
  have absent : parties.firstSession.table.get? (parties.contact .right).node = none := by
    rw [first, Table.get?_insert, contact_node, contact_node, if_neg distinct.symm]
    rfl
  have room : parties.firstSession.size < parties.firstSession.capacity := by
    rw [first]
    exact Nat.one_lt_two
  have second : parties.sessions = _ := Sessions.register_of_none parties.firstSession _ _ 0 absent room
  rw [second, first, Table.get?_insert, Table.get?_insert, contact_node, contact_node]
  cases side with
  | left => exact ⟨_, by rw [if_neg distinct, if_pos rfl]; rfl⟩
  | right => exact ⟨_, by rw [if_pos rfl]; rfl⟩

end Parties

namespace World

/-- The world in which two nodes have only registered with the server. -/
def fresh (parties : Parties) (calls : Side → List Contact) : World where
  peer := Peer.fresh parties
  server := { me := parties.relay, sessions := parties.sessions }
  serverRoster := .empty 0
  serverChance := parties.chance .left
  flight := []
  calls := calls

variable {parties : Parties} {calls : Side → List Contact} {w later : World} {horizon : Nat}

theorem fresh_holds (side : Side) (socket : Socket) :
    (fresh parties calls).holds side socket = true ↔ socket = parties.main side := by
  have bound : (PortTable.empty : PortTable Unit).insert (parties.main side) () = .ok (Peer.fresh parties side).endpoint.udp := rfl
  have unheld : (PortTable.empty : PortTable Unit).holds socket = false := rfl
  obtain ⟨held, _⟩ := PortTable.insert_spec bound
  refine (held socket).trans ?_
  simp [unheld]

theorem fresh_stands (apart : parties.main .left ≠ parties.main .right) (hub : ∀ side, parties.main side ≠ parties.hub) :
    (fresh parties calls).Stands parties where
  plays side := by
    have bound : (PortTable.empty : PortTable Unit).insert (parties.main side) () = .ok (Peer.fresh parties side).endpoint.udp := rfl
    obtain ⟨_, filed⟩ := PortTable.insert_spec bound
    refine ⟨rfl, rfl, rfl, rfl, filed ?_⟩
    intro port socket found
    cases found
  relay := rfl
  main side := (fresh_holds side _).mpr rfl
  apart side socket held := by
    rw [fresh_holds] at held
    rw [← Bool.not_eq_true, fresh_holds, held]
    cases side with
    | left => exact apart
    | right => exact apart.symm
  hub side := by
    rw [← Bool.not_eq_true, fresh_holds]
    exact (hub side).symm

theorem fresh_lists (distinct : (parties.me .left).node ≠ (parties.me .right).node) (early : horizon ≤ Parties.sessionTtl)
    (side : Side) : (fresh parties calls).Lists parties horizon side := by
  obtain ⟨overlay, known⟩ := Parties.sessions_get? distinct side
  have unexpired : decide (horizon - 0 > Parties.sessionTtl) = false := decide_eq_false (by omega)
  have live : parties.sessions.live? (parties.me side).node horizon = some ⟨(parties.me side).node, (parties.me side).address,
      (parties.contact side).address, overlay, 0, Parties.sessionTtl, false⟩ := by
    rw [Sessions.live?, known, Option.filter_some, Session.isExpired, unexpired]
    rfl
  exact ⟨_, live, rfl⟩

/-- What happens next where the system has one socket to give. -/
inductive Turn where
  | call (side : Side) (socket : Socket)
  | deliver (index : Nat)

def granting (socket asked : Socket) : BindAnswer := if asked = socket then .bound socket.port else .inUse

def Turn.move : Turn → Move
  | call side socket => .call side (granting socket)
  | deliver index => .deliver index

/-- Whether the socket that a turn has to give is free. -/
def allows (w : World) : Turn → Bool
  | .call _ socket => !w.holds .left socket && !w.holds .right socket && socket != w.hub
  | .deliver _ => true

theorem honest_of_allows {turn : Turn} (allowed : w.allows turn = true) : w.Honest turn.move := by
  cases turn with
  | call side socket =>
    simp only [allows, Bool.and_eq_true, Bool.not_eq_true', bne_iff_ne, ne_eq] at allowed
    obtain ⟨⟨left, right⟩, hub⟩ := allowed
    intro asked port bound
    unfold granting at bound
    split at bound
    · rename_i same
      cases bound
      refine ⟨by rw [same], ?_, same ▸ hub⟩
      intro one
      cases one with
      | left => rw [same, left]
      | right => rw [same, right]
    · cases bound
  | deliver index => trivial

/-- The world after some turns, while no time passes. -/
def after? (w : World) : List Turn → Option World
  | [] => some w
  | turn :: turns => if w.allows turn then (w.step? 0 0 turn.move).bind (·.after? turns) else none

theorem Reach.after? {initial : World} {turns : List Turn} (reach : Reach horizon initial w) (same : w.after? turns = some later) :
    Reach horizon initial later := by
  induction turns generalizing w with
  | nil =>
    cases same
    exact reach
  | cons turn turns ih =>
    unfold World.after? at same
    split at same
    · rename_i allowed
      obtain ⟨next, step, rest⟩ := Option.bind_eq_some_iff.mp same
      exact ih (reach.next (Nat.zero_le _) (honest_of_allows allowed) step) rest
    · cases same

/-- What holds after some turns holds in a world that can be reached. -/
theorem exists_reach_of_after? {turns : List Turn} {property : World → Bool} (holds : (w.after? turns).any property = true) :
    ∃ later, Reach horizon w later ∧ property later = true := by
  rw [Option.any_eq_true_iff_get] at holds
  obtain ⟨some, holds⟩ := holds
  exact ⟨_, Reach.start.after? (Option.some_get some).symm, holds⟩

end World

/-- Two nodes behind translators of one kind, the server the only parent of each. -/
def Parties.alike (mapping : Dependence) : Parties where
  me
    | .left => ⟨⟨.ofOctets 10 0 0 1, 4000, 1⟩, 0, none⟩
    | .right => ⟨⟨.ofOctets 10 0 0 2, 4000, 2⟩, 0, none⟩
  roster
    | .left => ((Roster.empty 3).enter 1 (.natted mapping .portPreservation mapping)).addParent 1 ⟨.ofOctets 10 0 0 9, 3478, 9⟩ |>.2
    | .right => ((Roster.empty 3).enter 2 (.natted mapping .portPreservation mapping)).addParent 2 ⟨.ofOctets 10 0 0 9, 3478, 9⟩ |>.2
  chance
    | .left => .counting 0
    | .right => .counting 1
  relay := ⟨⟨.ofOctets 10 0 0 9, 3478, 9⟩, 0, none⟩

end NatTraversal
