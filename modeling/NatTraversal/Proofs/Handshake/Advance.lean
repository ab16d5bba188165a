import NatTraversal.Proofs.Network.Standing

namespace NatTraversal

/-- How far a node has come that meets a peer in one handshake. -/
inductive Advance where
  | idle
  | waiting
  | verified
deriving DecidableEq, Repr

/-- A node's one handshake with the other party: the port that it is punched from, where its pings go, and their ticket. -/
structure Attempt where
  port : UInt16
  remote : Socket
  id : Ticket

namespace Parties

variable {parties : Parties} {side : Side} {attempt : Attempt} {advance : Advance} {view : PunchView} {log : List PunchEvent}

/-- What a node shows that has come so far: nothing yet, the handshake, or the path and that it has been told of. -/
def Shows (parties : Parties) (side : Side) (attempt : Attempt) (view : PunchView) (log : List PunchEvent) : Advance → Prop
  | .idle => view.handshake (parties.key side.other) = none ∧ view.path (parties.key side.other) = none ∧ log = [] ∧
      attempt.id = (parties.chance side).ticket view.drawn
  | .waiting => ∃ hs, view.handshake (parties.key side.other) = some hs ∧ parties.Shakes side hs ∧ hs.punchPort = attempt.port ∧
      hs.remote = attempt.remote ∧ hs.pingId = attempt.id ∧ view.owner attempt.id = some (parties.key side.other) ∧
      view.path (parties.key side.other) = none ∧ log = []
  | .verified => view.handshake (parties.key side.other) = none ∧
      (∃ allocated expiryId, view.path (parties.key side.other) = some ⟨⟨attempt.remote, attempt.port⟩, allocated, expiryId⟩) ∧
      ∃ target, log = [.verified (parties.key side.other) target ⟨attempt.remote, attempt.port⟩]

end Parties

namespace Peer

variable {parties : Parties} {side : Side} {x : Peer} {packet : Packet} (now : Nat) {port : UInt16} {dest : Socket} {id : Ticket}
  {attempt : Attempt}

/-- A ping from where a node's own pings go is answered, and sets nothing back. -/
theorem on_ping_shows {advance : Advance} (plays : x.Plays parties side)
    (shows : parties.Shows side attempt x.puncher.view x.log advance)
    (carries : parties.Carries packet (.ping side.other port dest id)) {q : UInt16} (here : dest = parties.socket side q)
    (held : x.holds dest = true) (aimed : attempt.remote = parties.socket side.other port) :
    ∃ view, parties.Shows side attempt view x.log advance ∧
      Outcome parties side x view (fun socket => x.holds socket = true) [] [.pong dest (parties.socket side.other port) id]
        (x.handle now (.inbound packet.message packet.source packet.dest)) := by
  cases advance with
  | idle => exact ⟨_, shows, on_ping_of_none now plays carries here held shows.1⟩
  | verified => exact ⟨_, shows, on_ping_of_none now plays carries here held shows.1⟩
  | waiting =>
    obtain ⟨hs, found, shakes, punch, remote, pingId, owned, apart, silent⟩ := shows
    have outcome := on_ping_of_same now plays carries here held found (remote.trans aimed)
    refine ⟨_, ?_, outcome⟩
    exact ⟨{ hs with stage := .holeOpen }, Function.update_self .., shakes.staged .holeOpen, punch, remote, pingId, owned, apart,
      silent⟩

theorem on_pong_shows (plays : x.Plays parties side) (shows : parties.Shows side attempt x.puncher.view x.log .waiting)
    (carries : parties.Carries packet (.pong attempt.remote dest attempt.id)) (main : x.holds (parties.main side) = true) :
    ∃ view events, parties.Shows side attempt view (x.log ++ events) .verified ∧
      Outcome parties side x view (fun socket => x.holds socket = true) events [.delete side]
        (x.handle now (.inbound packet.message packet.source packet.dest)) := by
  obtain ⟨hs, found, shakes, punch, remote, pingId, owned, apart, silent⟩ := shows
  have outcome := on_pong_of_owner now plays carries owned found shakes apart main
  refine ⟨_, _, ?_, outcome⟩
  rw [punch, silent, List.nil_append]
  exact ⟨Function.update_self .., ⟨_, _, Function.update_self ..⟩, _, rfl⟩

/-- A node that is idle answers a forwarded request with a handshake from its main port. -/
theorem on_forward_shows (plays : x.Plays parties side) (shows : parties.Shows side attempt x.puncher.view x.log .idle)
    (carries : parties.Carries packet (.forward side.other port)) (main : x.holds (parties.main side) = true)
    (punch : attempt.port = parties.mainPort side) (remote : attempt.remote = parties.socket side.other port) :
    ∃ view, parties.Shows side attempt view x.log .waiting ∧
      Outcome parties side x view (fun socket => x.holds socket = true) [] [.ping side attempt.port attempt.remote attempt.id]
        (x.handle now (.inbound packet.message packet.source packet.dest)) := by
  obtain ⟨idle, apart, silent, ticket⟩ := shows
  have outcome := on_forward_of_none now plays carries idle apart main (by simp) rfl
  have pingId : (responding parties side x now port).pingId = attempt.id := by
    rw [ticket, ← plays.chance]
    rfl
  have sent : Parties.attempt side (responding parties side x now port) =
      [.ping side attempt.port attempt.remote attempt.id] := by
    rw [punch, remote, ← pingId]
    rfl
  rw [sent, pingId] at outcome
  refine ⟨_, ?_, outcome.plays, outcome.view, ?_, outcome.log, outcome.packets⟩
  · exact ⟨Puncher.attempted (responding parties side x now port), Function.update_self .., (responding_shakes ..).attempted,
      punch.symm, remote.symm, pingId, Function.update_self .., Function.update_self .., silent⟩
  · intro socket
    rw [outcome.held]
    simp

end Peer

end NatTraversal
