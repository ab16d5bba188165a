import Mathlib.Logic.Function.Basic
import NatTraversal.Punch.Handling

namespace NatTraversal

section

variable {κ ν : Type} [DecidableEq κ]

theorem Table.get?_insert_eq_update (t : Table κ ν) (k : κ) (v : ν) : (t.insert k v).get? = Function.update t.get? k (some v) := by
  funext j
  rw [get?_insert, Function.update_apply]

theorem Table.get?_erase_eq_update (t : Table κ ν) (k : κ) : (t.erase k).get? = Function.update t.get? k none := by
  funext j
  rw [get?_erase, Function.update_apply]

end

/-- What decides how a puncher meets its peers: everything but its alarms and its parents. -/
structure PunchView where
  me : Identity
  halted : Bool
  handshake : PeerKey → Option Handshake
  path : PeerKey → Option CachedPath
  /-- Whose handshake a ping belongs to. -/
  owner : Ticket → Option PeerKey
  probe : Ticket → Option Probe
  drawn : Nat

namespace PunchView

def withHandshake (v : PunchView) (key : PeerKey) (hs : Option Handshake) : PunchView :=
  { v with handshake := Function.update v.handshake key hs }

def withPath (v : PunchView) (key : PeerKey) (cached : Option CachedPath) : PunchView :=
  { v with path := Function.update v.path key cached }

def withOwner (v : PunchView) (id : Ticket) (key : Option PeerKey) : PunchView :=
  { v with owner := Function.update v.owner id key }

def drawing (v : PunchView) (count : Nat) : PunchView := { v with drawn := v.drawn + count }

variable (v : PunchView) (key : PeerKey) (hs : Option Handshake) (cached : Option CachedPath) (id : Ticket) (count : Nat)

@[simp] theorem handshake_withHandshake : (v.withHandshake key hs).handshake key = hs := Function.update_self ..

@[simp] theorem path_withHandshake : (v.withHandshake key hs).path = v.path := rfl

@[simp] theorem owner_withHandshake : (v.withHandshake key hs).owner = v.owner := rfl

@[simp] theorem handshake_withPath : (v.withPath key cached).handshake = v.handshake := rfl

@[simp] theorem path_withPath : (v.withPath key cached).path key = cached := Function.update_self ..

theorem withPath_eq_self {v : PunchView} {key : PeerKey} (apart : v.path key = none) : v.withPath key none = v := by
  rw [withPath, ← apart, Function.update_eq_self]

@[simp] theorem owner_withPath : (v.withPath key cached).owner = v.owner := rfl

@[simp] theorem handshake_withOwner (owner : Option PeerKey) : (v.withOwner id owner).handshake = v.handshake := rfl

@[simp] theorem path_withOwner (owner : Option PeerKey) : (v.withOwner id owner).path = v.path := rfl

@[simp] theorem owner_withOwner (owner : Option PeerKey) : (v.withOwner id owner).owner id = owner := Function.update_self ..

theorem owner_withOwner_of_ne {other : Ticket} (ne : other ≠ id) (owner : Option PeerKey) :
    (v.withOwner id owner).owner other = v.owner other := Function.update_of_ne ne ..

@[simp] theorem handshake_drawing : (v.drawing count).handshake = v.handshake := rfl

@[simp] theorem path_drawing : (v.drawing count).path = v.path := rfl

@[simp] theorem owner_drawing : (v.drawing count).owner = v.owner := rfl

end PunchView

namespace Puncher

def view (p : Puncher) : PunchView :=
  ⟨p.me, p.halted, p.handshakes.get?, p.paths.get?, p.byPing.get?, p.probes.get?, p.drawn⟩

/-- A handshake that has sent its requests once more. -/
def attempted (hs : Handshake) : Handshake :=
  { hs with stage := if hs.stage = .registered then .connectRequested else hs.stage, parent := (nextParent? hs).or hs.parent }

/-- What an attempt of a handshake sends. -/
def attempt (p : Puncher) (c : Surroundings) (hs : Handshake) : List PunchEffect :=
  let source := p.contactAt c hs.punchPort
  (nextParent? hs).toList.map (fun parent =>
    .send { Message.plain source parent (.connectRequest hs.target false) with ticket := hs.pingId }) ++
  [.send { Message.plain source (.ofSocket hs.remote hs.target.node) .punchPing with ticket := hs.pingId }]

theorem sendAttempt_spec {p : Puncher} {c : Surroundings} {key : PeerKey} {hs : Handshake} (found : p.view.handshake key = some hs) :
    (p.sendAttempt c key).1.view = p.view.withHandshake key (some (attempted hs)) ∧ (p.sendAttempt c key).2 = p.attempt c hs := by
  have known : p.handshakes.get? key = some hs := found
  simp only [sendAttempt, known, view, PunchView.withHandshake, Table.get?_insert_eq_update, attempted, attempt, and_self]

/-- The handshake that is begun, before its first attempt. -/
def opening (p : Puncher) (c : Surroundings) (target : Contact) (remote : Socket) (punchPort : UInt16) (allocated : List UInt16)
    (parent : Option Address) (responder : Bool) : Handshake where
  target := target
  remote := remote
  allocated := allocated
  punchPort := punchPort
  attempt := 0
  retriesLeft := p.retries
  rto := p.backoff.first
  stage := .registered
  deadline := c.now + p.handshakeLimit
  retryId := c.chance.ticket (p.drawn + 1)
  deadlineId := c.chance.ticket (p.drawn + 2)
  pingId := c.chance.ticket p.drawn
  parent := parent
  refused := []
  responder := responder

theorem begin_spec {p : Puncher} {c : Surroundings} {target : Contact} {remote : Socket} {punchPort : UInt16}
    {allocated : List UInt16} {parent : Option Address} {responder : Bool} {hs : Handshake}
    (same : hs = p.opening c target remote punchPort allocated parent responder) :
    (p.begin c target remote punchPort allocated parent responder).1.view =
      ((p.view.withOwner hs.pingId (some target.key)).withHandshake target.key (some (attempted hs))).drawing 3 ∧
    (p.begin c target remote punchPort allocated parent responder).2 = p.attempt c hs := by
  subst same
  let ready : Puncher := { (((p.draw c).2.draw c).2.draw c).2 with
    alarms := ((p.alarms.arm (c.chance.ticket (p.drawn + 1)) (c.now + p.backoff.first)
      (.retry target.key (c.chance.ticket (p.drawn + 1)))).arm (c.chance.ticket (p.drawn + 2)) (c.now + p.handshakeLimit)
      (.deadline target.key (c.chance.ticket (p.drawn + 2))))
    handshakes := p.handshakes.insert target.key (p.opening c target remote punchPort allocated parent responder)
    byPing := p.byPing.insert (c.chance.ticket p.drawn) target.key }
  have found : ready.view.handshake target.key = some (p.opening c target remote punchPort allocated parent responder) := by
    simp [ready, view, Table.get?_insert]
  have started := sendAttempt_spec (c := c) found
  refine ⟨started.1.trans ?_, started.2⟩
  simp only [ready, view, PunchView.withHandshake, PunchView.withOwner, PunchView.drawing, Table.get?_insert_eq_update,
    Function.update_idem, opening, draw]

/-- What giving up a path asks for. -/
def closing (key : PeerKey) : Option CachedPath → List PunchEffect
  | some cached => releasing cached.allocated ++ [.report (.pathClosed key cached.path)]
  | none => []

theorem closePath_spec (p : Puncher) (key : PeerKey) :
    (p.closePath key).1.view = p.view.withPath key none ∧ (p.closePath key).2 = closing key (p.view.path key) := by
  unfold closePath
  cases found : p.paths.get? key with
  | none =>
    have known : p.view.path key = none := found
    simp only [known, closing, and_true, PunchView.withPath]
    rw [← known, Function.update_eq_self]
  | some cached =>
    have known : p.view.path key = some cached := found
    simp only [known, closing, and_true, PunchView.withPath]
    simp only [view, Table.get?_erase_eq_update, cancel]

/-- The handshake gives way to a path; what an older path held is released. -/
theorem verify_spec {p : Puncher} {key : PeerKey} {remote : Socket} {hs : Handshake} {path : Path}
    (found : p.view.handshake key = some hs) (same : path = ⟨remote, hs.punchPort⟩) (c : Surroundings) :
    (p.verify c key remote).1.view = (((p.view.withHandshake key none).withOwner hs.pingId none).withPath key
      (some ⟨path, hs.allocated, c.chance.ticket p.drawn⟩)).drawing 1 ∧
    (p.verify c key remote).2 = releasing (((p.view.path key).map (·.allocated)).getD []) ++
      hs.parent.toList.map (fun parent => PunchEffect.send
        (Message.plain (p.contactAt c p.mainPort) parent (.deleteConnection hs.target.node))) ++
      [.report (.verified key hs.target path)] := by
  subst same
  have known : p.handshakes.get? key = some hs := found
  have paths : (p.forget key hs).paths = p.paths := rfl
  unfold verify
  simp only [known]
  cases old : p.paths.get? key with
  | none =>
    have knownOld : p.view.path key = none := old
    simp only [draw, arm, paths, old, knownOld]
    refine ⟨?_, rfl⟩
    simp only [view, forget, cancel, PunchView.withHandshake, PunchView.withOwner, PunchView.withPath, PunchView.drawing,
      Table.get?_insert_eq_update, Table.get?_erase_eq_update]
  | some cached =>
    have knownOld : p.view.path key = some cached := old
    simp only [draw, arm, paths, old, knownOld]
    refine ⟨?_, rfl⟩
    simp only [view, forget, cancel, PunchView.withHandshake, PunchView.withOwner, PunchView.withPath, PunchView.drawing,
      Table.get?_insert_eq_update, Table.get?_erase_eq_update]

theorem insert_handshake (p : Puncher) (key : PeerKey) (hs : Handshake) :
    ({ p with handshakes := p.handshakes.insert key hs } : Puncher).view.handshake key = some hs := by
  simp [view, Table.get?_insert]

/-- While a handshake is under way, it goes on towards the address that the parent saw. -/
theorem onForwarded_spec_of_handshake {p : Puncher} {c : Surroundings} {initiator : Contact} {parent : Address} {hs moved : Handshake}
    (found : p.view.handshake initiator.key = some hs)
    (same : moved = { hs with remote := initiator.address.socket, parent := hs.parent.or (some parent) }) :
    (p.onForwarded c initiator parent).1.view = p.view.withHandshake initiator.key (some (attempted moved)) ∧
    (p.onForwarded c initiator parent).2 = p.attempt c moved := by
  have known : p.handshakes.get? initiator.key = some hs := found
  have started := sendAttempt_spec (c := c) (p.insert_handshake initiator.key moved)
  subst same
  unfold onForwarded
  simp only [known]
  refine ⟨started.1.trans ?_, started.2⟩
  simp only [view, PunchView.withHandshake, Table.get?_insert_eq_update, Function.update_idem]

/-- Without a handshake, an old path gives way to a new one from the main port. -/
theorem onForwarded_spec_of_none {p : Puncher} {c : Surroundings} {initiator : Contact} {parent : Address} {hs : Handshake}
    (absent : p.view.handshake initiator.key = none)
    (same : hs = p.opening c initiator initiator.address.socket p.mainPort [] (some parent) true) :
    (p.onForwarded c initiator parent).1.view = (((p.view.withPath initiator.key none).withOwner hs.pingId
      (some initiator.key)).withHandshake initiator.key (some (attempted hs))).drawing 3 ∧
    (p.onForwarded c initiator parent).2 = closing initiator.key (p.view.path initiator.key) ++ p.attempt c hs := by
  have unknown : p.handshakes.get? initiator.key = none := absent
  have closed := closePath_spec p initiator.key
  have unmoved : (p.closePath initiator.key).1.opening c initiator initiator.address.socket p.mainPort [] (some parent) true = hs ∧
      (p.closePath initiator.key).1.mainPort = p.mainPort ∧ ∀ hs, (p.closePath initiator.key).1.attempt c hs = p.attempt c hs := by
    rw [same]
    unfold closePath
    cases p.paths.get? initiator.key with
    | none => exact ⟨rfl, rfl, fun _ => rfl⟩
    | some cached => exact ⟨rfl, rfl, fun _ => rfl⟩
  obtain ⟨opened, main, sends⟩ := unmoved
  have begun := begin_spec (p := (p.closePath initiator.key).1) (c := c) opened.symm
  unfold onForwarded
  simp only [unknown, followedBy, main]
  rw [begun.1, begun.2, closed.1, closed.2, sends]
  exact ⟨rfl, rfl⟩

/-- The answer to a ping. -/
def pong (p : Puncher) (c : Surroundings) (ping : Message) (remote here : Socket) : Message :=
  { Message.plain (p.contactAt c here.port) (.ofSocket remote ping.source.node) .punchPong with ticket := ping.ticket }

theorem onPing_eq_of_none {p : Puncher} {c : Surroundings} {ping : Message} {remote here : Socket}
    (absent : p.view.handshake ping.source.key = none) :
    p.onPing c ping remote here = (p, [.send (p.pong c ping remote here)]) := by
  have unknown : p.handshakes.get? ping.source.key = none := absent
  simp only [onPing, unknown, pong]

theorem onPing_spec_of_same {p : Puncher} {c : Surroundings} {ping : Message} {remote : Socket} {hs : Handshake}
    (found : p.view.handshake ping.source.key = some hs) (aimed : hs.remote = remote) (here : Socket) :
    (p.onPing c ping remote here).1.view = p.view.withHandshake ping.source.key (some { hs with stage := .holeOpen }) ∧
    (p.onPing c ping remote here).2 = [.send (p.pong c ping remote here)] := by
  have known : p.handshakes.get? ping.source.key = some hs := found
  subst aimed
  simp only [onPing, known, followedBy, pong, ne_eq, not_true_eq_false, if_false, List.append_nil, and_true, view,
    PunchView.withHandshake, Table.get?_insert_eq_update]

/-- A ping from elsewhere moves the handshake there. -/
theorem onPing_spec_of_moved {p : Puncher} {c : Surroundings} {ping : Message} {remote : Socket} {hs moved : Handshake}
    (found : p.view.handshake ping.source.key = some hs) (elsewhere : hs.remote ≠ remote)
    (same : moved = { hs with stage := .holeOpen, remote }) (here : Socket) :
    (p.onPing c ping remote here).1.view = p.view.withHandshake ping.source.key (some (attempted moved)) ∧
    (p.onPing c ping remote here).2 = .send (p.pong c ping remote here) :: p.attempt c moved := by
  have known : p.handshakes.get? ping.source.key = some hs := found
  have started := sendAttempt_spec (c := c) (p.insert_handshake ping.source.key moved)
  subst same
  simp only [onPing, known, followedBy, ne_eq, elsewhere, not_false_eq_true, if_true]
  refine ⟨started.1.trans ?_, congrArg _ started.2⟩
  simp only [view, PunchView.withHandshake, Table.get?_insert_eq_update, Function.update_idem]

theorem onPong_eq_verify {p : Puncher} {pong : Message} {key : PeerKey} (owned : p.view.owner pong.ticket = some key)
    (c : Surroundings) (remote : Socket) : p.onPong c pong remote = p.verify c key remote := by
  have known : p.byPing.get? pong.ticket = some key := owned
  simp only [onPong, known]

/-- A pong that nobody waits for changes nothing. -/
theorem onPong_eq_self {p : Puncher} {pong : Message} (stray : p.view.owner pong.ticket = none)
    (unprobed : p.view.probe pong.ticket = none) (c : Surroundings) (remote : Socket) :
    p.onPong c pong remote = (p, []) := by
  have unknown : p.byPing.get? pong.ticket = none := stray
  have unasked : p.probes.get? pong.ticket = none := unprobed
  simp only [onPong, unknown, unasked]

theorem onConnectResponse_success (p : Puncher) (response : Message) (target : UInt32) :
    p.onConnectResponse response .success target = (p, []) := by
  unfold onConnectResponse
  split
  · rfl
  · split
    · rename_i refused
      cases refused
    · rfl

/-- The port that a handshake with a target is punched from, and the ports that are its own, where the endpoint gives
`ports`. -/
def punching (p : Puncher) (target : Contact) (ports : List UInt16) : UInt16 × List UInt16 :=
  if target.nat.mapping = .endpointIndependent then (p.mainPort, []) else (ports.head?.getD p.mainPort, ports)

theorem connect_eq_begin {p : Puncher} {c : Surroundings} {target : Contact} (apart : p.view.path target.key = none)
    (idle : p.view.handshake target.key = none) (allowed : p.refusal? c target = none) (ports : List UInt16) :
    p.connect c target (.ok ports) =
      p.begin c target target.address.socket (p.punching target ports).1 (p.punching target ports).2 none false := by
  have noPath : p.paths.get? target.key = none := apart
  have noHandshake : p.handshakes.contains target.key = false := by
    rw [Table.contains_eq_isSome, Option.isSome_eq_false_iff, Option.isNone_iff_eq_none]
    exact idle
  by_cases independent : target.nat.mapping = .endpointIndependent
  · simp only [connect, noPath, noHandshake, allowed, punching, independent, Bool.false_eq_true, if_false, if_true]
  · simp only [connect, noPath, noHandshake, allowed, punching, independent, Bool.false_eq_true, if_false]

theorem wantsPort_eq {p : Puncher} {c : Surroundings} {target : Contact} (apart : p.view.path target.key = none)
    (idle : p.view.handshake target.key = none) (allowed : p.refusal? c target = none) :
    p.wantsPort c target = (target.nat.mapping != .endpointIndependent) := by
  have noPath : p.paths.contains target.key = false := by
    rw [Table.contains_eq_isSome, Option.isSome_eq_false_iff, Option.isNone_iff_eq_none]
    exact apart
  have noHandshake : p.handshakes.contains target.key = false := by
    rw [Table.contains_eq_isSome, Option.isSome_eq_false_iff, Option.isNone_iff_eq_none]
    exact idle
  simp only [wantsPort, noPath, noHandshake, allowed, Bool.not_false, Option.isNone_none, Bool.and_self, Bool.true_and]

theorem wantsPort_of_known {p : Puncher} {target : Contact} (c : Surroundings)
    (known : p.view.handshake target.key ≠ none ∨ p.view.path target.key ≠ none) : p.wantsPort c target = false := by
  rcases known with shaking | settled
  · have contained : p.handshakes.contains target.key = true := by
      rw [Table.contains_eq_isSome]
      exact Option.isSome_iff_ne_none.mpr shaking
    simp [wantsPort, contained]
  · have contained : p.paths.contains target.key = true := by
      rw [Table.contains_eq_isSome]
      exact Option.isSome_iff_ne_none.mpr settled
    simp [wantsPort, contained]

theorem connect_eq_of_path {p : Puncher} {c : Surroundings} {target : Contact} {grant : Except LinkError (List UInt16)}
    {cached : CachedPath} (found : p.view.path target.key = some cached) :
    p.connect c target grant = (p, [.report (.verified target.key target cached.path)]) := by
  have known : p.paths.get? target.key = some cached := found
  simp only [connect, known]

theorem connect_eq_of_handshake {p : Puncher} {c : Surroundings} {target : Contact} {grant : Except LinkError (List UInt16)}
    {hs : Handshake} (apart : p.view.path target.key = none) (found : p.view.handshake target.key = some hs) :
    p.connect c target grant = (p, []) := by
  have noPath : p.paths.get? target.key = none := apart
  have known : p.handshakes.contains target.key = true := by
    rw [Table.contains_eq_isSome, Option.isSome_iff_exists]
    exact ⟨hs, found⟩
  simp only [connect, noPath, known, if_true]

end Puncher

end NatTraversal
