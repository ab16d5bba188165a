import NatTraversal.Proofs.Network.Parties

namespace NatTraversal

namespace Peer

variable {parties : Parties} {side : Side} {x : Peer} {packet : Packet} (now : Nat) {port : UInt16} {dest : Socket} {id : Ticket}

theorem handle_inbound (plays : x.Plays parties side) (message : Message) (remote here : Socket) :
    x.handle now (.inbound message remote here) =
      ({ x with puncher := (x.puncher.inbound (x.surroundings now) message remote here).1 }).perform
        (x.puncher.inbound (x.surroundings now) message remote here).2 := by
  simp only [handle, Puncher.handle, plays.awake, Bool.false_eq_true, if_false]

theorem post_puncher (x : Peer) (p : Puncher) : ({ x with puncher := p } : Peer).post = x.post := rfl

/-- A peer that has sent packets and told of events, and holds what it held. -/
theorem outcome_of_view {p : Puncher} {view : PunchView} {events : List PunchEvent} {packets : List Packet} {signals : List Signal}
    (plays : x.Plays parties side) (same : p.view = view) (me : view.me = x.puncher.me) (awake : view.halted = x.puncher.halted)
    (carried : List.Forall₂ parties.Carries packets signals) :
    Outcome parties side x view (fun socket => x.holds socket = true) events signals
      ({ x with puncher := p, log := x.log ++ events }, packets) where
  plays := by
    refine ⟨?_, plays.roster, plays.chance, ?_, plays.filed⟩
    · rw [← plays.me, ← me, ← same]
      rfl
    · rw [← plays.awake, ← awake, ← same]
      rfl
  view := same
  held _ := Iff.rfl
  log := rfl
  packets := carried

theorem outcome_of_packets {p : Puncher} {view : PunchView} {packets : List Packet} {signals : List Signal}
    (plays : x.Plays parties side) (same : p.view = view) (me : view.me = x.puncher.me) (awake : view.halted = x.puncher.halted)
    (carried : List.Forall₂ parties.Carries packets signals) :
    Outcome parties side x view (fun socket => x.holds socket = true) [] signals ({ x with puncher := p }, packets) := by
  have whole : Outcome parties side x view (fun socket => x.holds socket = true) [] signals
      ({ x with puncher := p, log := x.log ++ [] }, packets) := outcome_of_view plays same me awake carried
  rw [List.append_nil] at whole
  exact whole

/-- The answer to a ping goes out from where the ping has come in. -/
theorem post_pong (plays : x.Plays parties side) (carries : parties.Carries packet (.ping side.other port dest id))
    {q : UInt16} (here : dest = parties.socket side q) (held : x.holds dest = true) :
    ∃ pong, x.post (x.puncher.pong (x.surroundings now) packet.message packet.source packet.dest) = [pong] ∧
      parties.Carries pong (.pong dest (parties.socket side.other port) id) := by
  obtain ⟨source, target, _, _, ticket⟩ := carries
  have contact : x.puncher.contactAt (x.surroundings now) packet.dest.port = parties.contactAt side q := by
    simp only [Puncher.contactAt, Parties.contactAt, Parties.contact, surroundings, plays.me, plays.roster, target, here]
    rfl
  refine ⟨_, post_of_holds held ?_, rfl, ?_, rfl, ticket⟩
  · simp only [Puncher.pong, Message.plain, Message.sourceSocket, contact, parties.contactAt_socket, here]
  · simp only [Puncher.pong, Message.plain, Message.destSocket, source]
    rfl

theorem on_ping_of_none (plays : x.Plays parties side) (carries : parties.Carries packet (.ping side.other port dest id))
    {q : UInt16} (here : dest = parties.socket side q) (held : x.holds dest = true)
    (idle : x.puncher.view.handshake (parties.key side.other) = none) :
    Outcome parties side x x.puncher.view (fun socket => x.holds socket = true) []
      [.pong dest (parties.socket side.other port) id]
      (x.handle now (.inbound packet.message packet.source packet.dest)) := by
  obtain ⟨pong, sent, carried⟩ := post_pong now plays carries here held
  obtain ⟨_, _, contact, body, _⟩ := carries
  have key : packet.message.source.key = parties.key side.other := by rw [contact, parties.contactAt_key]
  have absent : x.puncher.view.handshake packet.message.source.key = none := by rw [key, idle]
  rw [handle_inbound now plays]
  simp only [Puncher.inbound, body, Puncher.onPing_eq_of_none absent, perform, List.append_nil, sent]
  exact outcome_of_packets plays rfl rfl rfl (.cons carried .nil)

/-- A ping from where the handshake already aims at. -/
theorem on_ping_of_same {hs : Handshake} (plays : x.Plays parties side)
    (carries : parties.Carries packet (.ping side.other port dest id)) {q : UInt16} (here : dest = parties.socket side q)
    (held : x.holds dest = true) (found : x.puncher.view.handshake (parties.key side.other) = some hs)
    (aimed : hs.remote = parties.socket side.other port) :
    Outcome parties side x (x.puncher.view.withHandshake (parties.key side.other) (some { hs with stage := .holeOpen }))
      (fun socket => x.holds socket = true) [] [.pong dest (parties.socket side.other port) id]
      (x.handle now (.inbound packet.message packet.source packet.dest)) := by
  obtain ⟨pong, sent, carried⟩ := post_pong now plays carries here held
  obtain ⟨source, _, contact, body, _⟩ := carries
  have key : packet.message.source.key = parties.key side.other := by rw [contact, parties.contactAt_key]
  have present : x.puncher.view.handshake packet.message.source.key = some hs := by rw [key, found]
  have step := Puncher.onPing_spec_of_same (c := x.surroundings now) present (aimed.trans source.symm) packet.dest
  rw [key] at step
  rw [handle_inbound now plays]
  simp only [Puncher.inbound, body, step.2, perform, List.append_nil, post_puncher, sent]
  exact outcome_of_packets plays step.1 rfl rfl (.cons carried .nil)

/-- A ping from elsewhere has the handshake ping there. -/
theorem on_ping_of_moved {hs moved : Handshake} (plays : x.Plays parties side)
    (carries : parties.Carries packet (.ping side.other port dest id)) {q : UInt16} (here : dest = parties.socket side q)
    (held : x.holds dest = true) (found : x.puncher.view.handshake (parties.key side.other) = some hs)
    (shakes : parties.Shakes side hs) (punch : x.holds (parties.socket side hs.punchPort) = true)
    (elsewhere : hs.remote ≠ parties.socket side.other port)
    (same : moved = { hs with stage := .holeOpen, remote := parties.socket side.other port }) :
    Outcome parties side x (x.puncher.view.withHandshake (parties.key side.other) (some (Puncher.attempted moved)))
      (fun socket => x.holds socket = true) []
      (.pong dest (parties.socket side.other port) id :: Parties.attempt side moved)
      (x.handle now (.inbound packet.message packet.source packet.dest)) := by
  obtain ⟨pong, sent, carried⟩ := post_pong now plays carries here held
  obtain ⟨source, _, contact, body, _⟩ := carries
  have key : packet.message.source.key = parties.key side.other := by rw [contact, parties.contactAt_key]
  have present : x.puncher.view.handshake packet.message.source.key = some hs := by rw [key, found]
  have step := Puncher.onPing_spec_of_moved (c := x.surroundings now) present (source ▸ elsewhere) rfl packet.dest
  have still : parties.Shakes side moved := same ▸ shakes.moved .holeOpen port
  rw [key, source, ← same, ← source] at step
  rw [handle_inbound now plays]
  simp only [Puncher.inbound, body, step.2, perform, post_puncher, sent]
  obtain ⟨packets, attempted, carriedAll⟩ := perform_attempt (p := x.puncher) (c := x.surroundings now)
    (x := { x with puncher := (x.puncher.onPing (x.surroundings now) packet.message packet.source packet.dest).1 })
    plays.me plays.roster still (by rw [same]; exact punch)
  rw [attempted]
  exact outcome_of_packets plays step.1 rfl rfl (.cons carried carriedAll)

/-- The pong of the handshake's own ping turns it into a path, and the server is told. -/
theorem on_pong_of_owner {hs : Handshake} {source : Socket} (plays : x.Plays parties side)
    (carries : parties.Carries packet (.pong source dest id)) (owned : x.puncher.view.owner id = some (parties.key side.other))
    (found : x.puncher.view.handshake (parties.key side.other) = some hs) (shakes : parties.Shakes side hs)
    (apart : x.puncher.view.path (parties.key side.other) = none) (main : x.holds (parties.main side) = true) :
    Outcome parties side x
      ((((x.puncher.view.withHandshake (parties.key side.other) none).withOwner hs.pingId none).withPath (parties.key side.other)
        (some ⟨⟨source, hs.punchPort⟩, hs.allocated, x.chance.ticket x.puncher.drawn⟩)).drawing 1)
      (fun socket => x.holds socket = true) [.verified (parties.key side.other) hs.target ⟨source, hs.punchPort⟩]
      [.delete side] (x.handle now (.inbound packet.message packet.source packet.dest)) := by
  obtain ⟨origin, _, body, ticket⟩ := carries
  have owner : x.puncher.view.owner packet.message.ticket = some (parties.key side.other) := by rw [ticket, owned]
  have verified := Puncher.onPong_eq_verify owner (x.surroundings now) packet.source
  have path : (⟨source, hs.punchPort⟩ : Path) = ⟨packet.source, hs.punchPort⟩ := by rw [origin]
  have step := Puncher.verify_spec found path (x.surroundings now)
  have contact : x.puncher.contactAt (x.surroundings now) x.puncher.mainPort = parties.contactAt side (parties.mainPort side) := by
    simp only [Puncher.contactAt, Puncher.mainPort, Parties.contactAt, Parties.contact, Parties.mainPort, surroundings, plays.me,
      plays.roster]
  have sent : x.post (Message.plain (x.puncher.contactAt (x.surroundings now) x.puncher.mainPort) parties.relay.address
      (.deleteConnection hs.target.node)) = [⟨parties.main side, parties.hub, Message.plain
        (parties.contactAt side (parties.mainPort side)) parties.relay.address (.deleteConnection hs.target.node)⟩] := by
    rw [contact]
    refine post_of_holds main ?_
    rw [Message.sourceSocket, Message.plain, parties.contactAt_socket]
    rfl
  rw [handle_inbound now plays]
  simp only [Puncher.inbound, body, verified, step.2, apart, shakes.parent, Option.map_none, Option.getD_none, Puncher.releasing,
    List.isEmpty_nil, if_true, List.nil_append, Option.toList_some, List.map_cons, List.map_nil, List.cons_append, perform,
    List.append_nil, post_puncher, sent]
  refine outcome_of_view plays step.1 rfl rfl (.cons ⟨rfl, ?_, ?_⟩ .nil)
  · exact parties.contactAt_node ..
  · rw [← shakes.node]
    rfl

/-- A pong that nobody waits for is passed over. -/
theorem on_pong_of_none {source : Socket} (plays : x.Plays parties side) (carries : parties.Carries packet (.pong source dest id))
    (stray : x.puncher.view.owner id = none) (unprobed : x.puncher.view.probe id = none) :
    Outcome parties side x x.puncher.view (fun socket => x.holds socket = true) [] []
      (x.handle now (.inbound packet.message packet.source packet.dest)) := by
  obtain ⟨_, _, body, ticket⟩ := carries
  have passed := Puncher.onPong_eq_self (ticket ▸ stray) (ticket ▸ unprobed) (x.surroundings now) packet.source
  rw [handle_inbound now plays]
  simp only [Puncher.inbound, body, passed, perform]
  exact outcome_of_packets plays rfl rfl rfl .nil

theorem on_answer (plays : x.Plays parties side) (carries : parties.Carries packet (.answer dest)) :
    Outcome parties side x x.puncher.view (fun socket => x.holds socket = true) [] []
      (x.handle now (.inbound packet.message packet.source packet.dest)) := by
  obtain ⟨_, target, body⟩ := carries
  rw [handle_inbound now plays]
  simp only [Puncher.inbound, body, Puncher.onConnectResponse_success, perform]
  exact outcome_of_packets plays rfl rfl rfl .nil

/-- A forwarded request has a handshake that is under way ping the other's punch port. -/
theorem on_forward_of_handshake {hs moved : Handshake} (plays : x.Plays parties side)
    (carries : parties.Carries packet (.forward side.other port))
    (found : x.puncher.view.handshake (parties.key side.other) = some hs)
    (shakes : parties.Shakes side hs) (punch : x.holds (parties.socket side hs.punchPort) = true)
    (same : moved = { hs with remote := parties.socket side.other port, parent := hs.parent.or (some parties.relay.address) }) :
    Outcome parties side x (x.puncher.view.withHandshake (parties.key side.other) (some (Puncher.attempted moved)))
      (fun socket => x.holds socket = true) [] (Parties.attempt side moved)
      (x.handle now (.inbound packet.message packet.source packet.dest)) := by
  obtain ⟨_, parent, body⟩ := carries
  have key : (parties.contactAt side.other port).key = parties.key side.other := parties.contactAt_key ..
  have still : parties.Shakes side moved := same ▸ shakes.redirected parties.relay.address port
  have step := Puncher.onForwarded_spec_of_handshake (c := x.surroundings now) (key ▸ found)
    (same.trans (by rw [← parties.contactAt_socket]))
  rw [handle_inbound now plays]
  simp only [Puncher.inbound, body, parent, step.2]
  obtain ⟨packets, attempted, carriedAll⟩ := perform_attempt (p := x.puncher) (c := x.surroundings now)
    (x := { x with puncher :=
      (x.puncher.onForwarded (x.surroundings now) (parties.contactAt side.other port) parties.relay.address).1 })
    plays.me plays.roster still (by rw [same]; exact punch)
  rw [attempted]
  exact outcome_of_packets plays (key ▸ step.1) rfl rfl carriedAll

theorem perform_releasing (x : Peer) (filed : x.endpoint.udp.Filed) (ports : List UInt16) :
    ∃ endpoint, x.perform (Puncher.releasing ports) = ({ x with endpoint }, []) ∧ endpoint.udp.Filed ∧
      ∀ socket, endpoint.udp.holds socket = true ↔ x.holds socket = true ∧ socket.port ∉ ports := by
  unfold Puncher.releasing
  cases ports with
  | nil => exact ⟨x.endpoint, rfl, filed, fun socket => by simp [holds]⟩
  | cons port ports =>
    have udp : (x.endpoint.table .udp).Filed := filed
    obtain ⟨held, still⟩ := Endpoint.release_spec udp (port :: ports)
    exact ⟨_, rfl, still, held⟩

/-- What closing a path does to a peer. -/
theorem perform_closing (old : Option CachedPath) (plays : x.Plays parties side) (key : PeerKey) :
    ∃ y, y.puncher = x.puncher ∧
      x.perform (Puncher.closing key old) = (y, []) ∧ y.Plays parties side ∧
      y.log = x.log ++ old.toList.map (fun cached => .pathClosed key cached.path) ∧
      ∀ socket, y.holds socket = true ↔ x.holds socket = true ∧ ∀ cached, old = some cached → socket.port ∉ cached.allocated := by
  cases old with
  | none => exact ⟨x, rfl, rfl, plays, by simp, fun socket => by simp⟩
  | some cached =>
    obtain ⟨endpoint, released, filed, held⟩ := perform_releasing x plays.filed cached.allocated
    refine ⟨{ x with endpoint, log := x.log ++ [.pathClosed key cached.path] }, rfl, ?_,
      ⟨plays.me, plays.roster, plays.chance, plays.awake, filed⟩, rfl, ?_⟩
    · rw [Puncher.closing, perform_append, released]
      rfl
    · intro socket
      refine (held socket).trans ?_
      simp

/-- The handshake that a forwarded request begins. -/
def responding (parties : Parties) (side : Side) (x : Peer) (now : Nat) (port : UInt16) : Handshake :=
  x.puncher.opening (x.surroundings now) (parties.contactAt side.other port) (parties.socket side.other port)
    (parties.mainPort side) [] (some parties.relay.address) true

theorem responding_shakes (parties : Parties) (side : Side) (x : Peer) (now : Nat) (port : UInt16) :
    parties.Shakes side (responding parties side x now port) where
  key := parties.contactAt_key ..
  remote := ⟨port, rfl⟩
  parent := rfl
  next := rfl
  request := by intro initiates; cases initiates

/-- Without a handshake, a forwarded request closes the old path, releases its ports and begins a handshake from the
main port. -/
theorem on_forward_of_none {hs : Handshake} {old : Option CachedPath} (plays : x.Plays parties side)
    (carries : parties.Carries packet (.forward side.other port))
    (idle : x.puncher.view.handshake (parties.key side.other) = none) (path : x.puncher.view.path (parties.key side.other) = old)
    (main : x.holds (parties.main side) = true) (kept : ∀ cached, old = some cached → parties.mainPort side ∉ cached.allocated)
    (same : hs = responding parties side x now port) :
    Outcome parties side x
      ((((x.puncher.view.withPath (parties.key side.other) none).withOwner hs.pingId (some (parties.key side.other))).withHandshake
        (parties.key side.other) (some (Puncher.attempted hs))).drawing 3)
      (fun socket => x.holds socket = true ∧ ∀ cached, old = some cached → socket.port ∉ cached.allocated)
      (old.toList.map fun cached => .pathClosed (parties.key side.other) cached.path) (Parties.attempt side hs)
      (x.handle now (.inbound packet.message packet.source packet.dest)) := by
  obtain ⟨_, parent, body⟩ := carries
  have key : (parties.contactAt side.other port).key = parties.key side.other := parties.contactAt_key ..
  have opening : hs = x.puncher.opening (x.surroundings now) (parties.contactAt side.other port)
      (parties.contactAt side.other port).address.socket x.puncher.mainPort [] (some parties.relay.address) true := by
    rw [same, parties.contactAt_socket, responding, Puncher.mainPort, plays.me]
    rfl
  have step := Puncher.onForwarded_spec_of_none (key ▸ idle) opening
  rw [key, path] at step
  have shakes : parties.Shakes side hs := same ▸ responding_shakes parties side x now port
  have punch : hs.punchPort = parties.mainPort side := by rw [same]; rfl
  have playing : Plays parties side { x with puncher :=
      (x.puncher.onForwarded (x.surroundings now) (parties.contactAt side.other port) parties.relay.address).1 } :=
    (outcome_of_packets plays step.1 rfl rfl .nil).plays
  obtain ⟨y, after, closing, playsStill, log, held⟩ := perform_closing old playing (parties.key side.other)
  have mainStill : y.holds (parties.socket side hs.punchPort) = true := by
    rw [held, punch]
    exact ⟨main, kept⟩
  obtain ⟨packets, attempted, carried⟩ := perform_attempt (p := x.puncher) (c := x.surroundings now) plays.me plays.roster shakes
    mainStill
  rw [handle_inbound now plays]
  simp only [Puncher.inbound, body, parent]
  rw [step.2, perform_append, closing, attempted, List.nil_append]
  exact ⟨playsStill, after ▸ step.1, held, log, carried⟩

/-- The handshake that a node begins of its own, from a punch port and with the ports that are its own. -/
def calling (parties : Parties) (side : Side) (x : Peer) (now : Nat) (punch : UInt16 × List UInt16) : Handshake :=
  x.puncher.opening (x.surroundings now) (parties.contact side.other) (parties.main side.other) punch.1 punch.2 none false

theorem calling_shakes (x : Peer) (now : Nat) (punch : UInt16 × List UInt16) (natted : (parties.contact side.other).isOpen = false)
    (parents : (parties.contact side.other).parents = [parties.relay.address]) :
    parties.Shakes side (Puncher.attempted (calling parties side x now punch)) := by
  have next : Puncher.nextParent? (calling parties side x now punch) = some parties.relay.address := by
    simp [Puncher.nextParent?, calling, Puncher.opening, natted, parents]
  refine ⟨(parties.me side.other).contact_key _, ⟨_, rfl⟩, ?_, next, fun _ => rfl⟩
  simp only [Puncher.attempted, next, Option.some_or]

/-- A node with a parent, or that needs none, may begin with a node that has one. -/
theorem may_connect (plays : x.Plays parties side) (target : (parties.contact side.other).parents ≠ [])
    (own : ((parties.me side).nat (parties.roster side)).isOpen = true ∨ (parties.me side).parents (parties.roster side) ≠ []) :
    x.puncher.refusal? (x.surroundings now) (parties.contact side.other) = none := by
  have asked : (parties.contact side.other).parents.isEmpty = false := List.isEmpty_eq_false_iff.mpr target
  have asks : (!(x.puncher.me.nat (x.surroundings now).roster).isOpen &&
      (x.puncher.me.parents (x.surroundings now).roster).isEmpty) = false := by
    rw [surroundings, plays.me, plays.roster]
    rcases own with opened | parent
    · simp [opened]
    · simp [parent]
  simp only [Puncher.refusal?, asked, asks, Bool.and_false, Bool.false_eq_true, if_false]

/-- Beginning a handshake with what the endpoint has given. -/
theorem handle_connect {ports : List UInt16} {hs : Handshake} (plays : x.Plays parties side)
    (natted : (parties.contact side.other).isOpen = false)
    (parents : (parties.contact side.other).parents = [parties.relay.address])
    (idle : x.puncher.view.handshake (parties.key side.other) = none) (apart : x.puncher.view.path (parties.key side.other) = none)
    (allowed : x.puncher.refusal? (x.surroundings now) (parties.contact side.other) = none)
    (same : hs = calling parties side x now (x.puncher.punching (parties.contact side.other) ports))
    (punch : x.holds (parties.socket side hs.punchPort) = true) :
    Outcome parties side x
      (((x.puncher.view.withOwner hs.pingId (some (parties.key side.other))).withHandshake (parties.key side.other)
        (some (Puncher.attempted hs))).drawing 3)
      (fun socket => x.holds socket = true) [] (Parties.attempt side hs)
      (x.handle now (.connect (parties.contact side.other) (.ok ports))) := by
  have key : (parties.contact side.other).key = parties.key side.other := (parties.me side.other).contact_key _
  have remote : (parties.contact side.other).address.socket = parties.main side.other := by
    rw [Parties.contact, Identity.contact_address]
    rfl
  have begun := Puncher.connect_eq_begin (key ▸ apart) (key ▸ idle) allowed ports
  have shakes : parties.Shakes side (Puncher.attempted hs) := same ▸ calling_shakes x now _ natted parents
  rw [remote] at begun
  have step := Puncher.begin_spec same
  rw [key] at step
  obtain ⟨packets, attempted, carried⟩ := perform_attempt (p := x.puncher) (c := x.surroundings now)
    (x := { x with puncher := (x.puncher.connect (x.surroundings now) (parties.contact side.other) (.ok ports)).1 })
    plays.me plays.roster shakes punch
  have sent : x.puncher.attempt (x.surroundings now) (Puncher.attempted hs) =
      (x.puncher.connect (x.surroundings now) (parties.contact side.other) (.ok ports)).2 := by
    rw [begun]
    exact step.2.symm
  rw [sent] at attempted
  simp only [handle, Puncher.handle, plays.awake, Bool.false_eq_true, if_false]
  rw [attempted]
  exact outcome_of_packets plays (begun ▸ step.1) rfl rfl carried

/-- A node that begins of its own punches from its main port or, where the other maps by destination and there is one
to have, from a fresh port. -/
theorem on_connect {system : Socket → BindAnswer} (plays : x.Plays parties side)
    (natted : (parties.contact side.other).isOpen = false)
    (parents : (parties.contact side.other).parents = [parties.relay.address])
    (idle : x.puncher.view.handshake (parties.key side.other) = none) (apart : x.puncher.view.path (parties.key side.other) = none)
    (allowed : x.puncher.refusal? (x.surroundings now) (parties.contact side.other) = none)
    (main : x.holds (parties.main side) = true) (asked : ∀ socket port, system socket = .bound port → port = socket.port) :
    ∃ punchPort allocated hs, hs = calling parties side x now (punchPort, allocated) ∧
      (allocated = [] ∧ punchPort = parties.mainPort side ∨
        allocated = [punchPort] ∧ (parties.contact side.other).nat.mapping ≠ .endpointIndependent ∧
          system (parties.socket side punchPort) = .bound punchPort) ∧
      Outcome parties side x
        (((x.puncher.view.withOwner hs.pingId (some (parties.key side.other))).withHandshake (parties.key side.other)
          (some (Puncher.attempted hs))).drawing 3)
        (fun socket => x.holds socket = true ∨ ∃ port ∈ allocated, socket = parties.socket side port) []
        (Parties.attempt side hs) (x.connect now system (parties.contact side.other)) := by
  have key : (parties.contact side.other).key = parties.key side.other := (parties.me side.other).contact_key _
  have wants := Puncher.wantsPort_eq (key ▸ apart) (key ▸ idle) allowed
  by_cases independent : (parties.contact side.other).nat.mapping = .endpointIndependent
  · have punching : x.puncher.punching (parties.contact side.other) [] = (parties.mainPort side, []) := by
      simp only [Puncher.punching, independent, if_true, Puncher.mainPort, plays.me, Parties.mainPort]
    have connects : x.connect now system (parties.contact side.other) =
        x.handle now (.connect (parties.contact side.other) (.ok [])) := by
      simp only [connect, wants, independent, bne_self_eq_false, Bool.and_false, Bool.false_eq_true, if_false]
    have outcome := handle_connect now plays natted parents idle apart allowed (congrArg _ punching.symm) main
    rw [← connects] at outcome
    exact ⟨parties.mainPort side, [], _, rfl, .inl ⟨rfl, rfl⟩, ⟨outcome.plays, outcome.view, by simpa using outcome.held,
      outcome.log, outcome.packets⟩⟩
  · obtain ⟨each, all, filed, few⟩ := Endpoint.alloc_spec asked x.chance (.v4 x.puncher.me.address.ip) 1 .udp x.endpoint
    have connects : x.connect now system (parties.contact side.other) =
        ({ x with endpoint := (x.endpoint.alloc x.chance system (.v4 x.puncher.me.address.ip) 1 .udp).2 } : Peer).handle now
          (.connect (parties.contact side.other) (.ok (x.endpoint.alloc x.chance system (.v4 x.puncher.me.address.ip) 1 .udp).1)) := by
      have wanted : (!x.puncher.halted && x.puncher.wantsPort (x.surroundings now) (parties.contact side.other)) = true := by
        simp [wants, independent, plays.awake]
      simp only [connect, wanted, if_true]
    generalize x.endpoint.alloc x.chance system (.v4 x.puncher.me.address.ip) 1 .udp = granted at *
    obtain ⟨ports, endpoint⟩ := granted
    have socket (port : UInt16) : (⟨.v4 x.puncher.me.address.ip, port⟩ : Socket) = parties.socket side port := by
      rw [plays.me]
      rfl
    simp only [socket] at each all
    have still : Plays parties side { x with endpoint } := ⟨plays.me, plays.roster, plays.chance, plays.awake, filed plays.filed⟩
    have punching : x.puncher.punching (parties.contact side.other) ports = (ports.head?.getD (parties.mainPort side), ports) := by
      simp only [Puncher.punching, independent, if_false, Puncher.mainPort, plays.me, Parties.mainPort]
    have punch : ({ x with endpoint } : Peer).holds (parties.socket side (ports.head?.getD (parties.mainPort side))) = true := by
      refine (all _).mpr ?_
      cases ports with
      | nil => exact .inl main
      | cons port ports => exact .inr ⟨port, List.mem_cons_self, rfl⟩
    have outcome := handle_connect now still natted parents idle apart allowed (congrArg _ punching.symm) punch
    rw [← connects] at outcome
    refine ⟨ports.head?.getD (parties.mainPort side), ports, _, rfl, ?_, ⟨outcome.plays, outcome.view, ?_, outcome.log,
      outcome.packets⟩⟩
    · cases ports with
      | nil => exact .inl ⟨rfl, rfl⟩
      | cons port ports =>
        obtain rfl : ports = [] := by
          rw [List.length_cons] at few
          exact List.length_eq_zero_iff.mp (by omega)
        exact .inr ⟨rfl, independent, (each port List.mem_cons_self).1⟩
    · intro one
      rw [outcome.held]
      exact all one

/-- A node that has a handshake or a path already does not begin another. -/
theorem on_connect_of_known (system : Socket → BindAnswer) (plays : x.Plays parties side)
    (known : x.puncher.view.handshake (parties.key side.other) ≠ none ∨ x.puncher.view.path (parties.key side.other) ≠ none) :
    ∃ events, Outcome parties side x x.puncher.view (fun socket => x.holds socket = true) events []
      (x.connect now system (parties.contact side.other)) := by
  have key : (parties.contact side.other).key = parties.key side.other := (parties.me side.other).contact_key _
  rw [← key] at known
  have wants := Puncher.wantsPort_of_known (x.surroundings now) known
  have connects : x.connect now system (parties.contact side.other) =
      x.handle now (.connect (parties.contact side.other) (.ok [])) := by
    simp only [connect, wants, Bool.and_false, Bool.false_eq_true, if_false]
  rw [connects]
  simp only [handle, Puncher.handle, plays.awake, Bool.false_eq_true, if_false]
  cases path : x.puncher.view.path (parties.contact side.other).key with
  | some cached =>
    rw [Puncher.connect_eq_of_path path]
    exact ⟨_, outcome_of_view plays rfl rfl rfl .nil⟩
  | none =>
    obtain ⟨hs, found⟩ : ∃ hs, x.puncher.view.handshake (parties.contact side.other).key = some hs :=
      Option.ne_none_iff_exists'.mp (known.resolve_right fun settled => settled path)
    rw [Puncher.connect_eq_of_handshake path found]
    exact ⟨[], outcome_of_packets plays rfl rfl rfl .nil⟩

end Peer

end NatTraversal
