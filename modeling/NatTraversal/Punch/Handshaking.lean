import NatTraversal.Punch.Basic

namespace NatTraversal

namespace Puncher

/-- The parent that the next connect request goes through: the parents that have not refused take turns. -/
def nextParent? (hs : Handshake) : Option Address :=
  if hs.responder || hs.target.isOpen then none
  else
    let live := hs.target.parents.filter fun parent => !hs.refused.contains parent.node
    live[hs.attempt % live.length]?

/-- Sends a ping, before it a connect request where this node is the initiator and has a parent to ask. -/
def sendAttempt (p : Puncher) (c : Surroundings) (key : PeerKey) : PunchStep :=
  match p.handshakes.get? key with
  | none => (p, [])
  | some hs =>
    let source := p.contactAt c hs.punchPort
    let parent := nextParent? hs
    let stage := if hs.stage = .registered then .connectRequested else hs.stage
    let requests := parent.toList.map fun parent =>
      PunchEffect.send { Message.plain source parent (.connectRequest hs.target false) with ticket := hs.pingId }
    let ping := { Message.plain source (.ofSocket hs.remote hs.target.node) .punchPing with ticket := hs.pingId }
    ({ p with handshakes := p.handshakes.insert key { hs with stage, parent := parent.or hs.parent } }, requests ++ [.send ping])

def begin (p : Puncher) (c : Surroundings) (target : Contact) (remote : Socket) (punchPort : UInt16) (allocated : List UInt16)
    (parent : Option Address) (responder : Bool) : PunchStep :=
  let key := target.key
  let (pingId, p) := p.draw c
  let (retryId, p) := p.draw c
  let (deadlineId, p) := p.draw c
  let deadline := c.now + p.handshakeLimit
  let p := p.arm retryId (c.now + p.backoff.first) (.retry key retryId)
  let p := p.arm deadlineId deadline (.deadline key deadlineId)
  let hs : Handshake := {
    target, remote, allocated, punchPort, deadline, retryId, deadlineId, pingId, parent, responder
    attempt := 0, retriesLeft := p.retries, rto := p.backoff.first, stage := .registered, refused := [] }
  let p := { p with handshakes := p.handshakes.insert key hs, byPing := p.byPing.insert pingId key }
  p.sendAttempt c key

/-- Why no handshake with a target can begin: without a parent on a natted side nobody can pass requests on. -/
def refusal? (p : Puncher) (c : Surroundings) (target : Contact) : Option Error :=
  if !target.isOpen && target.parents.isEmpty then some (.noParents target.node)
  else if !(p.me.nat c.roster).isOpen && (p.me.parents c.roster).isEmpty then some (.noParents p.me.node)
  else none

/-- Whether connecting to a target takes a port of its own: a target that maps by destination has to be punched from a
port that it has not been seen from. -/
def wantsPort (p : Puncher) (c : Surroundings) (target : Contact) : Bool :=
  !p.paths.contains target.key && !p.handshakes.contains target.key && (p.refusal? c target).isNone &&
    target.nat.mapping != .endpointIndependent

/-- Begins a handshake, unless there is a path or a handshake already. `grant` is what the endpoint gave where a port
is wanted; without any port the main port has to do. -/
def connect (p : Puncher) (c : Surroundings) (target : Contact) (grant : Except LinkError (List UInt16)) : PunchStep :=
  let key := target.key
  match p.paths.get? key with
  | some cached => (p, [.report (.verified key target cached.path)])
  | none =>
    if p.handshakes.contains key then (p, [])
    else match p.refusal? c target with
      | some error => (p, [.report (.failed key target error)])
      | none =>
        if target.nat.mapping = .endpointIndependent then p.begin c target target.address.socket p.mainPort [] none false
        else match grant with
          | .error error => (p, [.report (.failed key target (.link error))])
          | .ok ports => p.begin c target target.address.socket (ports.head?.getD p.mainPort) ports none false

/-- Gives up the path to a peer. -/
def closePath (p : Puncher) (key : PeerKey) : PunchStep :=
  match p.paths.get? key with
  | none => (p, [])
  | some cached =>
    (({ p with paths := p.paths.erase key }).cancel cached.expiryId,
      releasing cached.allocated ++ [.report (.pathClosed key cached.path)])

/-- A parent has passed on the request of an initiator. Where both sides have asked at once, the handshake goes on
towards the address that the parent saw; otherwise an old path gives way to a new handshake from the main port. -/
def onForwarded (p : Puncher) (c : Surroundings) (initiator : Contact) (parent : Address) : PunchStep :=
  let key := initiator.key
  let remote := initiator.address.socket
  match p.handshakes.get? key with
  | some hs =>
    let hs := { hs with remote, parent := hs.parent.or (some parent) }
    ({ p with handshakes := p.handshakes.insert key hs }).sendAttempt c key
  | none => followedBy (p.closePath key) fun p => p.begin c initiator remote p.mainPort [] (some parent) true

/-- Forgets a handshake and its alarms. -/
def forget (p : Puncher) (key : PeerKey) (hs : Handshake) : Puncher :=
  ((({ p with handshakes := p.handshakes.erase key }).cancel hs.retryId).cancel hs.deadlineId) |> fun p =>
    { p with byPing := p.byPing.erase hs.pingId }

def fail (p : Puncher) (key : PeerKey) (error : Error) : PunchStep :=
  match p.handshakes.get? key with
  | none => (p, [])
  | some hs => (p.forget key hs, releasing hs.allocated ++ [.report (.failed key hs.target error)])

/-- Turns a handshake into a path. The parent that helped is told to stop forwarding. -/
def verify (p : Puncher) (c : Surroundings) (key : PeerKey) (remote : Socket) : PunchStep :=
  match p.handshakes.get? key with
  | none => (p, [])
  | some hs =>
    let p := p.forget key hs
    let path : Path := ⟨remote, hs.punchPort⟩
    let (expiryId, p) := p.draw c
    let p := p.arm expiryId (c.now + p.pathTtl) (.pathExpired key expiryId)
    let old := p.paths.get? key
    let p := { p with paths := p.paths.insert key ⟨path, hs.allocated, expiryId⟩ }
    let (p, released) := match old with
      | some old => (p.cancel old.expiryId, releasing old.allocated)
      | none => (p, [])
    let deletes := hs.parent.toList.map fun parent =>
      PunchEffect.send (Message.plain (p.contactAt c p.mainPort) parent (.deleteConnection hs.target.node))
    (p, released ++ deletes ++ [.report (.verified key hs.target path)])

/-- Sends a handshake's requests again, later by its growing timeout. -/
def retry (p : Puncher) (c : Surroundings) (key : PeerKey) (id : Ticket) : PunchStep :=
  match p.handshakes.get? key with
  | none => (p, [])
  | some hs =>
    if hs.retryId ≠ id then (p, [])
    else if hs.retriesLeft = 0 ∨ c.now ≥ hs.deadline then p.fail key (.handshakeTimeout key.node)
    else match p.backoff.next? hs.rto with
      | none => ({ p with halted := true }, [])
      | some rto =>
        let (retryId, p) := p.draw c
        let hs := { hs with retriesLeft := hs.retriesLeft - 1, attempt := hs.attempt + 1, rto, retryId }
        let p := { p with handshakes := p.handshakes.insert key hs }
        (p.arm retryId (c.now + rto) (.retry key retryId)).sendAttempt c key

def onDeadline (p : Puncher) (key : PeerKey) (id : Ticket) : PunchStep :=
  match p.handshakes.get? key with
  | some hs => if hs.deadlineId = id then p.fail key (.handshakeTimeout key.node) else (p, [])
  | none => (p, [])

def onPathExpired (p : Puncher) (key : PeerKey) (id : Ticket) : PunchStep :=
  match p.paths.get? key with
  | some cached => if cached.expiryId = id then p.closePath key else (p, [])
  | none => (p, [])

/-- Pings a node outside any handshake. Its answer is waited for as long as a handshake lasts. -/
def probe (p : Puncher) (c : Surroundings) (target : Address) : PunchStep :=
  let (id, p) := p.draw c
  let wait := max (Time.ofMillis p.backoff.budget.toNat) p.backoff.first
  let p := ({ p with probes := p.probes.insert id ⟨target, c.now⟩ }).arm id (c.now + wait) (.probeExpired id)
  (p, [.send { Message.plain (p.contactAt c p.mainPort) target .punchPing with ticket := id }])

/-- Answers every ping, and notes where the pings of a handshake's target come from. -/
def onPing (p : Puncher) (c : Surroundings) (ping : Message) (remote here : Socket) : PunchStep :=
  let pong := { Message.plain (p.contactAt c here.port) (.ofSocket remote ping.source.node) .punchPong with ticket := ping.ticket }
  let key := ping.source.key
  match p.handshakes.get? key with
  | none => (p, [.send pong])
  | some hs =>
    let moved := hs.remote ≠ remote
    let p := { p with handshakes := p.handshakes.insert key { hs with stage := .holeOpen, remote } }
    followedBy (p, [.send pong]) fun p => if moved then p.sendAttempt c key else (p, [])

/-- A pong proves the path of the handshake whose ping it answers, or ends a probe. -/
def onPong (p : Puncher) (c : Surroundings) (pong : Message) (remote : Socket) : PunchStep :=
  match p.byPing.get? pong.ticket with
  | some key => p.verify c key remote
  | none =>
    match p.probes.get? pong.ticket with
    | some probe =>
      (({ p with probes := p.probes.erase pong.ticket }).cancel pong.ticket,
        [.report (.probeSucceeded probe.dest (c.now - probe.sent))])
    | none => (p, [])

/-- A handshake fails once all parents of its target have refused. -/
def onConnectResponse (p : Puncher) (response : Message) (status : ConnectStatus) (target : UInt32) : PunchStep :=
  match p.byPing.get? response.ticket with
  | none => (p, [])
  | some key =>
    match p.handshakes.get? key, status with
    | some hs, .unknownTarget =>
      let server := response.source.node
      let refused := if hs.refused.contains server then hs.refused else hs.refused ++ [server]
      let p := { p with handshakes := p.handshakes.insert key { hs with refused } }
      if hs.target.parents.all fun parent => refused.contains parent.node then p.fail key (.unknownTarget target) else (p, [])
    | _, _ => (p, [])

/-- A handshake with a node, or else a path to it, as far as it has come. -/
def stage? (p : Puncher) (key : PeerKey) : Option Stage :=
  match p.handshakes.get? key with
  | some hs => some hs.stage
  | none => if p.paths.contains key then some .verified else none

end Puncher

end NatTraversal
