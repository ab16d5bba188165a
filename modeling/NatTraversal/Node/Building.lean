import NatTraversal.Config.Check
import NatTraversal.Node.Running

namespace NatTraversal

/-- What a node is to be built from. -/
structure NodePlan where
  node : Option UInt32 := none
  ip : Option Ipv4 := none
  /-- The main port; the system chooses one for 0. -/
  port : UInt16 := 0
  overlay : UInt32 := 0
  utility : Option UInt32 := none
  /-- A translator that is taken as given and not surveyed. -/
  nat : Option NatType := none
  config : Config := {}
  /-- The public port that the gateway maps to, if there is a gateway that does. -/
  gateway : Option UInt16 := none

namespace NodePlan

/-- A number to be known by and an address to be reached at. -/
def identify (plan : NodePlan) : Except Error (UInt32 × Ipv4) := do
  match plan.config.check with
  | .error fault => throw fault.toError
  | .ok () => pure ()
  let some node := plan.node | throw (.config "node_id is required")
  let some ip := plan.ip | throw (.config "bind address is required")
  if ip = .unspecified then throw (.config s!"cannot advertise {ip.text}")
  return (node, ip)

def bindPort (outside : Outside) (ip : Ipv4) (port : UInt16) (e : Endpoint) : Except Error (UInt16 × Endpoint) :=
  let socket := Socket.v4 ip port
  match e.bind socket .udp (outside.bind .udp socket) with
  | ((.success, bound), _, e) => .ok (bound, e)
  | ((status, _), _, _) => .error (.bindFailed port status)

/-- The main port, and the alternate port of a node that serves. -/
def openEndpoint (plan : NodePlan) (outside : Outside) (ip : Ipv4) : Except Error (UInt16 × Endpoint) := do
  let (port, e) ← bindPort outside ip plan.port { config := plan.config.endpoint }
  let altPort := plan.config.responder.altPort
  if plan.config.courier.openServer && altPort != 0 then return (port, (← bindPort outside ip altPort e).2)
  else return (port, e)

def assemble (plan : NodePlan) (chance : Chance) (address : Address) (endpoint : Endpoint) : Node :=
  let me : Identity := ⟨address, plan.overlay, plan.utility⟩
  let roster := (Roster.empty plan.config.enrollment.maxParents.toNat).enter me.node (plan.nat.getD .unrestricted)
  { me, endpoint, chance
    bareRoster := roster
    rendezvous := plan.config.rendezvous
    courier := some { me, config := plan.config.courier, responder := plan.config.responder, roster }
    puncher := some (.ofConfig plan.config me) }

end NodePlan

namespace Node

/-- The node has been classified, and nothing asks for its survey any more. -/
def classify (n : Node) (now : Nat) (outside : Outside) (nat : NatType) : Node :=
  match n.courier with
  | some courier => ({ n with surveyor := none }).carried now outside (courier.onClassified nat)
  | none => n

/-- Builds a node as far as it goes without waiting. A node whose translator is neither given nor open by its role
begins a survey. -/
def start (plan : NodePlan) (chance : Chance) (now : Nat) (outside : Outside) : Except Error Node := do
  let (node, ip) ← plan.identify
  let (port, endpoint) ← plan.openEndpoint outside ip
  let n := plan.assemble chance ⟨ip, port, node⟩ endpoint
  match plan.nat with
  | some nat => return n.classify now outside nat
  | none =>
    if plan.config.courier.openServer then return n.classify now outside .unrestricted
    else
      let c := n.surroundings now .surveyor
      return n.surveyed (Surveyor.start plan.config.survey n.me plan.gateway c outside n.endpoint)

/-- Takes over the result of a survey that has ended; without a result the node fails. -/
def conclude (n : Node) (now : Nat) (outside : Outside) : Except Error Node :=
  match n.surveyor with
  | none => .ok n
  | some surveyor =>
    match surveyor.result? with
    | some (.ok nat) => .ok (n.classify now outside nat)
    | some (.error error) => .error error
    | none => .error .shutdown

end Node

end NatTraversal
