import NatTraversal.Node.Basic

namespace NatTraversal

namespace Node

/-- What the endpoint tells reaches the courier later; the rest is for the network. -/
def note (n : Node) (effects : List EndpointEffect) : Node :=
  n.leave (effects.filterMap fun
    | .report event => some (.endpointEvent event)
    | _ => none)

/-- Hands a message to the endpoint. -/
def transmit (n : Node) (outside : Outside) (message : Message) : Node :=
  let (effects, endpoint) := n.endpoint.send outside message
  ({ n with endpoint }).note effects

def onPunchEffect (outside : Outside) (n : Node) : PunchEffect → Node
  | .send message => n.transmit outside message
  | .release ports => { n with endpoint := (n.endpoint.release ports .udp).2 }
  | .report event => n.leave [.punchEvent event]

/-- Takes over a step of the puncher. -/
def punched (n : Node) (outside : Outside) (step : PunchStep) : Node :=
  step.2.foldl (onPunchEffect outside) { n with puncher := some step.1 }

def served (n : Node) (outside : Outside) (step : RendezvousServer × List Message) : Node :=
  step.2.foldl (fun n message => n.transmit outside message) { n with server := some step.1, clock := n.clock + 1 }

/-- Takes over a step of the survey. -/
def surveyed (n : Node) (outcome : Surveyor.Outcome) : Node :=
  ({ n with surveyor := some outcome.1, endpoint := outcome.2.2 }).note outcome.2.1

def onCourierEffect (now : Nat) (outside : Outside) (n : Node) : CourierEffect → Node
  | .send message => n.transmit outside message
  | .connect target => n.leave [.connect target]
  | .closePath key => n.leave [.punch (.closePath key)]
  | .startEnrollment => n.leave [.punch .startEnrollment]
  | .punch message remote here => n.leave [.punch (.inbound message remote here)]
  | .startServer =>
    { n with server := some (RendezvousServer.start n.rendezvous n.me (n.surroundings now .server)) }
  | .serve message remote => n.leave [.serve message remote]
  | .surveyReply message => n.leave [.surveyReply message]
  | .report event => n.tell now (.courier event)
  | .shutDown => n.shutDown

/-- Takes over a step of the courier. -/
def carried (n : Node) (now : Nat) (outside : Outside) (step : CourierStep) : Node :=
  step.2.foldl (onCourierEffect now outside) { n with courier := some step.1 }

def courierContext (n : Node) (outside : Outside) : CourierContext := ⟨n.endpoint.accept outside, n.isPunching⟩

/-- Gives the puncher a command. -/
def command (n : Node) (now : Nat) (outside : Outside) (command : PunchCommand) : Node :=
  match n.puncher with
  | some puncher => n.punched outside (puncher.handle (n.surroundings now .puncher) command)
  | none => n

/-- Gives the puncher a target, and a fresh port if it wants one. -/
def connect (n : Node) (now : Nat) (outside : Outside) (target : Contact) : Node :=
  match n.puncher with
  | some puncher =>
    if !puncher.halted && puncher.wantsPort (n.surroundings now .puncher) target then
      let (ports, endpoint) := n.endpoint.alloc n.chance (outside.bind .udp) (.v4 n.me.address.ip) 1 .udp
      ({ n with endpoint }).command now outside (.connect target (.ok ports))
    else n.command now outside (.connect target (.ok []))
  | none => n

/-- What comes in at a node without courier goes to its only part. -/
def takeIn (n : Node) (message : Message) (remote here : Socket) : Node :=
  n.leave (
    if n.puncher.isSome then [.punch (.inbound message remote here)]
    else if n.server.isSome then [.serve message remote]
    else [.surveyReply message])

def run (n : Node) (now : Nat) (outside : Outside) (errand : Errand) : Node :=
  match errand with
  | .connect target => n.connect now outside target
  | .punch command => n.command now outside command
  | .serve message remote =>
    match n.server with
    | some server => n.served outside (server.handle (n.surroundings now .server) message remote)
    | none => n
  | .surveyReply message =>
    match n.surveyor with
    | some surveyor => n.surveyed (surveyor.onReply (n.surroundings now .surveyor) outside n.endpoint message)
    | none => n
  | .punchEvent event =>
    match n.courier with
    | some courier => n.carried now outside (courier.onPunch event)
    | none => n.tell now (.punch event)
  | .endpointEvent event =>
    match n.courier, event with
    | some courier, event => n.carried now outside (courier, courier.onEndpoint event)
    | none, .message message remote here => n.takeIn message remote here
    | none, _ => n

/-- When the next alarm of a part rings. -/
def nextRing? (n : Node) : Option Nat :=
  if n.down then none
  else [n.puncher.bind (·.alarms.next?), n.server.bind (·.alarms.next?), n.surveyor.bind (·.next?)].reduceOption.min?

/-- Lets the next alarm of every part ring that does so by now. -/
def ring (n : Node) (now : Nat) (outside : Outside) : Node :=
  let n := match n.puncher.bind (·.ring? (n.surroundings now .puncher)) with
    | some step => n.punched outside step
    | none => n
  let n := match n.server.bind (·.ring? (n.surroundings now .server)) with
    | some step => n.served outside step
    | none => n
  match n.surveyor with
  | some surveyor =>
    if surveyor.next?.any (· ≤ now) then
      n.surveyed (surveyor.onTimeout (n.surroundings now .surveyor) outside n.endpoint)
    else n
  | none => n

/-- One step at an instant: an errand if there is one, or else alarms that are due. -/
def step? (n : Node) (now : Nat) (outside : Outside) : Option Node :=
  match n.errands with
  | errand :: rest => some (({ n with errands := rest }).run now outside errand)
  | [] => if n.nextRing?.any (· ≤ now) then some (n.ring now outside) else none

/-- Steps until nothing can happen without time passing, or the steps run out. -/
def settle : (steps : Nat) → Node → Nat → Outside → Node
  | 0, n, _, _ => n
  | steps + 1, n, now, outside =>
    match n.step? now outside with
    | some n => settle steps n now outside
    | none => n

end Node

end NatTraversal
