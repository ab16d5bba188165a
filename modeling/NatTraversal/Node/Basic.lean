import NatTraversal.Courier.Sorting
import NatTraversal.Punch.Handling
import NatTraversal.Rendezvous.Server
import NatTraversal.Stun.Surveyor

namespace NatTraversal

/-- What one part of a node has left for another to do. -/
inductive Errand where
  /-- The puncher is to open a path. -/
  | connect (target : Contact)
  | punch (command : PunchCommand)
  | serve (message : Message) (remote : Socket)
  | surveyReply (message : Message)
  /-- The courier, or whoever stands in for it, learns of something. -/
  | punchEvent (event : PunchEvent)
  | endpointEvent (event : EndpointEvent)

inductive NodeEvent where
  | courier (event : CourierEvent)
  /-- What the puncher of a node without courier tells. -/
  | punch (event : PunchEvent)
deriving DecidableEq, Repr

/-- The parts of a node around its endpoint. A node can do without any of them. -/
structure Node where
  me : Identity
  endpoint : Endpoint
  chance : Chance
  /-- The roster of a node without courier; a courier keeps its own. -/
  bareRoster : Roster
  /-- How sessions are kept should the node begin to serve. -/
  rendezvous : RendezvousConfig := {}
  courier : Option Courier := none
  puncher : Option Puncher := none
  server : Option RendezvousServer := none
  surveyor : Option Surveyor := none
  /-- How often the server has been called upon, which is what its sessions age by. -/
  clock : Nat := 0
  errands : List Errand := []
  /-- What has been told and not been read, and when. -/
  log : List (Nat × NodeEvent) := []
  down : Bool := false

/-- The series of draws that the parts of a node take. -/
inductive Part where
  | puncher
  | server
  | surveyor

namespace Node

def roster (n : Node) : Roster :=
  match n.courier with
  | some courier => courier.roster
  | none => n.bareRoster

/-- Draws of different parts have nothing in common. -/
def chanceOf (n : Node) : Part → Chance
  | .puncher => n.chance.strand 3 0
  | .server => n.chance.strand 3 1
  | .surveyor => n.chance.strand 3 2

def surroundings (n : Node) (now : Nat) (part : Part) : Surroundings := ⟨now, n.clock, n.roster, n.chanceOf part⟩

/-- Whether the puncher takes commands. -/
def isPunching (n : Node) : Bool :=
  !n.down && match n.puncher with
    | some puncher => !puncher.halted
    | none => false

def leave (n : Node) (errands : List Errand) : Node := { n with errands := n.errands ++ errands }

def tell (n : Node) (now : Nat) (event : NodeEvent) : Node := { n with log := n.log ++ [(now, event)] }

/-- Stops every part and closes every socket. -/
def shutDown (n : Node) : Node :=
  { n with
    down := true
    errands := []
    endpoint := { n.endpoint with udp := .empty, tcp := .empty, udt := .empty, streams := .empty } }

end Node

end NatTraversal
