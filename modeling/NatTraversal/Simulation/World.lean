import NatTraversal.Node.Application
import NatTraversal.Node.Building
import NatTraversal.Simulation.Machine

namespace NatTraversal

namespace Simulation

/-- Nodes by name, on one machine and at one time. -/
structure World where
  now : Nat := 0
  machine : Machine := {}
  nodes : Table String Node := .empty
  /-- How many nodes have been begun. -/
  begun : Nat := 0

namespace World

/-- What the nodes find outside, the sockets of all of them in use. -/
def outside (w : World) : Outside :=
  (w.nodes.values.foldl (fun machine n => machine.holding n.endpoint) w.machine).outside

def withNode (w : World) (name : String) (n : Node) : World := { w with nodes := w.nodes.insert name n }

/-- A node whose turn it is, and what comes of its step. -/
def step? (w : World) : Option World :=
  w.nodes.entries.findSome? fun (name, n) => (n.step? w.now w.outside).map (w.withNode name)

/-- Lets the nodes do all that they do without time passing. -/
def settle (w : World) : World := go patience w
where
  go : Nat → World → World
    | 0, w => w
    | fuel + 1, w =>
      match w.step? with
      | some w => go fuel w
      | none => w

def nextRing? (w : World) : Option Nat := (w.nodes.values.filterMap (·.nextRing?)).min?

/-- Lets time pass up to an instant, from one alarm to the next, or until `done` holds. -/
def passUntil (w : World) (limit : Option Nat) (done : World → Bool) : World := go patience w.settle
where
  go : Nat → World → World
    | 0, w => w
    | fuel + 1, w =>
      if done w then w
      else match w.nextRing?.filter fun time => limit.all (time ≤ ·) with
        | some time => go fuel ({ w with now := max w.now time }).settle
        | none => { w with now := limit.getD w.now }

def advance (w : World) (span : Nat) : World := w.passUntil (some (w.now + span)) fun _ => false

/-- The draws of the next node. -/
def nextChance (w : World) : Chance := chance.strand 64 w.begun

/-- Adds a node around a socket of its own. The parts are given what they find around them. -/
def addBare (w : World) (name : String) (config : Config) (me : Identity) (roster : Roster) (parts : Node → Outside → Node) :
    World :=
  let (_, _, endpoint) := Endpoint.bind { config := config.endpoint } me.address.socket .udp (.bound me.address.port)
  let n : Node := { me, endpoint, chance := w.nextChance, bareRoster := roster, rendezvous := config.rendezvous }
  ({ w with begun := w.begun + 1 }.withNode name (parts n w.outside)).settle

/-- A node that only punches holes. -/
def addPuncher (w : World) (name : String) (config : Config) (me : Identity) (roster : Roster) : World :=
  w.addBare name config me roster fun n _ => { n with puncher := some (.ofConfig config me) }

/-- A node that only serves. -/
def addServer (w : World) (name : String) (config : Config) (me : Identity) (roster : Roster) : World :=
  w.addBare name config me roster fun n _ =>
    { n with server := some (.start config.rendezvous me (n.surroundings w.now .server)) }

/-- A node that only asks how it is seen, until it knows. -/
def addSurveyor (w : World) (name : String) (config : Config) (me : Identity) (roster : Roster) (gateway : Option UInt16) :
    World :=
  let w := w.addBare name config me roster fun n outside =>
    n.surveyed (Surveyor.start config.survey me gateway (n.surroundings w.now .surveyor) outside n.endpoint)
  w.passUntil none fun w => (w.nodes.get? name).all fun n => (n.surveyor.bind (·.result?)).isSome

/-- Ends a node without a word to anyone. -/
def discard (w : World) (name : String) : World := { w with nodes := w.nodes.erase name }

/-- Builds a whole node, which may take time. One that fails leaves nothing behind, and one that is built takes the
place of any other of its name. -/
def build (w : World) (name : String) (plan : NodePlan) : Except Error Unit × World :=
  match Node.start plan w.nextChance w.now w.outside with
  | .error error => (.error error, { w with begun := w.begun + 1 })
  | .ok n =>
    let w := { w with begun := w.begun + 1, machine := { w.machine with chosen := w.machine.chosen + 1 } }
    let old := w.nodes.get? name
    let surveyed (w : World) := (w.nodes.get? name).all fun n => n.surveyor.all fun s => s.result?.isSome
    let w := (w.withNode name n).passUntil none surveyed
    match w.nodes.get? name with
    | none => (.error .shutdown, w)
    | some n =>
      match n.conclude w.now w.outside with
      | .ok n => (.ok (), (w.withNode name n).settle)
      | .error error => (.error error, match old with
        | some old => w.withNode name old
        | none => w.discard name)

/-- Has a node do something at once, and lets the nodes do what follows from it. -/
def call (w : World) (name : String) (act : Node → Nat → Outside → Except Error Unit × Node) : Option (Except Error Unit × World) :=
  (w.nodes.get? name).map fun n =>
    let (result, n) := act n w.now w.outside
    (result, (w.withNode name n).settle)

/-- What the nodes have told since it was read last. -/
def read (w : World) : List (String × Nat × NodeEvent) × World :=
  (w.nodes.entries.flatMap fun (name, n) => n.log.map (name, ·),
    { w with nodes := w.nodes.map fun _ n => { n with log := [] } })

end World

end Simulation

end NatTraversal
