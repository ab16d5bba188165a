import NatTraversal.Proofs.Endpoint.Sockets
import NatTraversal.Proofs.Punch.View
import NatTraversal.Rendezvous.Server

namespace NatTraversal

/-- Two nodes that look for each other. -/
inductive Side where
  | left
  | right
deriving DecidableEq, Repr

namespace Side

def other : Side → Side
  | left => right
  | right => left

@[simp] theorem other_other (side : Side) : side.other.other = side := by
  cases side <;> rfl

@[simp] theorem other_ne (side : Side) : side.other ≠ side := by
  cases side <;> simp [other]

@[simp] theorem ne_other (side : Side) : side ≠ side.other := side.other_ne.symm

theorem eq_or_eq_other (side one : Side) : one = side ∨ one = side.other := by
  cases side <;> cases one <;> simp [other]

theorem forall_iff {p : Side → Prop} : (∀ side, p side) ↔ p left ∧ p right := by
  refine ⟨fun all => ⟨all left, all right⟩, fun both side => ?_⟩
  cases side with
  | left => exact both.1
  | right => exact both.2

instance {p : Side → Prop} [∀ side, Decidable (p side)] : Decidable (∀ side, p side) := decidable_of_iff' _ forall_iff

end Side

/-- A datagram under way, with the socket that it left from. It stands for the message that `Endpoint.receive_of_send` finds in it. -/
structure Packet where
  source : Socket
  dest : Socket
  message : Message
deriving DecidableEq, Repr

/-- The parts of a node that punch holes, and what it has been told about them. -/
structure Peer where
  puncher : Puncher
  endpoint : Endpoint
  roster : Roster
  chance : Chance
  log : List PunchEvent := []

namespace Peer

def holds (x : Peer) (socket : Socket) : Bool := x.endpoint.udp.holds socket

def surroundings (x : Peer) (now : Nat) : Surroundings := ⟨now, 0, x.roster, x.chance⟩

/-- A message leaves from the socket at the port that its source names, if there is one. -/
def post (x : Peer) (message : Message) : List Packet :=
  ((x.endpoint.udp.socket? message.sourceSocket.port).filter x.holds).toList.map fun source => ⟨source, message.destSocket, message⟩

def release (x : Peer) (ports : List UInt16) : Peer := { x with endpoint := (x.endpoint.release ports .udp).2 }

def tell (x : Peer) (event : PunchEvent) : Peer := { x with log := x.log ++ [event] }

/-- Does what a step of the puncher asks for. -/
def perform (x : Peer) : List PunchEffect → Peer × List Packet
  | [] => (x, [])
  | .send message :: rest => ((x.perform rest).1, x.post message ++ (x.perform rest).2)
  | .release ports :: rest => (x.release ports).perform rest
  | .report event :: rest => (x.tell event).perform rest

def handle (x : Peer) (now : Nat) (command : PunchCommand) : Peer × List Packet :=
  let step := x.puncher.handle (x.surroundings now) command
  ({ x with puncher := step.1 }).perform step.2

/-- Gives the puncher a target, and a fresh port if it wants one. -/
def connect (x : Peer) (now : Nat) (system : Socket → BindAnswer) (target : Contact) : Peer × List Packet :=
  if !x.puncher.halted && x.puncher.wantsPort (x.surroundings now) target then
    let (ports, endpoint) := x.endpoint.alloc x.chance system (.v4 x.puncher.me.address.ip) 1 .udp
    ({ x with endpoint }).handle now (.connect target (.ok ports))
  else x.handle now (.connect target (.ok []))

end Peer

/-- Two nodes and a rendezvous server on a network that loses nothing and keeps no order. No alarm rings. -/
structure World where
  peer : Side → Peer
  server : RendezvousServer
  serverRoster : Roster
  serverChance : Chance
  flight : List Packet
  /-- The targets that each node has been told to connect to, and has not begun with. -/
  calls : Side → List Contact

/-- What happens next. -/
inductive Move where
  /-- A node begins with its next target. `system` answers its requests for sockets. -/
  | call (side : Side) (system : Socket → BindAnswer)
  /-- One of the packets under way arrives. -/
  | deliver (index : Nat)

namespace World

def holds (w : World) (side : Side) (socket : Socket) : Bool := (w.peer side).holds socket

def view (w : World) (side : Side) : PunchView := (w.peer side).puncher.view

/-- Where the server listens. -/
def hub (w : World) : Socket := w.server.me.address.socket

def holder? (w : World) (socket : Socket) : Option Side :=
  if w.holds .left socket then some .left else if w.holds .right socket then some .right else none

def take (w : World) (side : Side) (outcome : Peer × List Packet) : World :=
  { w with peer := Function.update w.peer side outcome.1, flight := w.flight ++ outcome.2 }

def serve (w : World) (now clock : Nat) (packet : Packet) : World :=
  let (server, messages) := w.server.handle ⟨now, clock, w.serverRoster, w.serverChance⟩ packet.message packet.source
  { w with server, flight := w.flight ++ messages.map fun message => ⟨w.hub, message.destSocket, message⟩ }

/-- A packet reaches whoever holds the socket that it is for. If nobody does it is lost. -/
def deliver (w : World) (now clock : Nat) (packet : Packet) : World :=
  match w.holder? packet.dest with
  | some side => w.take side ((w.peer side).handle now (.inbound packet.message packet.source packet.dest))
  | none => if packet.dest = w.hub then w.serve now clock packet else w

/-- The world in which a node has fewer targets left. -/
def telling (w : World) (side : Side) (rest : List Contact) : World := { w with calls := Function.update w.calls side rest }

def step? (w : World) (now clock : Nat) : Move → Option World
  | .call side system =>
    match w.calls side with
    | [] => none
    | target :: rest => some ((w.telling side rest).take side ((w.peer side).connect now system target))
  | .deliver index => w.flight[index]?.map fun packet => { w with flight := w.flight.eraseIdx index }.deliver now clock packet

/-- The system binds only the port that it is asked for, and only where no socket is. -/
def Honest (w : World) : Move → Prop
  | .call _ system => ∀ socket port, system socket = .bound port →
      port = socket.port ∧ (∀ side, w.holds side socket = false) ∧ socket ≠ w.hub
  | .deliver _ => True

/-- The worlds that come of an initial one while the server's clock stays within a horizon. -/
inductive Reach (horizon : Nat) (initial : World) : World → Prop
  | start : Reach horizon initial initial
  | next {w later : World} {now clock : Nat} {move : Move} : Reach horizon initial w → clock ≤ horizon → w.Honest move →
      w.step? now clock move = some later → Reach horizon initial later

/-- Nothing is under way and nothing left to begin with. -/
def IsQuiet (w : World) : Prop := w.flight = [] ∧ ∀ side, w.calls side = []

instance (w : World) : Decidable w.IsQuiet := inferInstanceAs (Decidable (_ ∧ _))

end World

end NatTraversal
