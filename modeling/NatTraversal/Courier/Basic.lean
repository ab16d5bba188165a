import NatTraversal.Endpoint.Sending
import NatTraversal.Identity.Basic
import NatTraversal.Punch.Basic
import NatTraversal.Stun.Responder

namespace NatTraversal

/-- A message body that waits for a path. -/
structure Parcel where
  body : Body
  ticket : Ticket
deriving DecidableEq, Repr

inductive CourierEvent where
  /-- A message of the application has come. -/
  | delivered (message : Message)
  | unreachable (dest : Address) (reason : Error)
  | verified (dest : Contact) (path : Path)
  | classified (nat : NatType)
  | parentsChanged (parents : List Address)
  | probeSucceeded (dest : Address) (rtt : Nat)
  | fault (error : LinkError)
  | bandwidth (stats : Bandwidth)
deriving DecidableEq, Repr

inductive CourierEffect where
  /-- Hands a message to the endpoint. -/
  | send (message : Message)
  | connect (target : Contact)
  | closePath (key : PeerKey)
  | startEnrollment
  /-- Passes a message on to the puncher. -/
  | punch (message : Message) (remote here : Socket)
  | startServer
  /-- Passes a request on to the rendezvous server. -/
  | serve (message : Message) (remote : Socket)
  /-- Passes an answer on to the survey. -/
  | surveyReply (message : Message)
  | report (event : CourierEvent)
  | shutDown
deriving DecidableEq, Repr

/-- Carries the messages of an application to other nodes, and sorts what comes in. The paths are those that the
puncher has told of. -/
structure Courier where
  me : Identity
  config : CourierConfig
  responder : ResponderConfig
  roster : Roster
  /-- Whether the node serves others. -/
  serving : Bool := false
  /-- What waits for a handshake to end, in the order of sending. -/
  queued : Table PeerKey (List Parcel) := .empty
  paths : Table PeerKey Path := .empty
  /-- How many handshakes in a row have failed. -/
  failures : Table PeerKey Nat := .empty

/-- What a courier relies on when it handles something. -/
structure CourierContext where
  /-- What the endpoint answers to a message. -/
  accept : Message → Except LinkError Unit
  /-- Whether the puncher still takes commands. -/
  punching : Bool

/-- The state after a step, and what the step does, in order. -/
abbrev CourierStep := Courier × List CourierEffect

namespace Courier

def contact (courier : Courier) : Contact := courier.me.contact courier.roster

/-- What becomes of a parcel on its way along a path. -/
def directMessage (courier : Courier) (key : PeerKey) (path : Path) (parcel : Parcel) : Message :=
  let contact := courier.contact
  let source := { contact with address := { contact.address with port := path.localPort } }
  { Message.plain source (.ofSocket path.remote key.node) parcel.body with ticket := parcel.ticket }

def parcels (courier : Courier) (key : PeerKey) : List Parcel := (courier.queued.get? key).getD []

def failureCount (courier : Courier) (key : PeerKey) : Nat := (courier.failures.get? key).getD 0

end Courier

end NatTraversal
