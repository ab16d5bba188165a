import NatTraversal.Alarms
import NatTraversal.Config.Basic
import NatTraversal.Error
import NatTraversal.Identity.Basic
import NatTraversal.Surroundings

namespace NatTraversal

/-- A direct way to a peer that a pong has proved. -/
structure Path where
  remote : Socket
  /-- The local port that it was punched from. -/
  localPort : UInt16
deriving DecidableEq, Repr

/-- How far a handshake has come. -/
inductive Stage where
  | registered
  | connectRequested
  | holeOpen
  | verified
deriving DecidableEq, Repr

structure Handshake where
  target : Contact
  /-- Where pings go. It follows the target's own pings. -/
  remote : Socket
  /-- The ports bound for this handshake alone, ascending. -/
  allocated : List UInt16
  punchPort : UInt16
  attempt : Nat
  retriesLeft : Nat
  rto : Nat
  stage : Stage
  deadline : Nat
  retryId : Ticket
  deadlineId : Ticket
  pingId : Ticket
  /-- The parent that the latest connect request went through. -/
  parent : Option Address
  /-- The parents that do not know the target. -/
  refused : List UInt32
  responder : Bool
deriving DecidableEq, Repr

structure CachedPath where
  path : Path
  /-- The ports of its handshake, released with the path. -/
  allocated : List UInt16
  expiryId : Ticket
deriving DecidableEq, Repr

/-- A ping outside any handshake. -/
structure Probe where
  dest : Address
  sent : Nat
deriving DecidableEq, Repr

/-- A request to a parent that waits for its answer. -/
structure ParentRequest where
  id : Ticket
  body : Body
  retriesLeft : Nat
  rto : Nat
deriving DecidableEq, Repr

/-- A parent, or a candidate for one. -/
structure Slot where
  /-- As the server calls itself once it has answered, before that as configured. -/
  address : Address
  registered : Bool
  pending : Option ParentRequest
deriving DecidableEq, Repr

inductive PunchAlarm where
  | retry (key : PeerKey) (id : Ticket)
  | deadline (key : PeerKey) (id : Ticket)
  | probeExpired (id : Ticket)
  | pathExpired (key : PeerKey) (id : Ticket)
  | parentTimeout (id : Ticket)
  | refresh
deriving DecidableEq, Repr

inductive PunchEvent where
  | verified (key : PeerKey) (target : Contact) (path : Path)
  | failed (key : PeerKey) (target : Contact) (error : Error)
  /-- A cached path was given up and its ports released. -/
  | pathClosed (key : PeerKey) (path : Path)
  | parentRegistered (parent : Address)
  | parentLost (parent : Address)
  | probeSucceeded (dest : Address) (rtt : Nat)
deriving DecidableEq, Repr

inductive PunchEffect where
  | send (message : Message)
  | release (ports : List UInt16)
  | report (event : PunchEvent)
deriving DecidableEq, Repr

/-- Punches holes towards peers and keeps the node registered with its parents. -/
structure Puncher where
  me : Identity
  backoff : Backoff
  pathTtl : Nat
  handshakeLimit : Nat
  enrollment : EnrollmentConfig
  handshakes : Table PeerKey Handshake := .empty
  /-- Whose handshake a ping belongs to. -/
  byPing : Table Ticket PeerKey := .empty
  paths : Table PeerKey CachedPath := .empty
  probes : Table Ticket Probe := .empty
  slots : Table Socket Slot := .empty
  /-- Which slot a request belongs to. -/
  requests : Table Ticket Socket := .empty
  enrolling : Bool := false
  alarms : Alarms PunchAlarm := {}
  drawn : Nat := 0
  /-- Set by a timeout too long to measure, after which nothing is handled any more. -/
  halted : Bool := false

/-- The state after a step, and what the step does, in order. -/
abbrev PunchStep := Puncher × List PunchEffect

namespace Puncher

def ofConfig (config : Config) (me : Identity) : Puncher where
  me := me
  backoff := config.punch.backoff
  pathTtl := Time.ofMillis config.punch.pathTtl.toNat
  handshakeLimit := Time.ofMillis config.courier.handshakeLimit.toNat
  enrollment := config.enrollment

def mainPort (p : Puncher) : UInt16 := p.me.address.port

def draw (p : Puncher) (c : Surroundings) : Ticket × Puncher := (c.chance.ticket p.drawn, { p with drawn := p.drawn + 1 })

/-- How this node is contacted at one of its ports. -/
def contactAt (p : Puncher) (c : Surroundings) (port : UInt16) : Contact :=
  let contact := p.me.contact c.roster
  { contact with address := { contact.address with port } }

def arm (p : Puncher) (id : Ticket) (due : Nat) (alarm : PunchAlarm) : Puncher := { p with alarms := p.alarms.arm id due alarm }

def cancel (p : Puncher) (id : Ticket) : Puncher := { p with alarms := p.alarms.drop id }

def releasing (ports : List UInt16) : List PunchEffect := if ports.isEmpty then [] else [.release ports]

/-- The further transmissions of a request after its first. -/
def retries (p : Puncher) : Nat := p.backoff.attempts.toNat - 1

/-- Continues with the state that a step leaves, and does what both do. -/
def followedBy (step : PunchStep) (next : Puncher → PunchStep) : PunchStep :=
  let (p, later) := next step.1
  (p, step.2 ++ later)

end Puncher

end NatTraversal
