import NatTraversal.Address.Basic
import NatTraversal.Number.Decimal
import NatTraversal.Time

namespace NatTraversal

/-- How often a request is sent, and how long each time is waited for. -/
structure Backoff where
  /-- The first timeout, in milliseconds. -/
  rto : UInt64
  /-- What each later timeout grows by. -/
  scale : Binary64
  /-- The number of transmissions. -/
  attempts : UInt32
deriving DecidableEq, Repr

/-- Times are in milliseconds throughout. -/
structure CourierConfig where
  /-- A bound on the life of one pending handshake. -/
  handshakeLimit : UInt64 := 30000
  /-- Failed handshakes in a row after which a destination is unreachable without another try. -/
  failureLimit : UInt32 := 3
  /-- Whether an open node serves others. -/
  openServer : Bool := false
deriving DecidableEq, Repr

structure PunchConfig where
  backoff : Backoff := ⟨500, .finite false 5404319552844595 (-52), 8⟩
  pathTtl : UInt64 := 120000
deriving DecidableEq, Repr

structure RendezvousConfig where
  sessionTtl : UInt64 := 120000
  sweepPeriod : UInt64 := 10000
  maxSessions : UInt64 := 1024
deriving DecidableEq, Repr

structure SurveyConfig where
  upnp : Bool := false
  /-- Two are needed to tell mappings apart. -/
  servers : List Address := []
  backoff : Backoff := ⟨500, .finite false 6755399441055744 (-52), 4⟩
  /-- The greatest port step that still counts as contiguous. -/
  deltaWindow : UInt16 := 10
  bindingTimeout : UInt32 := 30000
deriving DecidableEq, Repr

structure ResponderConfig where
  /-- The port that changed-port answers come from, 0 for none. -/
  altPort : UInt16 := 0
  /-- The server that gives changed-server answers in our place. -/
  partner : Option Address := none
deriving DecidableEq, Repr

structure EnrollmentConfig where
  minParents : UInt64 := 1
  maxParents : UInt64 := 3
  refreshPeriod : UInt64 := 10000
  /-- Open servers to register with. -/
  servers : List Address := []
deriving DecidableEq, Repr

structure EndpointConfig where
  receiveBuffer : UInt64 := 1500
  maxFrame : UInt64 := 65535
  connectTimeout : UInt64 := 5000
  idleTimeout : UInt64 := 60000
  capacity : UInt64 := 128
  meterInterval : UInt64 := 1000
deriving DecidableEq, Repr

structure Config where
  courier : CourierConfig := {}
  punch : PunchConfig := {}
  rendezvous : RendezvousConfig := {}
  survey : SurveyConfig := {}
  responder : ResponderConfig := {}
  enrollment : EnrollmentConfig := {}
  endpoint : EndpointConfig := {}
deriving DecidableEq, Repr

namespace Backoff

def first (backoff : Backoff) : Nat := Time.ofMillis backoff.rto.toNat

/-- The timeout after `current`; nothing if it is too long to measure. -/
def next? (backoff : Backoff) (current : Nat) : Option Nat := Time.scale? current backoff.scale

/-- The time until the last transmission is given up, in milliseconds, as hardware adds it up. -/
def budget (backoff : Backoff) : UInt64 :=
  let first := Binary64.ofNat backoff.rto.toNat
  let waits := (List.range backoff.attempts.toNat).map fun i => first.mul (backoff.scale.pow i)
  (waits.foldl Binary64.add (.zero true)).toWord

end Backoff

end NatTraversal
