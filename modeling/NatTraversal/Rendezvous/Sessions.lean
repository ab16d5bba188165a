import NatTraversal.Message.Basic
import NatTraversal.Table

namespace NatTraversal

structure Session where
  client : UInt32
  /-- Where the client's packets come from. -/
  publicAddress : Address
  /-- What the client takes for its own address. -/
  privateAddress : Address
  overlay : UInt32
  lastSeen : Nat
  ttl : Nat
  /-- Whether an unregister with a delay is under way. -/
  moving : Bool
deriving DecidableEq, Repr

/-- The sessions of a rendezvous server, at most one for each client, and the pairs of initiator and target that it
forwards for. -/
structure Sessions where
  ttl : Nat
  capacity : Nat
  table : Table UInt32 Session
  forwarding : List (UInt32 × UInt32)
deriving DecidableEq, Repr

/-- A session that was refreshed later than now has not expired either. -/
def Session.isExpired (session : Session) (now : Nat) : Bool := now - session.lastSeen > session.ttl

namespace Sessions

def empty (ttl capacity : Nat) : Sessions := ⟨ttl, capacity, .empty, []⟩

def size (sessions : Sessions) : Nat := sessions.table.size

/-- The session of a client, unless it has expired. -/
def live? (sessions : Sessions) (client : UInt32) (now : Nat) : Option Session :=
  (sessions.table.get? client).filter fun session => !session.isExpired now

def isForwarding (sessions : Sessions) (initiator target : UInt32) : Bool := (initiator, target) ∈ sessions.forwarding

/-- Ends a session, and with it the forwarding from and to its client. -/
def remove (sessions : Sessions) (client : UInt32) : Sessions :=
  { sessions with
    table := sessions.table.erase client
    forwarding := sessions.forwarding.filter fun pair => pair.1 != client && pair.2 != client }

/-- A known client keeps its session, expired or not, under its new addresses. A new one is taken while there is room;
sessions that have expired but were not swept take room too. -/
def register (sessions : Sessions) (client : Contact) (seen : Address) (now : Nat) : RegisterStatus × Sessions :=
  match sessions.table.get? client.node with
  | some session =>
    let session := { session with
      publicAddress := seen, privateAddress := client.address, overlay := client.overlay, lastSeen := now, moving := false }
    (.accepted, { sessions with table := sessions.table.insert client.node session })
  | none =>
    if sessions.size ≥ sessions.capacity then (.rejected, sessions)
    else
      let session := ⟨client.node, seen, client.address, client.overlay, now, sessions.ttl, false⟩
      (.accepted, { sessions with table := sessions.table.insert client.node session })

def keepAlive (sessions : Sessions) (client : UInt32) (seen : Address) (now : Nat) : KeepAliveStatus × Sessions :=
  match sessions.live? client now with
  | some session =>
    (.alive, { sessions with table := sessions.table.insert client { session with publicAddress := seen, lastSeen := now } })
  | none => (.notRegistered, sessions)

/-- The address to forward a connect request to, if the target has a live session. -/
def connect (sessions : Sessions) (initiator target : UInt32) (now : Nat) : Option Address × Sessions :=
  match sessions.live? target now with
  | some session =>
    let pair := (initiator, target)
    (some session.publicAddress,
      if pair ∈ sessions.forwarding then sessions else { sessions with forwarding := sessions.forwarding ++ [pair] })
  | none => (none, sessions)

/-- Stops forwarding between two clients, whoever of them began. -/
def deleteConnection (sessions : Sessions) (a b : UInt32) : Bool × Sessions :=
  (sessions.isForwarding a b || sessions.isForwarding b a,
    { sessions with forwarding := sessions.forwarding.filter fun pair => pair != (a, b) && pair != (b, a) })

/-- Only who still sends from the registered address may end a session: at once with a delay of zero or below,
otherwise by starting a move. -/
def unregister (sessions : Sessions) (client : UInt32) (seen : Address) (delay : Int32) (now : Nat) :
    UnregisterStatus × Sessions :=
  match sessions.live? client now with
  | none => (.notRegistered, sessions)
  | some session =>
    if session.publicAddress ≠ seen then (.fail, sessions)
    else if delay < 0 then (.delayLessThanZero, sessions.remove client)
    else if delay = 0 then (.success, sessions.remove client)
    else if session.moving then (.alreadyMoving, sessions)
    else (.success, { sessions with table := sessions.table.insert client { session with moving := true } })

/-- Ends the session of a client that is still moving; one that has registered again meanwhile stays. -/
def completeMove (sessions : Sessions) (client : UInt32) : Bool × Sessions :=
  match sessions.table.get? client with
  | some session => if session.moving then (true, sessions.remove client) else (false, sessions)
  | none => (false, sessions)

/-- Removes every expired session. -/
def sweep (sessions : Sessions) (now : Nat) : List Session × Sessions :=
  let expired := sessions.table.values.filter (·.isExpired now)
  (expired, expired.foldl (fun s session => s.remove session.client) sessions)

end Sessions

end NatTraversal
