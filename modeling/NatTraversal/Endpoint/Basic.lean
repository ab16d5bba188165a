import NatTraversal.Chance
import NatTraversal.Config.Basic
import NatTraversal.Endpoint.PortTable
import NatTraversal.Endpoint.Traffic
import NatTraversal.Error

namespace NatTraversal

/-- What the operating system makes of a request for a socket. -/
inductive BindAnswer where
  /-- A request for port 0 leaves the choice of the port to the system. -/
  | bound (port : UInt16)
  | inUse
  | refused (reason : String)
deriving DecidableEq, Repr

structure EndpointEvent.Fault where
  transport : Transport
  port : UInt16
  error : LinkError
  /-- Whether the socket is lost. -/
  fatal : Bool
deriving DecidableEq, Repr

inductive EndpointEvent where
  | message (message : Message) (remote here : Socket)
  | fault (fault : EndpointEvent.Fault)
  | sessionClosed (remote : Socket) (transport : Transport)
  | bandwidth (stats : Bandwidth)
deriving DecidableEq, Repr

/-- The sockets of a node, by transport, and its open streams. -/
structure Endpoint where
  config : EndpointConfig
  udp : PortTable Unit := .empty
  tcp : PortTable Unit := .empty
  udt : PortTable Unit := .empty
  /-- The streams in use and their numbers, by transport and remote socket. -/
  streams : Table (Transport × Socket) Nat := .empty
  /-- The number of the next stream. -/
  nextStream : Nat := 1
  traffic : Traffic := .zero
  /-- How many ports have been drawn. -/
  drawn : Nat := 0

namespace Endpoint

def table (e : Endpoint) : Transport → PortTable Unit
  | .udp => e.udp
  | .tcp => e.tcp
  | .udt => e.udt

def withTable (e : Endpoint) (transport : Transport) (table : PortTable Unit) : Endpoint :=
  match transport with
  | .udp => { e with udp := table }
  | .tcp => { e with tcp := table }
  | .udt => { e with udt := table }

def ports (e : Endpoint) (transport : Transport) : List UInt16 := (e.table transport).ports

/-- The sockets that an endpoint holds of one transport. -/
def sockets (e : Endpoint) (transport : Transport) : List Socket := (e.table transport).channels.keys

/-- The transport that a transport shares the ports of the system with. -/
def rival? : Transport → Option Transport
  | .udp => some .udt
  | .udt => some .udp
  | .tcp => none

def isHeld (e : Endpoint) (port : UInt16) : Bool := e.udp.contains port || e.udt.contains port || e.tcp.contains port

/-- A port that is bound for a transport stays so, whatever address is asked for. One that its rival holds is refused
without asking the system. -/
def tryBind (e : Endpoint) (socket : Socket) (transport : Transport) (answer : BindAnswer) :
    Except (BindStatus × LinkError) (UInt16 × Endpoint) :=
  if socket.port ≠ 0 ∧ (e.table transport).contains socket.port then .ok (socket.port, e)
  else
    match (rival? transport).filter fun rival => socket.port ≠ 0 ∧ (e.table rival).contains socket.port with
    | some owner => .error (.fail, .portConflict socket.port owner)
    | none =>
      match answer with
      | .inUse => .error (.alreadyBound, .bindFailed socket "address in use")
      | .refused reason => .error (.fail, .bindFailed socket reason)
      | .bound port =>
        match (e.table transport).insert ⟨socket.ip, port⟩ () with
        | .ok table => .ok (port, e.withTable transport table)
        | .error () => .error (.fail, .bindFailed socket s!"port {port} is already in the {transport.name} table")

/-- Binds a port and tells which; what goes wrong is also reported. -/
def bind (e : Endpoint) (socket : Socket) (transport : Transport) (answer : BindAnswer) :
    (BindStatus × UInt16) × List EndpointEvent × Endpoint :=
  match e.tryBind socket transport answer with
  | .ok (port, e) => ((.success, port), [], e)
  | .error (status, error) => ((status, socket.port), [.fault ⟨transport, socket.port, error, false⟩], e)

/-- The endpoint with one more port drawn. -/
def redrawn (e : Endpoint) : Endpoint := { e with drawn := e.drawn + 1 }

/-- Draws ports until `count` of them are bound or the draws run out, of which each has a system of its own to answer it. -/
def allocFrom (chance : Chance) (ip : Ip) (count : Nat) (transport : Transport) :
    (systems : List (Socket → BindAnswer)) → List UInt16 → Endpoint → List UInt16 × Endpoint
  | [], bound, e => (bound, e)
  | system :: systems, bound, e =>
    if bound.length ≥ count then (bound, e)
    else
      let port := chance.port e.drawn
      let e := e.redrawn
      if e.isHeld port then allocFrom chance ip count transport systems bound e
      else match e.tryBind ⟨ip, port⟩ transport (system ⟨ip, port⟩) with
        | .ok (port, e) => allocFrom chance ip count transport systems (bound ++ [port]) e
        | .error _ => allocFrom chance ip count transport systems bound e

/-- Binds up to `count` random ports, in ascending order, by systems of which each answers one draw. -/
def allocEach (e : Endpoint) (chance : Chance) (systems : List (Socket → BindAnswer)) (ip : Ip) (count : Nat)
    (transport : Transport) : List UInt16 × Endpoint :=
  let (bound, e) := allocFrom chance ip count transport systems [] e
  (bound.mergeSort (· ≤ ·), e)

/-- Binds up to `count` random ports by one system, with eight draws for each. -/
def alloc (e : Endpoint) (chance : Chance) (system : Socket → BindAnswer) (ip : Ip) (count : Nat) (transport : Transport) :
    List UInt16 × Endpoint :=
  e.allocEach chance (List.replicate (count * 8) system) ip count transport

/-- Closes those of the ports that are bound, and tells which they were, in ascending order. -/
def release (e : Endpoint) (ports : List UInt16) (transport : Transport) : List UInt16 × Endpoint :=
  (ports.mergeSort (· ≤ ·)).foldl (fun (closed, e) port =>
    match (e.table transport).remove port with
    | (some _, table) => (closed ++ [port], e.withTable transport table)
    | (none, _) => (closed, e)) ([], e)

end Endpoint

end NatTraversal
