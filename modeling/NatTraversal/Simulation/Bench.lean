import NatTraversal.Alarms
import NatTraversal.Endpoint.Delivery
import NatTraversal.Simulation.Machine

namespace NatTraversal

namespace Simulation

inductive BenchAlarm where
  | meter
  | stream (number : Nat)
deriving DecidableEq, Repr

/-- A stream over UDP that has been begun. Nothing ever comes in on it. -/
structure Flow where
  remote : Socket
  began : Nat
  /-- Whether it holds something that it will try to send. -/
  loaded : Bool
deriving DecidableEq, Repr

/-- An endpoint alone, with its meter and its streams. -/
structure Bench where
  endpoint : Endpoint
  chance : Chance
  meter : Meter := {}
  alarms : Alarms BenchAlarm := {}
  flows : Table Nat Flow := .empty
  /-- What has been told and not been read, and when. -/
  log : List (Nat × EndpointEvent) := []
  down : Bool := false

namespace Bench

def meterTicket : Ticket := ⟨1⟩

def streamTicket (number : Nat) : Ticket := ⟨.ofNat (number + 1)⟩

def start (config : EndpointConfig) (chance : Chance) : Bench :=
  let interval := Time.ofMillis config.meterInterval.toNat
  { endpoint := { config }, chance := chance, alarms := Alarms.armEvery {} meterTicket interval interval .meter }

def tell (b : Bench) (now : Nat) (events : List EndpointEvent) : Bench := { b with log := b.log ++ events.map (now, ·) }

/-- The end of a stream, with an error or without. -/
def endStream (b : Bench) (now : Nat) (transport : Transport) (number : Nat) (remote : Socket) (error : Option LinkError) : Bench :=
  let (ended, endpoint) := b.endpoint.streamEnded transport remote number
  let faults := error.toList.map fun error => EndpointEvent.fault ⟨transport, 0, error, false⟩
  ({ b with
    endpoint, flows := b.flows.erase number, alarms := b.alarms.drop (streamTicket number) }).tell now (faults ++ ended)

/-- How often a stream over UDP looks after itself. -/
def flowPeriod : Nat := Time.ofMillis 10

/-- No stream gets through: one of its own transport fails at once, one over UDP as soon as it sends. -/
def onEffect (now : Nat) (b : Bench) : EndpointEffect → Bench
  | .report event => b.tell now [event]
  | .transmit .. => b
  | .connect number .udt _ dest =>
    { b with
      flows := b.flows.insert number ⟨dest, now, false⟩
      alarms := b.alarms.armEvery (streamTicket number) now flowPeriod (.stream number) }
  | .connect number transport _ dest =>
    b.endStream now transport number dest (some (.connectFailed dest "network unreachable"))
  | .enqueue number message =>
    let fits := (Endpoint.encode b.endpoint.config message).toOption.isSome
    { b with flows := b.flows.modify number fun flow => { flow with loaded := flow.loaded || fits } }

def onAlarm (b : Bench) (now : Nat) : BenchAlarm → Bench
  | .meter =>
    let (stats, meter) := b.meter.tick b.endpoint.traffic
    ({ b with meter }).tell now [.bandwidth stats]
  | .stream number =>
    match b.flows.get? number with
    | none => b
    | some flow =>
      if flow.loaded then b.endStream now .udt number flow.remote (some (.io .other))
      else if now - flow.began > Time.ofMillis b.endpoint.config.idleTimeout.toNat then
        b.endStream now .udt number flow.remote none
      else b

def ring? (b : Bench) (now : Nat) : Option Bench :=
  (b.alarms.ring? now).map fun (alarm, alarms) => ({ b with alarms }).onAlarm now alarm

/-- Lets every alarm ring that does so by now. -/
def settle (b : Bench) (now : Nat) : Bench := go patience b
where
  go : Nat → Bench → Bench
    | 0, b => b
    | fuel + 1, b =>
      match b.ring? now with
      | some b => go fuel b
      | none => b

def send (b : Bench) (now : Nat) (outside : Outside) (message : Message) : Except LinkError Unit × Bench :=
  let (effects, endpoint) := b.endpoint.send outside message
  (b.endpoint.accept outside message, (effects.foldl (onEffect now) { b with endpoint }).settle now)

/-- Stops everything and closes every socket. -/
def shutDown (b : Bench) : Bench :=
  { b with
    down := true, alarms := {}, flows := .empty
    endpoint := { b.endpoint with udp := .empty, tcp := .empty, udt := .empty, streams := .empty } }

end Bench

/-- Endpoints by name, on one machine and at one time. -/
structure Benches where
  now : Nat := 0
  machine : Machine := {}
  table : Table String Bench := .empty

namespace Benches

def ofConfigs (machine : Machine) (configs : List (String × EndpointConfig)) : Benches where
  machine := machine
  table := .ofList (configs.mapIdx fun i entry => (entry.1, .start entry.2 (chance.strand 64 i)))

def outside (w : Benches) : Outside :=
  (w.table.values.foldl (fun machine b => machine.holding b.endpoint) w.machine).outside

/-- A socket outside all endpoints takes an address that is free. -/
def occupy (w : Benches) (socket : Socket) : Option Benches :=
  match w.outside.bind .udp socket with
  | .bound port => some { w with machine.datagram := w.machine.datagram ++ [⟨socket.ip, port⟩] }
  | _ => none

def withBench (w : Benches) (name : String) (b : Bench) : Benches := { w with table := w.table.insert name b }

def bind (w : Benches) (name : String) (socket : Socket) (transport : Transport) :
    Option (Except LinkError (BindStatus × UInt16) × Benches) :=
  (w.table.get? name).map fun b =>
    if b.down then (.error .shutdown, w)
    else
      let (bound, events, endpoint) := b.endpoint.bind socket transport (w.outside.bind transport socket)
      let machine := { w.machine with chosen := w.machine.chosen + 1 }
      (.ok bound, { w.withBench name (({ b with endpoint }).tell w.now events) with machine })

/-- Has an endpoint do something, unless it is shut down. -/
def call {α : Type} (w : Benches) (name : String) (act : Bench → Outside → α × Bench) : Option (Except LinkError α × Benches) :=
  (w.table.get? name).map fun b =>
    if b.down then (.error .shutdown, w)
    else
      let (result, b) := act b w.outside
      (.ok result, w.withBench name b)

def alloc (w : Benches) (name : String) (ip : Ip) (count : Nat) (transport : Transport) :
    Option (Except LinkError (List UInt16) × Benches) :=
  w.call name fun b outside =>
    let (ports, endpoint) := b.endpoint.alloc b.chance (outside.bind transport) ip count transport
    (ports, { b with endpoint })

def release (w : Benches) (name : String) (ports : List UInt16) (transport : Transport) :
    Option (Except LinkError (List UInt16) × Benches) :=
  w.call name fun b _ =>
    let (ports, endpoint) := b.endpoint.release ports transport
    (ports, { b with endpoint })

def ports (w : Benches) (name : String) (transport : Transport) : Option (Except LinkError (List UInt16) × Benches) :=
  w.call name fun b _ => (b.endpoint.ports transport, b)

def send (w : Benches) (name : String) (message : Message) : Option (Except LinkError Unit × Benches) :=
  (w.call name fun b outside => b.send w.now outside message).map fun (result, w) => (result.bind id, w)

/-- Also tells whether the endpoint was still up. -/
def shutDown (w : Benches) (name : String) : Option (Bool × Benches) :=
  (w.table.get? name).map fun b => (!b.down, w.withBench name b.shutDown)

/-- Lets time pass, for each endpoint from one alarm to the next. -/
def advance (w : Benches) (span : Nat) : Benches :=
  { w with now := w.now + span, table := w.table.map fun _ b => pass patience b }
where
  pass : Nat → Bench → Bench
    | 0, b => b
    | fuel + 1, b =>
      match b.alarms.next? with
      | some time => if time ≤ w.now + span then pass fuel ((b.ring? time).getD b) else b
      | none => b

/-- What the endpoints have told since it was read last. -/
def read (w : Benches) : List (String × Nat × EndpointEvent) × Benches :=
  (w.table.entries.flatMap fun (name, b) => b.log.map (name, ·),
    { w with table := w.table.map fun _ b => { b with log := [] } })

end Benches

end Simulation

end NatTraversal
