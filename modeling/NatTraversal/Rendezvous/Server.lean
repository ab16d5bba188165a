import NatTraversal.Alarms
import NatTraversal.Config.Basic
import NatTraversal.Identity.Basic
import NatTraversal.Rendezvous.Sessions
import NatTraversal.Surroundings

namespace NatTraversal

inductive ServerAlarm where
  | sweep
  /-- The delay of a client's unregister is over. -/
  | completeMove (client : UInt32)
deriving DecidableEq, Repr

/-- Keeps the sessions of other nodes and passes their connect requests on. -/
structure RendezvousServer where
  me : Identity
  sessions : Sessions
  alarms : Alarms ServerAlarm := {}
  drawn : Nat := 0

namespace RendezvousServer

/-- The first sweep comes one period after the start. -/
def start (config : RendezvousConfig) (me : Identity) (c : Surroundings) : RendezvousServer :=
  let period := Time.ofMillis config.sweepPeriod.toNat
  { me := me
    sessions := .empty (Time.ofMillis config.sessionTtl.toNat) config.maxSessions.toNat
    alarms := Alarms.armEvery {} (c.chance.ticket 0) (c.now + period) period .sweep
    drawn := 1 }

/-- Ends the move of a client when its delay is over. -/
def armMove (server : RendezvousServer) (c : Surroundings) (client : UInt32) (delay : Int32) : RendezvousServer :=
  { server with
    alarms := server.alarms.arm (c.chance.ticket server.drawn) (c.now + Time.ofMillis delay.toInt.toNat) (.completeMove client)
    drawn := server.drawn + 1 }

/-- What the target of a connect request is told: the initiator, by the address that was seen. -/
def forward (server : RendezvousServer) (c : Surroundings) (request : Message) (seen target : Address) : Message :=
  { Message.plain (server.me.contact c.roster) target (.connectRequest { request.source with address := seen } true) with
    ticket := request.ticket }

/-- Answers go to the address that a request was seen to come from, under its ticket. Connect requests are passed on
before they are answered; requests of other concern are passed over. -/
def handle (server : RendezvousServer) (c : Surroundings) (request : Message) (remote : Socket) :
    RendezvousServer × List Message :=
  let client := request.source.node
  let seen := Address.ofSocket remote client
  let answer (body : Body) : Message := { Message.plain (server.me.contact c.roster) seen body with ticket := request.ticket }
  match request.body with
  | .registerRequest .. =>
    let (status, sessions) := server.sessions.register request.source seen c.clock
    ({ server with sessions }, [answer (.registerResponse status)])
  | .keepAliveRequest =>
    let (status, sessions) := server.sessions.keepAlive client seen c.clock
    ({ server with sessions }, [answer (.keepAliveResponse status)])
  | .unregisterRequest delay _ =>
    let (status, sessions) := server.sessions.unregister client seen delay c.clock
    let server := { server with sessions }
    (if status = .success ∧ 0 < delay then server.armMove c client delay else server, [answer (.unregisterResponse status)])
  | .connectRequest peer false =>
    match server.sessions.connect client peer.node c.clock with
    | (some target, sessions) =>
      ({ server with sessions }, [server.forward c request seen target, answer (.connectResponse .success peer.node)])
    | (none, sessions) => ({ server with sessions }, [answer (.connectResponse .unknownTarget peer.node)])
  | .deleteConnection peer => ({ server with sessions := (server.sessions.deleteConnection client peer).2 }, [])
  | _ => (server, [])

/-- Tells the clients of expired sessions that they have ended. -/
def sweep (server : RendezvousServer) (c : Surroundings) : RendezvousServer × List Message :=
  let (expired, sessions) := server.sessions.sweep c.clock
  ({ server with sessions },
    expired.map fun session => Message.plain (server.me.contact c.roster) session.publicAddress .expire)

def onAlarm (server : RendezvousServer) (c : Surroundings) (alarm : ServerAlarm) : RendezvousServer × List Message :=
  match alarm with
  | .sweep => server.sweep c
  | .completeMove client => ({ server with sessions := (server.sessions.completeMove client).2 }, [])

/-- Lets the next alarm ring that does so by now. -/
def ring? (server : RendezvousServer) (c : Surroundings) : Option (RendezvousServer × List Message) :=
  (server.alarms.ring? c.now).map fun (alarm, alarms) => ({ server with alarms }).onAlarm c alarm

end RendezvousServer

end NatTraversal
