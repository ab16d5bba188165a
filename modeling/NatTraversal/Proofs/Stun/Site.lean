import NatTraversal.Proofs.Inevitable
import NatTraversal.Proofs.Network.Basic
import NatTraversal.Proofs.Stun.Translator
import NatTraversal.Stun.Responder
import NatTraversal.Stun.Surveyor

namespace NatTraversal

/-- A server that answers echoes at its own port, and at its alternate port if it has one. -/
structure EchoServer where
  contact : Contact
  config : ResponderConfig

namespace EchoServer

def address (server : EchoServer) : Address := server.contact.address

def main (server : EchoServer) : Socket := server.address.socket

def alternate (server : EchoServer) : Socket := .v4 server.address.ip server.config.altPort

def hears (server : EchoServer) (socket : Socket) : Bool :=
  socket = server.main || server.config.altPort ≠ 0 && socket = server.alternate

/-- What a server sends when a packet reaches it. -/
def answers (server : EchoServer) (packet : Packet) : List Packet :=
  (server.config.respond server.contact packet.message packet.source packet.dest).map fun message =>
    ⟨message.sourceSocket, message.destSocket, message⟩

end EchoServer

/-- A node behind a translator, and two servers on the other side of it. -/
structure SurveySite where
  me : Identity
  roster : Roster
  chance : Chance
  /-- The system's answer to a request for a socket. -/
  system : Socket → BindAnswer
  gateway : Option UInt16
  config : SurveyConfig
  endpoint : Endpoint
  /-- When the survey begins. -/
  begun : Nat
  translator : Translator
  first : EchoServer
  second : EchoServer

structure SurveyWorld where
  now : Nat
  surveyor : Surveyor
  endpoint : Endpoint
  translations : Translations
  flight : List Packet

/-- The last timeout of a request waits for whatever is under way for it. -/
def SurveyWorld.Patient (w : SurveyWorld) : Prop :=
  ∀ transaction next, w.surveyor.state = .waiting transaction next → transaction.retriesLeft = 0 →
    ∀ packet ∈ w.flight, packet.message.ticket ≠ transaction.request.ticket

namespace SurveySite

variable (site : SurveySite)

def surroundings (now : Nat) : Surroundings := ⟨now, 0, site.roster, site.chance⟩

def outside : Outside := ⟨fun _ => site.system, fun _ _ => .ok (), fun _ => .taken⟩

def server? (socket : Socket) : Option EchoServer :=
  if site.first.hears socket then some site.first else if site.second.hears socket then some site.second else none

/-- The datagrams of the node on the far side of the translator. What the endpoint tells its own node is none. -/
def launch (t : Translations) : List EndpointEffect → Translations × List Packet
  | [] => (t, [])
  | .transmit source dest frame :: rest =>
    let (last, packets) := launch (site.translator.send t ⟨source, dest⟩) rest
    match Message.decode frame .udp with
    | .ok message => (last, ⟨site.translator.outer t ⟨source, dest⟩, dest, message⟩ :: packets)
    | .error _ => (last, packets)
  | _ :: rest => launch t rest

def take (now : Nat) (translations : Translations) (flight : List Packet) (outcome : Surveyor.Outcome) : SurveyWorld :=
  let (translations, packets) := site.launch translations outcome.2.1
  { now, surveyor := outcome.1, endpoint := outcome.2.2, translations, flight := flight ++ packets }

def start : SurveyWorld :=
  site.take site.begun {} []
    (Surveyor.start site.config site.me site.gateway (site.surroundings site.begun) site.outside site.endpoint)

/-- Whether a packet gets in to a port that is bound. -/
def lets (t : Translations) (ports : PortTable Unit) (source dest : Socket) : Bool :=
  site.translator.lets t (fun inner => ports.contains inner.port) source dest

/-- A packet reaches the server that it is for, or the node if the translator lets it. Otherwise it is dropped. -/
def arrive (w : SurveyWorld) (packet : Packet) : SurveyWorld :=
  match site.server? packet.dest with
  | some server => { w with flight := w.flight ++ server.answers packet }
  | none =>
    if site.lets w.translations w.endpoint.udp packet.source packet.dest then
      site.take w.now w.translations w.flight
        (w.surveyor.onReply (site.surroundings w.now) site.outside w.endpoint packet.message)
    else w

variable {site} {w : SurveyWorld} {packet : Packet}

theorem arrive_at_server {server : EchoServer} (heard : site.server? packet.dest = some server) :
    site.arrive w packet = { w with flight := w.flight ++ server.answers packet } := by
  rw [arrive, heard]

theorem arrive_at_node (unheard : site.server? packet.dest = none)
    (inside : site.lets w.translations w.endpoint.udp packet.source packet.dest = true) :
    site.arrive w packet = site.take w.now w.translations w.flight
      (w.surveyor.onReply (site.surroundings w.now) site.outside w.endpoint packet.message) := by
  rw [arrive, unheard]
  exact if_pos inside

theorem arrive_nowhere (unheard : site.server? packet.dest = none)
    (outside : site.lets w.translations w.endpoint.udp packet.source packet.dest = false) :
    site.arrive w packet = w := by
  rw [arrive, unheard]
  exact if_neg (by simp [outside])

variable (site)

/-- The packets under way arrive in any order and as late as they like. A timeout may be noticed late as well. -/
inductive Step : SurveyWorld → SurveyWorld → Prop
  | deliver {w : SurveyWorld} {before after : List Packet} {packet : Packet} {time : Nat} (later : w.now ≤ time)
      (flies : w.flight = before ++ packet :: after) :
      Step w (site.arrive { w with now := time, flight := before ++ after } packet)
  | timeout {w : SurveyWorld} {time due : Nat} (later : w.now ≤ time) (rings : w.surveyor.next? = some due) (passed : due ≤ time)
      (patient : w.Patient) :
      Step w (site.take time w.translations w.flight
        (w.surveyor.onTimeout (site.surroundings time) site.outside w.endpoint))

/-- Whether the survey ends with such a description, whatever the order and the delays are. -/
def Finds (found : NatType → Prop) : Prop :=
  Inevitable site.Step (fun w => ∃ nat, w.surveyor.result? = some (.ok nat) ∧ found nat) site.start

end SurveySite

end NatTraversal
