import NatTraversal.Proofs.Endpoint.Binding
import NatTraversal.Proofs.Network.Parties
import NatTraversal.Proofs.Stun.Course

namespace NatTraversal

theorem Socket.v4_inj {ip other : Ipv4} {port last : UInt16} : Socket.v4 ip port = .v4 other last ↔ ip = other ∧ port = last := by
  simp [Socket.v4]

/-- An echo request has a frame of its own length. -/
theorem Message.encode_echoRequest {message : Message} {kind : EchoKind} (body : message.body = .echoRequest kind none)
    (few : message.source.parents.length ≤ 255) :
    ∃ frame, message.encode = .ok frame ∧ frame.length = 52 + 10 * message.source.parents.length := by
  have parents := Contact.encodeParents_eq_ok_iff.mpr ⟨few, rfl⟩
  have echo : message.body.encode = .ok [kind.code, 0] := by
    rw [body]
    rfl
  refine ⟨_, encode_eq_ok_iff.mpr ⟨_, _, parents, echo, rfl⟩, ?_⟩
  simp only [List.length_append, preamble_length, NatType.encode_length, NatType.wireLength, List.length_cons, List.length_nil,
    List.length_flatMap, Address.encode_length, Address.wireLength, List.map_const', List.sum_replicate_nat]
  omega

theorem PortTable.Sound.isSome_get? {χ : Type} {table : PortTable χ} {port : UInt16} (sound : table.Sound)
    (bound : table.contains port = true) : (table.get? port).isSome = true := by
  rw [contains_eq_isSome] at bound
  obtain ⟨socket, found⟩ := Option.isSome_iff_exists.mp bound
  rw [get?, found, Option.bind_some, ← Table.contains_eq_isSome]
  exact sound.connected port socket found

namespace SurveySite

/-- Whether a socket is on the far side of the translator and no server's. -/
def Public (site : SurveySite) (socket : Socket) : Prop :=
  ∃ ip port, socket = .v4 ip port ∧ ip ≠ site.first.address.ip ∧ ip ≠ site.second.address.ip

/-- Servers apart from each other and from the node, a translator that lets a destination answer, and a node that can
send and tell its requests apart. -/
structure Sound (site : SurveySite) : Prop where
  backoff : site.config.backoff.MeasuredPast
  tickets : site.chance.Distinct 8
  table : site.endpoint.udp.Sound
  bound : site.endpoint.udp.contains site.me.address.port = true
  parents : (site.me.contact site.roster).parents.length ≤ 255
  frames : 52 + 10 * (site.me.contact site.roster).parents.length ≤ site.endpoint.config.maxFrame.toNat
  apart : site.first.address.ip ≠ site.second.address.ip
  away : site.me.address.ip ≠ site.first.address.ip ∧ site.me.address.ip ≠ site.second.address.ip
  picked : ∀ mappings key, (site.translator.pick mappings key).1 ≠ site.first.address.ip ∧
    (site.translator.pick mappings key).1 ≠ site.second.address.ip
  contacted : ∀ flows flow, flow ∈ flows → site.translator.admits flows (site.translator.mapping.key flow) flow.dest = true

/-- What stays as it is while a survey goes on. -/
structure Ready (site : SurveySite) (place : SurveyPlace) : Prop where
  config : place.endpoint.config = site.endpoint.config
  table : place.endpoint.udp.Sound
  outward : ∀ key socket, place.translations.mappings.get? key = some socket → site.Public socket

def flow (site : SurveySite) (port : UInt16) (dest : Socket) : Flow := ⟨.v4 site.me.address.ip port, dest⟩

/-- The place after a request has been sent. -/
def sent (site : SurveySite) (place : SurveyPlace) (port : UInt16) (dest : Socket) : SurveyPlace :=
  ⟨place.endpoint, site.translator.send place.translations (site.flow port dest), place.drawn + 1⟩

/-- Where a destination sees a port of the node. -/
def seen (site : SurveySite) (place : SurveyPlace) (port : UInt16) (dest : Socket) : Socket :=
  site.translator.outer place.translations (site.flow port dest)

variable {site : SurveySite} {place : SurveyPlace} {port : UInt16} {dest : Socket}

theorem server?_of_public {socket : Socket} (isPublic : site.Public socket) : site.server? socket = none := by
  obtain ⟨ip, port, rfl, first, second⟩ := isPublic
  simp [server?, EchoServer.hears, EchoServer.main, EchoServer.alternate, Address.socket, Socket.v4_inj, first, second]

theorem server?_first (heard : site.first.hears dest = true) : site.server? dest = some site.first := by
  rw [server?, if_pos heard]

theorem key_of_independent (independent : site.translator.mapping = .endpointIndependent) (port : UInt16) (dest : Socket) :
    site.translator.mapping.key (site.flow port dest) = ⟨.v4 site.me.address.ip port, none, none⟩ := by
  rw [independent]
  rfl

/-- A mapping tells the alternate port of the first server from its main one if it looks at ports, and they differ. -/
theorem key_alternate_iff (site : SurveySite) (port : UInt16) :
    site.translator.mapping.key (site.flow port site.first.alternate) = site.translator.mapping.key (site.flow port site.first.main) ↔
      (site.translator.mapping = .addressAndPortDependent → site.first.config.altPort = site.first.address.port) := by
  have addresses : site.first.alternate.ip = site.first.main.ip := rfl
  have sockets : site.first.alternate = site.first.main ↔ site.first.config.altPort = site.first.address.port := by
    rw [EchoServer.alternate, EchoServer.main, Address.socket, Socket.v4_inj]
    exact and_iff_right rfl
  rw [flow, flow, Dependence.key_eq_iff]
  cases site.translator.mapping <;> simp [addresses, sockets]

namespace Sound

/-- Every mapping that looks at destinations tells the servers apart. -/
theorem key_second_iff (sound : site.Sound) (port : UInt16) :
    site.translator.mapping.key (site.flow port site.second.main) = site.translator.mapping.key (site.flow port site.first.main) ↔
      site.translator.mapping = .endpointIndependent := by
  have addresses : site.second.main.ip ≠ site.first.main.ip := fun same => sound.apart (Ip.v4.inj same).symm
  have sockets : site.second.main ≠ site.first.main := fun same => addresses (congrArg Socket.ip same)
  rw [flow, flow, Dependence.key_eq_iff]
  cases site.translator.mapping <;> simp [addresses, sockets]

theorem server?_second (sound : site.Sound) : site.server? site.second.main = some site.second := by
  have other : site.first.hears site.second.main = false := by
    simp [EchoServer.hears, EchoServer.main, EchoServer.alternate, Address.socket, Socket.v4_inj, sound.apart.symm]
  have own : site.second.hears site.second.main = true := by simp [EchoServer.hears]
  rw [server?, other, own]
  rfl

theorem ready (sound : site.Sound) : site.Ready site.ground := ⟨rfl, sound.table, fun _ _ known => nomatch known⟩

theorem seen_public (sound : site.Sound) (ready : site.Ready place) (port : UInt16) (dest : Socket) :
    site.Public (site.seen place port dest) := by
  unfold seen Translator.outer
  cases known : place.translations.mappings.get? (site.translator.mapping.key (site.flow port dest)) with
  | some socket => exact ready.outward _ _ known
  | none => exact ⟨_, _, rfl, sound.picked _ _⟩

theorem ready_sent (sound : site.Sound) (ready : site.Ready place) (port : UInt16) (dest : Socket) :
    site.Ready (site.sent place port dest) := by
  refine ⟨ready.config, ready.table, fun key socket known => ?_⟩
  rw [sent, Translator.get?_send] at known
  split at known
  · cases known
    exact sound.seen_public ready port dest
  · exact ready.outward key socket known

/-- Where an echo request goes to when it has been sent. -/
theorem ask_echo (sound : site.Sound) (ready : site.Ready place) {server : Address} (kind : EchoKind)
    (bound : place.endpoint.udp.contains port = true) (apart : site.me.address.ip ≠ server.ip) :
    let request := site.request place.drawn port server (.echoRequest kind none)
    site.ask place request =
      (site.fate (site.sent place port server.socket).translations place.endpoint.udp
        ⟨site.seen place port server.socket, server.socket, request⟩, site.sent place port server.socket) := by
  intro request
  have source : request.sourceSocket = .v4 site.me.address.ip port := by
    show Socket.v4 (site.me.contact site.roster).address.ip port = _
    rw [Identity.contact_address]
  have dest : request.destSocket = server.socket := rfl
  have straight : Endpoint.isLooped request = false := by
    rw [Endpoint.isLooped, source, dest, beq_eq_false_iff_ne]
    exact fun same => apart (Socket.v4_inj.mp same).1
  obtain ⟨frame, encoded, length⟩ := Message.encode_echoRequest (show request.body = .echoRequest kind none from rfl) sound.parents
  have fits : frame.length ≤ place.endpoint.config.maxFrame.toNat := by
    rw [length, ready.config]
    exact sound.frames
  have leaves : place.endpoint.datagram request = .ok frame := by
    have channel := ready.table.isSome_get? bound
    rw [Endpoint.datagram, source, if_neg (by simpa [Socket.v4, Option.isSome_iff_ne_none] using channel), Endpoint.encode, encoded]
    exact if_neg (by omega)
  have accepted : place.endpoint.accept site.outside request = .ok () := by
    rw [Endpoint.accept, straight]
    show (do let frame ← place.endpoint.datagram request; _) = _
    rw [leaves]
    rfl
  have effects : (place.endpoint.send site.outside request).1 = [.transmit (.v4 site.me.address.ip port) server.socket frame] := by
    rw [← source]
    simp only [Endpoint.send, straight, leaves]
    rfl
  have decoded : Message.decode frame .udp = .ok request :=
    Message.decode_eq_ok_iff.mpr ⟨rfl, frame, encoded, SameBut.refl _ _⟩
  unfold ask
  rw [accepted, effects]
  simp only [launch, decoded]
  rfl

/-- A mapping is there for what has been sent, and lets the destination answer. -/
theorem lets_contacted (sound : site.Sound) {place : SurveyPlace} (bound : place.endpoint.udp.contains port = true) :
    site.lets (site.sent place port dest).translations place.endpoint.udp dest (site.seen place port dest) = true := by
  have mapped : (site.translator.mapping.key (site.flow port dest), site.seen place port dest) ∈
      (site.sent place port dest).translations.mappings.entries := by
    rw [← Table.get?_eq_some_iff, sent, Translator.get?_send, if_pos rfl]
    rfl
  have flows : site.flow port dest ∈ (site.sent place port dest).translations.flows := Translator.mem_flows_send.mpr (.inr rfl)
  rw [lets, Translator.lets, List.any_eq_true]
  refine ⟨_, mapped, ?_⟩
  rw [Bool.and_eq_true, Bool.and_eq_true, decide_eq_true_eq, Dependence.key_inner]
  exact ⟨⟨rfl, bound⟩, sound.contacted _ _ flows⟩

end Sound

theorem socket_ofSocket {socket : Socket} (isPublic : site.Public socket) (node : UInt32) :
    (Address.ofSocket socket node).socket = socket := by
  obtain ⟨ip, port, rfl, _⟩ := isPublic
  rfl

/-- An answer that is sent to the public socket of the node reaches it if the translator lets it. -/
theorem fate_of_public {t : Translations} {ports : PortTable Unit} {packet : Packet} (isPublic : site.Public packet.dest) :
    site.fate t ports packet = if site.lets t ports packet.source packet.dest then some packet.message else none := by
  cases inside : site.lets t ports packet.source packet.dest with
  | true => exact fate_at_node (server?_of_public isPublic) inside
  | false => exact fate_nowhere (server?_of_public isPublic) inside

/-- The answer of a server to a packet, where it goes straight to the public socket of the node. -/
theorem fate_answered {t : Translations} {ports : PortTable Unit} {packet reply : Packet} {server : EchoServer}
    (heard : site.server? packet.dest = some server) (answers : server.answers packet = [reply]) (isPublic : site.Public reply.dest) :
    site.fate t ports packet = if site.lets t ports reply.source reply.dest then some reply.message else none := by
  rw [fate_at_server heard, answers, ← fate_of_public isPublic]
  rfl

/-- An answer is observed if it gets in. -/
theorem isSome_observed_echo (config : ResponderConfig) (me : Contact) (port : UInt16) (client : Address) (kind : EchoKind)
    (request : Message) (inside : Bool) :
    (Survey.observed (if inside then some (config.echo me port client kind request) else none)).isSome = inside := by
  cases inside <;> rfl

theorem evaluate_echo (site : SurveySite) (place : SurveyPlace) (port : UInt16) (server : Address) (kind : EchoKind) :
    site.evaluate place (.echo port server kind) =
      (Survey.observed (site.ask place (site.request place.drawn port server (.echoRequest kind none))).1,
        (site.ask place (site.request place.drawn port server (.echoRequest kind none))).2) := rfl

namespace Sound

/-- A server that is asked tells where it sees the node, at the port that it was asked at. -/
theorem evaluate_plain (sound : site.Sound) (ready : site.Ready place) (bound : place.endpoint.udp.contains port = true)
    {server : EchoServer} {address : Address} (heard : site.server? address.socket = some server)
    (home : address.ip = server.address.ip) (apart : site.me.address.ip ≠ address.ip) :
    site.evaluate place (.echo port address .plain) =
      (some (site.seen place port address.socket, server.config.altPort), site.sent place port address.socket) := by
  have isPublic := sound.seen_public ready port address.socket
  let request := site.request place.drawn port address (.echoRequest .plain none)
  let packet : Packet := ⟨site.seen place port address.socket, address.socket, request⟩
  let reply := server.config.echo server.contact address.port (.ofSocket packet.source request.source.node) .plain request
  have answers : server.answers packet = [⟨.v4 server.address.ip address.port, reply.destSocket, reply⟩] := rfl
  have dest : reply.destSocket = site.seen place port address.socket := socket_ofSocket isPublic _
  have inside : site.lets (site.sent place port address.socket).translations place.endpoint.udp (.v4 server.address.ip address.port)
      reply.destSocket = true := by
    rw [dest, ← home]
    exact sound.lets_contacted bound
  rw [evaluate_echo, sound.ask_echo ready .plain bound apart, fate_answered heard answers (dest ▸ isPublic), if_pos inside]
  exact congrArg (fun socket => (some (socket, server.config.altPort), _)) dest

theorem evaluate_echo_place (sound : site.Sound) (ready : site.Ready place) (bound : place.endpoint.udp.contains port = true)
    {server : Address} (kind : EchoKind) (apart : site.me.address.ip ≠ server.ip) :
    (site.evaluate place (.echo port server kind)).2 = site.sent place port server.socket := by
  rw [evaluate_echo, sound.ask_echo ready kind bound apart]

/-- The answer comes from the partner if it gets in from there. -/
theorem isSome_changeServer (sound : site.Sound) (ready : site.Ready place) (bound : place.endpoint.udp.contains port = true)
    (partner : site.first.config.partner = some site.second.address) :
    (site.evaluate place (.echo port site.first.address .changeServer)).1.isSome =
      site.lets (site.sent place port site.first.main).translations place.endpoint.udp site.second.main
        (site.seen place port site.first.main) := by
  have isPublic := sound.seen_public ready port site.first.main
  let request := site.request place.drawn port site.first.address (.echoRequest .changeServer none)
  let packet : Packet := ⟨site.seen place port site.first.main, site.first.main, request⟩
  let client := Address.ofSocket packet.source request.source.node
  let relay : Message :=
    { Message.plain site.first.contact site.second.address (.echoRequest .forwarded (some client)) with ticket := request.ticket }
  let relayed : Packet := ⟨site.first.main, site.second.main, relay⟩
  let reply := site.second.config.echo site.second.contact site.second.address.port client .changeServer relay
  have passed : site.first.answers packet = [relayed] := by
    have relays : site.first.config.respond site.first.contact request packet.source packet.dest = [relay] := by
      simp only [ResponderConfig.respond, request, SurveySite.request, Message.plain, partner]
      rfl
    rw [EchoServer.answers, relays]
    rfl
  have answers : site.second.answers relayed = [⟨site.second.main, reply.destSocket, reply⟩] := rfl
  have dest : reply.destSocket = site.seen place port site.first.main := socket_ofSocket isPublic _
  have heard : site.server? packet.dest = some site.first := server?_first (by simp [packet, EchoServer.hears])
  rw [evaluate_echo, sound.ask_echo ready .changeServer bound sound.away.1]
  show (Survey.observed (site.fate (site.sent place port site.first.main).translations place.endpoint.udp packet)).isSome = _
  rw [fate_at_server heard, passed, List.head?_cons, Option.bind_some,
    fate_answered sound.server?_second answers (dest ▸ isPublic), isSome_observed_echo, dest]

/-- The answer comes from the alternate port if it gets in from there. -/
theorem isSome_changePort (sound : site.Sound) (ready : site.Ready place) (bound : place.endpoint.udp.contains port = true)
    (alternate : site.first.config.altPort ≠ 0) :
    (site.evaluate place (.echo port site.first.address .changePort)).1.isSome =
      site.lets (site.sent place port site.first.main).translations place.endpoint.udp site.first.alternate
        (site.seen place port site.first.main) := by
  have isPublic := sound.seen_public ready port site.first.main
  let request := site.request place.drawn port site.first.address (.echoRequest .changePort none)
  let packet : Packet := ⟨site.seen place port site.first.main, site.first.main, request⟩
  let client := Address.ofSocket packet.source request.source.node
  let reply := site.first.config.echo site.first.contact site.first.config.altPort client .changePort request
  have answers : site.first.answers packet = [⟨site.first.alternate, reply.destSocket, reply⟩] := by
    show List.map _ (if site.first.config.altPort = 0 then [] else [reply]) = _
    rw [if_neg alternate]
    rfl
  have dest : reply.destSocket = site.seen place port site.first.main := socket_ofSocket isPublic _
  have heard : site.server? packet.dest = some site.first := server?_first (by simp [packet, EchoServer.hears])
  rw [evaluate_echo, sound.ask_echo ready .changePort bound sound.away.1]
  show (Survey.observed (site.fate (site.sent place port site.first.main).translations place.endpoint.udp packet)).isSome = _
  rw [fate_answered heard answers (dest ▸ isPublic), isSome_observed_echo, dest]

end Sound

end SurveySite

end NatTraversal
