import Mathlib.Data.List.Perm.Basic
import NatTraversal.Proofs.Network.Reactions

namespace NatTraversal

theorem Sessions.live?_of_le {sessions : Sessions} {client : UInt32} {session : Session} {clock horizon : Nat}
    (live : sessions.live? client horizon = some session) (early : clock ≤ horizon) :
    sessions.live? client clock = some session := by
  unfold live? at live ⊢
  rw [Option.filter_eq_some_iff] at live ⊢
  refine ⟨live.1, ?_⟩
  have unexpired := live.2
  simp only [Session.isExpired, Bool.not_eq_true', decide_eq_false_iff_not] at unexpired ⊢
  omega

theorem Sessions.connect_eq {sessions : Sessions} {target : UInt32} {now : Nat} {session : Session}
    (live : sessions.live? target now = some session) (initiator : UInt32) :
    ∃ forwarding, sessions.connect initiator target now = (some session.publicAddress, { sessions with forwarding }) := by
  simp only [connect, live]
  split
  · exact ⟨sessions.forwarding, rfl⟩
  · exact ⟨sessions.forwarding ++ [(initiator, target)], rfl⟩

theorem Sessions.not_mem_deleteConnection (sessions : Sessions) (a b : UInt32) :
    (a, b) ∉ (sessions.deleteConnection a b).2.forwarding ∧ (b, a) ∉ (sessions.deleteConnection a b).2.forwarding := by
  simp [deleteConnection]

namespace World

/-- What all worlds of one run have in common: who takes part, that each party holds its main socket, and that nobody
else does. -/
structure Stands (parties : Parties) (w : World) : Prop where
  plays : ∀ side, (w.peer side).Plays parties side
  relay : w.server.me = parties.relay
  main : ∀ side, w.holds side (parties.main side) = true
  apart : ∀ side socket, w.holds side socket = true → w.holds side.other socket = false
  hub : ∀ side, w.holds side parties.hub = false

def held (w : World) (side : Side) (socket : Socket) : Prop := w.holds side socket = true

/-- The server knows where to find a party, and will up to the horizon. -/
def Lists (parties : Parties) (horizon : Nat) (w : World) (side : Side) : Prop :=
  ∃ session, w.server.sessions.live? (parties.me side).node horizon = some session ∧
    session.publicAddress.socket = parties.main side

/-- A world in which the server has changed whom it forwards for, and sent packets. -/
def relaying (w : World) (forwarding : List (UInt32 × UInt32)) (packets : List Packet) : World :=
  { w with
    server := { w.server with sessions := { w.server.sessions with forwarding } }
    flight := w.flight ++ packets }

variable {parties : Parties} {horizon now clock : Nat} {w : World} {side : Side} {packet : Packet} {port : UInt16}

theorem Stands.ne_hub {socket : Socket} (stands : w.Stands parties) (held : w.holds side socket = true) : socket ≠ parties.hub := by
  rintro rfl
  have unheld := stands.hub side
  rw [held] at unheld
  cases unheld

theorem Stands.with_flight (stands : w.Stands parties) (flight : List Packet) : ({ w with flight } : World).Stands parties :=
  ⟨stands.plays, stands.relay, stands.main, stands.apart, stands.hub⟩

theorem Stands.relaying (stands : w.Stands parties) (forwarding : List (UInt32 × UInt32)) (packets : List Packet) :
    (w.relaying forwarding packets).Stands parties :=
  ⟨stands.plays, stands.relay, stands.main, stands.apart, stands.hub⟩

theorem take_peer_self (w : World) (side : Side) (outcome : Peer × List Packet) : (w.take side outcome).peer side = outcome.1 := by
  simp [World.take]

theorem take_peer_other (w : World) (side : Side) (outcome : Peer × List Packet) :
    (w.take side outcome).peer side.other = w.peer side.other := by
  simp [World.take]

section

variable {view : PunchView} {held : Socket → Prop} {events : List PunchEvent} {signals : List Signal} {result : Peer × List Packet}

theorem take_view (outcome : Peer.Outcome parties side (w.peer side) view held events signals result) :
    (w.take side result).view side = view := by
  rw [World.view, take_peer_self, outcome.view]

theorem take_view_other (w : World) (side : Side) (result : Peer × List Packet) :
    (w.take side result).view side.other = w.view side.other := by
  rw [World.view, take_peer_other, World.view]

theorem take_holds (outcome : Peer.Outcome parties side (w.peer side) view held events signals result) (socket : Socket) :
    (w.take side result).holds side socket = true ↔ held socket := by
  rw [holds, take_peer_self, outcome.held]

theorem take_holds_other (w : World) (side : Side) (result : Peer × List Packet) (socket : Socket) :
    (w.take side result).holds side.other socket = w.holds side.other socket := by
  rw [holds, take_peer_other, holds]

theorem take_held (outcome : Peer.Outcome parties side (w.peer side) view held events signals result) :
    (w.take side result).held side = held :=
  funext fun socket => propext (take_holds outcome socket)

theorem take_held_other (w : World) (side : Side) (result : Peer × List Packet) :
    (w.take side result).held side.other = w.held side.other := by
  funext socket
  rw [World.held, take_holds_other, World.held]

theorem take_log (outcome : Peer.Outcome parties side (w.peer side) view held events signals result) :
    ((w.take side result).peer side).log = (w.peer side).log ++ events := by
  rw [take_peer_self, outcome.log]

/-- A party may come to hold what nobody else does. -/
theorem Stands.take (stands : w.Stands parties)
    (outcome : Peer.Outcome parties side (w.peer side) view held events signals result) (main : held (parties.main side))
    (free : ∀ socket, held socket → w.holds side.other socket = false ∧ socket ≠ parties.hub) :
    (w.take side result).Stands parties := by
  constructor
  · intro one
    rcases side.eq_or_eq_other one with rfl | rfl
    · rw [take_peer_self]
      exact outcome.plays
    · rw [take_peer_other]
      exact stands.plays _
  · exact stands.relay
  · intro one
    rcases side.eq_or_eq_other one with rfl | rfl
    · rw [take_holds outcome]
      exact main
    · rw [take_holds_other]
      exact stands.main _
  · intro one socket
    rcases side.eq_or_eq_other one with rfl | rfl
    · rw [take_holds outcome, take_holds_other]
      exact fun mine => (free socket mine).1
    · rw [Side.other_other, take_holds_other, ← Bool.not_eq_true, take_holds outcome]
      intro theirs mine
      exact Bool.false_ne_true ((free socket mine).1.symm.trans theirs)
  · intro one
    rcases side.eq_or_eq_other one with rfl | rfl
    · rw [← Bool.not_eq_true, take_holds outcome]
      exact fun mine => (free _ mine).2 rfl
    · rw [take_holds_other]
      exact stands.hub _

/-- A party that holds no more than before. -/
theorem Stands.take_of_le (stands : w.Stands parties)
    (outcome : Peer.Outcome parties side (w.peer side) view held events signals result) (main : held (parties.main side))
    (less : ∀ socket, held socket → w.holds side socket = true) : (w.take side result).Stands parties := by
  refine stands.take outcome main ?_
  intro socket mine
  exact ⟨stands.apart side socket (less socket mine), stands.ne_hub (less socket mine)⟩

end

theorem deliver_to_holder (stands : w.Stands parties) (held : w.holds side packet.dest = true) :
    w.deliver now clock packet =
      w.take side ((w.peer side).handle now (.inbound packet.message packet.source packet.dest)) := by
  have alone := stands.apart side packet.dest held
  have holder : w.holder? packet.dest = some side := by
    cases side with
    | left => simp [holder?, held]
    | right =>
      have left : w.holds .left packet.dest = false := alone
      simp [holder?, held, left]
  simp only [deliver, holder]

theorem holder?_eq_none (nobody : ∀ side, w.holds side packet.dest = false) : w.holder? packet.dest = none := by
  simp [holder?, nobody]

theorem deliver_to_hub (stands : w.Stands parties) (dest : packet.dest = parties.hub) :
    w.deliver now clock packet = w.serve now clock packet := by
  have holder : w.holder? packet.dest = none := holder?_eq_none fun side => by rw [dest, stands.hub]
  have hub : packet.dest = w.hub := by rw [dest, World.hub, stands.relay, Parties.hub]
  rw [deliver, holder]
  exact if_pos hub

/-- A packet for a socket that nobody holds is lost. -/
theorem deliver_to_nobody (stands : w.Stands parties) (nobody : ∀ side, w.holds side packet.dest = false)
    (elsewhere : packet.dest ≠ parties.hub) : w.deliver now clock packet = w := by
  have holder := holder?_eq_none nobody
  have hub : packet.dest ≠ w.hub := by rwa [World.hub, stands.relay]
  rw [deliver, holder]
  exact if_neg hub

/-- The server passes a request on to the main socket of the other party, and answers it. -/
theorem serve_request (now : Nat) (stands : w.Stands parties) (lists : w.Lists parties horizon side.other) (early : clock ≤ horizon)
    (carries : parties.Carries packet (.request side port)) :
    ∃ forwarding packets, w.serve now clock packet = w.relaying forwarding packets ∧
      List.Forall₂ parties.Carries packets [.forward side port, .answer (parties.socket side port)] := by
  obtain ⟨source, _, contact, body⟩ := carries
  obtain ⟨session, live, address⟩ := lists
  have node : (parties.contact side.other).node = (parties.me side.other).node :=
    congrArg PeerKey.node ((parties.me side.other).contact_key (parties.roster side.other))
  obtain ⟨forwarding, passes⟩ := Sessions.connect_eq (Sessions.live?_of_le (node ▸ live) early) packet.message.source.node
  have seen : (⟨packet.message.source, Address.ofSocket packet.source packet.message.source.node⟩ : Contact × Address) =
      (parties.contactAt side port, (parties.contactAt side port).address) := by
    rw [contact, source, Parties.contactAt, Parties.contact, Identity.contact_address]
    rfl
  simp only [Prod.mk.injEq] at seen
  refine ⟨forwarding, [⟨w.hub, session.publicAddress.socket, w.server.forward ⟨now, clock, w.serverRoster, w.serverChance⟩
      packet.message (Address.ofSocket packet.source packet.message.source.node) session.publicAddress⟩,
    ⟨w.hub, (Address.ofSocket packet.source packet.message.source.node).socket,
      { Message.plain (w.server.me.contact w.serverRoster) (Address.ofSocket packet.source packet.message.source.node)
          (.connectResponse .success (parties.contact side.other).node) with ticket := packet.message.ticket }⟩], ?_,
    .cons ⟨address, ?_, ?_⟩ (.cons ⟨?_, _, rfl⟩ .nil)⟩
  · simp only [serve, RendezvousServer.handle, body, passes, relaying]
    rfl
  · simp only [RendezvousServer.forward, Message.plain, Identity.contact_address, stands.relay]
  · simp only [RendezvousServer.forward, Message.plain]
    rw [seen.2, seen.1]
  · rw [seen.2, parties.contactAt_socket]

/-- A party that has found its path ends all forwarding between the two. -/
theorem serve_delete (w : World) (now clock : Nat) (carries : parties.Carries packet (.delete side)) :
    ∃ forwarding, w.serve now clock packet = w.relaying forwarding [] ∧
      ((parties.me side).node, (parties.me side.other).node) ∉ forwarding ∧
      ((parties.me side.other).node, (parties.me side).node) ∉ forwarding := by
  obtain ⟨_, node, body⟩ := carries
  refine ⟨_, ?_, Sessions.not_mem_deleteConnection w.server.sessions _ _⟩
  simp only [serve, RendezvousServer.handle, body, node, relaying]
  rfl

/-- The signals of what is under way, in its order. -/
def Flies (parties : Parties) (w : World) (signals : List Signal) : Prop := List.Forall₂ parties.Carries w.flight signals

theorem Flies.of_nil (nothing : w.flight = []) : w.Flies parties [] := by
  rw [Flies, nothing]
  exact .nil

theorem Flies.eq_nil {signals : List Signal} (flies : w.Flies parties signals) (nothing : w.flight = []) : signals = [] := by
  rw [Flies, nothing] at flies
  exact List.forall₂_nil_left_iff.mp flies

/-- What arrives is about one of the signals, and leaves the others under way. -/
theorem Flies.arrives {signals : List Signal} {index : Nat} (flies : w.Flies parties signals)
    (arrives : w.flight[index]? = some packet) :
    ∃ signal, signals[index]? = some signal ∧ parties.Carries packet signal ∧
      List.Forall₂ parties.Carries (w.flight.eraseIdx index) (signals.eraseIdx index) := by
  unfold Flies at flies
  generalize w.flight = flight at *
  induction flies generalizing index with
  | nil => cases arrives
  | cons carries rest ih =>
    cases index with
    | zero =>
      cases arrives
      exact ⟨_, rfl, carries, rest⟩
    | succ index =>
      obtain ⟨signal, found, carried, others⟩ := ih arrives
      exact ⟨signal, found, carried, .cons carries others⟩

theorem Flies.take {view : PunchView} {held : Socket → Prop} {events : List PunchEvent} {signals sent : List Signal}
    {result : Peer × List Packet} (flies : w.Flies parties signals)
    (outcome : Peer.Outcome parties side (w.peer side) view held events sent result) :
    (w.take side result).Flies parties (signals ++ sent) :=
  List.rel_append flies outcome.packets

theorem Flies.relaying {signals sent : List Signal} {packets : List Packet} (flies : w.Flies parties signals)
    (forwarding : List (UInt32 × UInt32)) (carried : List.Forall₂ parties.Carries packets sent) :
    (w.relaying forwarding packets).Flies parties (signals ++ sent) :=
  List.rel_append flies carried

/-- The worlds before and after one packet is taken out of what is under way. -/
structure Opens (parties : Parties) (w : World) (signals : List Signal) (packet : Packet) (signal : Signal) (rest : List Signal)
    (opened : World) : Prop where
  carries : parties.Carries packet signal
  perm : signals.Perm (signal :: rest)
  flies : opened.Flies parties rest
  stands : opened.Stands parties
  peer : opened.peer = w.peer
  server : opened.server = w.server
  calls : opened.calls = w.calls

theorem step?_deliver {signals : List Signal} {index : Nat} {later : World} (stands : w.Stands parties)
    (flies : w.Flies parties signals) (step : w.step? now clock (.deliver index) = some later) :
    ∃ packet signal rest opened, w.Opens parties signals packet signal rest opened ∧ later = opened.deliver now clock packet := by
  simp only [step?, Option.map_eq_some_iff] at step
  obtain ⟨packet, arrives, rfl⟩ := step
  obtain ⟨signal, found, carries, others⟩ := flies.arrives arrives
  obtain ⟨inside, rfl⟩ := List.getElem?_eq_some_iff.mp found
  exact ⟨packet, _, _, { w with flight := w.flight.eraseIdx index },
    ⟨carries, (List.getElem_cons_eraseIdx_perm inside).symm, others, stands.with_flight _, rfl, rfl, rfl⟩, rfl⟩

theorem Stands.telling (stands : w.Stands parties) (side : Side) (rest : List Contact) : (w.telling side rest).Stands parties :=
  ⟨stands.plays, stands.relay, stands.main, stands.apart, stands.hub⟩

/-- A party that begins with the other: the handshake, the port that it is punched from, and the ports that it has been
given for it. -/
theorem step?_call {system : Socket → BindAnswer} {rest : List Contact} {later : World} (stands : w.Stands parties)
    (natted : (parties.contact side.other).isOpen = false)
    (parents : (parties.contact side.other).parents = [parties.relay.address])
    (idle : (w.view side).handshake (parties.key side.other) = none) (apart : (w.view side).path (parties.key side.other) = none)
    (allowed : (w.peer side).puncher.refusal? ((w.peer side).surroundings now) (parties.contact side.other) = none)
    (calls : w.calls side = parties.contact side.other :: rest) (honest : w.Honest (.call side system))
    (step : w.step? now clock (.call side system) = some later) :
    ∃ punchPort allocated hs result, hs = Peer.calling parties side (w.peer side) now (punchPort, allocated) ∧
      (allocated = [] ∧ punchPort = parties.mainPort side ∨
        allocated = [punchPort] ∧ (parties.contact side.other).nat.mapping ≠ .endpointIndependent ∧
          (∀ one, w.holds one (parties.socket side punchPort) = false) ∧ parties.socket side punchPort ≠ parties.hub) ∧
      Peer.Outcome parties side ((w.telling side rest).peer side)
        ((((w.view side).withOwner hs.pingId (some (parties.key side.other))).withHandshake (parties.key side.other)
          (some (Puncher.attempted hs))).drawing 3)
        (fun socket => w.held side socket ∨ ∃ port ∈ allocated, socket = parties.socket side port) []
        (Parties.attempt side hs) result ∧
      later = (w.telling side rest).take side result ∧ later.Stands parties := by
  obtain ⟨punchPort, allocated, hs, same, given, outcome⟩ := Peer.on_connect now (stands.plays side) natted parents idle apart allowed
    (stands.main side) fun socket port granted => (honest socket port granted).1
  have fresh : ∀ port ∈ allocated, (∀ one, w.holds one (parties.socket side port) = false) ∧
      parties.socket side port ≠ parties.hub := by
    intro port member
    rcases given with ⟨rfl, _⟩ | ⟨rfl, _, granted⟩
    · cases member
    · rw [List.mem_singleton.mp member]
      have free := (honest _ _ granted).2
      rwa [World.hub, stands.relay] at free
  simp only [step?, calls, Option.some.injEq] at step
  subst step
  refine ⟨punchPort, allocated, hs, _, same, ?_, outcome, rfl, ?_⟩
  · rcases given with ⟨rfl, main⟩ | ⟨rfl, depends, _⟩
    · exact .inl ⟨rfl, main⟩
    · exact .inr ⟨rfl, depends, fresh punchPort (List.mem_singleton_self _)⟩
  · refine (stands.telling side rest).take outcome (.inl (stands.main side)) ?_
    intro socket mine
    rcases mine with held | ⟨port, member, rfl⟩
    · exact ⟨stands.apart side socket held, stands.ne_hub held⟩
    · exact ⟨(fresh port member).1 side.other, (fresh port member).2⟩

end World

end NatTraversal
