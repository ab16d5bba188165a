import Mathlib.Data.List.Forall2
import NatTraversal.Proofs.Network.Basic

namespace NatTraversal

theorem Identity.contact_address (me : Identity) (roster : Roster) : (me.contact roster).address = me.address := by
  unfold contact
  dsimp only
  split <;> rfl

theorem Identity.contact_key (me : Identity) (roster : Roster) : (me.contact roster).key = ⟨me.node, me.overlay⟩ := by
  unfold contact
  dsimp only
  split <;> rfl

theorem Identity.contact_parents_of_nil {me : Identity} {roster : Roster} (none : me.parents roster = []) :
    (me.contact roster).parents = [] := by
  unfold contact
  dsimp only
  split
  · rfl
  · rw [none]
    rfl

/-- What stays as it is of two nodes and the server between them. -/
structure Parties where
  me : Side → Identity
  roster : Side → Roster
  chance : Side → Chance
  relay : Identity

namespace Parties

variable (parties : Parties)

def key (side : Side) : PeerKey := ⟨(parties.me side).node, (parties.me side).overlay⟩

def contact (side : Side) : Contact := (parties.me side).contact (parties.roster side)

/-- How a node is contacted at one of its ports. -/
def contactAt (side : Side) (port : UInt16) : Contact :=
  { parties.contact side with address := { (parties.contact side).address with port } }

def socket (side : Side) (port : UInt16) : Socket := .v4 (parties.me side).address.ip port

def mainPort (side : Side) : UInt16 := (parties.me side).address.port

def main (side : Side) : Socket := parties.socket side (parties.mainPort side)

def hub : Socket := parties.relay.address.socket

theorem contactAt_key (side : Side) (port : UInt16) : (parties.contactAt side port).key = parties.key side := by
  have same := (parties.me side).contact_key (parties.roster side)
  exact same

theorem contactAt_node (side : Side) (port : UInt16) : (parties.contactAt side port).address.node = (parties.me side).node :=
  congrArg PeerKey.node (parties.contactAt_key side port)

theorem contactAt_socket (side : Side) (port : UInt16) : (parties.contactAt side port).address.socket = parties.socket side port := by
  simp only [contactAt, contact, Identity.contact_address]
  rfl

end Parties

def World.parties (w : World) : Parties :=
  ⟨fun side => (w.peer side).puncher.me, fun side => (w.peer side).roster, fun side => (w.peer side).chance, w.server.me⟩

/-- What a packet between the parties can be about. -/
inductive Signal where
  /-- A node asks the server for the other node, from one of its ports. -/
  | request (side : Side) (port : UInt16)
  /-- The server tells the other node where the request has come from. -/
  | forward (side : Side) (port : UInt16)
  | answer (dest : Socket)
  | ping (side : Side) (port : UInt16) (dest : Socket) (id : Ticket)
  | pong (source dest : Socket) (id : Ticket)
  /-- A node that has found its path tells the server to stop forwarding. -/
  | delete (side : Side)

namespace Parties

def Carries (parties : Parties) (packet : Packet) : Signal → Prop
  | .request side port => packet.source = parties.socket side port ∧ packet.dest = parties.hub ∧
      packet.message.source = parties.contactAt side port ∧
      packet.message.body = .connectRequest (parties.contact side.other) false
  | .forward side port => packet.dest = parties.main side.other ∧ packet.message.source.address = parties.relay.address ∧
      packet.message.body = .connectRequest (parties.contactAt side port) true
  | .answer dest => packet.dest = dest ∧ ∃ target, packet.message.body = .connectResponse .success target
  | .ping side port dest id => packet.source = parties.socket side port ∧ packet.dest = dest ∧
      packet.message.source = parties.contactAt side port ∧ packet.message.body = .punchPing ∧ packet.message.ticket = id
  | .pong source dest id => packet.source = source ∧ packet.dest = dest ∧
      packet.message.body = .punchPong ∧ packet.message.ticket = id
  | .delete side => packet.dest = parties.hub ∧ packet.message.source.node = (parties.me side).node ∧
      packet.message.body = .deleteConnection (parties.me side.other).node

/-- What every handshake of a party with the other is like. Only the initiator has the server pass requests on. -/
structure Shakes (parties : Parties) (side : Side) (hs : Handshake) : Prop where
  key : hs.target.key = parties.key side.other
  remote : ∃ port, hs.remote = parties.socket side.other port
  parent : hs.parent = some parties.relay.address
  next : Puncher.nextParent? hs = if hs.responder then none else some parties.relay.address
  request : hs.responder = false → hs.target = parties.contact side.other

/-- What an attempt of such a handshake sends. -/
def attempt (side : Side) (hs : Handshake) : List Signal :=
  (if hs.responder then [] else [.request side hs.punchPort]) ++ [.ping side hs.punchPort hs.remote hs.pingId]

theorem mem_attempt (side : Side) (hs : Handshake) : .ping side hs.punchPort hs.remote hs.pingId ∈ attempt side hs :=
  List.mem_append_right _ (List.mem_singleton_self _)

namespace Shakes

variable {parties : Parties} {side : Side} {hs : Handshake}

theorem node (shakes : parties.Shakes side hs) : hs.target.node = (parties.me side.other).node :=
  congrArg PeerKey.node shakes.key

theorem attempted (shakes : parties.Shakes side hs) : parties.Shakes side (Puncher.attempted hs) where
  key := shakes.key
  remote := shakes.remote
  parent := by
    simp only [Puncher.attempted, shakes.next, shakes.parent]
    cases hs.responder <;> rfl
  next := shakes.next
  request := shakes.request

theorem staged (shakes : parties.Shakes side hs) (stage : Stage) : parties.Shakes side { hs with stage } :=
  ⟨shakes.key, shakes.remote, shakes.parent, shakes.next, shakes.request⟩

theorem moved (shakes : parties.Shakes side hs) (stage : Stage) (port : UInt16) :
    parties.Shakes side { hs with stage, remote := parties.socket side.other port } :=
  ⟨shakes.key, ⟨port, rfl⟩, shakes.parent, shakes.next, shakes.request⟩

theorem redirected (shakes : parties.Shakes side hs) (parent : Address) (port : UInt16) :
    parties.Shakes side { hs with remote := parties.socket side.other port, parent := hs.parent.or (some parent) } :=
  ⟨shakes.key, ⟨port, rfl⟩, by simp only [shakes.parent, Option.some_or], shakes.next, shakes.request⟩

end Shakes

end Parties

namespace Peer

/-- The peer of a world that is one of the parties. -/
structure Plays (parties : Parties) (side : Side) (x : Peer) : Prop where
  me : x.puncher.me = parties.me side
  roster : x.roster = parties.roster side
  chance : x.chance = parties.chance side
  awake : x.puncher.halted = false
  filed : x.endpoint.udp.Filed

/-- What becomes of a peer: its view, the sockets that it holds, the events it has told of, and what its packets are
about. -/
structure Outcome (parties : Parties) (side : Side) (x : Peer) (view : PunchView) (held : Socket → Prop) (events : List PunchEvent)
    (signals : List Signal) (outcome : Peer × List Packet) : Prop where
  plays : outcome.1.Plays parties side
  view : outcome.1.puncher.view = view
  held : ∀ socket, outcome.1.holds socket = true ↔ held socket
  log : outcome.1.log = x.log ++ events
  packets : List.Forall₂ parties.Carries outcome.2 signals

variable {parties : Parties} {side : Side} {x : Peer}

theorem perform_append (x : Peer) (first second : List PunchEffect) : x.perform (first ++ second) =
    (((x.perform first).1.perform second).1, (x.perform first).2 ++ ((x.perform first).1.perform second).2) := by
  induction first generalizing x with
  | nil => rfl
  | cons effect first ih =>
    cases effect with
    | send message => simp only [List.cons_append, perform, ih, List.append_assoc]
    | release ports => simp only [List.cons_append, perform, ih]
    | report event => simp only [List.cons_append, perform, ih]

theorem post_of_holds {message : Message} {socket : Socket} (held : x.holds socket = true)
    (port : message.sourceSocket.port = socket.port) : x.post message = [⟨socket, message.destSocket, message⟩] := by
  have found : x.endpoint.udp.socket? message.sourceSocket.port = some socket := by
    rw [port]
    exact (PortTable.holds_iff.mp held).1
  simp only [post, found, Option.filter_some, held, if_true, Option.toList_some, List.map_cons, List.map_nil]

theorem perform_attempt {p : Puncher} {c : Surroundings} {hs : Handshake} (me : p.me = parties.me side)
    (roster : c.roster = parties.roster side) (shakes : parties.Shakes side hs)
    (held : x.holds (parties.socket side hs.punchPort) = true) :
    ∃ packets, x.perform (p.attempt c hs) = (x, packets) ∧ List.Forall₂ parties.Carries packets (Parties.attempt side hs) := by
  obtain ⟨port, remote⟩ := shakes.remote
  have source : p.contactAt c hs.punchPort = parties.contactAt side hs.punchPort := by
    simp only [Puncher.contactAt, Parties.contactAt, Parties.contact, me, roster]
  have named (message : Message) (same : message.source = parties.contactAt side hs.punchPort) :
      x.post message = [⟨parties.socket side hs.punchPort, message.destSocket, message⟩] := by
    refine post_of_holds held ?_
    rw [Message.sourceSocket, same, parties.contactAt_socket]
  have ping : parties.Carries ⟨parties.socket side hs.punchPort, (Address.ofSocket hs.remote hs.target.node).socket,
      { Message.plain (parties.contactAt side hs.punchPort) (.ofSocket hs.remote hs.target.node) .punchPing with ticket := hs.pingId }⟩
      (.ping side hs.punchPort hs.remote hs.pingId) := by
    refine ⟨rfl, ?_, rfl, rfl, rfl⟩
    rw [remote]
    rfl
  cases responds : hs.responder with
  | true =>
    have next := shakes.next
    rw [responds] at next
    simp only [Puncher.attempt, next, if_true, source, Option.toList_none, List.map_nil, List.nil_append, perform,
      List.append_nil, Parties.attempt, responds]
    rw [named _ rfl]
    exact ⟨_, rfl, .cons ping .nil⟩
  | false =>
    have next := shakes.next
    rw [responds] at next
    simp only [Puncher.attempt, next, Bool.false_eq_true, if_false, source, Option.toList_some, List.map_cons, List.map_nil,
      List.cons_append, List.nil_append, perform, List.append_nil, Parties.attempt, responds]
    rw [named _ rfl, named _ rfl]
    refine ⟨_, rfl, .cons ⟨rfl, rfl, rfl, ?_⟩ (.cons ping .nil)⟩
    simp only [Message.plain, shakes.request responds]

end Peer

end NatTraversal
