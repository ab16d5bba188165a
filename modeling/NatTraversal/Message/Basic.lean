import NatTraversal.Address.Contact
import NatTraversal.Message.Opcode
import NatTraversal.Message.Status
import NatTraversal.Ticket
import NatTraversal.Transport

namespace NatTraversal

inductive Body where
  /-- `replyTo` is where a forwarded echo has to be answered. -/
  | echoRequest (kind : EchoKind) (replyTo : Option Address)
  /-- `observed` is the address that the request was seen to come from; `altPort` is 0 if the server has none. -/
  | echoResponse (observed : Address) (kind : EchoKind) (altPort : UInt16)
  | reportRequest (report : String)
  | reportResponse
  | registerRequest (waitTime overlay : UInt32)
  | registerResponse (status : RegisterStatus)
  | unregisterRequest (delay : Int32) (previous : RegisterStatus)
  | unregisterResponse (status : UnregisterStatus)
  | keepAliveRequest
  | keepAliveResponse (status : KeepAliveStatus)
  /-- On its way to a parent it names the target; a forwarded one names the initiator. -/
  | connectRequest (peer : Contact) (forwarded : Bool)
  | connectResponse (status : ConnectStatus) (target : UInt32)
  | punchPing
  | punchPong
  | deleteConnection (peer : UInt32)
  | expire
  | connectionPing
  | connectionPong
  | data (payload : Bytes)
deriving DecidableEq, Repr

def Body.opcode : Body → Opcode
  | echoRequest .. => .echoRequest
  | echoResponse .. => .echoResponse
  | reportRequest .. => .reportRequest
  | reportResponse => .reportResponse
  | registerRequest .. => .registerRequest
  | registerResponse .. => .registerResponse
  | unregisterRequest .. => .unregisterRequest
  | unregisterResponse .. => .unregisterResponse
  | keepAliveRequest => .keepAliveRequest
  | keepAliveResponse .. => .keepAliveResponse
  | connectRequest .. => .connectRequest
  | connectResponse .. => .connectResponse
  | punchPing => .punchPing
  | punchPong => .punchPong
  | deleteConnection .. => .deleteConnection
  | expire => .expire
  | connectionPing => .connectionPing
  | connectionPong => .connectionPong
  | data .. => .data

/-- One message. Its header carries the whole contact of the sender, so that every receiver learns the sender's
translator and parents. The transport is not on the wire: it is the channel that the message goes or came by. -/
structure Message where
  source : Contact
  dest : Address
  ticket : Ticket
  transport : Transport
  body : Body
deriving DecidableEq, Repr

namespace Message

/-- A message over UDP that awaits no answer. -/
def plain (source : Contact) (dest : Address) (body : Body) : Message := ⟨source, dest, .none, .udp, body⟩

def opcode (message : Message) : Opcode := message.body.opcode

/-- An answer goes back to the sender by the same channel and under the same ticket. -/
def reply (message : Message) (source : Contact) (body : Body) : Message :=
  ⟨source, message.source.address, message.ticket, message.transport, body⟩

def sourceSocket (message : Message) : Socket := message.source.address.socket

def destSocket (message : Message) : Socket := message.dest.socket

/-- Puts the local end of a stream in place of the source; an IPv6 address leaves the source address as it is. -/
def withLocal (message : Message) (socket : Socket) : Message :=
  let address := message.source.address
  let ip := match socket.ip with
    | .v4 ip => ip
    | .v6 _ => address.ip
  { message with source := { message.source with address := { address with ip, port := socket.port } } }

end Message

end NatTraversal
