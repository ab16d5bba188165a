import NatTraversal.Courier.Sending

namespace NatTraversal

namespace Courier

/-- Whether a message about hole punching asks for something that a rendezvous server does. -/
def isForServer (body : Body) : Bool :=
  match body with
  | .registerRequest .. | .unregisterRequest .. | .keepAliveRequest | .deleteConnection .. | .connectRequest _ false => true
  | _ => false

/-- Sorts a message from the network. Requests to a server are dropped by a node that is none. -/
def inbound (courier : Courier) (message : Message) (remote here : Socket) : List CourierEffect :=
  if message.opcode.isStun then
    match message.body with
    | .echoRequest .. | .reportRequest .. =>
      if courier.serving then (courier.responder.respond courier.contact message remote here).map .send else []
    | _ => [.surveyReply message]
  else if message.opcode.isHolePunching then
    if isForServer message.body then if courier.serving then [.serve message remote] else []
    else [.punch message remote here]
  else [.report (.delivered message)]

/-- Follows what the endpoint tells. A node that has lost a socket shuts down. -/
def onEndpoint (courier : Courier) (event : EndpointEvent) : List CourierEffect :=
  match event with
  | .message message remote here => courier.inbound message remote here
  | .fault fault => .report (.fault fault.error) :: if fault.fatal then [.shutDown] else []
  | .sessionClosed .. => []
  | .bandwidth stats => [.report (.bandwidth stats)]

end Courier

end NatTraversal
