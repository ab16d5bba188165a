import NatTraversal.Config.Basic
import NatTraversal.Message.Basic

namespace NatTraversal

namespace ResponderConfig

def echo (config : ResponderConfig) (me : Contact) (port : UInt16) (client : Address) (kind : EchoKind) (request : Message) :
    Message :=
  { Message.plain { me with address := { me.address with port } } client (.echoResponse client kind config.altPort) with
    ticket := request.ticket }

/-- The messages that an open node sends when a request reaches its socket `here` from `remote`. An answer names the
client by the address that was seen. A request for the partner's answer goes to the partner with that address, and the
partner answers it for its own. -/
def respond (config : ResponderConfig) (me : Contact) (request : Message) (remote here : Socket) : List Message :=
  let seen := Address.ofSocket remote request.source.node
  match request.body with
  | .echoRequest .plain _ => [config.echo me here.port seen .plain request]
  | .echoRequest .changePort _ =>
    if config.altPort = 0 then [] else [config.echo me config.altPort seen .changePort request]
  | .echoRequest .changeServer _ =>
    match config.partner with
    | some partner => [{ Message.plain me partner (.echoRequest .forwarded (some seen)) with ticket := request.ticket }]
    | none => []
  | .echoRequest .forwarded (some client) => [config.echo me me.address.port client .changeServer request]
  | .echoRequest .forwarded none => []
  | .reportRequest _ => [{ Message.plain me seen .reportResponse with ticket := request.ticket }]
  | _ => []

end ResponderConfig

end NatTraversal
