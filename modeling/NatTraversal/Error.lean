import NatTraversal.Message.Codec

namespace NatTraversal

/-- What the operating system found wrong. -/
inductive IoKind where
  | connectionRefused
  | connectionReset
  | interrupted
  | invalidData
  | invalidInput
  | networkUnreachable
  | notFound
  | other
  /-- Nothing that has a kind of its own. -/
  | uncategorized
  | unexpectedEnd
  | wouldBlock
deriving DecidableEq, Repr

/-- What goes wrong between an endpoint and its network. -/
inductive LinkError where
  | io (kind : IoKind)
  | notBound (port : UInt16) (transport : Transport)
  | portConflict (port : UInt16) (owner : Transport)
  | bindFailed (socket : Socket) (reason : String)
  | connectFailed (socket : Socket) (reason : String)
  | frameTooLarge (length limit : Nat)
  | encode (reason : String)
  | nat (fault : NatType.Malformed)
  | shutdown
deriving DecidableEq, Repr

inductive Error where
  | decode (reason : String)
  | encode (reason : String)
  | bindFailed (port : UInt16) (status : BindStatus)
  | handshakeTimeout (node : UInt32)
  | noParents (node : UInt32)
  | unknownTarget (node : UInt32)
  | alreadyMoving (client : UInt32)
  | sessionExpired (parent : UInt32)
  | unreachable (node : UInt32) (reason : String)
  | config (reason : String)
  | link (error : LinkError)
  | io (kind : IoKind)
  | shutdown
deriving DecidableEq, Repr

def IoKind.text : IoKind → String
  | connectionRefused => "connection refused"
  | connectionReset => "connection reset"
  | interrupted => "operation interrupted"
  | invalidData => "invalid data"
  | invalidInput => "invalid input"
  | networkUnreachable => "network unreachable"
  | notFound => "not found"
  | other => "other error"
  | uncategorized => "uncategorized error"
  | unexpectedEnd => "unexpected end of file"
  | wouldBlock => "operation would block"

def LinkError.text : LinkError → String
  | io kind => s!"io: {kind.text}"
  | notBound port transport => s!"{transport.name} port {port} is not bound"
  | portConflict port owner => s!"port {port} is already bound by {owner.name}"
  | bindFailed socket reason => s!"bind {socket.text} failed: {reason}"
  | connectFailed socket reason => s!"connect to {socket.text} failed: {reason}"
  | frameTooLarge length limit => s!"frame too large: len is {length} but the limit is {limit}"
  | encode reason => s!"encode: {reason}"
  | nat fault => fault.text
  | shutdown => "endpoint is shut down"

def Error.text : Error → String
  | decode reason => s!"decode: {reason}"
  | encode reason => s!"encode: {reason}"
  | bindFailed port status => s!"bind port {port} failed: {status.name}"
  | handshakeTimeout node => s!"handshake with {node} timed out"
  | noParents node => s!"no parents to reach {node}"
  | unknownTarget node => s!"target {node} unknown to the rendezvous server"
  | alreadyMoving client => s!"client {client} is already moving"
  | sessionExpired parent => s!"session with parent {parent} expired"
  | unreachable node reason => s!"{node} is unreachable: {reason}"
  | config reason => s!"invalid config: {reason}"
  | link error => error.text
  | io kind => kind.text
  | shutdown => "shutdown"

def Malformed.toError (fault : Malformed) : Error := .decode fault.text

def Oversize.toError (fault : Oversize) : Error := .encode fault.text

end NatTraversal
