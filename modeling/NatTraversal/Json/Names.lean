import NatTraversal.Error
import NatTraversal.Json.Basic

namespace NatTraversal

/-- The constants of a type under the names that they have in JSON. -/
abbrev NameTable (α : Type) := List (String × α)

def NameTable.name {α : Type} [BEq α] (table : NameTable α) (a : α) : Json :=
  .string (((table.find? fun entry => entry.2 == a).map (·.1)).getD "Unknown")

namespace Json

def transports : NameTable Transport := [("Udp", .udp), ("Tcp", .tcp), ("Udt", .udt)]

def dependences : NameTable Dependence :=
  [("EndpointIndependent", .endpointIndependent), ("AddressDependent", .addressDependent),
    ("AddressAndPortDependent", .addressAndPortDependent)]

def allocations : NameTable Allocation :=
  [("PortPreservation", .portPreservation), ("PortContiguity", .portContiguity), ("Random", .random)]

def techniques : NameTable Technique :=
  [("None", .none), ("SimpleHolePunching", .simple), ("PortPrediction", .prediction), ("NotPossible", .impossible)]

def echoKinds : NameTable EchoKind :=
  [("Plain", .plain), ("ChangePort", .changePort), ("ChangeServer", .changeServer), ("Forwarded", .forwarded)]

def registerStatuses : NameTable RegisterStatus := [("Accepted", .accepted), ("Rejected", .rejected)]

def unregisterStatuses : NameTable UnregisterStatus :=
  [("Success", .success), ("NotRegistered", .notRegistered), ("Fail", .fail), ("DelayLessThanZero", .delayLessThanZero),
    ("AlreadyMoving", .alreadyMoving)]

def keepAliveStatuses : NameTable KeepAliveStatus := [("Alive", .alive), ("NotRegistered", .notRegistered)]

def connectStatuses : NameTable ConnectStatus := [("Success", .success), ("UnknownTarget", .unknownTarget)]

def bindStatuses : NameTable BindStatus := [("Success", .success), ("Fail", .fail), ("AlreadyBound", .alreadyBound)]

def ioKinds : NameTable IoKind :=
  [("ConnectionRefused", .connectionRefused), ("ConnectionReset", .connectionReset), ("Interrupted", .interrupted),
    ("InvalidData", .invalidData), ("InvalidInput", .invalidInput), ("NetworkUnreachable", .networkUnreachable),
    ("NotFound", .notFound), ("Other", .other), ("Uncategorized", .uncategorized), ("UnexpectedEof", .unexpectedEnd),
    ("WouldBlock", .wouldBlock)]

def opcodes : NameTable Opcode :=
  [("StunEchoRequest", .echoRequest), ("StunEchoResponse", .echoResponse), ("StunReportRequest", .reportRequest),
    ("StunReportResponse", .reportResponse), ("HpRegisterRequest", .registerRequest), ("HpRegisterResponse", .registerResponse),
    ("HpUnregisterRequest", .unregisterRequest), ("HpUnregisterResponse", .unregisterResponse),
    ("HpKeepAliveRequest", .keepAliveRequest), ("HpKeepAliveResponse", .keepAliveResponse), ("HpConnectRequest", .connectRequest),
    ("HpConnectResponse", .connectResponse), ("HpPing", .punchPing), ("HpPong", .punchPong),
    ("HpDeleteConnection", .deleteConnection), ("HpExpire", .expire), ("ConnectionPing", .connectionPing),
    ("ConnectionPong", .connectionPong), ("Data", .data)]

end Json

end NatTraversal
