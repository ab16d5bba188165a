import NatTraversal.Json.Names

namespace NatTraversal

/-- How a translator is written: field by field, or as its wire form. -/
inductive NatStyle where
  | fields
  | wire
deriving DecidableEq, Repr

namespace Json

def hex (bytes : Bytes) : Json := .string (String.ofList (bytes.flatMap fun b => hexChars 2 b.toNat))

/-- The 64-bit FNV-1a digest. -/
def digest (bytes : Bytes) : UInt64 :=
  bytes.foldl (fun h b => (h ^^^ b.toUInt64) * 0x100000001b3) 0xcbf29ce484222325

/-- Up to a kilobyte is written out; of more, length and digest. -/
def ofBytes (bytes : Bytes) : Json :=
  if bytes.length ≤ 1024 then hex bytes
  else record [("len", ofNat bytes.length), ("fnv1a64", hexText 16 (digest bytes).toNat)]

def ofList {α : Type} (write : α → Json) (items : List α) : Json := array (items.map write)

def ofOption {α : Type} (write : α → Json) : Option α → Json
  | some a => write a
  | none => null

def ofPort (port : UInt16) : Json := ofNat port.toNat

def ofWord32 (n : UInt32) : Json := ofNat n.toNat

def ofAddress (a : Address) : Json :=
  record [("ip", a.ip.text), ("port", ofPort a.port), ("node_id", ofWord32 a.node)]

/-- A socket as an object. -/
def ofSocket (s : Socket) : Json := record [("ip", s.ip.text), ("port", ofPort s.port)]

def ofNatType (style : NatStyle) (nat : NatType) : Json :=
  match style with
  | .wire => hex nat.encode
  | .fields =>
    record [("open", nat.isOpen), ("mapping", dependences.name nat.mapping), ("allocation", allocations.name nat.allocation),
      ("filtering", dependences.name nat.filtering), ("hp_algorithm", techniques.name nat.technique),
      ("delta", ofNat nat.delta.toNat), ("binding_timeout_ms", ofWord32 nat.bindingTimeout),
      ("upnp_port", ofOption ofPort nat.upnpPort)]

def ofContact (style : NatStyle) (contact : Contact) : Json :=
  record [("addr", ofAddress contact.address), ("overlay_id", ofWord32 contact.overlay),
    ("nat", ofNatType style contact.nat), ("parents", ofList ofAddress contact.parents)]

def ofBody (style : NatStyle) (body : Body) : Json :=
  record (("type", opcodes.name body.opcode) :: match body with
    | .echoRequest kind replyTo => [("kind", echoKinds.name kind), ("reply_to", ofOption ofAddress replyTo)]
    | .echoResponse observed kind altPort =>
      [("observed", ofAddress observed), ("kind", echoKinds.name kind), ("alt_port", ofPort altPort)]
    | .reportRequest report => [("report", report)]
    | .registerRequest waitTime overlay => [("wait_time", ofWord32 waitTime), ("overlay_id", ofWord32 overlay)]
    | .registerResponse status => [("status", registerStatuses.name status)]
    | .unregisterRequest delay previous => [("delay", ofInt delay.toInt), ("prev_status", registerStatuses.name previous)]
    | .unregisterResponse status => [("status", unregisterStatuses.name status)]
    | .keepAliveResponse status => [("status", keepAliveStatuses.name status)]
    | .connectRequest peer forwarded => [("peer", ofContact style peer), ("forwarded", forwarded)]
    | .connectResponse status target => [("status", connectStatuses.name status), ("target_id", ofWord32 target)]
    | .deleteConnection peer => [("remote_client_id", ofWord32 peer)]
    | .data payload => [("payload", ofBytes payload)]
    | _ => [])

def ofMessage (style : NatStyle) (message : Message) : Json :=
  record [("src", ofContact style message.source), ("dst", ofAddress message.dest), ("timeout_id", message.ticket.text),
    ("transport", transports.name message.transport), ("body", ofBody style message.body)]

def failure (kind text : String) : Json := record [("error", kind), ("message", text)]

def ofIoKind (kind : IoKind) : Json := record [("error", "Io"), ("kind", ioKinds.name kind)]

def ofNatFault (fault : NatType.Malformed) : Json :=
  failure (match fault with | .truncated .. => "Truncated" | .code .. => "InvalidNat") fault.text

/-- What the operating system says of a failed bind or connect is left out. -/
def ofLinkError (error : LinkError) : Json :=
  match error with
  | .io kind => ofIoKind kind
  | .notBound .. => failure "NotBound" error.text
  | .portConflict .. => failure "PortConflict" error.text
  | .bindFailed .. => record [("error", "BindFailed")]
  | .connectFailed .. => record [("error", "ConnectFailed")]
  | .frameTooLarge .. => failure "FrameTooLarge" error.text
  | .encode .. => failure "Encode" error.text
  | .nat fault => ofNatFault fault
  | .shutdown => failure "Shutdown" error.text

def ofError (error : Error) : Json :=
  match error with
  | .decode _ => failure "Decode" error.text
  | .encode _ => failure "Encode" error.text
  | .bindFailed .. => failure "BindFailed" error.text
  | .handshakeTimeout _ => failure "HandshakeTimeout" error.text
  | .noParents _ => failure "NoParents" error.text
  | .unknownTarget _ => failure "UnknownTarget" error.text
  | .alreadyMoving _ => failure "AlreadyMoving" error.text
  | .sessionExpired _ => failure "SessionExpired" error.text
  | .unreachable .. => failure "Unreachable" error.text
  | .config _ => failure "Config" error.text
  | .link error => ofLinkError error
  | .io kind => ofIoKind kind
  | .shutdown => failure "Shutdown" error.text

mutual

/-- Whole numbers that not every reader can hold exactly become text. -/
def portable : Json → Json
  | number numeral =>
    match numeral.toInt? with
    | some n => if n.natAbs > 9007199254740991 then string (toString n) else number numeral
    | none => number numeral
  | array items => array (portables items)
  | object members => object (portableMembers members)
  | json => json

def portables : List Json → List Json
  | [] => []
  | item :: rest => portable item :: portables rest

def portableMembers : List (Option String × Json) → List (Option String × Json)
  | [] => []
  | (name, value) :: rest => (name, portable value) :: portableMembers rest

end

end Json

end NatTraversal
