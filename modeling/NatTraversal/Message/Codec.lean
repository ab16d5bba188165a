import NatTraversal.Message.Basic

namespace NatTraversal

namespace Body

def encode : Body → Except Oversize Bytes
  | echoRequest kind replyTo =>
    return kind.code :: Bytes.flag replyTo.isSome ++ (replyTo.map Address.encode).getD []
  | echoResponse observed kind altPort => return observed.encode ++ [kind.code] ++ Bytes.u16 altPort
  | reportRequest report =>
    let bytes := Utf8.encode report
    if bytes.length > 255 then throw (.string bytes.length) else return UInt8.ofNat bytes.length :: bytes
  | registerRequest waitTime overlay => return Bytes.u32 waitTime ++ Bytes.u32 overlay
  | registerResponse status => return [status.code]
  | unregisterRequest delay previous => return Bytes.u32 delay.toUInt32 ++ [previous.code]
  | unregisterResponse status => return [status.code]
  | keepAliveResponse status => return [status.code]
  | connectRequest peer forwarded => return (← peer.encode) ++ Bytes.flag forwarded
  | connectResponse status target => return status.code :: Bytes.u32 target
  | deleteConnection peer => return Bytes.u32 peer
  | data payload =>
    if payload.length > 65535 then throw (.payload payload.length)
    else return Bytes.u16 (.ofNat payload.length) ++ payload
  | reportResponse | keepAliveRequest | punchPing | punchPong | expire | connectionPing | connectionPong => return []

def read : Opcode → Reader Body
  | .echoRequest => do
    let kind ← Reader.coded .echoKind EchoKind.ofCode?
    let replyTo ← if ← Reader.flag then some <$> Address.read else pure none
    return echoRequest kind replyTo
  | .echoResponse => do
    let observed ← Address.read
    let kind ← Reader.coded .echoKind EchoKind.ofCode?
    return echoResponse observed kind (← Reader.u16)
  | .reportRequest => reportRequest <$> Reader.string
  | .reportResponse => return reportResponse
  | .registerRequest => do
    let waitTime ← Reader.u32
    return registerRequest waitTime (← Reader.u32)
  | .registerResponse => registerResponse <$> Reader.coded .registerStatus RegisterStatus.ofCode?
  | .unregisterRequest => do
    let delay ← Reader.u32
    return unregisterRequest delay.toInt32 (← Reader.coded .registerStatus RegisterStatus.ofCode?)
  | .unregisterResponse => unregisterResponse <$> Reader.coded .unregisterStatus UnregisterStatus.ofCode?
  | .keepAliveRequest => return keepAliveRequest
  | .keepAliveResponse => keepAliveResponse <$> Reader.coded .keepAliveStatus KeepAliveStatus.ofCode?
  | .connectRequest => do
    let peer ← Contact.read
    return connectRequest peer (← Reader.flag)
  | .connectResponse => do
    let status ← Reader.coded .connectStatus ConnectStatus.ofCode?
    return connectResponse status (← Reader.u32)
  | .punchPing => return punchPing
  | .punchPong => return punchPong
  | .deleteConnection => deleteConnection <$> Reader.u32
  | .expire => return expire
  | .connectionPing => return connectionPing
  | .connectionPong => return connectionPong
  | .data => do
    let count ← Reader.u16
    data <$> Reader.bytes count.toNat

end Body

namespace Message

def magic : UInt32 := 0x4E504E54

/-- The header is magic number, opcode, both addresses, overlay, ticket, translator and parents, in this order. The
parents are counted before anything of the body is looked at. -/
def encode (message : Message) : Except Oversize Bytes := do
  let source := message.source
  let parents ← Contact.encodeParents source.parents
  let body ← message.body.encode
  return Bytes.u32 magic ++ [message.opcode.code] ++ source.address.encode ++ message.dest.encode ++
    Bytes.u32 source.overlay ++ Bytes.u64 message.ticket.value ++ source.nat.encode ++ parents ++ body

/-- What stands before the sender's translator. -/
def preamble (message : Message) : Bytes :=
  Bytes.u32 magic ++ [message.opcode.code] ++ message.source.address.encode ++ message.dest.encode ++
    Bytes.u32 message.source.overlay ++ Bytes.u64 message.ticket.value

/-- Encodes behind what is in a buffer. A message with too many parents leaves the buffer alone, but one whose body is
too long leaves its header there. -/
def encodeOnto (message : Message) (buffer : Bytes) : Except Oversize Unit × Bytes :=
  match Contact.encodeParents message.source.parents with
  | .error fault => (.error fault, buffer)
  | .ok parents =>
    let header := message.preamble ++ message.source.nat.encode ++ parents
    match message.body.encode with
    | .error fault => (.error fault, buffer ++ header)
    | .ok body => (.ok (), buffer ++ header ++ body)

def read (transport : Transport) : Reader Message := do
  let found ← Reader.u32
  if found ≠ magic then Reader.fail (.magic found)
  let code ← Reader.u8
  let some opcode := Opcode.ofCode? code | Reader.fail (.opcode code)
  let address ← Address.read
  let dest ← Address.read
  let overlay ← Reader.u32
  let ticket ← Reader.u64
  let nat ← Reader.nat
  let parents ← Contact.readParents
  let body ← Body.read opcode
  return ⟨{ address, overlay, nat, parents }, dest, ⟨ticket⟩, transport, body⟩

/-- A frame is one message and nothing else. -/
def decode (frame : Bytes) (transport : Transport) : Except Malformed Message := (read transport).run frame

end Message

end NatTraversal
