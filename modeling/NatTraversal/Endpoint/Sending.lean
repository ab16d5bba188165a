import NatTraversal.Endpoint.Basic

namespace NatTraversal

/-- How the writer of a stream takes a message. -/
inductive Intake where
  | taken
  | full
  /-- The stream has ended, and its end is not known here yet. -/
  | closed
deriving DecidableEq, Repr

/-- What lies outside of an endpoint. -/
structure Outside where
  /-- The system's answer to a request for a socket. -/
  bind : Transport → Socket → BindAnswer
  /-- What the system says when a frame is sent to a socket. -/
  carry : Bytes → Socket → Except IoKind Unit
  /-- How the stream of a number takes the next message. -/
  intake : Nat → Intake

inductive EndpointEffect where
  | report (event : EndpointEvent)
  | transmit (source dest : Socket) (frame : Bytes)
  /-- Begins a stream, on its way from the address or from any. -/
  | connect (stream : Nat) (transport : Transport) (source : Ip) (dest : Socket)
  | enqueue (stream : Nat) (message : Message)
deriving DecidableEq, Repr

namespace Endpoint

/-- The frame of a message, if it is no longer than the limit. -/
def encode (config : EndpointConfig) (message : Message) : Except LinkError Bytes :=
  match message.encode with
  | .error fault => .error (.encode fault.toError.text)
  | .ok frame =>
    if frame.length > config.maxFrame.toNat then .error (.frameTooLarge frame.length config.maxFrame.toNat) else .ok frame

/-- Whether a message goes back to where it comes from, which takes no network. -/
def isLooped (message : Message) : Bool := message.sourceSocket == message.destSocket

/-- What a datagram that the system did not take is reported as. -/
def sendFault (message : Message) (kind : IoKind) : EndpointEvent :=
  .fault ⟨.udp, message.sourceSocket.port, .io kind, false⟩

/-- The frame of a datagram, if it can leave from the port that its source names. -/
def datagram (e : Endpoint) (message : Message) : Except LinkError Bytes :=
  if (e.udp.get? message.sourceSocket.port).isNone then .error (.notBound message.sourceSocket.port .udp)
  else encode e.config message

/-- The answer to a message to send. -/
def accept (e : Endpoint) (outside : Outside) (message : Message) : Except LinkError Unit :=
  if isLooped message then .ok ()
  else match message.transport with
    | .udp => do
      let frame ← e.datagram message
      (outside.carry frame message.destSocket).mapError .io
    | transport =>
      match (e.streams.get? (transport, message.destSocket)).map outside.intake with
      | some .full => .error (.io .wouldBlock)
      | _ => .ok ()

/-- Begins a stream with a first message. -/
def openStream (e : Endpoint) (message : Message) : List EndpointEffect × Endpoint :=
  let key := (message.transport, message.destSocket)
  ([.connect e.nextStream key.1 message.sourceSocket.ip key.2, .enqueue e.nextStream message],
    { e with streams := e.streams.insert key e.nextStream, nextStream := e.nextStream + 1 })

/-- Sends a message: back to this endpoint, as a datagram, or down the stream to its destination, which is begun where
there is none. -/
def send (e : Endpoint) (outside : Outside) (message : Message) : List EndpointEffect × Endpoint :=
  if isLooped message then ([.report (.message message message.sourceSocket message.destSocket)], e)
  else match message.transport with
    | .udp =>
      match e.datagram message with
      | .error _ => ([], e)
      | .ok frame =>
        match outside.carry frame message.destSocket with
        | .ok () => ([.transmit message.sourceSocket message.destSocket frame],
            { e with traffic := e.traffic.addWritten frame.length })
        | .error kind => ([.report (sendFault message kind)], e)
    | transport =>
      match e.streams.get? (transport, message.destSocket) with
      | none => e.openStream message
      | some stream =>
        match outside.intake stream with
        | .taken => ([.enqueue stream message], e)
        | .full => ([], e)
        | .closed => e.openStream message

/-- The number of a stream that a remote has begun, which is drawn before the endpoint is told of the stream. -/
def drawStream (e : Endpoint) : Nat × Endpoint := (e.nextStream, { e with nextStream := e.nextStream + 1 })

/-- Told of a stream that a remote has begun, the endpoint puts it in the place of any other to that remote. -/
def enterStream (e : Endpoint) (transport : Transport) (remote : Socket) (stream : Nat) : Endpoint :=
  { e with streams := e.streams.insert (transport, remote) stream }

/-- Where nothing comes between the two, the stream is attached at once. -/
def attach (e : Endpoint) (transport : Transport) (remote : Socket) : Nat × Endpoint :=
  let (stream, e) := e.drawStream
  (stream, e.enterStream transport remote stream)

/-- The end of a stream counts only while the stream is in use. -/
def streamEnded (e : Endpoint) (transport : Transport) (remote : Socket) (stream : Nat) : List EndpointEvent × Endpoint :=
  if e.streams.get? (transport, remote) = some stream then
    ([.sessionClosed remote transport], { e with streams := e.streams.erase (transport, remote) })
  else ([], e)

/-- A socket that is lost is closed, and whoever listens is told. -/
def socketLost (e : Endpoint) (transport : Transport) (port : UInt16) (kind : IoKind) : List EndpointEvent × Endpoint :=
  ([.fault ⟨transport, port, .io kind, true⟩], (e.release [port] transport).2)

end Endpoint

end NatTraversal
