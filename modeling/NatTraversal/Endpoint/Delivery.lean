import NatTraversal.Endpoint.Framing
import NatTraversal.Endpoint.Sending

namespace NatTraversal

namespace Endpoint

/-- What a receiver makes of a datagram: only the part that fits its buffer reaches it, and counts as read. -/
def receive (e : Endpoint) (datagram : Bytes) (remote here : Socket) : List EndpointEvent × Endpoint :=
  let frame := datagram.take e.config.receiveBuffer.toNat
  let e := { e with traffic := e.traffic.addRead frame.length }
  match Message.decode frame .udp with
  | .ok message => ([.message message remote here], e)
  | .error _ => ([], e)

/-- What the writer of a stream makes of the messages given to it: each that can be encoded goes out as a frame, with
its source named as the local end of the stream; the others are dropped. -/
def streamOut (config : EndpointConfig) (here : Socket) (messages : List Message) : Bytes :=
  messages.flatMap fun message =>
    match encode config (message.withLocal here) with
    | .error _ => []
    | .ok frame => (Framing.write config.maxFrame.toNat frame).toOption.getD []

/-- What the reader of a stream makes of it, up to its first error: the frames that are messages. -/
def streamIn (config : EndpointConfig) (transport : Transport) (stream : Bytes) : List Message :=
  (Framing.readAll config.maxFrame.toNat stream).1.filterMap fun frame => (Message.decode frame transport).toOption

/-- Encodes behind what is in a buffer. It is the buffer as a whole that is held against the limit. -/
def encodeOnto (config : EndpointConfig) (message : Message) (buffer : Bytes) : Except LinkError Unit × Bytes :=
  match message.encodeOnto buffer with
  | (.error fault, buffer) => (.error (.encode fault.toError.text), buffer)
  | (.ok (), buffer) =>
    if buffer.length > config.maxFrame.toNat then (.error (.frameTooLarge buffer.length config.maxFrame.toNat), buffer)
    else (.ok (), buffer)

/-- A frame counts as read together with its length in front of it, whether it is a message or not. -/
def readFrame (remote here : Socket) (told : List EndpointEvent × Endpoint) (frame : Bytes) : List EndpointEvent × Endpoint :=
  let e := { told.2 with traffic := told.2.traffic.addRead (frame.length + 4) }
  match Message.decode frame .tcp with
  | .ok message => (told.1 ++ [.message message remote here], e)
  | .error _ => (told.1, e)

/-- Reads a stream to its end, which is an error unless it is where a frame could begin or in the middle of one. -/
def readStream (e : Endpoint) (remote here : Socket) (stream : Bytes) : (List EndpointEvent × Endpoint) × LinkError :=
  let (frames, error) := Framing.readAll e.config.maxFrame.toNat stream
  (frames.foldl (readFrame remote here) ([], e), error)

end Endpoint

/-- Errors that a datagram socket survives: feedback on an earlier datagram, and waking up for nothing. -/
def IoKind.isTransient : IoKind → Bool
  | connectionReset | connectionRefused | interrupted | wouldBlock => true
  | _ => false

/-- The task that waits for the datagrams of one socket. -/
structure Listener where
  endpoint : Endpoint
  here : Socket
  told : List EndpointEvent := []
  running : Bool := true

namespace Listener

/-- What a wait for the next datagram ends with. A datagram that is no message changes nothing; only a message finds out
that nobody hears it. -/
def turn (heard : Bool) (l : Listener) (arrival : Except IoKind (Bytes × Socket)) : Listener :=
  if l.running then
    match arrival with
    | .ok (datagram, remote) =>
      let (events, endpoint) := l.endpoint.receive datagram remote l.here
      { l with endpoint, told := if heard then l.told ++ events else l.told, running := heard || events.isEmpty }
    | .error kind =>
      if kind.isTransient then l
      else
        let (events, endpoint) := l.endpoint.socketLost .udp l.here.port kind
        { l with endpoint, told := if heard then l.told ++ events else l.told, running := false }
  else l

end Listener

/-- The task that writes a stream. -/
structure StreamWriter where
  endpoint : Endpoint
  /-- What each message is encoded into. -/
  buffer : Bytes := []
  stream : Bytes := []
  failure : Option LinkError := none

namespace StreamWriter

/-- Writes the buffer as one frame, or ends the stream. -/
def flush (w : StreamWriter) : StreamWriter :=
  match Framing.write w.endpoint.config.maxFrame.toNat w.buffer with
  | .error error => { w with failure := some error }
  | .ok written =>
    { w with
      stream := w.stream ++ written
      endpoint := { w.endpoint with traffic := w.endpoint.traffic.addWritten (w.buffer.length + 4) } }

/-- Takes the next message, as one from the local end of the stream. What cannot be encoded is dropped, and may leave a
part of itself in the buffer. -/
def take (here : Socket) (w : StreamWriter) (message : Message) : StreamWriter :=
  if w.failure.isSome then w
  else
    let cleared := { w with buffer := [] }
    match Endpoint.encodeOnto cleared.endpoint.config (message.withLocal here) cleared.buffer with
    | (.error _, buffer) => { cleared with buffer }
    | (.ok (), buffer) => flush { cleared with buffer }

end StreamWriter

end NatTraversal
