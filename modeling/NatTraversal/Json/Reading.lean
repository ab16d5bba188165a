import NatTraversal.Json.Names

namespace NatTraversal

/-- The ports and tickets drawn so far in a run, in the order of their names `e1`, `e2`, … and `#1`, `#2`, … -/
structure Names where
  tickets : List UInt64 := []
  ports : List UInt16 := []

/-- Reads a value from JSON in which drawn ports and tickets go by their names, or tells what is wrong with it. -/
abbrev Decoder (α : Type) := ReaderT Names (Except String) α

namespace Json

def fail {α : Type} (why : String) : Decoder α := throw why

def optional {α : Type} (json : Json) (name : String) (read : Json → Decoder α) : Decoder (Option α) :=
  match json.member? name with
  | some value => some <$> read value
  | none => return none

def member {α : Type} (json : Json) (name : String) (read : Json → Decoder α) : Decoder α :=
  match json.member? name with
  | some value => read value
  | none => fail s!"missing {name}"

def toNat : Json → Decoder Nat
  | number numeral =>
    match numeral.toNat? with
    | some n => return n
    | none => fail "number"
  | string text =>
    match Numeral.take? false text.toList with
    | some (numeral, []) => return (numeral.toNat?).getD 0
    | _ => fail s!"number {text}"
  | _ => fail "number"

def toInt : Json → Decoder Int
  | number numeral =>
    match numeral.toInt? with
    | some n => return n
    | none => fail "number"
  | _ => fail "number"

def toText : Json → Decoder String
  | string text => return text
  | _ => fail "text"

def toBool : Json → Decoder Bool
  | bool b => return b
  | _ => fail "flag"

def toList {α : Type} (read : Json → Decoder α) : Json → Decoder (List α)
  | array items => items.mapM read
  | _ => fail "list"

def toNamed {α : Type} (table : NameTable α) (json : Json) : Decoder α := do
  let name ← json.toText
  match table.lookup name with
  | some a => return a
  | none => fail s!"name {name}"

def toWord16 (json : Json) : Decoder UInt16 := .ofNat <$> json.toNat

def toWord32 (json : Json) : Decoder UInt32 := .ofNat <$> json.toNat

def hexNumber (cs : List Char) : Nat := cs.foldl (fun n c => 16 * n + (hexValue? c).getD 0) 0

def hexBytes (bytes : Bytes) : List Char → Bytes
  | a :: b :: rest => hexBytes (.ofNat (hexNumber [a, b]) :: bytes) rest
  | _ => bytes.reverse

/-- Hexadecimal digits, or a number of copies of them. -/
def toBytes : Json → Decoder Bytes
  | string text => return hexBytes [] text.toList
  | json => do
    let bytes := hexBytes [] (← json.member "hex" toText).toList
    return (List.replicate (← json.member "times" toNat) bytes).flatten

/-- The number in a name such as `#3` or `e3`, counted from zero. -/
def ordinal (name : List Char) : Nat := Numeral.value (Numeral.digits (name.drop 1)) - 1

def toPort : Json → Decoder UInt16
  | string name => do
    match (← read).ports[ordinal name.toList]? with
    | some port => return port
    | none => fail s!"unknown {name}"
  | json => json.toWord16

def toTicket (json : Json) : Decoder Ticket := do
  let digits := (← json.toText).toList
  if digits.head? = some '#' then
    match (← read).tickets[ordinal digits]? with
    | some value => return ⟨value⟩
    | none => fail "unknown #id"
  else return ⟨.ofNat (hexNumber digits)⟩

def toIpv4 (json : Json) : Decoder Ipv4 := do
  match Ipv4.parse? (← json.toText).toList with
  | some ip => return ip
  | none => fail "ip"

def toSocket (json : Json) : Decoder Socket := do
  let cs := (← json.toText).toList
  let ip := cs.takeWhile (· != 'e')
  let cs ← match cs.drop ip.length with
    | 'e' :: k =>
      if ip.getLast? = some ':' ∧ ip.head? ≠ some '[' then
        pure (ip ++ (toString (← toPort (.string (String.ofList ('e' :: k))))).toList)
      else pure cs
    | _ => pure cs
  match Socket.parse? cs with
  | some socket => return socket
  | none => fail "socket"

def toAddress (json : Json) : Decoder Address := do
  let ip ← json.member "ip" toIpv4
  let port ← json.member "port" toPort
  return ⟨ip, port, ← json.member "node_id" toWord32⟩

def toNatType (json : Json) : Decoder NatType := do
  return {
    isOpen := ← json.member "open" toBool
    mapping := ← json.member "mapping" (toNamed dependences)
    allocation := ← json.member "allocation" (toNamed allocations)
    filtering := ← json.member "filtering" (toNamed dependences)
    technique := ← json.member "hp_algorithm" (toNamed techniques)
    delta := .ofNat (← json.member "delta" toNat)
    bindingTimeout := ← json.member "binding_timeout_ms" toWord32
    upnpPort := ← json.optional "upnp_port" toPort }

def toContact (json : Json) : Decoder Contact := do
  return {
    address := ← json.member "addr" toAddress
    overlay := ← json.member "overlay_id" toWord32
    nat := ← json.member "nat" toNatType
    parents := ← json.member "parents" (toList toAddress) }

/-- A text, or a number of copies of one. -/
def toReport : Json → Decoder String
  | string text => return text
  | json => do
    let text ← json.member "text" toText
    return String.join (List.replicate (← json.member "times" toNat) text)

def toBody (json : Json) : Decoder Body := do
  match ← json.member "type" (toNamed opcodes) with
  | .echoRequest => return .echoRequest (← json.member "kind" (toNamed echoKinds)) (← json.optional "reply_to" toAddress)
  | .echoResponse =>
    return .echoResponse (← json.member "observed" toAddress) (← json.member "kind" (toNamed echoKinds))
      (← json.member "alt_port" toPort)
  | .reportRequest => return .reportRequest (← json.member "report" toReport)
  | .reportResponse => return .reportResponse
  | .registerRequest => return .registerRequest (← json.member "wait_time" toWord32) (← json.member "overlay_id" toWord32)
  | .registerResponse => return .registerResponse (← json.member "status" (toNamed registerStatuses))
  | .unregisterRequest =>
    return .unregisterRequest (.ofInt (← json.member "delay" toInt)) (← json.member "prev_status" (toNamed registerStatuses))
  | .unregisterResponse => return .unregisterResponse (← json.member "status" (toNamed unregisterStatuses))
  | .keepAliveRequest => return .keepAliveRequest
  | .keepAliveResponse => return .keepAliveResponse (← json.member "status" (toNamed keepAliveStatuses))
  | .connectRequest => return .connectRequest (← json.member "peer" toContact) (← json.member "forwarded" toBool)
  | .connectResponse =>
    return .connectResponse (← json.member "status" (toNamed connectStatuses)) (← json.member "target_id" toWord32)
  | .punchPing => return .punchPing
  | .punchPong => return .punchPong
  | .deleteConnection => return .deleteConnection (← json.member "remote_client_id" toWord32)
  | .expire => return .expire
  | .connectionPing => return .connectionPing
  | .connectionPong => return .connectionPong
  | .data => return .data (← json.member "payload" toBytes)

/-- The transport is UDP unless it is named. -/
def transport (json : Json) : Decoder Transport := do
  return (← json.optional "transport" (toNamed transports)).getD .udp

def toMessage (json : Json) : Decoder Message := do
  let source ← json.member "src" toContact
  let dest ← json.member "dst" toAddress
  let ticket ← json.optional "timeout_id" toTicket
  return ⟨source, dest, ticket.getD .none, ← json.transport, ← json.member "body" toBody⟩

end Json

end NatTraversal
