import NatTraversal.Config.Check
import NatTraversal.Config.Setting
import NatTraversal.Json.Parser

namespace NatTraversal

def Ipv4.form : Form Ipv4 where
  read?
    | .string text => parse? text.toList
    | _ => none
  write ip := .string ip.text

def Address.form : Form Address :=
  Setting.form [.make "ip" Ipv4.form (·.ip) (fun a ip => { a with ip }), .make "port" .word16 (·.port) (fun a port => { a with port }),
    .make "node_id" .word32 (·.node) (fun a node => { a with node })] true ⟨.unspecified, 0, 0⟩

namespace Config

def courierSettings : List (Setting CourierConfig) :=
  [.make "open_server_timeout_ms" .word64 (·.handshakeLimit) (fun c v => { c with handshakeLimit := v }),
    .make "max_fail_before_giving_up" .word32 (·.failureLimit) (fun c v => { c with failureLimit := v }),
    .make "open_server" .flag (·.openServer) (fun c v => { c with openServer := v })]

def punchSettings : List (Setting PunchConfig) :=
  [.make "rto_ms" .word64 (·.backoff.rto) (fun c v => { c with backoff.rto := v }),
    .make "rto_scale" .binary64 (·.backoff.scale) (fun c v => { c with backoff.scale := v }),
    .make "rto_retries" .word32 (·.backoff.attempts) (fun c v => { c with backoff.attempts := v }),
    .make "path_ttl_ms" .word64 (·.pathTtl) (fun c v => { c with pathTtl := v })]

def rendezvousSettings : List (Setting RendezvousConfig) :=
  [.make "session_expiration_time_ms" .word64 (·.sessionTtl) (fun c v => { c with sessionTtl := v }),
    .make "sweep_period_ms" .word64 (·.sweepPeriod) (fun c v => { c with sweepPeriod := v }),
    .make "max_sessions" .word64 (·.maxSessions) (fun c v => { c with maxSessions := v })]

def surveySettings : List (Setting SurveyConfig) :=
  [.make "upnp_enable" .flag (·.upnp) (fun c v => { c with upnp := v }),
    .make "servers" Address.form.list (·.servers) (fun c v => { c with servers := v }),
    .make "rto_ms" .word64 (·.backoff.rto) (fun c v => { c with backoff.rto := v }),
    .make "rto_scale" .binary64 (·.backoff.scale) (fun c v => { c with backoff.scale := v }),
    .make "rto_retries" .word32 (·.backoff.attempts) (fun c v => { c with backoff.attempts := v }),
    .make "delta_window" .word16 (·.deltaWindow) (fun c v => { c with deltaWindow := v }),
    .make "binding_timeout_ms" .word32 (·.bindingTimeout) (fun c v => { c with bindingTimeout := v })]

def responderSettings : List (Setting ResponderConfig) :=
  [.make "alt_port" .word16 (·.altPort) (fun c v => { c with altPort := v }),
    .make "partner" Address.form.optional (·.partner) (fun c v => { c with partner := v })]

def enrollmentSettings : List (Setting EnrollmentConfig) :=
  [.make "min_parents" .word64 (·.minParents) (fun c v => { c with minParents := v }),
    .make "max_parents" .word64 (·.maxParents) (fun c v => { c with maxParents := v }),
    .make "refresh_period_ms" .word64 (·.refreshPeriod) (fun c v => { c with refreshPeriod := v }),
    .make "servers" Address.form.list (·.servers) (fun c v => { c with servers := v })]

def endpointSettings : List (Setting EndpointConfig) :=
  [.make "recv_buffer_size" .word64 (·.receiveBuffer) (fun c v => { c with receiveBuffer := v }),
    .make "max_frame_len" .word64 (·.maxFrame) (fun c v => { c with maxFrame := v }),
    .make "connect_timeout_ms" .word64 (·.connectTimeout) (fun c v => { c with connectTimeout := v }),
    .make "udt_idle_timeout_ms" .word64 (·.idleTimeout) (fun c v => { c with idleTimeout := v }),
    .make "channel_capacity" .word64 (·.capacity) (fun c v => { c with capacity := v }),
    .make "bandwidth_interval_ms" .word64 (·.meterInterval) (fun c v => { c with meterInterval := v })]

def form : Form Config :=
  Setting.form [.make "nat_traverser" (Setting.form courierSettings false {}) (·.courier) (fun c v => { c with courier := v }),
    .make "hp_client" (Setting.form punchSettings false {}) (·.punch) (fun c v => { c with punch := v }),
    .make "rendezvous_server" (Setting.form rendezvousSettings false {}) (·.rendezvous) (fun c v => { c with rendezvous := v }),
    .make "stun_client" (Setting.form surveySettings false {}) (·.survey) (fun c v => { c with survey := v }),
    .make "stun_server" (Setting.form responderSettings false {}) (·.responder) (fun c v => { c with responder := v }),
    .make "parent_maker" (Setting.form enrollmentSettings false {}) (·.enrollment) (fun c v => { c with enrollment := v }),
    .make "endpoint" (Setting.form endpointSettings false {}) (·.endpoint) (fun c v => { c with endpoint := v })] false {}

/-- Gives one setting of one section a value. -/
def assign? (config : Config) (area name : String) (json : Json) : Option Config :=
  match area with
  | "nat_traverser" => (Setting.assign? courierSettings name json config.courier).map ({ config with courier := · })
  | "hp_client" => (Setting.assign? punchSettings name json config.punch).map ({ config with punch := · })
  | "rendezvous_server" => (Setting.assign? rendezvousSettings name json config.rendezvous).map ({ config with rendezvous := · })
  | "stun_client" => (Setting.assign? surveySettings name json config.survey).map ({ config with survey := · })
  | "stun_server" => (Setting.assign? responderSettings name json config.responder).map ({ config with responder := · })
  | "parent_maker" => (Setting.assign? enrollmentSettings name json config.enrollment).map ({ config with enrollment := · })
  | "endpoint" => (Setting.assign? endpointSettings name json config.endpoint).map ({ config with endpoint := · })
  | _ => none

/-- Why no configuration comes of a file. -/
inductive Unreadable where
  | file (kind : IoKind)
  /-- Not JSON, or not the JSON of a configuration. -/
  | form
  | fault (fault : ConfigFault)
deriving DecidableEq, Repr

/-- A text is read whole before any value in it is judged. -/
def ofText (text : String) : Except Unreadable Config :=
  match (Json.parse? text).bind form.read? with
  | none => .error .form
  | some config =>
    match config.check with
    | .ok () => .ok config
    | .error fault => .error (.fault fault)

/-- Reads a file that holds these bytes, or that does not exist. -/
def ofFile (content : Option Bytes) : Except Unreadable Config :=
  match content with
  | none => .error (.file .notFound)
  | some bytes =>
    match Utf8.decode bytes with
    | .error _ => .error (.file .invalidData)
    | .ok text => ofText text

end Config

end NatTraversal
