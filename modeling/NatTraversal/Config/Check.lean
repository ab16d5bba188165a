import NatTraversal.Config.Basic
import NatTraversal.Error

namespace NatTraversal

/-- Why a configuration cannot be worked with. Settings are named as in its text. -/
inductive ConfigFault where
  | notPositive (setting : String)
  | scaleBelowOne (area : String) (scale : Binary64)
  | surveyNeverSends
  | outOfRange (setting : String) (value : UInt64)
  | minAboveMax (min max : UInt64)
  | bufferTooSmall (size : UInt64)
deriving DecidableEq, Repr

def ConfigFault.text : ConfigFault → String
  | notPositive setting => s!"{setting} must be positive"
  | scaleBelowOne area scale => s!"{area}.rto_scale {scale.text} below 1.0"
  | surveyNeverSends => "stun_client needs a positive rto and retry count"
  | outOfRange setting value => s!"{setting} {value} out of range"
  | minAboveMax min max => s!"parent_maker.min_parents {min} exceeds max_parents {max}"
  | bufferTooSmall size => s!"recv_buffer_size {size} too small"

def ConfigFault.toError (fault : ConfigFault) : Error := .config fault.text

/-- Refuses with `fault` where the condition fails. -/
def demand (condition : Bool) (fault : ConfigFault) : Except ConfigFault Unit :=
  if condition then .ok () else .error fault

/-- A timeout may not shrink. -/
def Backoff.grows (backoff : Backoff) : Bool := !(backoff.scale.isNan || backoff.scale.belowOne)

def PunchConfig.check (config : PunchConfig) : Except ConfigFault Unit := do
  demand (config.backoff.rto != 0) (.notPositive "hp_client.rto_ms")
  demand config.backoff.grows (.scaleBelowOne "hp_client" config.backoff.scale)
  demand (config.backoff.attempts != 0) (.notPositive "hp_client.rto_retries")
  demand (config.pathTtl != 0) (.notPositive "hp_client.path_ttl_ms")

def SurveyConfig.check (config : SurveyConfig) : Except ConfigFault Unit := do
  demand (config.backoff.rto != 0 && config.backoff.attempts != 0) .surveyNeverSends
  demand config.backoff.grows (.scaleBelowOne "stun_client" config.backoff.scale)

def EnrollmentConfig.check (config : EnrollmentConfig) : Except ConfigFault Unit := do
  demand (config.maxParents != 0 && config.maxParents ≤ 255) (.outOfRange "parent_maker.max_parents" config.maxParents)
  demand (config.minParents ≤ config.maxParents) (.minAboveMax config.minParents config.maxParents)
  demand (config.refreshPeriod != 0) (.notPositive "parent_maker.refresh_period_ms")

def RendezvousConfig.check (config : RendezvousConfig) : Except ConfigFault Unit := do
  demand (config.sweepPeriod != 0) (.notPositive "rendezvous_server.sweep_period_ms")
  demand (config.maxSessions != 0) (.notPositive "rendezvous_server.max_sessions")

def EndpointConfig.check (config : EndpointConfig) : Except ConfigFault Unit := do
  demand (config.receiveBuffer ≥ 64) (.bufferTooSmall config.receiveBuffer)
  demand (config.maxFrame != 0 && config.maxFrame ≤ 4294967295) (.outOfRange "max_frame_len" config.maxFrame)
  demand (config.capacity != 0) (.notPositive "channel_capacity")
  demand (config.meterInterval != 0) (.notPositive "bandwidth_interval_ms")

/-- The first fault, section by section. -/
def Config.check (config : Config) : Except ConfigFault Unit := do
  config.punch.check
  config.survey.check
  config.enrollment.check
  config.rendezvous.check
  config.endpoint.check

end NatTraversal
