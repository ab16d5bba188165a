import NatTraversal.Endpoint.Sending
import NatTraversal.Identity.Basic
import NatTraversal.Stun.Survey
import NatTraversal.Surroundings

namespace NatTraversal

/-- A request that is sent again, under one ticket, until its answer comes. -/
structure Transaction where
  request : Message
  retriesLeft : Nat
  rto : Nat
  deadline : Nat
deriving DecidableEq, Repr

inductive SurveyState where
  | waiting (transaction : Transaction) (next : Option Message → Survey (Except Error NatType))
  | finished (result : Except Error NatType)
  /-- A timeout is too long to measure. -/
  | halted

/-- Carries a survey out from the sockets of an endpoint. -/
structure Surveyor where
  me : Identity
  backoff : Backoff
  /-- The public port that the gateway maps to, if there is a gateway that does. -/
  gateway : Option UInt16
  state : SurveyState
  drawn : Nat := 0

namespace Surveyor

/-- What comes of a step: the survey, what the endpoint does, and the endpoint. -/
abbrev Outcome := Surveyor × List EndpointEffect × Endpoint

def withSent (s : Surveyor) (transaction : Transaction) (next : Option Message → Survey (Except Error NatType))
    (sent : List EndpointEffect × Endpoint) : Outcome :=
  ({ s with state := .waiting transaction next }, sent)

/-- Goes on until an answer has to be waited for. A request that the endpoint refuses goes without one. -/
def proceed (s : Surveyor) (c : Surroundings) (outside : Outside) (e : Endpoint) : Survey (Except Error NatType) → Outcome
  | .done result => ({ s with state := .finished result }, [], e)
  | .ask port server body next =>
    if s.backoff.attempts = 0 then proceed s c outside e (next none)
    else
      let contact := s.me.contact c.roster
      let source := { contact with address := { contact.address with port } }
      let request := { Message.plain source server body with ticket := c.chance.ticket s.drawn }
      let s := { s with drawn := s.drawn + 1 }
      let sent := e.send outside request
      match e.accept outside request with
      | .ok () =>
        s.withSent ⟨request, s.backoff.attempts.toNat - 1, s.backoff.first, c.now + s.backoff.first⟩ next sent
      | .error _ =>
        let (s, effects, e) := proceed s c outside sent.2 (next none)
        (s, sent.1 ++ effects, e)
  | .allocate count next =>
    let (ports, e) := e.alloc c.chance (outside.bind .udp) (.v4 s.me.address.ip) count .udp
    proceed s c outside e (next (.ok ports))
  | .release ports next => proceed s c outside (e.release ports .udp).2 (next (.ok ()))
  | .mapPort _ next => proceed s c outside e (next s.gateway)

def start (config : SurveyConfig) (me : Identity) (gateway : Option UInt16) (c : Surroundings) (outside : Outside)
    (e : Endpoint) : Outcome :=
  proceed ⟨me, config.backoff, gateway, .halted, 0⟩ c outside e (.ofConfig config me.address)

/-- An answer counts only under the ticket of the request that waits. -/
def onReply (s : Surveyor) (c : Surroundings) (outside : Outside) (e : Endpoint) (reply : Message) : Outcome :=
  match s.state with
  | .waiting transaction next =>
    if reply.ticket = transaction.request.ticket then s.proceed c outside e (next (some reply)) else (s, [], e)
  | _ => (s, [], e)

/-- When the request that waits will have waited long enough. -/
def next? (s : Surveyor) : Option Nat :=
  match s.state with
  | .waiting transaction _ => some (Time.ceilMillis transaction.deadline)
  | _ => none

/-- The timeout of the request that waits: it is sent again as long as attempts are left. -/
def onTimeout (s : Surveyor) (c : Surroundings) (outside : Outside) (e : Endpoint) : Outcome :=
  match s.state with
  | .waiting transaction next =>
    match s.backoff.next? transaction.rto with
    | none => ({ s with state := .halted }, [], e)
    | some rto =>
      if transaction.retriesLeft = 0 then s.proceed c outside e (next none)
      else
        let sent := e.send outside transaction.request
        match e.accept outside transaction.request with
        | .ok () =>
          s.withSent { transaction with retriesLeft := transaction.retriesLeft - 1, rto, deadline := c.now + rto } next sent
        | .error _ =>
          let (s, effects, e) := s.proceed c outside sent.2 (next none)
          (s, sent.1 ++ effects, e)
  | _ => (s, [], e)

/-- No more answers can come: the request that waits goes without one. -/
def onClosed (s : Surveyor) (c : Surroundings) (outside : Outside) (e : Endpoint) : Outcome :=
  match s.state with
  | .waiting _ next => s.proceed c outside e (next none)
  | _ => (s, [], e)

def result? (s : Surveyor) : Option (Except Error NatType) :=
  match s.state with
  | .finished result => some result
  | _ => none

end Surveyor

end NatTraversal
