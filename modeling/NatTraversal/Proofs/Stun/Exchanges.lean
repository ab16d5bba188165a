import Mathlib.Logic.Relation
import NatTraversal.Proofs.Endpoint.Ephemeral
import NatTraversal.Proofs.Inevitable
import NatTraversal.Proofs.Punch.Aside
import NatTraversal.Proofs.Stun.Tidy
import NatTraversal.Stun.Surveyor

namespace NatTraversal

/-- How long the first timeouts last in all, if each may be noticed so much late. -/
def Backoff.span (backoff : Backoff) (lag : Nat) : Nat → Nat
  | 0 => 0
  | count + 1 => backoff.span lag count + ((backoff.timeout? count).getD 0 + lag)

/-- A request of a survey: what the endpoint did each time it was sent, and the reply that it was answered by. -/
structure Exchange where
  request : Message
  transmissions : List (List EndpointEffect)
  answer : Option Message

/-- Where a survey has come to after some exchanges. Of all replies it is only their answers that it goes on from. -/
inductive Survey.Leads {α : Type} (gateway : Option UInt16) (survey : Survey α) : List Exchange → Survey α → Prop
  | start : Leads gateway survey [] survey
  | ask {exchanges : List Exchange} {port : UInt16} {server : Address} {body : Body} {next : Option Message → Survey α} {x : Exchange}
      (before : Leads gateway survey exchanges (.ask port server body next)) (source : x.request.source.address.port = port)
      (dest : x.request.dest = server) (same : x.request.body = body) :
      Leads gateway survey (exchanges ++ [x]) (next x.answer)
  | allocate {exchanges : List Exchange} {count : Nat} {next : Except LinkError (List UInt16) → Survey α} (ports : List UInt16)
      (before : Leads gateway survey exchanges (.allocate count next)) : Leads gateway survey exchanges (next (.ok ports))
  | release {exchanges : List Exchange} {ports : List UInt16} {next : Except LinkError Unit → Survey α}
      (before : Leads gateway survey exchanges (.release ports next)) : Leads gateway survey exchanges (next (.ok ()))
  | mapPort {exchanges : List Exchange} {socket : Socket} {next : Option UInt16 → Survey α}
      (before : Leads gateway survey exchanges (.mapPort socket next)) : Leads gateway survey exchanges (next gateway)

/-- The request that a survey waits for an answer to. -/
def Surveyor.transaction? (s : Surveyor) : Option Transaction :=
  match s.state with
  | .waiting transaction _ => some transaction
  | _ => none

/-- What a survey is carried out with, and what it begins from. -/
structure SurveyRun where
  me : Identity
  config : SurveyConfig
  gateway : Option UInt16
  chance : Chance
  endpoint : Endpoint
  begun : Nat
  /-- How late an alarm may ring. -/
  lag : Nat

/-- What has come of a survey up to a moment. -/
structure SurveyMoment where
  now : Nat
  surveyor : Surveyor
  endpoint : Endpoint
  /-- Everything that the requests have had the endpoint do. -/
  sent : List EndpointEffect
  /-- Every reply that has come. -/
  heard : List Message

/-- A moment after one step more. -/
def SurveyMoment.after (m : SurveyMoment) (now : Nat) (outcome : Surveyor.Outcome) : SurveyMoment :=
  { m with now, surveyor := outcome.1, sent := m.sent ++ outcome.2.1, endpoint := outcome.2.2 }

namespace SurveyRun

variable (run : SurveyRun)

/-- What the survey finds around itself; the roster and the clock may be others each time. -/
def around (now clock : Nat) (roster : Roster) : Surroundings := ⟨now, clock, roster, run.chance⟩

def start (clock : Nat) (roster : Roster) (outside : Outside) : SurveyMoment :=
  let outcome := Surveyor.start run.config run.me run.gateway (run.around run.begun clock roster) outside run.endpoint
  ⟨run.begun, outcome.1, outcome.2.2, outcome.2.1, []⟩

/-- A moment after a reply has come. -/
def hear (m : SurveyMoment) (now clock : Nat) (roster : Roster) (outside : Outside) (reply : Message) : SurveyMoment :=
  { m with heard := m.heard ++ [reply] }.after now
    (m.surveyor.onReply (run.around now clock roster) outside m.endpoint reply)

/-- Whether a request may still wait at such a time, which is no later than when its alarm rings. -/
structure Waits (m : SurveyMoment) (transaction : Transaction) (now : Nat) : Prop where
  waiting : m.surveyor.transaction? = some transaction
  later : m.now ≤ now
  early : now ≤ transaction.deadline + run.lag

/-- What may pass while a request waits: other replies come, and the endpoint has other things to do. -/
inductive Passes (m : SurveyMoment) : SurveyMoment → Prop
  | foreign {transaction : Transaction} {now : Nat} (clock : Nat) (roster : Roster) (outside : Outside) (reply : Message)
      (waits : run.Waits m transaction now) (other : reply.ticket ≠ transaction.request.ticket) :
      Passes m (run.hear m now clock roster outside reply)
  | elsewhere {transaction : Transaction} {now : Nat} (next : Endpoint) (waits : run.Waits m transaction now)
      (happens : m.endpoint.Happens next) (same : next.udp = m.endpoint.udp) : Passes m { m with now, endpoint := next }
  /-- A socket is lost that was not there at first. -/
  | loses {transaction : Transaction} {now : Nat} (port : UInt16) (kind : IoKind) (waits : run.Waits m transaction now)
      (fresh : run.endpoint.udp.contains port = false) :
      Passes m { m with now, endpoint := (m.endpoint.socketLost .udp port kind).2 }

/-- How the wait for an answer ends. -/
inductive Settles (m : SurveyMoment) : SurveyMoment → Prop
  | answer {transaction : Transaction} {now : Nat} (clock : Nat) (roster : Roster) (outside : Outside) (reply : Message)
      (waits : run.Waits m transaction now) (own : reply.ticket = transaction.request.ticket) :
      Settles m (run.hear m now clock roster outside reply)
  | timeout {transaction : Transaction} {now : Nat} (clock : Nat) (roster : Roster) (outside : Outside)
      (waits : run.Waits m transaction now) (due : transaction.deadline ≤ now) :
      Settles m (m.after now (m.surveyor.onTimeout (run.around now clock roster) outside m.endpoint))
  /-- The replies have come to an end. -/
  | closed {transaction : Transaction} {now : Nat} (clock : Nat) (roster : Roster) (outside : Outside)
      (waits : run.Waits m transaction now) :
      Settles m (m.after now (m.surveyor.onClosed (run.around now clock roster) outside m.endpoint))

/-- An alarm that rings at whole milliseconds rings in time if it may be almost one of them late. -/
theorem Settles.of_alarm {run : SurveyRun} {m : SurveyMoment} {due : Nat} (coarse : Time.millisecond ≤ run.lag + 1)
    (rings : m.surveyor.next? = some due) (later : m.now ≤ due) (clock : Nat) (roster : Roster) (outside : Outside) :
    run.Settles m (m.after due (m.surveyor.onTimeout (run.around due clock roster) outside m.endpoint)) := by
  unfold Surveyor.next? at rings
  split at rings
  · rename_i transaction next state
    cases rings
    have waiting : m.surveyor.transaction? = some transaction := by
      rw [Surveyor.transaction?, state]
    have late := Time.ceilMillis_lt transaction.deadline
    exact .timeout clock roster outside ⟨waiting, later, by omega⟩ (Time.le_ceilMillis _)
  · cases rings

/-- Whatever may happen until the survey has ended. -/
def Step (m later : SurveyMoment) : Prop := run.Passes m later ∨ run.Settles m later

/-- One wait for an answer, with whatever passes meanwhile. -/
def Wait : SurveyMoment → SurveyMoment → Prop := Relation.Comp (Relation.ReflTransGen run.Passes) run.Settles

/-- Whether a survey has ended: with a result, unless one of the timeouts was too long to measure. -/
def Over (m : SurveyMoment) : Prop :=
  m.surveyor.transaction? = none ∧ (m.surveyor.result? = none →
    ∃ count ≤ run.config.backoff.attempts.toNat, run.config.backoff.timeout? count = none)

/-- How long some exchanges may last in all. -/
def allowance : List Exchange → Nat
  | [] => 0
  | x :: rest => run.config.backoff.span run.lag x.transmissions.length + allowance rest

/-- Whether a request is sent at least once and no more often than is allowed, and answered by nothing but a reply to it. -/
structure Sound (heard : List Message) (x : Exchange) : Prop where
  sent : x.transmissions ≠ []
  few : x.transmissions.length ≤ run.config.backoff.attempts.toNat
  sends : ∀ effects ∈ x.transmissions, ∃ e outside, effects = (Endpoint.send e outside x.request).1
  own : ∀ reply, x.answer = some reply → reply ∈ heard ∧ reply.ticket = x.request.ticket

/-- An account of a survey: its exchanges, each under a ticket of its own, are few and sound and all that it has sent, the
time is theirs, and what it ends with comes of their answers. Then no port is left behind. -/
structure Accounts (m : SurveyMoment) (exchanges : List Exchange) : Prop where
  few : exchanges.length ≤ 8
  sound : ∀ x ∈ exchanges, run.Sound m.heard x
  tickets : exchanges.map (·.request.ticket) = (List.range exchanges.length).map run.chance.ticket
  sent : m.sent = exchanges.flatMap fun x => x.transmissions.flatten
  timely : m.now ≤ run.begun + run.allowance exchanges
  awaited : ∀ transaction, m.surveyor.transaction? = some transaction →
    transaction.deadline + run.lag ≤ run.begun + run.allowance exchanges
  ended : ∀ result, m.surveyor.result? = some result →
    (Survey.ofConfig run.config run.me.address).Leads run.gateway exchanges (.done result) ∧ m.endpoint.udp = run.endpoint.udp

end SurveyRun

end NatTraversal
