import NatTraversal.Table
import NatTraversal.Ticket
import NatTraversal.Time

namespace NatTraversal

structure Alarm (ε : Type) where
  due : Nat
  /-- Its rank among the alarms by the time of arming. -/
  rank : Nat
  /-- The time from one ringing to the next of an alarm that rings again. -/
  period : Option Nat
  event : ε
deriving DecidableEq, Repr

/-- The alarms that have been set and not rung for the last time. -/
structure Alarms (ε : Type) where
  table : Table Ticket (Alarm ε) := .empty
  armed : Nat := 0
deriving DecidableEq

/-- An alarm rings at the first whole millisecond not before it is due; with a period of zero it never does. -/
def Alarm.rings? {ε : Type} (alarm : Alarm ε) : Option Nat :=
  if alarm.period = some 0 then none else some (Time.ceilMillis alarm.due)

namespace Alarms

variable {ε : Type}

def size (alarms : Alarms ε) : Nat := alarms.table.size

def isScheduled (alarms : Alarms ε) (id : Ticket) : Bool := alarms.table.contains id

/-- Takes the place of an alarm of the same ticket. -/
def arm (alarms : Alarms ε) (id : Ticket) (due : Nat) (event : ε) : Alarms ε :=
  ⟨alarms.table.insert id ⟨due, alarms.armed, none, event⟩, alarms.armed + 1⟩

def armEvery (alarms : Alarms ε) (id : Ticket) (due period : Nat) (event : ε) : Alarms ε :=
  ⟨alarms.table.insert id ⟨due, alarms.armed, some period, event⟩, alarms.armed + 1⟩

/-- Also tells whether the alarm was there. -/
def cancel (alarms : Alarms ε) (id : Ticket) : Bool × Alarms ε :=
  (alarms.table.contains id, { alarms with table := alarms.table.erase id })

def drop (alarms : Alarms ε) (id : Ticket) : Alarms ε := (alarms.cancel id).2

def cancelAll (alarms : Alarms ε) : Alarms ε := { alarms with table := .empty }

/-- Of two alarms the one that rings earlier, and of two that ring together the one armed earlier. -/
def sooner (a b : Nat × Nat × Ticket × Alarm ε) : Nat × Nat × Ticket × Alarm ε :=
  if a.1 < b.1 ∨ (a.1 = b.1 ∧ a.2.1 ≤ b.2.1) then a else b

/-- The next alarm to ring, behind the time when it does and its rank. -/
def first? (alarms : Alarms ε) : Option (Nat × Nat × Ticket × Alarm ε) :=
  let ringing := alarms.table.entries.filterMap fun (id, alarm) => alarm.rings?.map (·, alarm.rank, id, alarm)
  ringing.foldl (fun best next => some (match best with | some b => sooner b next | none => next)) none

def next? (alarms : Alarms ε) : Option Nat := alarms.first?.map (·.1)

/-- What is left when an alarm has rung. -/
def rung (alarms : Alarms ε) (id : Ticket) (alarm : Alarm ε) : Alarms ε :=
  match alarm.period with
  | none => alarms.drop id
  | some period => alarms.armEvery id (alarm.due + period) period alarm.event

/-- Lets the next alarm ring if it does so by `now`. -/
def ring? (alarms : Alarms ε) (now : Nat) : Option (ε × Alarms ε) :=
  match alarms.first? with
  | some (time, _, id, alarm) => if time ≤ now then some (alarm.event, alarms.rung id alarm) else none
  | none => none

/-- An alarm rings if, and only if, there is one whose time has come. -/
theorem isSome_ring?_iff {alarms : Alarms ε} {now : Nat} :
    (alarms.ring? now).isSome = true ↔ ∃ next, alarms.next? = some next ∧ next ≤ now := by
  unfold ring? next?
  cases alarms.first? with
  | none => simp
  | some first => by_cases reached : first.1 ≤ now <;> simp [reached]

/-- How often alarms ring by `now`, if none is set or cancelled. -/
def ringings (alarms : Alarms ε) (now : Nat) : Nat :=
  let counts := alarms.table.values.map fun alarm =>
    match alarm.rings?, alarm.period with
    | none, _ => 0
    | some time, none => if time ≤ now then 1 else 0
    | some time, some period => if time ≤ now then (now - alarm.due) / period + 1 else 0
  counts.foldl (· + ·) 0

/-- Lets all alarms ring up to an instant, in the order of time. -/
def elapse (alarms : Alarms ε) (now : Nat) : List (Nat × ε) × Alarms ε := go (alarms.ringings now) alarms
where
  go : Nat → Alarms ε → List (Nat × ε) × Alarms ε
    | 0, alarms => ([], alarms)
    | fuel + 1, alarms =>
      match alarms.next?, alarms.ring? now with
      | some time, some (event, rest) =>
        let (later, rest) := go fuel rest
        ((time, event) :: later, rest)
      | _, _ => ([], alarms)

end Alarms

end NatTraversal
