import NatTraversal.Proofs.Courier.Tandem

namespace NatTraversal

/-- A courier and a puncher, and what the courier has still to hear, the oldest first. -/
structure Liaison where
  courier : Courier
  puncher : Puncher
  unheard : List PunchEvent

/-- What has happened to a courier and a puncher. -/
inductive Happening where
  /-- The puncher has dealt with an input. -/
  | reacted (before : Puncher) (input : PunchInput) (step : PunchStep)
  | heard (event : PunchEvent)
  | sent (dest : Contact) (parcel : Parcel) (answer : Except Error Unit)
  | classified (nat : NatType)

/-- Something that the courier is told, and what made the puncher tell it. -/
structure Tiding where
  before : Puncher
  input : PunchInput
  after : Puncher
  event : PunchEvent

namespace Happening

/-- What the puncher has told, in order. -/
def tidings : Happening → List Tiding
  | reacted before input step => (Puncher.reports step.2).map fun event => ⟨before, input, step.1, event⟩
  | _ => []

def event? : Happening → Option PunchEvent
  | heard event => some event
  | _ => none

end Happening

/-- A parcel leaves a courier as it is, up to what is queued and the paths. -/
theorem Courier.send_keeps (courier : Courier) (c : CourierContext) (dest : Contact) (parcel : Parcel) :
    ∃ queued paths, (courier.send c dest parcel).2.1 = { courier with queued, paths } := by
  unfold send
  dsimp only
  split
  · exact ⟨_, _, rfl⟩
  · split
    · rename_i path found
      split
      · exact ⟨_, _, rfl⟩
      · unfold closePath
        split <;> exact ⟨_, _, rfl⟩
    · unfold giveUp enqueue
      dsimp only
      split
      · exact ⟨_, _, rfl⟩
      · split
        · exact ⟨_, _, rfl⟩
        · split
          · exact ⟨_, _, rfl⟩
          · split <;> exact ⟨_, _, rfl⟩

namespace Liaison

def ofConfig (config : Config) (me : Identity) (roster : Roster) : Liaison := ⟨.ofConfig config me roster, .ofConfig config me, []⟩

/-- The courier has taken a step. -/
def carried (l : Liaison) (step : CourierStep) : Liaison := { l with courier := step.1 }

/-- The puncher has taken a step. What it tells is unheard yet. -/
def punched (l : Liaison) (step : PunchStep) : Liaison :=
  { l with puncher := step.1, unheard := l.unheard ++ Puncher.reports step.2 }

/-- Whatever may happen to a courier and a puncher, with any inputs and any alarms at any time, as long as the courier hears what
the puncher tells in order. -/
inductive Run (start : Liaison) : List Happening → Liaison → Prop where
  | start : Run start [] start
  | reacts {log : List Happening} {l : Liaison} (before : Run start log l) (c : Surroundings) (alarms : Alarms PunchAlarm)
    (input : PunchInput) :
    Run start (log ++ [.reacted { l.puncher with alarms } input (({ l.puncher with alarms } : Puncher).react c input)])
      (l.punched (({ l.puncher with alarms } : Puncher).react c input))
  | hears {log : List Happening} {l : Liaison} {event : PunchEvent} {later : List PunchEvent} (before : Run start log l)
    (next : l.unheard = event :: later) :
    Run start (log ++ [.heard event]) (({ l with unheard := later } : Liaison).carried (l.courier.onPunch event))
  | sends {log : List Happening} {l : Liaison} (before : Run start log l) (c : CourierContext) (dest : Contact) (parcel : Parcel) :
    Run start (log ++ [.sent dest parcel (l.courier.send c dest parcel).1]) (l.carried (l.courier.send c dest parcel).2)
  | classifies {log : List Happening} {l : Liaison} (before : Run start log l) (nat : NatType) :
    Run start (log ++ [.classified nat]) (l.carried (l.courier.onClassified nat))

/-- What the puncher has told, in order. -/
def told (log : List Happening) : List Tiding := log.flatMap (·.tidings)

/-- What the courier has heard, in order. -/
def heard (log : List Happening) : List PunchEvent := log.filterMap (·.event?)

/-- What the courier has heard, and what made the puncher tell it. -/
def news (log : List Happening) : List Tiding := (told log).take (heard log).length

section

variable {start l : Liaison} {log : List Happening}

theorem told_concat (log : List Happening) (last : Happening) : told (log ++ [last]) = told log ++ last.tidings := by
  rw [told, List.flatMap_append, List.flatMap_singleton]
  rfl

theorem heard_concat (log : List Happening) (last : Happening) : heard (log ++ [last]) = heard log ++ last.event?.toList := by
  rw [heard, List.filterMap_append]
  cases last <;> rfl

theorem told_silent (log : List Happening) {last : Happening} (silent : last.tidings = []) : told (log ++ [last]) = told log := by
  rw [told_concat, silent, List.append_nil]

theorem heard_silent (log : List Happening) {last : Happening} (silent : last.event? = none) : heard (log ++ [last]) = heard log := by
  rw [heard_concat, silent, Option.toList_none, List.append_nil]

theorem event_tidings (before : Puncher) (input : PunchInput) (step : PunchStep) :
    (Happening.reacted before input step).tidings.map (·.event) = Puncher.reports step.2 := by
  rw [Happening.tidings, List.map_map]
  exact List.map_id' _

/-- What has been told has been heard or is still to be heard, in the same order. -/
theorem Run.told_eq (run : Run start log l) (silent : start.unheard = []) : (told log).map (·.event) = heard log ++ l.unheard := by
  induction run with
  | start => exact silent.symm
  | reacts before c alarms input ih =>
    rw [told_concat, heard_silent _ rfl, List.map_append, ih, event_tidings, List.append_assoc]
    rfl
  | hears before next ih =>
    rw [told_silent _ rfl, heard_concat, ih, next, List.append_assoc]
    rfl
  | sends before c dest parcel ih =>
    rw [told_silent _ rfl, heard_silent _ rfl, ih]
    rfl
  | classifies before nat ih =>
    rw [told_silent _ rfl, heard_silent _ rfl, ih]
    rfl

theorem Run.event_news (run : Run start log l) (silent : start.unheard = []) : (news log).map (·.event) = heard log := by
  rw [news, List.map_take, run.told_eq silent, List.take_left']
  rfl

/-- One input, with the alarms as they are. -/
theorem Run.reacting (run : Run start log l) (c : Surroundings) (input : PunchInput) :
    Run start (log ++ [.reacted l.puncher input (l.puncher.react c input)]) (l.punched (l.puncher.react c input)) :=
  run.reacts c l.puncher.alarms input

theorem Run.apart {config : Config} {me : Identity} {roster : Roster} (run : Run (ofConfig config me roster) log l) : l.puncher.Apart := by
  induction run with
  | start =>
    intro key hs known
    cases known
  | @reacts log l before c alarms input ih => exact (Puncher.react_moves (p := { l.puncher with alarms }) input).apart ih
  | _ => assumption

end

end Liaison

/-- Whatever happens to a courier and a puncher with a mailbox between them happens to them as it may without. -/
theorem Tandem.Run.liaison {start t : Tandem} {log : List CourierDeed} (run : Run start log t) :
    ∃ log, Liaison.Run ⟨start.courier, start.puncher, start.events⟩ log ⟨t.courier, t.puncher, t.events⟩ := by
  induction run with
  | start => exact ⟨[], .start⟩
  | @sends log t before dest parcel verdicts grant ih =>
    obtain ⟨_, run⟩ := ih
    exact ⟨_, run.sends ⟨verdicts 0, !t.puncher.halted⟩ dest parcel⟩
  | hears before next verdicts grant ih =>
    obtain ⟨_, run⟩ := ih
    exact ⟨_, run.hears next⟩
  | sorts before event grant ih => exact ih
  | classifies before nat grant ih =>
    obtain ⟨_, run⟩ := ih
    exact ⟨_, run.classifies nat⟩
  | told before input other ih => exact ih
  | handles before next c alarms ih =>
    obtain ⟨_, run⟩ := ih
    exact ⟨_, run.reacts c alarms _⟩

end NatTraversal
