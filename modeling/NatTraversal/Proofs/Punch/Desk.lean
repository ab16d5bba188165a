import NatTraversal.Proofs.Punch.Lifetime
import NatTraversal.Proofs.Punch.Phases
import NatTraversal.Proofs.Punch.Watches

namespace NatTraversal

/-- A puncher, and what it has still to handle: commands and alarms that have rung, the oldest first. -/
structure Desk where
  puncher : Puncher
  mailbox : List PunchInput

namespace Desk

/-- Whatever may happen at a desk. An alarm that is set may ring at any time, and what it leaves in the mailbox waits there
for as long as what came before it. -/
inductive Run (chance : Chance) (start : Puncher) : Desk → Prop where
  | start : Run chance start ⟨start, []⟩
  | told {desk : Desk} (before : Run chance start desk) (command : PunchCommand) :
    Run chance start { desk with mailbox := desk.mailbox ++ [.command command] }
  | rings {desk : Desk} {id : Ticket} {alarm : Alarm PunchAlarm} (before : Run chance start desk)
    (set : desk.puncher.alarms.table.get? id = some alarm) :
    Run chance start ⟨{ desk.puncher with alarms := desk.puncher.alarms.rung id alarm }, desk.mailbox ++ [.alarm alarm.event]⟩
  | handles {p : Puncher} {input : PunchInput} {mailbox : List PunchInput} {c : Surroundings}
    (before : Run chance start ⟨p, input :: mailbox⟩) (same : c.chance = chance) : Run chance start ⟨(p.react c input).1, mailbox⟩

/-- The alarms that have rung and are still to be handled. -/
def late (desk : Desk) : List PunchAlarm := desk.mailbox.filterMap (·.rung?)

end Desk

namespace Puncher

/-- Whether what an alarm has been set for still waits for it. -/
def Heeds (p : Puncher) : PunchAlarm → Prop
  | .retry key id => ∃ hs, p.handshakes.get? key = some hs ∧ hs.retryId = id
  | .deadline key id => ∃ hs, p.handshakes.get? key = some hs ∧ hs.deadlineId = id
  | .probeExpired id => p.probes.contains id = true
  | .pathExpired key id => ∃ cached, p.paths.get? key = some cached ∧ cached.expiryId = id
  | .parentTimeout id => p.requests.contains id = true
  | .refresh => True

section

variable {chance : Chance} {config : Config} {me : Identity} {p : Puncher}

theorem Watched.heeds_iff {late : PunchAlarm → Prop} (watched : p.Watched chance late) {event : PunchAlarm} {id : Ticket}
    (own : event.ticket? = some id) : p.Heeds event ↔ ∃ awaiter, p.tickets awaiter = some id ∧ awaiter.alarm id = event := by
  constructor
  · intro heeds
    cases event with
    | retry key id =>
      cases own
      obtain ⟨hs, found, same⟩ := heeds
      exact ⟨.retry key, by rw [tickets, found, Option.map_some, same], rfl⟩
    | deadline key id =>
      cases own
      obtain ⟨hs, found, same⟩ := heeds
      exact ⟨.deadline key, by rw [tickets, found, Option.map_some, same], rfl⟩
    | pathExpired key id =>
      cases own
      obtain ⟨cached, found, same⟩ := heeds
      exact ⟨.expiry key, by rw [tickets, found, Option.map_some, same], rfl⟩
    | probeExpired id =>
      cases own
      rw [Heeds, Table.contains_eq_isSome, Option.isSome_iff_exists] at heeds
      obtain ⟨probe, known⟩ := heeds
      exact ⟨.probe id, by rw [tickets, known, Option.map_some], rfl⟩
    | parentTimeout id =>
      cases own
      rw [Heeds, Table.contains_eq_isSome, Option.isSome_iff_exists] at heeds
      obtain ⟨parent, entered⟩ := heeds
      exact ⟨.request parent, (watched.entered id parent).mp entered, rfl⟩
    | refresh => cases own
  · rintro ⟨awaiter, held, rfl⟩
    cases awaiter with
    | retry key => exact Option.map_eq_some_iff.mp held
    | deadline key => exact Option.map_eq_some_iff.mp held
    | expiry key => exact Option.map_eq_some_iff.mp held
    | probe other =>
      obtain ⟨probe, known, rfl⟩ := Option.map_eq_some_iff.mp held
      rw [Awaiter.alarm, Heeds, Table.contains_eq_isSome, known, Option.isSome_some]
    | request parent =>
      rw [Awaiter.alarm, Heeds, Table.contains_eq_isSome, (watched.entered id parent).mpr held, Option.isSome_some]

theorem watched_ofConfig (chance : Chance) (config : Config) (me : Identity) : (ofConfig config me).Watched chance (· ∈ ([] : List PunchAlarm)) := by
  have nothing : ∀ awaiter id, (ofConfig config me).tickets awaiter ≠ some id := by
    intro awaiter id held
    cases awaiter <;> cases held
  have unset : ∀ id alarm, (ofConfig config me).alarms.table.get? id ≠ some alarm := by
    intro id alarm set
    cases set
  refine ⟨⟨fun awaiter id held => absurd held (nothing awaiter id), fun awaiter _ id held => absurd held (nothing awaiter id), ?_,
    fun awaiter id held => absurd held (nothing awaiter id), by simp, by simp, fun id alarm set => absurd set (unset id alarm)⟩, ?_⟩
  · rintro id event ⟨due, rank, set⟩
    exact absurd set (unset id _)
  · intro id parent
    exact ⟨fun entered => (Option.some_ne_none parent entered.symm).elim, fun held => absurd held (nothing _ id)⟩

/-- Whatever is handled, every alarm that is waited for is still set or still to be handled. -/
theorem Watched.react {c : Surroundings} {input : PunchInput} {mailbox : List PunchInput}
    (watched : p.Watched c.chance (· ∈ Desk.late ⟨p, input :: mailbox⟩)) (going : (p.react c input).1.halted = false)
    (distinct : c.chance.Distinct (p.react c input).1.drawn) :
    (p.react c input).1.Watched c.chance (· ∈ Desk.late ⟨(p.react c input).1, mailbox⟩) := by
  cases input with
  | command command => exact (p.handle_keeps command).watched watched distinct
  | alarm event =>
    refine (p.onAlarm_keeps event going).watched ?_ distinct
    have split : (· ∈ Desk.late ⟨p, .alarm event :: mailbox⟩) = orElse event (· ∈ Desk.late ⟨p, mailbox⟩) := by
      funext other
      exact propext List.mem_cons
    rw [split] at watched
    exact watched

/-- An alarm that rings is to be handled. -/
theorem Watched.rung {mailbox : List PunchInput} {id : Ticket} {alarm : Alarm PunchAlarm}
    (watched : p.Watched chance (· ∈ Desk.late ⟨p, mailbox⟩)) (set : p.alarms.table.get? id = some alarm) :
    ({ p with alarms := p.alarms.rung id alarm } : Puncher).Watched chance (· ∈ Desk.late ⟨p, mailbox ++ [.alarm alarm.event]⟩) := by
  have split : (· ∈ Desk.late ⟨p, mailbox ++ [.alarm alarm.event]⟩) =
      fun other => other ∈ Desk.late ⟨p, mailbox⟩ ∨ other = alarm.event := by
    funext other
    simp [Desk.late, PunchInput.rung?]
  rw [split]
  refine watched.of_tally ?_ rfl rfl
  obtain ⟨due, rank, period, event⟩ := alarm
  cases period with
  | none => exact watched.tally.rings ⟨due, rank, set⟩
  | some period => exact watched.tally.recurring set

end

end Puncher

namespace Desk

section

variable {chance : Chance} {config : Config} {me : Identity} {desk : Desk}

/-- Whether an alarm is set under a ticket, or has rung and what it has been set for still waits for it. -/
def Outstanding (desk : Desk) (id : Ticket) (event : PunchAlarm) : Prop :=
  desk.puncher.alarms.Sets id event ∨ event.ticket? = some id ∧ event ∈ desk.late ∧ desk.puncher.Heeds event

/-- The tickets of the alarms that have rung and are still to be handled. -/
def rung (desk : Desk) : List Ticket := desk.late.filterMap (·.ticket?)

theorem late_append (p q : Puncher) (mailbox more : List PunchInput) :
    late ⟨p, mailbox ++ more⟩ = late ⟨q, mailbox⟩ ++ more.filterMap (·.rung?) := List.filterMap_append ..

theorem late_told (desk : Desk) (command : PunchCommand) : late { desk with mailbox := desk.mailbox ++ [.command command] } = desk.late := by
  rw [late_append _ desk.puncher]
  exact List.append_nil _

theorem Run.watched (run : Run chance (Puncher.ofConfig config me) desk) (going : desk.puncher.halted = false)
    (distinct : chance.Distinct desk.puncher.drawn) : desk.puncher.Watched chance (· ∈ desk.late) := by
  induction run with
  | start => exact Puncher.watched_ofConfig chance config me
  | told before command ih =>
    rw [late_told]
    exact ih going distinct
  | rings before set ih => exact (ih going distinct).rung set
  | handles before same ih =>
    subst same
    exact (ih (Puncher.going_of_react going) (distinct.mono (Puncher.react_moves _).drawn_le)).react going distinct

/-- No alarm rings twice before it is handled. -/
theorem Run.rung_nodup (run : Run chance (Puncher.ofConfig config me) desk) (going : desk.puncher.halted = false)
    (distinct : chance.Distinct desk.puncher.drawn) : desk.rung.Nodup := by
  induction run with
  | start => exact List.nodup_nil
  | told before command ih =>
    rw [rung, late_told]
    exact ih going distinct
  | @rings desk id alarm before set ih =>
    have watched := before.watched going distinct
    -- What has rung before is not set any more, unless it recurs; and what recurs has no ticket of its own.
    have fresh : ∀ own, alarm.event.ticket? = some own → own ∉ desk.rung := by
      intro own named known
      obtain ⟨event, late, ticket⟩ := List.mem_filterMap.mp known
      obtain ⟨due, rank, period, set_for⟩ := alarm
      cases period with
      | none =>
        obtain ⟨awaiter, _, rfl⟩ := watched.tally.armed id set_for ⟨due, rank, set⟩
        rw [Awaiter.ticket?_alarm] at named
        cases named
        exact watched.tally.rung event id late ticket _ ⟨due, rank, set⟩
      | some period =>
        obtain rfl : set_for = .refresh := watched.tally.recurs id _ set (by simp)
        cases named
    rw [rung, late_append _ desk.puncher, List.filterMap_append]
    refine List.nodup_append.mpr ⟨ih going distinct, ?_, ?_⟩
    · cases named : alarm.event.ticket? <;> simp [PunchInput.rung?, named]
    · rintro own known _ last rfl
      obtain ⟨event, rang, named⟩ := List.mem_filterMap.mp last
      cases List.mem_singleton.mp rang
      exact fresh own named known
  | @handles p input mailbox c before same ih =>
    subst same
    have whole := ih (Puncher.going_of_react going) (distinct.mono (Puncher.react_moves _).drawn_le)
    have fewer : mailbox.Sublist (input :: mailbox) := List.sublist_cons_self ..
    exact whole.sublist ((fewer.filterMap _).filterMap _)

/-- The alarms that are set, or have rung and wait to be handled, are those that something waits for, each once. An alarm
that nothing waits for does nothing. -/
theorem Run.alarms_owned (run : Run chance (Puncher.ofConfig config me) desk) (going : desk.puncher.halted = false)
    (distinct : chance.Distinct desk.puncher.drawn) :
    (∀ id event, desk.Outstanding id event ↔ ∃ awaiter, desk.puncher.tickets awaiter = some id ∧ awaiter.alarm id = event) ∧
    (∀ one two id, desk.puncher.tickets one = some id → desk.puncher.tickets two = some id → one = two) ∧
    desk.rung.Nodup ∧ (∀ id ∈ desk.rung, ∀ event, ¬ desk.puncher.alarms.Sets id event) ∧
    ∀ event id c, event.ticket? = some id → ¬ desk.Outstanding id event →
      desk.puncher.onAlarm c event = (desk.puncher, []) := by
  have watched := run.watched going distinct
  have owned : ∀ id event, desk.Outstanding id event ↔
      ∃ awaiter, desk.puncher.tickets awaiter = some id ∧ awaiter.alarm id = event := by
    intro id event
    constructor
    · rintro (set | ⟨own, _, heeds⟩)
      · exact watched.tally.armed id event set
      · exact (watched.heeds_iff own).mp heeds
    · rintro ⟨awaiter, held, rfl⟩
      have own := awaiter.ticket?_alarm id
      exact (watched.tally.covered awaiter id held).imp_right fun late => ⟨own, late, (watched.heeds_iff own).mpr ⟨awaiter, held, rfl⟩⟩
  refine ⟨owned, watched.tally.single, run.rung_nodup going distinct, ?_, ?_⟩
  · intro id rung event set
    obtain ⟨other, late, named⟩ := List.mem_filterMap.mp rung
    exact watched.tally.rung other id late named event set
  · intro event id c own stale
    refine Puncher.onAlarm_stale watched ?_ ?_ c
    · rintro rfl
      cases own
    · rintro awaiter ticket held rfl
      rw [Awaiter.ticket?_alarm] at own
      cases own
      exact stale ((owned id _).mpr ⟨awaiter, held, rfl⟩)

/-- The retry of a handshake has rung; its deadline is still set. -/
theorem called_alarms_owned :
    let c : Surroundings := ⟨0, 0, (Roster.empty 3).enter 1 .unrestricted, .counting 0⟩
    let caller := Puncher.ofConfig {} ⟨⟨.ofOctets 10 0 0 1, 4000, 1⟩, 0, none⟩
    let target : Contact := ⟨⟨.ofOctets 10 0 0 2, 4000, 2⟩, 0, .unrestricted, []⟩
    let call : PunchCommand := .connect target (.ok [])
    let called := (caller.react c (.command call)).1
    let retry := PunchAlarm.retry target.key (c.chance.ticket 1)
    ∃ alarm, called.alarms.table.get? (c.chance.ticket 1) = some alarm ∧ alarm.event = retry ∧
      let desk : Desk := ⟨{ called with alarms := called.alarms.rung (c.chance.ticket 1) alarm }, [.alarm retry]⟩
      desk.rung = [c.chance.ticket 1] ∧ desk.Outstanding (c.chance.ticket 1) retry ∧
        (∀ event, ¬ desk.puncher.alarms.Sets (c.chance.ticket 1) event) := by
  intro c caller target call called retry
  have set : called.alarms.table.get? (c.chance.ticket 1) = some ⟨Time.ofMillis 500, 0, none, retry⟩ := by decide +kernel
  have run : Run (.counting 0) caller _ := .rings (.handles (c := c) (.told .start call) rfl) set
  have distinct : (Chance.counting 0).Distinct called.drawn := Chance.counting_distinct (by decide +kernel)
  obtain ⟨owned, _, _, apart, _⟩ := run.alarms_owned (by decide +kernel) distinct
  refine ⟨_, set, rfl, by decide +kernel, (owned _ _).mpr ⟨.retry target.key, by decide +kernel, rfl⟩, ?_⟩
  exact apart _ (by decide +kernel)

end

end Desk

end NatTraversal
