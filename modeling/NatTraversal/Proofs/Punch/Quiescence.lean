import NatTraversal.Proofs.Inevitable
import NatTraversal.Proofs.Ringing
import NatTraversal.Punch.Handling

namespace NatTraversal

namespace Table

variable {κ ν : Type}

/-- What the values of a table come to in all. -/
def total (t : Table κ ν) (f : ν → Nat) : Nat := t.entries.foldr (fun e sum => f e.2 + sum) 0

theorem total_perm {t : Table κ ν} {entries : List (κ × ν)} (perm : t.entries.Perm entries) (f : ν → Nat) :
    t.total f = entries.foldr (fun e sum => f e.2 + sum) 0 :=
  perm.foldr_eq' (fun a _ b _ sum => Nat.add_left_comm (f b.2) (f a.2) sum) 0

variable [DecidableEq κ]

theorem total_of_get? {t : Table κ ν} {k : κ} {v : ν} (known : t.get? k = some v) (f : ν → Nat) :
    t.total f = f v + (t.erase k).total f :=
  total_perm (entries_perm_of_get? known) f

theorem total_insert (t : Table κ ν) (k : κ) (v : ν) (f : ν → Nat) : (t.insert k v).total f = f v + (t.erase k).total f :=
  total_perm (entries_insert_perm t k v) f

theorem total_erase_le (t : Table κ ν) (k : κ) (f : ν → Nat) : (t.erase k).total f ≤ t.total f := by
  cases known : t.get? k with
  | none => exact Nat.le_of_eq (congrArg (·.total f) (erase_eq_self known))
  | some v =>
    rw [total_of_get? known]
    exact Nat.le_add_left ..

end Table

namespace Alarms

variable {ε : Type} {alarms : Alarms ε} {id : Ticket} {alarm : Alarm ε} {last time : Nat}

/-- How often those alarms ring by an instant that are set for a purpose of some kind. -/
def dues (alarms : Alarms ε) (last : Nat) (kind : ε → Bool) : Nat :=
  (owed (fun _ => some last) alarms).countP fun ringing => kind ringing.2

/-- An alarm that rings has one ringing less ahead of it. -/
theorem dues_rung (set : alarms.table.get? id = some alarm) (rings : alarm.rings? = some time) (reached : time ≤ last)
    (kind : ε → Bool) :
    alarms.dues last kind = (alarms.rung id alarm).dues last kind + if kind alarm.event then 1 else 0 := by
  unfold dues
  rw [(owed_rung (fun _ => some last) set rings rfl reached).countP_eq, List.countP_cons]

theorem dues_drop_le (alarms : Alarms ε) (id : Ticket) (last : Nat) (kind : ε → Bool) :
    (alarms.drop id).dues last kind ≤ alarms.dues last kind := by
  cases set : alarms.table.get? id with
  | none =>
    have same : (alarms.drop id).table = alarms.table := Table.erase_eq_self set
    exact Nat.le_of_eq (by rw [dues, dues, owed, owed, same])
  | some alarm =>
    unfold dues
    rw [(owed_of_get? _ set).countP_eq, List.countP_append]
    exact Nat.le_add_left ..

/-- An alarm that is armed rings once at most. -/
theorem dues_arm_le (alarms : Alarms ε) (id : Ticket) (due : Nat) (event : ε) (last : Nat) (kind : ε → Bool) :
    (alarms.arm id due event).dues last kind ≤ alarms.dues last kind + if kind event then 1 else 0 := by
  have once : (Alarm.heard ⟨due, alarms.armed, none, event⟩ last).countP (fun ringing => kind ringing.2) ≤
      if kind event then 1 else 0 := by
    unfold Alarm.heard
    by_cases early : last < Time.ceilMillis due
    · rw [dueTimes_of_early early, List.map_nil, List.countP_nil]
      exact Nat.zero_le _
    · exact Nat.le_of_eq (by rw [dueTimes_once (Nat.not_lt.mp early), List.map_cons, List.map_nil, List.countP_singleton])
  have rest := alarms.dues_drop_le id last kind
  unfold dues at rest ⊢
  rw [arm, (owed_insert ..).countP_eq, List.countP_append, Option.map_some, Option.getD_some]
  exact Nat.le_trans (Nat.add_le_add once rest) (Nat.le_of_eq (Nat.add_comm ..))

end Alarms

/-- Whether an alarm rings again by itself. -/
def PunchAlarm.recurs : PunchAlarm → Bool
  | .refresh => true
  | _ => false

/-- The retries of the request that a slot waits for. -/
def Slot.retriesLeft (slot : Slot) : Nat := (slot.pending.map (·.retriesLeft)).getD 0

namespace Puncher

/-- Nothing is left to do before time passes. -/
def Quiet (s : Nat × Puncher) : Prop := ∀ next, s.2.alarms.next? = some next → s.1 < next

/-- What happens up to an instant to a puncher that is told nothing: an alarm rings whose time has come, or time passes until
another whole millisecond, but not beyond the next alarm. -/
inductive Lapse (chance : Chance) (last : Nat) : Nat × Puncher → Nat × Puncher → Prop where
  | rings {p : Puncher} {c : Surroundings} {step : PunchStep} (same : c.chance = chance) (rings : p.ring? c = some step) :
    Lapse chance last (c.now, p) (c.now, step.1)
  | passes {p : Puncher} {now : Nat} (ms : Nat) (onward : 0 < ms)
    (early : ∀ next, p.alarms.next? = some next → now + Time.ofMillis ms ≤ next) (within : now + Time.ofMillis ms ≤ last) :
    Lapse chance last (now, p) (now + Time.ofMillis ms, p)

/-- How often the refresh of the registrations rings by an instant. -/
def tolls (p : Puncher) (last : Nat) : Nat := p.alarms.dues last PunchAlarm.recurs

/-- How often other alarms ring by an instant at most, as long as the refresh does not: those that are set, and one more for
each retry that is left. -/
def credit (p : Puncher) (last : Nat) : Nat :=
  p.alarms.dues last (!·.recurs) + p.handshakes.total (·.retriesLeft) + p.slots.total Slot.retriesLeft

/-- Whether a puncher has no more ahead of it than another. -/
structure Spends (last : Nat) (p q : Puncher) : Prop where
  tolls : q.tolls last ≤ p.tolls last
  credit : q.credit last ≤ p.credit last

section

variable {c : Surroundings} {p q r : Puncher} {last : Nat}

theorem Spends.refl (last : Nat) (p : Puncher) : p.Spends last p := ⟨Nat.le_refl _, Nat.le_refl _⟩

theorem Spends.trans (first : Spends last p q) (second : Spends last q r) : Spends last p r :=
  ⟨Nat.le_trans second.tolls first.tolls, Nat.le_trans second.credit first.credit⟩

theorem Spends.of_parts (alarms : ∀ kind, q.alarms.dues last kind ≤ p.alarms.dues last kind)
    (handshakes : q.handshakes.total (·.retriesLeft) ≤ p.handshakes.total (·.retriesLeft))
    (slots : q.slots.total Slot.retriesLeft ≤ p.slots.total Slot.retriesLeft) : Spends last p q :=
  ⟨alarms _, Nat.add_le_add (Nat.add_le_add (alarms _) handshakes) slots⟩

/-- An alarm that is armed is one more to ring, unless it is the refresh. -/
theorem arm_le (p : Puncher) (id : Ticket) (due : Nat) {alarm : PunchAlarm} (once : alarm.recurs = false) (last : Nat) :
    (p.arm id due alarm).tolls last ≤ p.tolls last ∧ (p.arm id due alarm).credit last ≤ p.credit last + 1 := by
  have same := p.alarms.dues_arm_le id due alarm last PunchAlarm.recurs
  have more := p.alarms.dues_arm_le id due alarm last (!·.recurs)
  rw [once] at same
  simp only [once, Bool.not_false, if_true] at more
  refine ⟨same, ?_⟩
  unfold credit arm
  dsimp only
  omega

theorem forget_spends (p : Puncher) (key : PeerKey) (hs : Handshake) : Spends last p (p.forget key hs) :=
  .of_parts (fun _ => Nat.le_trans (Alarms.dues_drop_le ..) (Alarms.dues_drop_le ..)) (Table.total_erase_le ..) (Nat.le_refl _)

theorem fail_spends (p : Puncher) (key : PeerKey) (error : Error) : Spends last p (p.fail key error).1 := by
  unfold fail
  split
  · exact .refl last p
  · exact p.forget_spends key _

theorem closePath_spends (p : Puncher) (key : PeerKey) : Spends last p (p.closePath key).1 := by
  unfold closePath
  split
  · exact .refl last p
  · exact .of_parts (fun _ => Alarms.dues_drop_le ..) (Nat.le_refl _) (Nat.le_refl _)

/-- An attempt takes no retry. -/
theorem sendAttempt_spends (p : Puncher) (c : Surroundings) (key : PeerKey) : Spends last p (p.sendAttempt c key).1 := by
  unfold sendAttempt
  split
  · exact .refl last p
  · rename_i hs found
    exact .of_parts (fun _ => Nat.le_refl _) (Nat.le_of_eq (by rw [Table.total_insert, Table.total_of_get? found])) (Nat.le_refl _)

/-- A retry is used up for the alarm of the next one. -/
theorem retry_spends (p : Puncher) (c : Surroundings) (key : PeerKey) (id : Ticket) : Spends last p (p.retry c key id).1 := by
  unfold retry
  split
  · exact .refl last p
  · rename_i hs found
    split
    · exact .refl last p
    · split
      · exact p.fail_spends key _
      · rename_i going
        have some_left : hs.retriesLeft ≠ 0 := (not_or.mp going).1
        split
        · exact .of_parts (fun _ => Nat.le_refl _) (Nat.le_refl _) (Nat.le_refl _)
        · rename_i rto next
          let waiting : Puncher := { p with
            drawn := p.drawn + 1
            handshakes := p.handshakes.insert key { hs with
              retriesLeft := hs.retriesLeft - 1, attempt := hs.attempt + 1, rto, retryId := c.chance.ticket p.drawn } }
          have used : waiting.credit last + 1 = p.credit last := by
            simp only [waiting, credit, Table.total_insert, Table.total_of_get? found]
            omega
          have once : (PunchAlarm.retry key (c.chance.ticket p.drawn)).recurs = false := rfl
          obtain ⟨fewer, more⟩ := waiting.arm_le (c.chance.ticket p.drawn) (c.now + rto) once last
          have spends : Spends last p (waiting.arm (c.chance.ticket p.drawn) (c.now + rto) (.retry key (c.chance.ticket p.drawn))) :=
            ⟨fewer, by omega⟩
          exact spends.trans (sendAttempt_spends _ c key)

theorem onDeadline_spends (p : Puncher) (key : PeerKey) (id : Ticket) : Spends last p (p.onDeadline key id).1 := by
  unfold onDeadline
  split
  · split
    · exact p.fail_spends key _
    · exact .refl last p
  · exact .refl last p

theorem onPathExpired_spends (p : Puncher) (key : PeerKey) (id : Ticket) : Spends last p (p.onPathExpired key id).1 := by
  unfold onPathExpired
  split
  · split
    · exact p.closePath_spends key
    · exact .refl last p
  · exact .refl last p

/-- A request that is sent has its alarm and its retries ahead. -/
theorem sendRequest_le (p : Puncher) (c : Surroundings) (key : Socket) (request : ParentRequest) (last : Nat) :
    (p.sendRequest c key request).1.tolls last ≤ p.tolls last ∧
      (p.sendRequest c key request).1.credit last ≤ p.credit last + request.retriesLeft + 1 := by
  cases found : p.slots.get? key with
  | none =>
    simp only [sendRequest, found]
    exact ⟨Nat.le_refl _, by omega⟩
  | some slot =>
    obtain ⟨alarms, requests, fewer, sent⟩ : ∃ (alarms : Alarms PunchAlarm) (requests : Table Ticket Socket),
        (∀ kind, alarms.dues last kind ≤ p.alarms.dues last kind) ∧ (p.sendRequest c key request).1 =
          ({ p with alarms, requests, slots := p.slots.insert key { slot with pending := some request } } : Puncher).arm request.id
            (c.now + request.rto) (.parentTimeout request.id) := by
      cases waits : slot.pending with
      | none => exact ⟨p.alarms, _, fun _ => Nat.le_refl _, by simp only [sendRequest, found, waits]; rfl⟩
      | some old => exact ⟨p.alarms.drop old.id, _, fun _ => Alarms.dues_drop_le .., by simp only [sendRequest, found, waits]; rfl⟩
    let waiting : Puncher := { p with alarms, requests, slots := p.slots.insert key { slot with pending := some request } }
    have held : waiting.credit last ≤ p.credit last + request.retriesLeft := by
      have once := fewer (!·.recurs)
      have others := p.slots.total_erase_le key Slot.retriesLeft
      simp only [waiting, credit, Table.total_insert, Slot.retriesLeft, Option.map_some, Option.getD_some] at others ⊢
      omega
    have once : (PunchAlarm.parentTimeout request.id).recurs = false := rfl
    obtain ⟨no_more, one⟩ := waiting.arm_le request.id (c.now + request.rto) once last
    rw [sent]
    exact ⟨Nat.le_trans no_more (fewer _), Nat.le_trans one (Nat.succ_le_succ held)⟩

theorem lose_spends (p : Puncher) (key : Socket) : Spends last p (p.lose key).1 := by
  unfold lose
  split
  · rename_i slot found
    split
    · refine .of_parts (fun _ => Nat.le_refl _) (Nat.le_refl _) (Nat.le_of_eq ?_)
      rw [Table.total_insert, Table.total_of_get? found, Slot.retriesLeft, Slot.retriesLeft]
    · exact .refl last p
  · exact .refl last p

/-- A request that has timed out is sent again by one of its retries, or is given up with them. -/
theorem onParentTimeout_spends (p : Puncher) (c : Surroundings) (id : Ticket) : Spends last p (p.onParentTimeout c id).1 := by
  unfold onParentTimeout
  split
  · exact .refl last p
  · rename_i key waits
    have unasked : Spends last p { p with requests := p.requests.erase id } :=
      .of_parts (fun _ => Nat.le_refl _) (Nat.le_refl _) (Nat.le_refl _)
    dsimp only
    split
    · exact unasked
    · rename_i slot found
      split
      · exact unasked
      · rename_i request pending
        let cleared : Puncher := { p with
          requests := p.requests.erase id
          slots := p.slots.insert key { slot with pending := none } }
        have given_up : cleared.credit last + request.retriesLeft = p.credit last := by
          simp only [cleared, credit, Table.total_insert, Table.total_of_get? found, Slot.retriesLeft, pending, Option.map_some,
            Option.getD_some, Option.map_none, Option.getD_none]
          omega
        have spends : Spends last p cleared := ⟨Nat.le_refl _, by omega⟩
        split
        · exact spends.trans (lose_spends _ key)
        · rename_i some_left
          split
          · exact ⟨spends.tolls, spends.credit⟩
          · rename_i rto next
            obtain ⟨fewer, more⟩ := sendRequest_le (cleared.draw c).2 c key
              { request with id := c.chance.ticket p.drawn, rto, retriesLeft := request.retriesLeft - 1 } last
            change _ ≤ cleared.credit last + (request.retriesLeft - 1) + 1 at more
            exact ⟨fewer, Nat.le_trans more (by omega)⟩

/-- Whatever rings but the refresh leaves no more ahead than before. -/
theorem onAlarm_spends (p : Puncher) (c : Surroundings) {alarm : PunchAlarm} (once : alarm.recurs = false) :
    Spends last p (p.onAlarm c alarm).1 := by
  unfold onAlarm
  split
  · exact .refl last p
  · cases alarm with
    | retry key id => exact p.retry_spends c key id
    | deadline key id => exact p.onDeadline_spends key id
    | probeExpired id => exact .of_parts (fun _ => Nat.le_refl _) (Nat.le_refl _) (Nat.le_refl _)
    | pathExpired key id => exact p.onPathExpired_spends key id
    | parentTimeout id => exact p.onParentTimeout_spends c id
    | refresh => cases once

theorem request_tolls_le (p : Puncher) (c : Surroundings) (key : Socket) (body : Body) (last : Nat) :
    (p.request c key body).1.tolls last ≤ p.tolls last :=
  (sendRequest_le (p.draw c).2 c key _ last).1

theorem enroll_tolls_le (p : Puncher) (c : Surroundings) (server : Address) (last : Nat) :
    (p.enroll c server).1.tolls last ≤ p.tolls last := by
  unfold enroll
  dsimp only
  split
  · exact Nat.le_refl _
  · exact request_tolls_le _ c _ _ last

theorem foldl_tolls_le {α : Type} {next : α → Puncher → PunchStep} (each : ∀ a (p : Puncher), (next a p).1.tolls last ≤ p.tolls last)
    (list : List α) (step : PunchStep) :
    (list.foldl (fun step a => followedBy step (next a)) step).1.tolls last ≤ step.1.tolls last := by
  induction list generalizing step with
  | nil => exact Nat.le_refl _
  | cons a list ih => exact Nat.le_trans (ih _) (each a step.1)

theorem fill_tolls_le (p : Puncher) (c : Surroundings) (last : Nat) : (p.fill c).1.tolls last ≤ p.tolls last :=
  foldl_tolls_le (fun server p => p.enroll_tolls_le c server last) _ _

/-- The refresh sets no other. -/
theorem refresh_tolls_le (p : Puncher) (c : Surroundings) (last : Nat) : (p.refresh c).1.tolls last ≤ p.tolls last := by
  have each (entry : Socket × Slot) (q : Puncher) : (q.request c entry.1 .keepAliveRequest).1.tolls last ≤ q.tolls last :=
    q.request_tolls_le c entry.1 _ last
  have asked := foldl_tolls_le each (p.slots.entries.filter fun entry => entry.2.registered && entry.2.pending.isNone) (p, [])
  unfold refresh
  dsimp only
  generalize List.foldl _ (p, []) _ = step at asked ⊢
  exact Nat.le_trans (fill_tolls_le step.1 c last) asked

theorem onAlarm_tolls_le (p : Puncher) (c : Surroundings) (alarm : PunchAlarm) (last : Nat) :
    (p.onAlarm c alarm).1.tolls last ≤ p.tolls last := by
  cases recurs : alarm.recurs with
  | false => exact (p.onAlarm_spends c recurs).tolls
  | true =>
    cases alarm with
    | refresh =>
      unfold onAlarm
      split
      · exact Nat.le_refl _
      · exact p.refresh_tolls_le c last
    | _ => cases recurs

/-- What is ahead of a puncher up to an instant, first of all the refreshes, as each can set off any number of requests. -/
def ahead (last : Nat) (s : Nat × Puncher) : Nat × Nat × Nat := (s.2.tolls last, s.2.credit last, last - s.1)

/-- Whether there is less ahead at the first place that is not the same. -/
def Less : Nat × Nat × Nat → Nat × Nat × Nat → Prop := Prod.Lex (· < ·) (Prod.Lex (· < ·) (· < ·))

theorem less_wf : WellFounded Less := (Prod.lex Nat.lt_wfRel (Prod.lex Nat.lt_wfRel Nat.lt_wfRel)).wf

theorem less_of_tolls {s t : Nat × Puncher} (fewer : t.2.tolls last < s.2.tolls last) : Less (ahead last t) (ahead last s) :=
  .left _ _ fewer

theorem less_of_credit {s t : Nat × Puncher} (no_more : t.2.tolls last ≤ s.2.tolls last)
    (fewer : t.2.credit last < s.2.credit last) : Less (ahead last t) (ahead last s) := by
  rcases Nat.lt_or_eq_of_le no_more with less | same
  · exact less_of_tolls less
  · unfold ahead
    rw [same]
    exact .right _ (.left _ _ fewer)

/-- What rings takes more than it brings. -/
theorem ring?_less {step : PunchStep} (rings : p.ring? c = some step) (within : c.now ≤ last) :
    Less (ahead last (c.now, step.1)) (ahead last (c.now, p)) := by
  obtain ⟨⟨event, rest⟩, rung, rfl⟩ := Option.map_eq_some_iff.mp rings
  obtain ⟨id, alarm, time, set, at_time, reached, rfl, rfl⟩ := Alarms.ring?_eq_some rung
  have paid := Alarms.dues_rung set at_time (Nat.le_trans reached within)
  cases recurs : alarm.event.recurs with
  | true =>
    have fewer := paid PunchAlarm.recurs
    rw [recurs] at fewer
    -- The credit may grow here, by the retries of every request that the refresh sends.
    refine less_of_tolls (Nat.lt_of_le_of_lt (onAlarm_tolls_le _ c alarm.event last) ?_)
    change Alarms.dues _ last _ < p.alarms.dues last _
    rw [fewer]
    exact Nat.lt_succ_self _
  | false =>
    have spends : Spends last _ _ := onAlarm_spends { p with alarms := p.alarms.rung id alarm } c recurs
    have same := paid PunchAlarm.recurs
    have fewer := paid (!·.recurs)
    rw [recurs] at same
    simp only [recurs, Bool.not_false, if_true] at fewer
    refine less_of_credit (Nat.le_trans spends.tolls (Nat.le_of_eq same.symm)) (Nat.lt_of_le_of_lt spends.credit ?_)
    simp only [credit, fewer]
    omega

end

section

open Relation

variable {chance : Chance} {p : Puncher} {now last : Nat}

theorem quiet_of_silent {c : Surroundings} (silent : p.ring? c = none) : Quiet (c.now, p) := by
  intro next soon
  refine Nat.lt_of_not_le fun reached => ?_
  have rings := isSome_ring?_iff.mpr ⟨next, soon, reached⟩
  rw [silent] at rings
  cases rings

/-- What the alarm leads to that rings next, once its time has come. -/
theorem ring?_of_due {c : Surroundings} {next : Nat} (soon : p.alarms.next? = some next) (reached : next ≤ c.now) :
    ∃ id alarm, p.alarms.table.get? id = some alarm ∧ alarm.rings? = some next ∧
      p.ring? c = some (({ p with alarms := p.alarms.rung id alarm }).onAlarm c alarm.event) := by
  rcases p.alarms.ring?_cases c.now with ⟨silent, _⟩ | ⟨id, alarm, time, first, rung, set, rings, _⟩
  · have rings := Alarms.isSome_ring?_iff.mpr ⟨next, soon, reached⟩
    rw [silent] at rings
    cases rings
  · cases soon.symm.trans first
    exact ⟨id, alarm, set, rings, by rw [ring?, rung, Option.map_some]⟩

/-- Short of rest at an instant to come, something happens. -/
theorem Lapse.exists (chance : Chance) (whole : Time.Whole now) (also : Time.Whole last) (within : now ≤ last)
    (short : ¬ (now = last ∧ Quiet (now, p))) : ∃ t, Lapse chance last (now, p) t := by
  cases rings : p.ring? ⟨now, 0, .empty 0, chance⟩ with
  | some step => exact ⟨_, .rings rfl rings⟩
  | none =>
    have quiet : Quiet (now, p) := quiet_of_silent rings
    have before : now < last := Nat.lt_of_le_of_ne within fun same => short ⟨same, quiet⟩
    refine ⟨_, .passes 1 Nat.one_pos (fun next soon => ?_) (whole.next_le also before)⟩
    exact whole.next_le (Alarms.next?_whole soon) (quiet next soon)

/-- Whatever happens leaves less ahead, at a whole millisecond up to the instant. -/
theorem Lapse.less {s t : Nat × Puncher} (lapse : Lapse chance last s t) (whole : Time.Whole s.1) (within : s.1 ≤ last) :
    (Time.Whole t.1 ∧ t.1 ≤ last) ∧ Less (ahead last t) (ahead last s) := by
  cases lapse with
  | rings same rings => exact ⟨⟨whole, within⟩, ring?_less rings within⟩
  | @passes p now ms onward early still =>
    have later : 0 < Time.ofMillis ms := Nat.mul_pos onward (by decide)
    refine ⟨⟨whole.add (Time.whole_ofMillis ms), still⟩, .right _ (.right _ ?_)⟩
    dsimp only at still ⊢
    omega

/-- Whatever its alarms find around them, and however the clock goes on, a puncher that is told nothing comes to any later
millisecond, and to rest there. -/
theorem rests (chance : Chance) (p : Puncher) (whole : Time.Whole now) (ms : Nat) :
    Inevitable (Lapse chance (now + Time.ofMillis ms)) (fun s => s.1 = now + Time.ofMillis ms ∧ Quiet s) (now, p) := by
  have also : Time.Whole (now + Time.ofMillis ms) := whole.add (Time.whole_ofMillis ms)
  refine .of_measure less_wf (ahead (now + Time.ofMillis ms)) (fun s => Time.Whole s.1 ∧ s.1 ≤ now + Time.ofMillis ms)
    (fun s ⟨here, within⟩ => ?_) ⟨whole, Nat.le_add_right ..⟩
  by_cases reached : s.1 = now + Time.ofMillis ms ∧ Quiet s
  · exact .inl reached
  · exact .inr ⟨Lapse.exists chance here also within reached, fun t lapse => lapse.less here within⟩

end

end Puncher

end NatTraversal
