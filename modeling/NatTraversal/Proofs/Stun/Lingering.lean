import NatTraversal.Proofs.Stun.Course
import NatTraversal.Proofs.Stun.Exchanges

namespace NatTraversal

/-- What comes after a timeout that is too long to measure cannot be measured either. -/
theorem Backoff.timeout?_none_of_le {backoff : Backoff} {count more : Nat} (stuck : backoff.timeout? count = none)
    (le : count ≤ more) : backoff.timeout? more = none := by
  induction le with
  | refl => exact stuck
  | step _ ih => rw [timeout?, ih, Option.bind_none]

namespace Surveyor

/-- A survey that goes on: the request that waits has come to its timeout by its retries alone. -/
structure Regular (backoff : Backoff) (s : Surveyor) : Prop where
  same : s.backoff = backoff
  going : s.state ≠ .halted
  waits : ∀ transaction, s.transaction? = some transaction → backoff.Schedules transaction.rto transaction.retriesLeft

section

variable {backoff : Backoff} {s : Surveyor}

theorem proceed_regular (same : s.backoff = backoff) (c : Surroundings) (outside : Outside) (e : Endpoint)
    (survey : Survey (Except Error NatType)) : (s.proceed c outside e survey).1.Regular backoff := by
  induction survey generalizing s e with
  | done result => exact ⟨same, fun halted => (by cases halted), fun _ waits => by cases waits⟩
  | ask port server body next ih =>
    unfold proceed
    split
    · exact ih none same e
    · dsimp only
      split
      · refine ⟨same, fun halted => (by cases halted), fun transaction waits => ?_⟩
        cases waits
        exact same ▸ backoff.schedules_first
      · exact ih none (show ({ s with drawn := s.drawn + 1 } : Surveyor).backoff = backoff from same) _
  | allocate count next ih => exact ih _ same _
  | release ports next ih => exact ih _ same _
  | mapPort socket next ih => exact ih _ same _

theorem Regular.onReply (regular : s.Regular backoff) (c : Surroundings) (outside : Outside) (e : Endpoint) (reply : Message) :
    (s.onReply c outside e reply).1.Regular backoff := by
  unfold Surveyor.onReply
  split
  · split
    · exact proceed_regular regular.same c outside e _
    · exact regular
  · exact regular

theorem Regular.onClosed (regular : s.Regular backoff) (c : Surroundings) (outside : Outside) (e : Endpoint) :
    (s.onClosed c outside e).1.Regular backoff := by
  unfold Surveyor.onClosed
  split
  · exact proceed_regular regular.same c outside e _
  · exact regular

theorem Regular.onTimeout (regular : s.Regular backoff) (measured : backoff.MeasuredPast) (c : Surroundings) (outside : Outside)
    (e : Endpoint) : (s.onTimeout c outside e).1.Regular backoff := by
  unfold Surveyor.onTimeout
  split
  · rename_i transaction next state
    have schedules := regular.waits transaction (by rw [transaction?, state])
    obtain ⟨rto, later⟩ := measured.next schedules
    rw [regular.same, later]
    dsimp only
    split
    · exact proceed_regular regular.same c outside e _
    · rename_i some_left
      split
      · refine ⟨regular.same, fun halted => (by cases halted), fun transaction waits => ?_⟩
        cases waits
        exact schedules.next some_left later
      · exact proceed_regular regular.same c outside _ _
  · exact regular

end

end Surveyor

namespace SurveyRun

open Relation

variable {run : SurveyRun} {m later : SurveyMoment}

theorem Step.regular (step : run.Step m later) (measured : run.config.backoff.MeasuredPast)
    (regular : m.surveyor.Regular run.config.backoff) : later.surveyor.Regular run.config.backoff := by
  rcases step with passes | settles
  · cases passes with
    | foreign clock roster outside reply waits other => exact regular.onReply ..
    | elsewhere next waits happens same => exact regular
    | loses port kind waits fresh => exact regular
  · cases settles with
    | answer clock roster outside reply waits own => exact regular.onReply ..
    | timeout clock roster outside waits due => exact regular.onTimeout measured ..
    | closed clock roster outside waits => exact regular.onClosed ..

theorem start_regular (run : SurveyRun) (clock : Nat) (roster : Roster) (outside : Outside) :
    (run.start clock roster outside).surveyor.Regular run.config.backoff :=
  Surveyor.proceed_regular (show (⟨run.me, run.config.backoff, run.gateway, .halted, 0⟩ : Surveyor).backoff = _ from rfl) ..

theorem Steps.regular (steps : ReflTransGen run.Step m later) (measured : run.config.backoff.MeasuredPast)
    (regular : m.surveyor.Regular run.config.backoff) : later.surveyor.Regular run.config.backoff := by
  induction steps with
  | refl => exact regular
  | tail _ step ih => exact step.regular measured ih

end SurveyRun

theorem Surveyor.state_of_transaction? {s : Surveyor} {transaction : Transaction} (waiting : s.transaction? = some transaction) :
    ∃ next, s.state = .waiting transaction next := by
  unfold transaction? at waiting
  split at waiting
  · rename_i next state
    cases waiting
    exact ⟨next, state⟩
  · cases waiting

namespace Endpoint

/-- What a datagram needs to go out is still there when it has been sent. -/
theorem accept_again {e : Endpoint} {outside again : Outside} {message : Message} (udp : message.transport = .udp)
    (accepted : e.accept outside message = .ok ()) (carries : ∀ frame dest, again.carry frame dest = .ok ()) :
    (e.send outside message).2.accept again message = .ok () := by
  by_cases looped : isLooped message = true
  · rw [accept, if_pos looped]
  · have leaves : ∃ frame, e.datagram message = .ok frame := by
      rw [accept, if_neg looped, udp] at accepted
      cases sent : e.datagram message with
      | error error =>
        rw [sent] at accepted
        cases accepted
      | ok frame => exact ⟨frame, rfl⟩
    obtain ⟨frame, sent⟩ := leaves
    have same : (e.send outside message).2.datagram message = e.datagram message := by
      rw [send, if_neg looped, udp, sent]
      dsimp only
      split
      · exact sent
      · exact sent
    rw [accept, if_neg looped, udp, same, sent]
    change (again.carry frame message.destSocket).mapError LinkError.io = .ok ()
    rw [carries]
    rfl

end Endpoint

namespace SurveyRun

open Relation

variable {run : SurveyRun} {m : SurveyMoment} {transaction : Transaction}

/-- A request that waits and can be sent again, by an endpoint whose system takes it. -/
structure Lingers (run : SurveyRun) (m : SurveyMoment) (transaction : Transaction) : Prop where
  waiting : m.surveyor.transaction? = some transaction
  regular : m.surveyor.Regular run.config.backoff
  early : m.now ≤ transaction.deadline
  udp : transaction.request.transport = .udp
  sendable : ∀ outside : Outside, (∀ frame dest, outside.carry frame dest = .ok ()) →
    m.endpoint.accept outside transaction.request = .ok ()

/-- A survey that has come to wait for an answer can send its request again. -/
theorem proceed_lingers {s : Surveyor} {c : Surroundings} {outside : Outside} {e : Endpoint} {survey : Survey (Except Error NatType)}
    (waits : (s.proceed c outside e survey).1.transaction? = some transaction) :
    c.now ≤ transaction.deadline ∧ transaction.request.transport = .udp ∧
      ∀ again : Outside, (∀ frame dest, again.carry frame dest = .ok ()) →
        (s.proceed c outside e survey).2.2.accept again transaction.request = .ok () := by
  induction survey generalizing s e with
  | done result => cases waits
  | ask port server body next ih =>
    unfold Surveyor.proceed at waits ⊢
    split at waits
    · rename_i silent
      rw [if_pos silent]
      exact ih none waits
    · rename_i speaks
      rw [if_neg speaks]
      dsimp only at waits ⊢
      split at waits
      · rename_i accepted
        cases waits
        exact ⟨Nat.le_add_right .., rfl, fun again carries => Endpoint.accept_again rfl accepted carries⟩
      · exact ih none waits
  | allocate count next ih => exact ih _ waits
  | release ports next ih => exact ih _ waits
  | mapPort socket next ih => exact ih _ waits

theorem start_lingers {clock : Nat} {roster : Roster} {outside : Outside}
    (waits : (run.start clock roster outside).surveyor.transaction? = some transaction) :
    run.Lingers (run.start clock roster outside) transaction := by
  obtain ⟨early, udp, sendable⟩ := proceed_lingers waits
  exact ⟨waits, run.start_regular clock roster outside, early, udp, sendable⟩

/-- The instant at which a request has waited long enough. -/
theorem Lingers.times_out (lingers : run.Lingers m transaction) (outside : Outside) :
    run.Step m (m.after transaction.deadline
      (m.surveyor.onTimeout (run.around transaction.deadline 0 (.empty 0)) outside m.endpoint)) :=
  .inr (.timeout 0 (.empty 0) outside ⟨lingers.waiting, lingers.early, Nat.le_add_right ..⟩ (Nat.le_refl _))

theorem Lingers.halts_of_stuck (lingers : run.Lingers m transaction) (stuck : run.config.backoff.next? transaction.rto = none)
    (outside : Outside) : (m.after transaction.deadline (m.surveyor.onTimeout (run.around transaction.deadline 0 (.empty 0)) outside
      m.endpoint)).surveyor.state = .halted := by
  obtain ⟨next, state⟩ := Surveyor.state_of_transaction? lingers.waiting
  have halts : (m.surveyor.onTimeout (run.around transaction.deadline 0 (.empty 0)) outside m.endpoint).1.state = .halted := by
    simp only [Surveyor.onTimeout, state, lingers.regular.same, stuck]
  exact halts

theorem Lingers.resent (lingers : run.Lingers m transaction) {rto : Nat} (next : run.config.backoff.next? transaction.rto = some rto)
    (some_left : transaction.retriesLeft ≠ 0) {outside : Outside} (carries : ∀ frame dest, outside.carry frame dest = .ok ()) :
    run.Lingers (m.after transaction.deadline
      (m.surveyor.onTimeout (run.around transaction.deadline 0 (.empty 0)) outside m.endpoint))
      { transaction with retriesLeft := transaction.retriesLeft - 1, rto, deadline := transaction.deadline + rto } := by
  obtain ⟨go_on, state⟩ := Surveyor.state_of_transaction? lingers.waiting
  have accepted := lingers.sendable outside carries
  have again : m.surveyor.onTimeout (run.around transaction.deadline 0 (.empty 0)) outside m.endpoint =
      m.surveyor.withSent
        { transaction with retriesLeft := transaction.retriesLeft - 1, rto, deadline := transaction.deadline + rto } go_on
        (m.endpoint.send outside transaction.request) := by
    simp only [Surveyor.onTimeout, state, lingers.regular.same, next, if_neg some_left, accepted]
    rfl
  rw [again]
  refine ⟨rfl, ⟨lingers.regular.same, fun halted => (by cases halted), fun waiting same => ?_⟩, Nat.le_add_right .., lingers.udp,
    fun later carries => ?_⟩
  · cases same
    exact (lingers.regular.waits transaction lingers.waiting).next some_left next
  · exact Endpoint.accept_again lingers.udp accepted carries

/-- A request that nobody answers comes to a timeout that is too long to measure, if there is one. -/
theorem Lingers.halts (lingers : run.Lingers m transaction) {count : Nat} (within : count ≤ run.config.backoff.attempts.toNat)
    (stuck : run.config.backoff.timeout? count = none) :
    ∃ later, ReflTransGen run.Step m later ∧ later.surveyor.state = .halted := by
  let outside : Outside := ⟨fun _ _ => .inUse, fun _ _ => .ok (), fun _ => .taken⟩
  have carries : ∀ frame dest, outside.carry frame dest = .ok () := fun _ _ => rfl
  -- With no retries left the timeout is still scaled once more, so that one past the last transmission halts the survey as well.
  generalize left : transaction.retriesLeft = retries
  induction retries generalizing m transaction with
  | zero =>
    obtain ⟨tries, timeout, total⟩ := lingers.regular.waits transaction lingers.waiting
    have last : run.config.backoff.next? transaction.rto = none := by
      have after := Backoff.timeout?_none_of_le stuck (show count ≤ tries + 1 by omega)
      rwa [Backoff.timeout?, timeout, Option.bind_some] at after
    exact ⟨_, .single (lingers.times_out outside), lingers.halts_of_stuck last outside⟩
  | succ retries ih =>
    cases next : run.config.backoff.next? transaction.rto with
    | none => exact ⟨_, .single (lingers.times_out outside), lingers.halts_of_stuck next outside⟩
    | some rto =>
      have fewer : transaction.retriesLeft - 1 = retries := by omega
      obtain ⟨later, steps, halted⟩ := ih (lingers.resent next (by omega) carries) fewer
      exact ⟨later, .head (lingers.times_out outside) steps, halted⟩

end SurveyRun

end NatTraversal
