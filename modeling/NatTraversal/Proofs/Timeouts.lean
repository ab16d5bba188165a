import NatTraversal.Config.Check
import NatTraversal.Proofs.Punch.Unheard
import NatTraversal.Proofs.Stun.Lingering

namespace NatTraversal

theorem demand_eq_ok {condition : Bool} {fault : ConfigFault} (passed : demand condition fault = .ok ()) : condition = true := by
  cases condition with
  | true => rfl
  | false => cases passed

/-- What follows a check is reached only where the check has passed. -/
theorem passed_of_bind_eq_ok {first rest : Except ConfigFault Unit} (passed : (do first; rest) = .ok ()) :
    first = .ok () ∧ rest = .ok () := by
  cases first with
  | error fault => cases passed
  | ok _ => exact ⟨rfl, passed⟩

namespace Config

open Relation

/-- A configuration that is worked with sends every request at least once. -/
theorem some_attempt_of_check {config : Config} (accepted : config.check = .ok ()) :
    1 ≤ config.punch.backoff.attempts.toNat ∧ 1 ≤ config.survey.backoff.attempts.toNat := by
  have some_attempt : ∀ attempts : UInt32, (attempts != 0) = true → 1 ≤ attempts.toNat := by
    intro attempts sends
    refine Nat.one_le_iff_ne_zero.mpr fun none => ?_
    exact bne_iff_ne.mp sends (UInt32.toNat_inj.mp (show attempts.toNat = (0 : UInt32).toNat from none))
  obtain ⟨punch, rest⟩ := passed_of_bind_eq_ok accepted
  obtain ⟨survey, _⟩ := passed_of_bind_eq_ok rest
  constructor
  · obtain ⟨_, rest⟩ := passed_of_bind_eq_ok punch
    obtain ⟨_, rest⟩ := passed_of_bind_eq_ok rest
    obtain ⟨sends, _⟩ := passed_of_bind_eq_ok rest
    exact some_attempt _ (demand_eq_ok sends)
  · obtain ⟨sends, _⟩ := passed_of_bind_eq_ok survey
    exact some_attempt _ (Bool.and_eq_true_iff.mp (demand_eq_ok sends)).2

/-- Whether every retry of an accepted configuration has a timeout is up to its backoff alone. -/
theorem timeouts_measured {config : Config} (accepted : config.check = .ok ()) :
    ((∀ count, count < config.punch.backoff.attempts.toNat → (config.punch.backoff.timeout? count).isSome = true) →
      ∀ (chance : Chance) (me : Identity) (log : List Puncher.Deed) (p : Puncher), Puncher.Run chance (.ofConfig config me) log p →
        p.halted = false) ∧
    (∀ count, count < config.punch.backoff.attempts.toNat → config.punch.backoff.timeout? count = none →
      config.punch.backoff.waited count < Time.ofMillis config.courier.handshakeLimit.toNat →
        ∃ chance me now p, ReflTransGen (Puncher.Tick chance) (0, .ofConfig config me) (now, p) ∧ p.halted = true) ∧
    ∀ (run : SurveyRun) (clock : Nat) (roster : Roster) (outside : Outside) (transaction : Transaction),
      run.config = config.survey → (run.start clock roster outside).surveyor.transaction? = some transaction →
        ((∀ later, ReflTransGen run.Step (run.start clock roster outside) later → later.surveyor.state ≠ .halted) ↔
          ∀ count, count ≤ config.survey.backoff.attempts.toNat → (config.survey.backoff.timeout? count).isSome = true) := by
  obtain ⟨punches, surveys⟩ := some_attempt_of_check accepted
  refine ⟨fun measured chance me log p run => ?_, fun count within stuck early => ?_, fun run clock roster outside transaction same
    waits => ⟨fun goes_on count within => ?_, fun measured later steps => ?_⟩⟩
  · exact (run.regular (Puncher.regular_ofConfig ⟨punches, measured⟩ me)).going
  · obtain ⟨hs, unheard⟩ := Puncher.calls_unheard config
    have behind : 0 < count := Nat.pos_of_ne_zero (by rintro rfl; cases stuck)
    obtain ⟨now, p, steps, halted⟩ := unheard.halts behind within stuck early Puncher.calling.chance
    exact ⟨_, Puncher.caller, now, p, .head (.handles (c := Puncher.calling) rfl _) steps, halted⟩
  · rw [← same] at within ⊢
    refine Option.isSome_iff_ne_none.mpr fun stuck => ?_
    obtain ⟨later, steps, halted⟩ := (SurveyRun.start_lingers waits).halts within stuck
    exact goes_on later steps halted
  · rw [← same] at surveys measured
    exact (SurveyRun.Steps.regular steps ⟨surveys, measured⟩ (run.start_regular clock roster outside)).going

/-- The timeouts that are used by default can all be measured. -/
theorem timeouts_measured_default :
    let config : Config := { survey := { servers := [⟨.ofOctets 80 0 0 1, 3478, 1⟩, ⟨.ofOctets 80 0 0 2, 3478, 2⟩] } }
    config.check = .ok () ∧
      (∀ (chance : Chance) (me : Identity) (log : List Puncher.Deed) (p : Puncher), Puncher.Run chance (.ofConfig config me) log p →
        p.halted = false) ∧
      ∀ (run : SurveyRun) (clock : Nat) (roster : Roster) (outside : Outside) (transaction : Transaction),
        run.config = config.survey → (run.start clock roster outside).surveyor.transaction? = some transaction →
          ∀ later, ReflTransGen run.Step (run.start clock roster outside) later → later.surveyor.state ≠ .halted := by
  intro config
  have accepted : config.check = .ok () := by decide +kernel
  have punches : ∀ count, count < config.punch.backoff.attempts.toNat → (config.punch.backoff.timeout? count).isSome = true := by
    decide +kernel
  have surveys : ∀ count, count ≤ config.survey.backoff.attempts.toNat →
      (config.survey.backoff.timeout? count).isSome = true := by
    decide +kernel
  obtain ⟨going, _, surveyed⟩ := timeouts_measured accepted
  exact ⟨accepted, going punches, fun run clock roster outside transaction same waits =>
    (surveyed run clock roster outside transaction same waits).mpr surveys⟩

/-- A scale that is no more than a number, `10 ^ 25`, is accepted, and the first retry of a handshake, of a request to a parent or
of a survey ends whoever tries it. -/
theorem accepted_without_timeout :
    let backoff : Backoff := ⟨100, .finite false 4656612873077393 31, 3⟩
    let server : Address := ⟨.ofOctets 10 0 0 9, 3478, 9⟩
    let config : Config :=
      { punch.backoff := backoff, survey := { backoff, servers := [server] }, enrollment := { servers := [server] } }
    let home : Roster := (Roster.empty 3).enter 1 (.natted .endpointIndependent .portPreservation .endpointIndependent)
    let start := Puncher.ofConfig config Puncher.caller
    let due := Time.ofMillis 100
    let calls := (start.react Puncher.calling (.command (.connect Puncher.called (.ok [])))).1
    let enrolls := (start.react ⟨0, 0, home, .counting 0⟩ (.command .startEnrollment)).1
    let run : SurveyRun := ⟨Puncher.caller, config.survey, none, .counting 0,
      (({ config := {} } : Endpoint).bind ⟨.v4 (.ofOctets 10 0 0 1), 4000⟩ .udp (.bound 4000)).2.2, 0, 0⟩
    let outside : Outside := ⟨fun _ _ => .inUse, fun _ _ => .ok (), fun _ => .taken⟩
    config.check = .ok () ∧ backoff.timeout? 1 = none ∧
      ((calls.ring? ⟨due, 0, .empty 3, .counting 0⟩).map (·.1.halted) = some true) ∧
      ((enrolls.ring? ⟨due, 0, home, .counting 0⟩).map (·.1.halted) = some true) ∧
      ∃ later, ReflTransGen run.Step (run.start 0 (.empty 0) outside) later ∧ later.surveyor.state = .halted := by
  intro backoff server config home start due calls enrolls run outside
  have stuck : backoff.timeout? 1 = none := by decide +kernel
  have waits : (run.start 0 (.empty 0) outside).surveyor.transaction?.isSome = true := by decide +kernel
  obtain ⟨transaction, waiting⟩ := Option.isSome_iff_exists.mp waits
  have within : 1 ≤ run.config.backoff.attempts.toNat := by decide
  exact ⟨by decide +kernel, stuck, by decide +kernel, by decide +kernel, (SurveyRun.start_lingers waiting).halts within stuck⟩

end Config

end NatTraversal
