import NatTraversal.Proofs.Logs
import NatTraversal.Proofs.Rendezvous.Calls

namespace NatTraversal

theorem Table.get?_eq_none_of_insert {κ ν : Type} [DecidableEq κ] {t : Table κ ν} {k j : κ} {v : ν}
    (absent : (t.insert k v).get? j = none) : t.get? j = none := by
  rw [get?_insert] at absent
  split at absent
  · cases absent
  · exact absent

namespace SessionDeed

/-- A request to be connected has been granted. -/
def Links (initiator target : UInt32) (deed : SessionDeed) : Prop :=
  deed.call = .connect initiator target ∧ ∃ address, deed.answer = .connected (some address)

/-- A client's session has been removed: the client had asked for it, or a sweep has found it expired. -/
def Removes (client : UInt32) (deed : SessionDeed) : Prop :=
  deed.turn? client = some .ended ∨ ∃ expired, deed.answer = .swept expired ∧ client ∈ expired.map (·.client)

/-- The connection of two clients has been deleted, or the session of one of them has been removed. -/
def Cuts (initiator target : UInt32) (deed : SessionDeed) : Prop :=
  (deed.call = .deleteConnection initiator target ∨ deed.call = .deleteConnection target initiator) ∨
    deed.Removes initiator ∨ deed.Removes target

end SessionDeed

namespace Sessions

/-- Whether a client has been connected to another and nothing has come between them since. -/
def Connected (log : List SessionDeed) (initiator target : UInt32) : Prop :=
  OpenIn (SessionDeed.Links initiator target) (SessionDeed.Cuts initiator target) log

section

variable {ttl capacity now : Nat} {log : List SessionDeed} {sessions : Sessions} {call : SessionCall}
  {client initiator target a b : UInt32}

theorem mem_forwarding_remove : (initiator, target) ∈ (sessions.remove client).forwarding ↔
    (initiator, target) ∈ sessions.forwarding ∧ initiator ≠ client ∧ target ≠ client := by
  simp [remove]

theorem mem_forwarding_connect : (initiator, target) ∈ (sessions.perform now (.connect a b)).2.forwarding ↔
    (sessions.deed now (.connect a b)).Links initiator target ∨ (initiator, target) ∈ sessions.forwarding := by
  simp only [SessionDeed.Links, deed, perform, connect]
  cases live : sessions.live? b now with
  | none => simp [Prod.map]
  | some session =>
    by_cases known : (a, b) ∈ sessions.forwarding
    · simp only [Prod.map, known, if_true, id, SessionCall.connect.injEq]
      refine ⟨Or.inr, ?_⟩
      rintro (⟨⟨rfl, rfl⟩, _⟩ | stored)
      · exact known
      · exact stored
    · simp [Prod.map, known, or_comm, eq_comm]

theorem isSome_of_connected {address : Address} (answer : (sessions.connect a b now).1 = some address) :
    (sessions.table.get? b).isSome = true := by
  unfold connect at answer
  split at answer
  · rename_i session live
    rw [(live?_eq_some_iff.mp live).1, Option.isSome_some]
  · cases answer

theorem mem_forwarding_deleteConnection : (initiator, target) ∈ (sessions.deleteConnection a b).2.forwarding ↔
    (initiator, target) ∈ sessions.forwarding ∧ (initiator, target) ≠ (a, b) ∧ (initiator, target) ≠ (b, a) := by
  simp [deleteConnection]

theorem eq_sweep_of_answer {expired : List Session} (answer : (sessions.deed now call).answer = .swept expired) :
    call = .sweep ∧ expired = (sessions.sweep now).1 := by
  cases call with
  | sweep => exact ⟨rfl, (SessionAnswer.swept.inj answer).symm⟩
  | _ => cases answer

theorem removes_iff_ended (other : call ≠ .sweep) :
    (sessions.deed now call).Removes client ↔ (sessions.deed now call).turn? client = some .ended := by
  refine ⟨fun removes => removes.resolve_right ?_, Or.inl⟩
  rintro ⟨expired, answer, _⟩
  exact other (eq_sweep_of_answer answer).1

namespace Kept

theorem sweep_removes_iff (kept : sessions.Kept) :
    (sessions.deed now .sweep).Removes client ↔ sessions.lapsed now client = true := by
  rw [← kept.mem_expired]
  constructor
  · rintro (ended | ⟨expired, answer, member⟩)
    · cases ended
    · rwa [(eq_sweep_of_answer answer).2] at member
  · intro member
    exact Or.inr ⟨_, rfl, member⟩

/-- What is removed was there before, and whatever is no longer there has been removed. -/
theorem removes_iff (kept : sessions.Kept) (now : Nat) (call : SessionCall) (client : UInt32) :
    (sessions.deed now call).Removes client ↔
      (sessions.table.get? client).isSome = true ∧ (sessions.perform now call).2.table.get? client = none := by
  by_cases sweeps : call = .sweep
  · subst sweeps
    have after : (sessions.perform now .sweep).2.table.get? client =
        (sessions.table.get? client).filter fun session => !session.isExpired now := by
      simp only [Sessions.perform, Prod.map, id, kept.sweep_eq, Table.get?_filter]
    rw [kept.sweep_removes_iff, after, lapsed]
    cases sessions.table.get? client <;> simp
  · rw [removes_iff_ended sweeps]
    have leaves := kept.leaves now call client
    generalize sessions.table.get? client = known at leaves ⊢
    generalize (sessions.perform now call).2.table.get? client = left at leaves ⊢
    cases leaves with
    | registers _ turn => simp [turn]
    | refreshes _ turn => simp [turn]
    | departs turn => simp [turn]
    | ends turn => simp [turn]
    | lapses called => exact absurd called sweeps
    | rests turn => cases known <;> simp [turn]

end Kept

/-- What a call makes of the pairs that are forwarded for if it connects and deletes none: whoever is removed takes them along. -/
def Purges (sessions : Sessions) (now : Nat) (call : SessionCall) : Prop :=
  ∀ initiator target, (initiator, target) ∈ (sessions.perform now call).2.forwarding ↔ (initiator, target) ∈ sessions.forwarding ∧
    ¬ (sessions.deed now call).Removes initiator ∧ ¬ (sessions.deed now call).Removes target

namespace Kept

theorem purges_of_spares (kept : sessions.Kept) (same : (sessions.perform now call).2.forwarding = sessions.forwarding)
    (spares : ∀ client, (sessions.perform now call).2.table.get? client = none → sessions.table.get? client = none) :
    sessions.Purges now call := by
  have stays : ∀ client, ¬ (sessions.deed now call).Removes client := by
    intro client removes
    obtain ⟨known, gone⟩ := (kept.removes_iff now call client).mp removes
    rw [spares client gone] at known
    cases known
  intro initiator target
  rw [same]
  exact ⟨fun stored => ⟨stored, stays initiator, stays target⟩, And.left⟩

theorem purges_of_remove (kept : sessions.Kept) (own : UInt32) (known : (sessions.table.get? own).isSome = true)
    (removed : (sessions.perform now call).2 = sessions.remove own) : sessions.Purges now call := by
  have only : ∀ client, (sessions.deed now call).Removes client ↔ client = own := by
    intro client
    rw [kept.removes_iff, removed, remove, Table.get?_erase]
    by_cases same : client = own
    · simp [same, known]
    · rw [if_neg same]
      refine iff_of_false ?_ same
      rintro ⟨stored, gone⟩
      rw [gone] at stored
      cases stored
  intro initiator target
  rw [removed, mem_forwarding_remove, only, only]

theorem purges_sweep (kept : sessions.Kept) : sessions.Purges now .sweep := by
  intro initiator target
  have left : (sessions.perform now .sweep).2.forwarding =
      sessions.forwarding.filter fun pair => !sessions.lapsed now pair.1 && !sessions.lapsed now pair.2 := by
    simp only [Sessions.perform, Prod.map, id, kept.sweep_eq]
  rw [left, kept.sweep_removes_iff, kept.sweep_removes_iff, List.mem_filter]
  simp

/-- A session that is removed takes with it what is forwarded from and to its client. -/
theorem purges (kept : sessions.Kept) (now : Nat) (connects : ∀ a b, call ≠ .connect a b)
    (deletes : ∀ a b, call ≠ .deleteConnection a b) : sessions.Purges now call := by
  cases call with
  | register contact seen =>
    refine kept.purges_of_spares ?_ fun client => ?_
    · simp only [Sessions.perform, kept.register_eq]
      split <;> rfl
    · simp only [Sessions.perform, kept.register_eq]
      split
      · exact Table.get?_eq_none_of_insert
      · exact id
  | keepAlive own seen =>
    refine kept.purges_of_spares ?_ fun client => ?_
    · simp only [Sessions.perform, keepAlive]
      split <;> rfl
    · simp only [Sessions.perform, keepAlive]
      split
      · exact Table.get?_eq_none_of_insert
      · exact id
  | connect first second => exact absurd rfl (connects first second)
  | deleteConnection first second => exact absurd rfl (deletes first second)
  | unregister own seen delay =>
    generalize eq : sessions.unregister own seen delay now = step
    have unregisters := eq ▸ sessions.unregister_unregisters own seen delay now
    cases unregisters with
    | refuses =>
      refine kept.purges_of_spares ?_ fun client => ?_
      all_goals simp [Sessions.perform, eq]
    | removes live =>
      refine kept.purges_of_remove own ?_ ?_
      · rw [(live?_eq_some_iff.mp live).1, Option.isSome_some]
      · simp [Sessions.perform, eq]
    | moves live =>
      refine kept.purges_of_spares ?_ fun client => ?_
      · simp [Sessions.perform, eq]
      · simp only [Sessions.perform, eq]
        exact Table.get?_eq_none_of_insert
  | completeMove own =>
    cases known : sessions.table.get? own with
    | none =>
      refine kept.purges_of_spares ?_ fun client => ?_
      all_goals simp [Sessions.perform, completeMove, known]
    | some session =>
      cases moving : session.moving with
      | true =>
        refine kept.purges_of_remove own ?_ ?_
        · rw [known, Option.isSome_some]
        · simp [Sessions.perform, completeMove, known, moving]
      | false =>
        refine kept.purges_of_spares ?_ fun client => ?_
        all_goals simp [Sessions.perform, completeMove, known, moving]
  | sweep => exact kept.purges_sweep

/-- A pair is forwarded for after a call that connects it, and otherwise if it was before and the call does not come between. -/
theorem mem_forwarding_iff (kept : sessions.Kept) (now : Nat) (call : SessionCall) (initiator target : UInt32) :
    (initiator, target) ∈ (sessions.perform now call).2.forwarding ↔
      (sessions.deed now call).Links initiator target ∨
        (initiator, target) ∈ sessions.forwarding ∧ ¬ (sessions.deed now call).Cuts initiator target := by
  by_cases connects : ∃ first second, call = .connect first second
  · obtain ⟨first, second, rfl⟩ := connects
    have uncut : ¬ (sessions.deed now (.connect first second)).Cuts initiator target := by
      rintro ((deletes | deletes) | removes | removes)
      · cases deletes
      · cases deletes
      · cases (removes_iff_ended (by simp)).mp removes
      · cases (removes_iff_ended (by simp)).mp removes
    rw [mem_forwarding_connect]
    simp only [uncut, not_false_iff, and_true]
  by_cases deletes : ∃ first second, call = .deleteConnection first second
  · obtain ⟨first, second, rfl⟩ := deletes
    have stays : ∀ client, ¬ (sessions.deed now (.deleteConnection first second)).Removes client := by
      intro client removes
      cases (removes_iff_ended (by simp)).mp removes
    have unlinked : ¬ (sessions.deed now (.deleteConnection first second)).Links initiator target := fun links => nomatch links.1
    have left : (sessions.perform now (.deleteConnection first second)).2 = (sessions.deleteConnection first second).2 := rfl
    have cuts : (sessions.deed now (.deleteConnection first second)).Cuts initiator target ↔
        (initiator, target) = (first, second) ∨ (initiator, target) = (second, first) := by
      simp only [SessionDeed.Cuts, stays, or_false]
      simp [deed, eq_comm, and_comm]
    rw [left, mem_forwarding_deleteConnection, cuts]
    simp only [unlinked, false_or, not_or, ne_eq]
  · rw [kept.purges now (fun a b same => connects ⟨a, b, same⟩) (fun a b same => deletes ⟨a, b, same⟩)]
    have unlinked : ¬ (sessions.deed now call).Links initiator target := fun links => connects ⟨_, _, links.1⟩
    have undeleted : ∀ a b, (sessions.deed now call).call ≠ .deleteConnection a b := fun a b same => deletes ⟨a, b, same⟩
    simp [SessionDeed.Cuts, unlinked, undeleted]

end Kept

theorem Run.mem_forwarding_iff (run : Run (.empty ttl capacity) log sessions) (initiator target : UInt32) :
    (initiator, target) ∈ sessions.forwarding ↔ Connected log initiator target := by
  induction run with
  | start =>
    refine iff_of_false ?_ OpenIn.not_nil
    exact List.not_mem_nil
  | @step log sessions before now call ih =>
    have kept := (before.constant (kept_empty ttl capacity)).1
    rw [Connected, OpenIn.append_iff, kept.mem_forwarding_iff now call initiator target, ih, Connected]

/-- Nobody is connected to a client without a session. -/
theorem Run.target_known (run : Run (.empty ttl capacity) log sessions) (stored : (initiator, target) ∈ sessions.forwarding) :
    (sessions.table.get? target).isSome = true := by
  induction run with
  | start => cases stored
  | @step log sessions before now call ih =>
    have kept := (before.constant (kept_empty ttl capacity)).1
    have known : (sessions.table.get? target).isSome = true ∧ ¬ (sessions.deed now call).Removes target := by
      rcases (kept.mem_forwarding_iff now call initiator target).mp stored with ⟨connects, address, answer⟩ | ⟨earlier, uncut⟩
      · obtain rfl : call = .connect initiator target := connects
        refine ⟨isSome_of_connected (SessionAnswer.connected.inj answer), fun removes => ?_⟩
        cases (removes_iff_ended (by simp)).mp removes
      · exact ⟨ih earlier, fun removes => uncut (.inr (.inr removes))⟩
    rw [Option.isSome_iff_ne_none]
    exact fun gone => known.2 ((kept.removes_iff now call target).mpr ⟨known.1, gone⟩)

/-- A client is connected to another from a request that is granted until somebody deletes the connection or one of their
sessions is removed. So no pair outlives its target. -/
theorem Run.forwarding_as_recorded (run : Run (.empty ttl capacity) log sessions) :
    (∀ initiator target, sessions.isForwarding initiator target = true ↔ Connected log initiator target) ∧
      (∀ initiator target, sessions.isForwarding initiator target = true → (sessions.table.get? target).isSome = true) ∧
      ∀ a b, ((sessions.deleteConnection a b).1 = true ↔ sessions.isForwarding a b = true ∨ sessions.isForwarding b a = true) ∧
        (sessions.deleteConnection a b).2.isForwarding a b = false ∧ (sessions.deleteConnection a b).2.isForwarding b a = false := by
  simp only [isForwarding, decide_eq_true_eq, decide_eq_false_iff_not]
  refine ⟨run.mem_forwarding_iff, fun initiator target => run.target_known, fun a b => ⟨?_, ?_, ?_⟩⟩
  · rw [deleteConnection, Bool.or_eq_true, isForwarding, isForwarding, decide_eq_true_eq, decide_eq_true_eq]
  · rw [mem_forwarding_deleteConnection]
    exact fun stored => stored.2.1 rfl
  · rw [mem_forwarding_deleteConnection]
    exact fun stored => stored.2.2 rfl

/-- Client 8 has been connected to client 9 before and after the connection was deleted; what was forwarded to client 7
has gone with its session. -/
theorem reconnected_pair_recorded :
    let contact (node : UInt32) : Contact := ⟨⟨.ofOctets 192 168 0 2, 4000, node⟩, 0, .unrestricted, []⟩
    let seen (node : UInt32) : Address := ⟨.ofOctets 80 1 1 1, 5000, node⟩
    let known := (((empty 100 2).perform 0 (.register (contact 7) (seen 7))).2.perform 50 (.register (contact 9) (seen 9))).2
    let linked := ((known.perform 60 (.connect 8 7)).2.perform 60 (.connect 8 9)).2
    let relinked := ((linked.perform 70 (.deleteConnection 9 8)).2.perform 80 (.connect 8 9)).2
    let swept := (relinked.perform 110 .sweep).2
    swept.isForwarding 8 9 = true ∧ swept.isForwarding 8 7 = false ∧
      ∃ log, Run (.empty 100 2) log swept ∧ Connected log 8 9 ∧ ¬ Connected log 8 7 ∧ (swept.table.get? 9).isSome = true := by
  intro contact seen known linked relinked swept
  have stays : swept.isForwarding 8 9 = true := by decide +kernel
  have gone : swept.isForwarding 8 7 = false := by decide +kernel
  obtain ⟨log, run⟩ : ∃ log, Run (.empty 100 2) log swept :=
    ⟨_, .step (.step (.step (.step (.step (.step (.step .start 0 _) 50 _) 60 _) 60 _) 70 _) 80 _) 110 .sweep⟩
  obtain ⟨recorded, target, _⟩ := run.forwarding_as_recorded
  refine ⟨stays, gone, log, run, (recorded 8 9).mp stays, ?_, target 8 9 stays⟩
  rw [← recorded, gone]
  exact Bool.false_ne_true

end

end Sessions

end NatTraversal
