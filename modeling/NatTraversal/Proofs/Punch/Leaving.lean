import NatTraversal.Proofs.Punch.Parents
import NatTraversal.Proofs.Punch.Requests

namespace NatTraversal

/-- A slot whose parent has been left. What it waits for it goes on to wait for. -/
def Slot.unregistered (slot : Slot) : Slot := { slot with registered := false }

namespace Puncher

/-- Whether a parent has been asked to end the session, and is reported as lost. -/
structure Left (effects : List PunchEffect) (parent : Address) : Prop where
  told : ∃ message, .send message ∈ effects ∧ message.dest = parent ∧ message.body = .unregisterRequest 0 .accepted
  lost : .report (.parentLost parent) ∈ effects

theorem Left.mono {effects later : List PunchEffect} {parent : Address} (left : Left effects parent)
    (more : ∀ effect ∈ effects, effect ∈ later) : Left later parent := by
  obtain ⟨⟨message, sent, told⟩, lost⟩ := left
  exact ⟨⟨message, more _ sent, told⟩, more _ lost⟩

section

variable {c : Surroundings} {p q : Puncher} {key : Socket} {slot : Slot} {step : PunchStep}

/-- What has been done stays done, whatever follows. -/
theorem mem_foldl_followedBy {α : Type} {next : α → Puncher → PunchStep} {effect : PunchEffect} (done : effect ∈ step.2) (list : List α) :
    effect ∈ (list.foldl (fun step a => followedBy step (next a)) step).2 := by
  induction list generalizing step with
  | nil => exact done
  | cons a list ih => exact ih (List.mem_append_left _ done)

/-- What no single step changes, none of them changes. -/
theorem foldl_followedBy_keeps {α β : Type} {next : α → Puncher → PunchStep} (field : Puncher → β)
    (each : ∀ a (q : Puncher), field (next a q).1 = field q) (list : List α) (step : PunchStep) :
    field (list.foldl (fun step a => followedBy step (next a)) step).1 = field step.1 := by
  induction list generalizing step with
  | nil => rfl
  | cons a list ih => exact (ih _).trans (each a step.1)

theorem leave_slots (known : p.slots.get? key = some slot) (c : Surroundings) :
    (p.leave c key slot.address).1.slots = p.slots.insert key slot.unregistered :=
  Table.modify_eq_insert known Slot.unregistered

theorem leave_left (p : Puncher) (c : Surroundings) (key : Socket) (parent : Address) : Left (p.leave c key parent).2 parent where
  told := ⟨_, List.mem_cons_self .., rfl, rfl⟩
  lost := List.mem_cons_of_mem _ (List.mem_singleton_self _)

/-- Slots that are left in turn: each is found as it was, and the others stay. -/
theorem leave_foldl (c : Surroundings) {entries : List (Socket × Slot)} (nodup : (entries.map (·.1)).Nodup)
    (here : ∀ entry ∈ entries, step.1.slots.get? entry.1 = some entry.2) :
    let left := entries.foldl (fun step entry => followedBy step fun p => p.leave c entry.1 entry.2.address) step
    (∀ key, key ∉ entries.map (·.1) → left.1.slots.get? key = step.1.slots.get? key) ∧
    ∀ entry ∈ entries, left.1.slots.get? entry.1 = some entry.2.unregistered ∧ Left left.2 entry.2.address := by
  induction entries generalizing step with
  | nil => exact ⟨fun _ _ => rfl, by simp⟩
  | cons entry entries ih =>
    rw [List.map_cons, List.nodup_cons] at nodup
    rw [List.forall_mem_cons] at here
    obtain ⟨first, others⟩ := here
    let once := followedBy step fun p => p.leave c entry.1 entry.2.address
    have slots : once.1.slots = step.1.slots.insert entry.1 entry.2.unregistered := leave_slots first c
    have apart : ∀ key, key ≠ entry.1 → once.1.slots.get? key = step.1.slots.get? key := by
      intro key other
      rw [slots, Table.get?_insert, if_neg other]
    have left : Left once.2 entry.2.address :=
      (step.1.leave_left c entry.1 entry.2.address).mono fun effect done => List.mem_append_right _ done
    obtain ⟨still, leaves⟩ := @ih once nodup.2 fun later member =>
      (apart later.1 fun same => nodup.1 (same ▸ List.mem_map_of_mem member)).trans (others later member)
    refine ⟨fun key other => ?_, fun later member => ?_⟩
    · rw [List.map_cons, List.mem_cons, not_or] at other
      exact (still key other.2).trans (apart key other.1)
    · rcases List.mem_cons.mp member with rfl | behind
      · refine ⟨(still _ nodup.1).trans (by rw [slots, Table.get?_insert, if_pos rfl]), ?_⟩
        exact left.mono fun effect done => mem_foldl_followedBy done entries
      · exact leaves later behind

/-- Whoever unregisters has left every parent and is registered with none. What it still waits for goes on. -/
theorem unregister_left (p : Puncher) (c : Surroundings) :
    (p.unregister c).1.requests = p.requests ∧
    (∀ key, (p.unregister c).1.slots.get? key = (p.slots.get? key).map Slot.unregistered) ∧
    ∀ key slot, p.slots.get? key = some slot → slot.registered = true → Left (p.unregister c).2 slot.address := by
  let registered := p.slots.entries.filter (·.2.registered)
  let left := registered.foldl (fun step entry => followedBy step fun p => p.leave c entry.1 entry.2.address) (p, [])
  have slots : (p.unregister c).1.slots = left.1.slots :=
    foldl_followedBy_keeps (·.slots) (fun key q => (closePath_rests (p := q) key).slots) _ left
  have requests : (p.unregister c).1.requests = p.requests :=
    (foldl_followedBy_keeps (·.requests) (fun key q => (closePath_rests (p := q) key).requests) _ left).trans
      (foldl_followedBy_keeps (·.requests) (fun _ _ => rfl) registered (p, []))
  obtain ⟨others, leaves⟩ := @leave_foldl (p, []) c registered (nodup_filter_entries p.slots (·.2.registered))
    fun entry => get?_of_mem_filter_entries
  have among : ∀ {key slot}, p.slots.get? key = some slot → slot.registered = true → (key, slot) ∈ registered := by
    intro key slot known registered
    exact List.mem_filter.mpr ⟨Table.get?_eq_some_iff.mp known, registered⟩
  refine ⟨requests, fun key => ?_, fun key slot known registered => ?_⟩
  · rw [slots]
    cases known : p.slots.get? key with
    | none =>
      refine (others key fun member => ?_).trans known
      obtain ⟨entry, there, rfl⟩ := List.mem_map.mp member
      cases known.symm.trans (get?_of_mem_filter_entries there)
    | some slot =>
      by_cases registered : slot.registered = true
      · exact (leaves (key, slot) (among known registered)).1
      · refine (others key fun member => ?_).trans (known.trans ?_)
        · obtain ⟨entry, there, rfl⟩ := List.mem_map.mp member
          cases known.symm.trans (get?_of_mem_filter_entries there)
          exact registered (List.mem_filter.mp there).2
        · have free : slot.registered = false := Bool.not_eq_true _ ▸ registered
          rw [Option.map_some, Slot.unregistered, ← free]
  · exact (leaves (key, slot) (among known registered)).2.mono fun effect done => mem_foldl_followedBy done _

/-- One input, with the alarms as they are. -/
theorem run_react (p : Puncher) (c : Surroundings) (input : PunchInput) :
    Run c.chance p [⟨input, (p.react c input).2⟩] (p.react c input).1 := .step .start rfl p.alarms input

theorem Stirs.of_same {input : PunchInput} (stirs : q.Stirs input) (slots : q.slots = p.slots) (requests : q.requests = p.requests) :
    p.Stirs input := by
  unfold Stirs at stirs ⊢
  rwa [slots, requests] at stirs

/-- As long as nothing stirs a puncher, its parents are left alone. -/
theorem Run.rests {chance : Chance} {more : List Deed} (run : Run chance p more q) (still : ∀ deed ∈ more, ¬ p.Stirs deed.input) :
    p.Rests q (done more) := by
  induction run with
  | start => exact .refl p
  | @step q more c before same alarms input ih =>
    rw [List.forall_mem_append] at still
    have earlier := ih still.1
    have unstirred : ¬ ({ q with alarms } : Puncher).Stirs input := fun stirs =>
      still.2 _ (List.mem_singleton_self _) (stirs.of_same earlier.slots earlier.requests)
    have later := react_rests unstirred c
    rw [done, List.flatMap_append, List.flatMap_singleton]
    exact earlier.trans ⟨later.constant, later.slots, later.requests, later.drawn, later.silent⟩

/-- Unregistering lasts until something stirs the puncher: until it is told to enroll again, the parents are refreshed, a server that
it has ever asked ends a session, or a request that it was waiting for is answered or times out. Until then nothing is asked of a
parent, and there is no news of any. -/
theorem unregister_lasts (going : p.halted = false) (c : Surroundings) :
    let left := p.react c (.command .unregister)
    (∀ key, left.1.slots.get? key = (p.slots.get? key).map Slot.unregistered) ∧
    (∀ key slot, p.slots.get? key = some slot → slot.registered = true → Left left.2 slot.address) ∧
    left.1.requests = p.requests ∧
    ∀ chance more q, Run chance left.1 more q → (∀ deed ∈ more, ¬ left.1.Stirs deed.input) →
      q.slots = left.1.slots ∧ q.requests = left.1.requests ∧ parental (done more) = [] := by
  have reacts : p.react c (.command .unregister) = p.unregister c := by simp only [react, handle, going, Bool.false_eq_true, if_false]
  rw [reacts]
  obtain ⟨requests, slots, leaves⟩ := p.unregister_left c
  refine ⟨slots, leaves, requests, fun chance more q run still => ?_⟩
  have rests := run.rests still
  exact ⟨rests.slots, rests.requests, rests.silent⟩

/-- A node that has left its parent leaves it alone as long as only peers call. -/
theorem left_parent_unregister_lasts :
    let c : Surroundings := ⟨0, 0, (Roster.empty 3).enter 1 (.natted .endpointIndependent .portPreservation .endpointIndependent), .counting 0⟩
    let server : Contact := ⟨⟨.ofOctets 10 0 0 9, 3478, 9⟩, 0, .unrestricted, []⟩
    let start := ofConfig { enrollment := { servers := [server.address] } } ⟨⟨.ofOctets 10 0 0 1, 4000, 1⟩, 0, none⟩
    let answer : Message := ⟨server, start.me.address, c.chance.ticket 2, .udp, .registerResponse .accepted⟩
    let call : PunchInput := .command (.inbound (Message.plain server start.me.address (.connectRequest server true))
      server.address.socket start.me.address.socket)
    let joined := ((start.react c (.command .startEnrollment)).1.react c
      (.command (.inbound answer server.address.socket start.me.address.socket))).1
    let left := joined.react c (.command .unregister)
    let called := left.1.react c call
    joined.halted = false ∧ Run (.counting 0) left.1 [⟨call, called.2⟩] called.1 ∧ ¬ left.1.Stirs call ∧
      joined.slots.get? server.address.socket = some ⟨server.address, true, none⟩ ∧ Left left.2 server.address ∧
      called.1.slots = left.1.slots ∧ called.2 ≠ [] ∧ parental (done [⟨call, called.2⟩]) = [] := by
  intro c server start answer call joined left called
  have going : joined.halted = false := by decide +kernel
  have run : Run (.counting 0) left.1 [⟨call, called.2⟩] called.1 := run_react left.1 c call
  have unstirred : ¬ left.1.Stirs call := id
  have known : joined.slots.get? server.address.socket = some ⟨server.address, true, none⟩ := by decide +kernel
  obtain ⟨_, leaves, _, lasts⟩ := unregister_lasts going c
  have still : ∀ deed ∈ [(⟨call, called.2⟩ : Deed)], ¬ left.1.Stirs deed.input := by
    intro deed member
    rw [List.mem_singleton.mp member]
    exact unstirred
  obtain ⟨slots, _, silent⟩ := lasts _ _ _ run still
  have told : Left left.2 server.address := leaves server.address.socket ⟨server.address, true, none⟩ known rfl
  have answered : called.2 ≠ [] := by decide +kernel
  exact ⟨going, run, unstirred, known, told, slots, answered, silent⟩

/-- A node that has left its parent asks to be registered with it again as soon as the parents are refreshed, and is, without being
told to enroll. -/
theorem rejoins_after_unregister :
    let c : Surroundings := ⟨0, 0, (Roster.empty 3).enter 1 (.natted .endpointIndependent .portPreservation .endpointIndependent), .counting 0⟩
    let server : Contact := ⟨⟨.ofOctets 10 0 0 9, 3478, 9⟩, 0, .unrestricted, []⟩
    let start := ofConfig { enrollment := { servers := [server.address] } } ⟨⟨.ofOctets 10 0 0 1, 4000, 1⟩, 0, none⟩
    let accepts (number : Nat) : PunchInput :=
      .command (.inbound ⟨server, start.me.address, c.chance.ticket number, .udp, .registerResponse .accepted⟩
        server.address.socket start.me.address.socket)
    let joined := ((start.react c (.command .startEnrollment)).1.react c (accepts 2)).1
    let left := joined.react c (.command .unregister)
    let refreshed := left.1.react c (.alarm .refresh)
    let rejoined := refreshed.1.react c (accepts 5)
    let more : List Deed := [⟨.alarm .refresh, refreshed.2⟩, ⟨accepts 5, rejoined.2⟩]
    Left left.2 server.address ∧ Run (.counting 0) left.1 more rejoined.1 ∧
      (∀ deed ∈ more, deed.input ≠ .command .startEnrollment) ∧
      (∃ message, .send message ∈ done more ∧ message.dest = server.address ∧ message.body = .registerRequest 0 0) ∧
      .report (.parentRegistered server.address) ∈ done more := by
  intro c server start accepts joined left refreshed rejoined more
  have run : Run (.counting 0) left.1 more rejoined.1 := (run_react left.1 c _).trans (run_react refreshed.1 c _)
  let asks (body : Body) (number : Nat) : Message :=
    { Message.plain (start.contactAt c start.mainPort) server.address body with ticket := c.chance.ticket number }
  have told : .send (asks (.unregisterRequest 0 .accepted) 3) ∈ left.2 := by decide +kernel
  have asked : .send (asks (.registerRequest 0 0) 5) ∈ done more := by decide +kernel
  refine ⟨⟨⟨_, told, rfl, rfl⟩, by decide +kernel⟩, run, fun deed member => ?_, ⟨_, asked, rfl, rfl⟩, by decide +kernel⟩
  rcases List.mem_cons.mp member with rfl | later
  · simp
  · rw [List.mem_singleton.mp later]
    simp [accepts]

end

end Puncher

end NatTraversal
