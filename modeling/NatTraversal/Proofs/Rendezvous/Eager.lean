import Mathlib.Data.List.Perm.Subperm
import NatTraversal.Proofs.Rendezvous.Calls

namespace NatTraversal

theorem Session.isExpired_of_le {session : Session} {now later : Nat} (expired : session.isExpired now = true) (le : now ≤ later) :
    session.isExpired later = true := by
  simp only [Session.isExpired, decide_eq_true_eq] at expired ⊢
  omega

theorem Table.length_le_size {κ ν : Type} [DecidableEq κ] {t : Table κ ν} {keys : List κ} (nodup : keys.Nodup)
    (known : ∀ key ∈ keys, t.contains key = true) : keys.length ≤ t.size := by
  have within : keys ⊆ t.keys := by
    intro key member
    obtain ⟨entry, stored, same⟩ := List.any_eq_true.mp (known key member)
    exact List.mem_map.mpr ⟨entry, stored, of_decide_eq_true same⟩
  exact Nat.le_trans (List.subperm_of_subset nodup within).length_le (Nat.le_of_eq (List.length_map ..))

/-- Whether a call is answered from what is live and, if it is about what is forwarded, about none of those clients that
are late. -/
def SessionCall.isPlain (late : UInt32 → Bool) : SessionCall → Bool
  | .deleteConnection a b => !late a && !late b
  | .completeMove _ | .sweep => false
  | _ => true

/-- What a call changes in a table. -/
inductive SessionChange where
  | none
  | enter (client : UInt32) (session : Session)
  | drop (client : UInt32)
  | link (pair : UInt32 × UInt32)
  | unlink (a b : UInt32)

namespace Sessions

def change (sessions : Sessions) : SessionChange → Sessions
  | .none => sessions
  | .enter client session => { sessions with table := sessions.table.insert client session }
  | .drop client => sessions.remove client
  | .link pair =>
    if sessions.forwarding.contains pair then sessions else { sessions with forwarding := sessions.forwarding ++ [pair] }
  | .unlink a b => { sessions with forwarding := sessions.forwarding.filter fun pair => pair != (a, b) && pair != (b, a) }

/-- Calls made one after the other, with a table that is prepared for each of them. -/
def play (prepare : Nat → Sessions → Sessions) (sessions : Sessions) :
    List (Nat × SessionCall) → List SessionDeed × Sessions
  | [] => ([], sessions)
  | (now, call) :: calls =>
    let rest := play prepare ((prepare now sessions).perform now call).2 calls
    ((prepare now sessions).deed now call :: rest.1, rest.2)

/-- A session that has expired stays until it is swept. -/
def lazily : Sessions → List (Nat × SessionCall) → List SessionDeed × Sessions := play fun _ sessions => sessions

/-- Every session that has expired is swept before the next call is made. -/
def eagerly : Sessions → List (Nat × SessionCall) → List SessionDeed × Sessions := play fun now sessions => (sessions.sweep now).2

/-- Whether a client is refused for want of room while a session that has expired takes some. -/
def crowdsOut (sessions : Sessions) (now : Nat) (call : SessionCall) : Bool :=
  decide ((sessions.perform now call).1 = .registered .rejected) && !(sessions.sweep now).1.isEmpty

def everCrowdsOut (sessions : Sessions) : List (Nat × SessionCall) → Bool
  | [] => false
  | (now, call) :: calls => sessions.crowdsOut now call || (sessions.perform now call).2.everCrowdsOut calls

/-- Whether a client's session has expired and is found so by a call that does not sweep it. -/
def everLapsed (sessions : Sessions) (client : UInt32) : List (Nat × SessionCall) → Bool
  | [] => false
  | (now, call) :: calls =>
    decide (call ≠ .sweep) && sessions.lapsed now client || (sessions.perform now call).2.everLapsed client calls

/-- Two tables that show the same sessions from some instant on. -/
structure Alike (since : Nat) (s t : Sessions) : Prop where
  ttl : s.ttl = t.ttl
  capacity : s.capacity = t.capacity
  live : ∀ client now, since ≤ now → s.live? client now = t.live? client now

section

variable {s t : Sessions} {since now later : Nat} {call : SessionCall} {client : UInt32}

theorem live?_sweep (kept : s.Kept) (le : now ≤ later) (client : UInt32) :
    (s.sweep now).2.live? client later = s.live? client later := by
  simp only [live?, kept.sweep_eq, Table.get?_filter]
  cases s.table.get? client with
  | none => rfl
  | some session =>
    cases expired : session.isExpired now with
    | true => simp [Option.filter, expired, Session.isExpired_of_le expired le]
    | false => simp [Option.filter, expired]

theorem live?_completeMove (s : Sessions) (own client : UInt32) (later : Nat) :
    (s.perform now (.completeMove own)).2.live? client later =
      (s.live? client later).filter fun session => !(decide (client = own) && session.moving) := by
  by_cases same : client = own
  · subst same
    cases known : s.table.get? client with
    | none => simp [perform, completeMove, live?, known]
    | some session =>
      cases moving : session.moving <;> cases expired : session.isExpired later <;>
        simp [perform, completeMove, live?, remove, Table.get?_erase, known, moving, expired, Option.filter]
  · have whole : (s.live? client later).filter (fun session => !(decide (client = own) && session.moving)) = s.live? client later := by
      cases s.live? client later <;> simp [same, Option.filter]
    rw [whole]
    simp only [perform, completeMove]
    split
    · split
      · simp [live?, remove, Table.get?_erase, same]
      · rfl
    · rfl

theorem Kept.swept (kept : s.Kept) (now : Nat) : (s.sweep now).2.Kept := kept.perform now .sweep

theorem not_crowdsOut_of_swept (kept : s.Kept) (now : Nat) (call : SessionCall) : (s.sweep now).2.crowdsOut now call = false := by
  have none : ((s.sweep now).2.sweep now).1 = [] := by
    rw [sweep, List.filter_eq_nil_iff, kept.sweep_eq]
    intro session member
    obtain ⟨entry, stored, rfl⟩ := List.mem_map.mp member
    simpa using (List.mem_filter.mp stored).2
  rw [crowdsOut, none]
  simp

namespace Alike

theorem symm (alike : Alike since s t) : Alike since t s :=
  ⟨alike.ttl.symm, alike.capacity.symm, fun client now le => (alike.live client now le).symm⟩

theorem mono (alike : Alike since s t) (le : since ≤ later) : Alike later s t :=
  ⟨alike.ttl, alike.capacity, fun client now after => alike.live client now (Nat.le_trans le after)⟩

theorem sweep_left (alike : Alike since s t) (kept : s.Kept) (le : since ≤ now) : Alike now (s.sweep now).2 t where
  ttl := by rw [kept.sweep_eq]; exact alike.ttl
  capacity := by rw [kept.sweep_eq]; exact alike.capacity
  live client _ after := (live?_sweep kept after client).trans (alike.live client _ (Nat.le_trans le after))

theorem sweep_right (alike : Alike since s t) (kept : t.Kept) (le : since ≤ now) : Alike now s (t.sweep now).2 :=
  (alike.symm.sweep_left kept le).symm

theorem change (alike : Alike since s t) (change : SessionChange) : Alike since (s.change change) (t.change change) := by
  obtain ⟨ttl, capacity, live⟩ := alike
  cases change with
  | none => exact ⟨ttl, capacity, live⟩
  | enter own session =>
    refine ⟨ttl, capacity, fun client now le => ?_⟩
    simp only [Sessions.change, live?, Table.get?_insert]
    split
    · rfl
    · exact live client now le
  | drop own =>
    refine ⟨ttl, capacity, fun client now le => ?_⟩
    simp only [Sessions.change, live?, remove, Table.get?_erase]
    split
    · rfl
    · exact live client now le
  | link pair =>
    simp only [Sessions.change]
    split <;> split <;> exact ⟨ttl, capacity, live⟩
  | unlink a b => exact ⟨ttl, capacity, live⟩

/-- A table that is full of live sessions, and of no others, is not alike to one that takes a client in. -/
theorem accepts (alike : Alike now s t) (keptS : s.Kept) (keptT : t.Kept) {contact : Contact} {seen : Address}
    (accepted : (s.register contact seen now).1 = .accepted) (fair : t.crowdsOut now (.register contact seen) = false) :
    (t.register contact seen now).1 = .accepted := by
  rw [keptT.register_eq]
  split
  · rfl
  · rename_i full
    obtain ⟨unknown, noRoom⟩ := not_or.mp full
    have rejected : (t.perform now (.register contact seen)).1 = .registered .rejected := by
      simp only [perform, keptT.register_eq, if_neg full]
      rfl
    simp only [crowdsOut, rejected, decide_true, Bool.true_and, Bool.not_eq_false', List.isEmpty_iff] at fair
    have within : ∀ client, t.table.contains client = true → s.table.contains client = true := by
      intro client known
      rw [Table.contains_eq_isSome] at known
      obtain ⟨session, found⟩ := Option.isSome_iff_exists.mp known
      have unexpired : session.isExpired now = false := by
        have apart := (keptT.mem_expired now client).not.mp (by simp [fair])
        simpa [lapsed, found] using apart
      have live := (alike.live client now (Nat.le_refl now)).trans (live?_eq_some_iff.mpr ⟨found, unexpired⟩)
      rw [Table.contains_eq_isSome, (live?_eq_some_iff.mp live).1, Option.isSome_some]
    have keys : t.table.keys.length = t.size := List.length_map ..
    have known : ∀ client ∈ t.table.keys, t.table.contains client = true := by
      intro client member
      obtain ⟨entry, stored, same⟩ := List.mem_map.mp member
      exact List.any_eq_true.mpr ⟨entry, stored, decide_eq_true same⟩
    have room := keptS.room
    have capacity := alike.capacity
    rw [keptS.register_eq] at accepted
    split at accepted
    · rename_i taken
      rcases taken with stored | space
      · have more : (contact.node :: t.table.keys).length ≤ s.size := by
          refine Table.length_le_size (List.nodup_cons.mpr ⟨fun member => unknown (known _ member), t.table.nodup⟩) fun client member => ?_
          rcases List.mem_cons.mp member with rfl | member
          · exact stored
          · exact within client (known client member)
        rw [List.length_cons] at more
        omega
      · have fewer : t.table.keys.length ≤ s.size := Table.length_le_size t.table.nodup fun client member => within client (known client member)
        omega
    · cases accepted

/-- Tables that are alike answer alike, and change in the same way. -/
theorem responds (alike : Alike now s t) (keptS : s.Kept) (keptT : t.Kept) (fairS : s.crowdsOut now call = false)
    (fairT : t.crowdsOut now call = false) (moves : ∀ own, call ≠ .completeMove own) (sweeps : call ≠ .sweep) :
    (∃ change, (s.perform now call).2 = s.change change ∧ (t.perform now call).2 = t.change change) ∧
      (call.isPlain (fun _ => true) = true → (s.perform now call).1 = (t.perform now call).1) := by
  have live (client : UInt32) := alike.live client now (Nat.le_refl now)
  cases call with
  | register contact seen =>
    have same : (s.register contact seen now).1 = .accepted ↔ (t.register contact seen now).1 = .accepted :=
      ⟨fun accepted => alike.accepts keptS keptT accepted fairT, fun accepted => alike.symm.accepts keptT keptS accepted fairS⟩
    have entry : s.entry contact seen now = t.entry contact seen now := by rw [Sessions.entry, Sessions.entry, alike.ttl]
    rw [keptS.register_eq, keptT.register_eq] at same
    simp only [perform, keptS.register_eq, keptT.register_eq, entry]
    split at same
    · rename_i takenS
      split at same
      · rename_i takenT
        rw [if_pos takenS, if_pos takenT]
        exact ⟨⟨.enter contact.node (t.entry contact seen now), rfl, rfl⟩, fun _ => rfl⟩
      · cases same.mp rfl
    · rename_i fullS
      split at same
      · cases same.mpr rfl
      · rename_i fullT
        rw [if_neg fullS, if_neg fullT]
        exact ⟨⟨.none, rfl, rfl⟩, fun _ => rfl⟩
  | keepAlive own seen =>
    simp only [perform, keepAlive, live own]
    split
    · rename_i session _
      exact ⟨⟨.enter own { session with publicAddress := seen, lastSeen := now }, rfl, rfl⟩, fun _ => rfl⟩
    · exact ⟨⟨.none, rfl, rfl⟩, fun _ => rfl⟩
  | connect initiator target =>
    simp only [perform, connect, live target]
    split
    · simp only [← List.contains_iff_mem]
      exact ⟨⟨.link (initiator, target), rfl, rfl⟩, fun _ => rfl⟩
    · exact ⟨⟨.none, rfl, rfl⟩, fun _ => rfl⟩
  | deleteConnection a b => exact ⟨⟨.unlink a b, rfl, rfl⟩, fun plain => absurd plain Bool.false_ne_true⟩
  | unregister own seen delay =>
    simp only [perform, unregister, live own]
    split
    · exact ⟨⟨.none, rfl, rfl⟩, fun _ => rfl⟩
    · rename_i session _
      split
      · exact ⟨⟨.none, rfl, rfl⟩, fun _ => rfl⟩
      · split
        · exact ⟨⟨.drop own, rfl, rfl⟩, fun _ => rfl⟩
        · split
          · exact ⟨⟨.drop own, rfl, rfl⟩, fun _ => rfl⟩
          · split
            · exact ⟨⟨.none, rfl, rfl⟩, fun _ => rfl⟩
            · exact ⟨⟨.enter own { session with moving := true }, rfl, rfl⟩, fun _ => rfl⟩
  | completeMove own => exact absurd rfl (moves own)
  | sweep => exact absurd rfl sweeps

theorem perform (alike : Alike since s t) (keptS : s.Kept) (keptT : t.Kept) (le : since ≤ now) (fairS : s.crowdsOut now call = false)
    (fairT : t.crowdsOut now call = false) :
    Alike now (s.perform now call).2 (t.perform now call).2 ∧
      (call.isPlain (fun _ => true) = true → (s.perform now call).1 = (t.perform now call).1) := by
  by_cases sweeps : call = .sweep
  · subst sweeps
    exact ⟨(alike.sweep_left keptS le).sweep_right keptT (Nat.le_refl now), fun plain => absurd plain Bool.false_ne_true⟩
  by_cases moves : ∃ own, call = .completeMove own
  · obtain ⟨own, rfl⟩ := moves
    have boundS := keptS.bounds now (.completeMove own)
    have boundT := keptT.bounds now (.completeMove own)
    refine ⟨⟨by rw [boundS.1, boundT.1, alike.ttl], by rw [boundS.2.1, boundT.2.1, alike.capacity], fun client later after => ?_⟩,
      fun plain => absurd plain Bool.false_ne_true⟩
    rw [live?_completeMove, live?_completeMove, alike.live client later (Nat.le_trans le after)]
  · obtain ⟨⟨change, left, right⟩, answers⟩ :=
      (alike.mono le).responds keptS keptT fairS fairT (fun own same => moves ⟨own, same⟩) sweeps
    refine ⟨?_, answers⟩
    rw [left, right]
    exact (alike.mono le).change change

end Alike

/-- What is stored of the clients that are not late, and what is forwarded between them, is the same. -/
structure Matched (late : UInt32 → Bool) (s t : Sessions) : Prop where
  stored : ∀ client, late client = false → s.table.get? client = t.table.get? client
  forwards : ∀ a b, late a = false → late b = false → ((a, b) ∈ s.forwarding ↔ (a, b) ∈ t.forwarding)

namespace Matched

variable {late : UInt32 → Bool}

theorem lapsed (matched : Matched late s t) (now : Nat) (timely : late client = false) : s.lapsed now client = t.lapsed now client := by
  rw [Sessions.lapsed, Sessions.lapsed, matched.stored client timely]

theorem change (matched : Matched late s t) (change : SessionChange) : Matched late (s.change change) (t.change change) := by
  obtain ⟨stored, forwards⟩ := matched
  cases change with
  | none => exact ⟨stored, forwards⟩
  | enter own session =>
    refine ⟨fun client timely => ?_, forwards⟩
    simp only [Sessions.change, Table.get?_insert, stored client timely]
  | drop own =>
    refine ⟨fun client timely => ?_, fun a b first second => ?_⟩
    · simp only [Sessions.change, remove, Table.get?_erase, stored client timely]
    · simp only [Sessions.change, remove, List.mem_filter, forwards a b first second]
  | link pair =>
    have member (sessions : Sessions) (a b : UInt32) :
        (a, b) ∈ (sessions.change (.link pair)).forwarding ↔ (a, b) ∈ sessions.forwarding ∨ (a, b) = pair := by
      simp only [Sessions.change]
      split
      · rename_i known
        exact ⟨Or.inl, fun either => either.elim id fun same => same ▸ List.contains_iff_mem.mp known⟩
      · simp
    have table (sessions : Sessions) : (sessions.change (.link pair)).table = sessions.table := by
      simp only [Sessions.change]
      split <;> rfl
    refine ⟨fun client timely => ?_, fun a b first second => ?_⟩
    · rw [table, table, stored client timely]
    · rw [member, member, forwards a b first second]
  | unlink a b =>
    refine ⟨stored, fun c d first second => ?_⟩
    simp only [Sessions.change, List.mem_filter, forwards c d first second]

theorem sweep (matched : Matched late s t) (keptS : s.Kept) (keptT : t.Kept) (now : Nat) :
    Matched late (s.sweep now).2 (t.sweep now).2 := by
  rw [keptS.sweep_eq, keptT.sweep_eq]
  refine ⟨fun client timely => ?_, fun a b first second => ?_⟩
  · rw [Table.get?_filter, Table.get?_filter, matched.stored client timely]
  · rw [List.mem_filter, List.mem_filter, matched.forwards a b first second, matched.lapsed now first, matched.lapsed now second]

/-- A sweep does nothing to clients of whom none has expired. -/
theorem sweep_right (matched : Matched late s t) (kept : t.Kept) (quiet : ∀ client, late client = false → s.lapsed now client = false) :
    Matched late s (t.sweep now).2 := by
  rw [kept.sweep_eq]
  refine ⟨fun client timely => ?_, fun a b first second => ?_⟩
  · have still := quiet client timely
    rw [Sessions.lapsed, matched.stored client timely] at still
    rw [Table.get?_filter, matched.stored client timely]
    cases found : t.table.get? client with
    | none => rfl
    | some session =>
      rw [found] at still
      rw [Option.filter_some, if_pos (by simpa using still)]
  · rw [List.mem_filter, matched.forwards a b first second, ← matched.lapsed now first, ← matched.lapsed now second,
      quiet a first, quiet b second]
    simp

theorem completeMove (matched : Matched late s t) (now : Nat) (own : UInt32) :
    Matched late (s.perform now (.completeMove own)).2 (t.perform now (.completeMove own)).2 := by
  have changes (sessions : Sessions) : (sessions.perform now (.completeMove own)).2 =
      sessions.change (if (sessions.table.get? own).any (·.moving) then .drop own else .none) := by
    simp only [Sessions.perform, Sessions.completeMove]
    cases sessions.table.get? own with
    | none => rfl
    | some session => cases moving : session.moving <;> simp [moving, Sessions.change]
  cases timely : late own with
  | false =>
    rw [changes, changes, matched.stored own timely]
    exact matched.change _
  | true =>
    have apart {client : UInt32} (other : late client = false) : client ≠ own := by
      rintro rfl
      cases timely.symm.trans other
    -- A late client may be gone already from one of the tables, but this is nothing to the others.
    have spares (sessions : Sessions) : Matched late (sessions.perform now (.completeMove own)).2 sessions := by
      rw [changes]
      split
      · refine ⟨fun client other => ?_, fun a b first second => ?_⟩
        · simp only [Sessions.change, remove, Table.get?_erase, if_neg (apart other)]
        · simp [Sessions.change, remove, apart first, apart second]
      · exact ⟨fun _ _ => rfl, fun _ _ _ _ => Iff.rfl⟩
    refine ⟨fun client other => ?_, fun a b first second => ?_⟩
    · rw [(spares s).stored client other, (spares t).stored client other, matched.stored client other]
    · rw [(spares s).forwards a b first second, (spares t).forwards a b first second, matched.forwards a b first second]

/-- A call keeps two tables matched if the one has just been swept and the call finds nobody expired in the other but
those who are late. -/
theorem perform (matched : Matched late s t) (alike : Alike since s t) (keptS : s.Kept) (keptT : t.Kept) (le : since ≤ now)
    (fair : s.crowdsOut now call = false) (quiet : call ≠ .sweep → ∀ client, late client = false → s.lapsed now client = false) :
    Matched late (s.perform now call).2 ((t.sweep now).2.perform now call).2 ∧
      (call.isPlain late = true → (s.perform now call).1 = ((t.sweep now).2.perform now call).1) := by
  have alike' := alike.sweep_right keptT le
  have fairT := not_crowdsOut_of_swept keptT now call
  by_cases sweeps : call = .sweep
  · subst sweeps
    refine ⟨(matched.sweep keptS keptT now).sweep_right (keptT.swept now) fun client timely => ?_, fun plain => absurd plain Bool.false_ne_true⟩
    rw [Sessions.lapsed, keptS.sweep_eq, Table.get?_filter, Option.any_eq_false]
    intro session found
    simpa using (Option.filter_eq_some_iff.mp found).2
  have matched' := matched.sweep_right keptT (quiet sweeps)
  by_cases moves : ∃ own, call = .completeMove own
  · obtain ⟨own, rfl⟩ := moves
    exact ⟨matched'.completeMove now own, fun plain => absurd plain Bool.false_ne_true⟩
  obtain ⟨⟨change, left, right⟩, answers⟩ :=
    alike'.responds keptS (keptT.swept now) fair fairT (fun own same => moves ⟨own, same⟩) sweeps
  refine ⟨by rw [left, right]; exact matched'.change change, fun plain => ?_⟩
  cases call with
  | deleteConnection a b =>
    have timely : (!late a && !late b) = true := plain
    obtain ⟨first, second⟩ := Bool.and_eq_true_iff.mp timely
    rw [Bool.not_eq_true'] at first second
    simp only [Sessions.perform, deleteConnection, isForwarding, Prod.map, matched'.forwards a b first second,
      matched'.forwards b a second first]
  | completeMove own => cases plain
  | sweep => cases plain
  | _ => exact answers rfl

end Matched

variable {calls : List (Nat × SessionCall)} {late : UInt32 → Bool}

/-- Logs that agree on some calls still do after one more call, if this is answered alike or none of them. -/
theorem filter_deed_cons {plain : SessionCall → Bool} {log log' : List SessionDeed}
    (answers : plain call = true → (s.perform now call).1 = (t.perform now call).1)
    (same : log.filter (plain ·.call) = log'.filter (plain ·.call)) :
    (s.deed now call :: log).filter (plain ·.call) = (t.deed now call :: log').filter (plain ·.call) := by
  rw [List.filter_cons, List.filter_cons, same]
  cases own : plain call with
  | true => rw [deed, deed, answers own]
  | false => simp [deed, own]

theorem Matched.play (matched : Matched late s t) (alike : Alike since s t) (keptS : s.Kept) (keptT : t.Kept)
    (origin : ∀ step ∈ calls, since ≤ step.1) (ascending : calls.Pairwise fun earlier later => earlier.1 ≤ later.1)
    (fair : s.everCrowdsOut calls = false) (quiet : ∀ client, late client = false → s.everLapsed client calls = false) :
    (s.lazily calls).1.filter (·.call.isPlain late) = (t.eagerly calls).1.filter (·.call.isPlain late) ∧
      Matched late (s.lazily calls).2 (t.eagerly calls).2 ∧
      ∀ now, since ≤ now → (∀ step ∈ calls, step.1 ≤ now) → Alike now (s.lazily calls).2 (t.eagerly calls).2 := by
  induction calls generalizing s t since with
  | nil => exact ⟨rfl, matched, fun now le _ => alike.mono le⟩
  | cons step calls ih =>
    obtain ⟨now, call⟩ := step
    have le : since ≤ now := origin _ List.mem_cons_self
    obtain ⟨after, rest⟩ := List.pairwise_cons.mp ascending
    obtain ⟨fairly, fair⟩ := Bool.or_eq_false_iff.mp fair
    have now' : call ≠ .sweep → ∀ client, late client = false → s.lapsed now client = false := by
      intro other client timely
      have silent := (Bool.or_eq_false_iff.mp (quiet client timely)).1
      rwa [decide_eq_true other, Bool.true_and] at silent
    have alike' := (alike.sweep_right keptT le).perform keptS (keptT.swept now) (Nat.le_refl now) fairly
      (not_crowdsOut_of_swept keptT now call)
    obtain ⟨matched', answers⟩ := matched.perform alike keptS keptT le fairly now'
    obtain ⟨same, final, shown⟩ := ih matched' alike'.1 (keptS.perform now call) ((keptT.swept now).perform now call) after rest fair
      fun client timely => (Bool.or_eq_false_iff.mp (quiet client timely)).2
    refine ⟨filter_deed_cons answers same, final, fun later _ bound => ?_⟩
    exact shown later (bound _ List.mem_cons_self) fun step member => bound step (List.mem_cons_of_mem _ member)

/-- However often a table is swept, it shows the same sessions and answers the other calls as if it was always swept just
before. -/
theorem Alike.play (alike : Alike since s t) (keptS : s.Kept) (keptT : t.Kept) (origin : ∀ step ∈ calls, since ≤ step.1)
    (ascending : calls.Pairwise fun earlier later => earlier.1 ≤ later.1) (fair : s.everCrowdsOut calls = false) :
    ((s.lazily calls).1.filter (·.call.isPlain fun _ => true)) =
        ((t.eagerly (calls.filter (·.2 ≠ .sweep))).1.filter (·.call.isPlain fun _ => true)) ∧
      ∀ now, since ≤ now → (∀ step ∈ calls, step.1 ≤ now) →
        Alike now (s.lazily calls).2 (t.eagerly (calls.filter (·.2 ≠ .sweep))).2 := by
  induction calls generalizing s t since with
  | nil => exact ⟨rfl, fun now le _ => alike.mono le⟩
  | cons step calls ih =>
    obtain ⟨now, call⟩ := step
    have le : since ≤ now := origin _ List.mem_cons_self
    obtain ⟨after, rest⟩ := List.pairwise_cons.mp ascending
    obtain ⟨fairly, fair⟩ := Bool.or_eq_false_iff.mp fair
    by_cases sweeps : call = .sweep
    · subst sweeps
      obtain ⟨same, final⟩ := ih (alike.sweep_left keptS le) (keptS.swept now) keptT after rest fair
      rw [List.filter_cons_of_neg (by simp)]
      refine ⟨same, fun later le' bound => ?_⟩
      exact final later (bound _ List.mem_cons_self) fun step member => bound step (List.mem_cons_of_mem _ member)
    · obtain ⟨alike', answers⟩ := (alike.sweep_right keptT le).perform keptS (keptT.swept now) (Nat.le_refl now) fairly
        (not_crowdsOut_of_swept keptT now call)
      obtain ⟨same, final⟩ := ih alike' (keptS.perform now call) ((keptT.swept now).perform now call) after rest fair
      rw [List.filter_cons_of_pos (by simpa using sweeps)]
      refine ⟨filter_deed_cons answers same, fun later le' bound => ?_⟩
      exact final later (bound _ List.mem_cons_self) fun step member => bound step (List.mem_cons_of_mem _ member)

theorem crowdsOut_of_never {before after : List (Nat × SessionCall)}
    (fair : s.everCrowdsOut (before ++ (now, call) :: after) = false) : (s.lazily before).2.crowdsOut now call = false := by
  induction before generalizing s with
  | nil => exact (Bool.or_eq_false_iff.mp fair).1
  | cons step before ih => exact ih (Bool.or_eq_false_iff.mp fair).2

theorem Kept.lazily (kept : s.Kept) (calls : List (Nat × SessionCall)) :
    (s.lazily calls).2.Kept ∧ (s.lazily calls).2.capacity = s.capacity := by
  induction calls generalizing s with
  | nil => exact ⟨kept, rfl⟩
  | cons step calls ih =>
    obtain ⟨still, capacity⟩ := ih (kept.perform step.1 step.2)
    exact ⟨still, capacity.trans (kept.bounds step.1 step.2).2.1⟩

/-- A client is only refused while as many are live as there is room for. -/
theorem Kept.full (kept : s.Kept) {contact : Contact} {seen : Address} (fair : s.crowdsOut now (.register contact seen) = false)
    (rejected : (s.register contact seen now).1 = .rejected) :
    (s.table.filter fun _ session => !session.isExpired now).size = s.capacity := by
  have answered : (s.perform now (.register contact seen)).1 = .registered .rejected := congrArg SessionAnswer.registered rejected
  simp only [crowdsOut, answered, decide_true, Bool.true_and, Bool.not_eq_false', List.isEmpty_iff] at fair
  have whole : (s.table.filter fun _ session => !session.isExpired now) = s.table := by
    refine Table.eq_of_entries (List.filter_eq_self.mpr fun entry member => ?_)
    have unexpired := List.filter_eq_nil_iff.mp fair entry.2 (List.mem_map_of_mem member)
    simpa using unexpired
  rw [kept.register_eq] at rejected
  split at rejected
  · cases rejected
  · rename_i taken
    rw [whole]
    exact Nat.le_antisymm kept.room (Nat.not_lt.mp (not_or.mp taken).2)

variable {ttl capacity : Nat}

/-- A session that has expired is as good as gone, even before a sweep removes it, unless it takes the last room. Only what is
forwarded to and from its client stays until then. -/
theorem expiry_unseen (ascending : calls.Pairwise fun earlier later => earlier.1 ≤ later.1)
    (fair : (empty ttl capacity).everCrowdsOut calls = false) :
    let start := empty ttl capacity
    let late client := start.everLapsed client calls
    (start.lazily calls).1.filter (·.call.isPlain late) = (start.eagerly calls).1.filter (·.call.isPlain late) ∧
      (∀ now, (∀ step ∈ calls, step.1 ≤ now) → ∀ client,
        (start.lazily calls).2.live? client now = (start.eagerly calls).2.live? client now) ∧
      (∀ a b, late a = false → late b = false →
        (start.lazily calls).2.isForwarding a b = (start.eagerly calls).2.isForwarding a b) ∧
      (∀ before now contact seen after, calls = before ++ (now, .register contact seen) :: after →
        ((start.lazily before).2.register contact seen now).1 = .rejected →
          ((start.lazily before).2.table.filter fun _ session => !session.isExpired now).size = capacity) ∧
      ∀ other, other.Pairwise (fun earlier later => earlier.1 ≤ later.1) → start.everCrowdsOut other = false →
        other.filter (·.2 ≠ .sweep) = calls.filter (·.2 ≠ .sweep) →
          (start.lazily other).1.filter (·.call.isPlain fun _ => true) = (start.lazily calls).1.filter (·.call.isPlain fun _ => true) ∧
            ∀ now, (∀ step ∈ other ++ calls, step.1 ≤ now) → ∀ client,
              (start.lazily other).2.live? client now = (start.lazily calls).2.live? client now := by
  intro start late
  have kept : start.Kept := kept_empty ttl capacity
  have alike : Alike 0 start start := ⟨rfl, rfl, fun _ _ _ => rfl⟩
  have same : Matched late start start := ⟨fun _ _ => rfl, fun _ _ _ _ => Iff.rfl⟩
  have origin (calls : List (Nat × SessionCall)) : ∀ step ∈ calls, 0 ≤ step.1 := fun _ _ => Nat.zero_le _
  obtain ⟨answers, matched, shown⟩ := same.play alike kept kept (origin calls) ascending fair fun _ timely => timely
  obtain ⟨swept, bare⟩ := alike.play kept kept (origin calls) ascending fair
  refine ⟨answers, fun now bound client => (shown now (Nat.zero_le now) bound).live client now (Nat.le_refl now), fun a b first second => ?_,
    ?_, fun other ascending' fair' same => ?_⟩
  · rw [isForwarding, isForwarding, decide_eq_decide, matched.forwards a b first second]
  · rintro before now contact seen after rfl rejected
    obtain ⟨still, constant⟩ := kept.lazily before
    exact (still.full (crowdsOut_of_never fair) rejected).trans constant
  · obtain ⟨swept', bare'⟩ := alike.play kept kept (origin other) ascending' fair'
    rw [same] at swept' bare'
    refine ⟨swept'.trans swept.symm, fun now bound client => ?_⟩
    have first := bare' now (Nat.zero_le now) fun step member => bound step (List.mem_append_left _ member)
    have second := bare now (Nat.zero_le now) fun step member => bound step (List.mem_append_right _ member)
    exact (first.live client now (Nat.le_refl now)).trans (second.live client now (Nat.le_refl now)).symm

/-- Client 9 has come back before it was swept, and by then both sessions that there is room for are live. -/
theorem revived_session_unseen :
    let contact (node : UInt32) : Contact := ⟨⟨.ofOctets 192 168 0 2, 4000, node⟩, 0, .unrestricted, []⟩
    let seen (node : UInt32) : Address := ⟨.ofOctets 80 1 1 1, 5000, node⟩
    let start := empty 100 2
    let calls := [(0, .register (contact 9) (seen 9)), (10, .connect 1 9), (60, .register (contact 2) (seen 2)), (70, .connect 1 2),
      (120, .keepAlive 9 (seen 9)), (130, .register (contact 9) (seen 9)), (140, .register (contact 3) (seen 3)),
      (150, .deleteConnection 2 1)]
    let late client := start.everLapsed client calls
    calls.Pairwise (fun earlier later => earlier.1 ≤ later.1) ∧ start.everCrowdsOut calls = false ∧ late 9 = true ∧ late 1 = false ∧
      late 2 = false ∧ (start.lazily calls).1.map (·.answer) = [.registered .accepted, .connected (some (seen 9)), .registered .accepted,
        .connected (some (seen 2)), .keptAlive .notRegistered, .registered .accepted, .registered .rejected, .deleted true] ∧
      (start.lazily calls).1.filter (·.call.isPlain late) = (start.eagerly calls).1.filter (·.call.isPlain late) ∧
      (∀ client, (start.lazily calls).2.live? client 160 = (start.eagerly calls).2.live? client 160) ∧
      (start.lazily calls).2.isForwarding 1 2 = (start.eagerly calls).2.isForwarding 1 2 := by
  intro contact seen start calls late
  have ascending : calls.Pairwise (fun earlier later => earlier.1 ≤ later.1) := by decide +kernel
  have fair : start.everCrowdsOut calls = false := by decide +kernel
  have first : late 1 = false := by decide +kernel
  have second : late 2 = false := by decide +kernel
  obtain ⟨answers, live, forwards, _⟩ := expiry_unseen ascending fair
  exact ⟨ascending, fair, by decide +kernel, first, second, by decide +kernel, answers, live 160 (by decide +kernel),
    forwards 1 2 first second⟩

/-- A session that has expired still takes the only room, and what is forwarded to its client stays. -/
theorem unswept_session_seen :
    let contact (node : UInt32) : Contact := ⟨⟨.ofOctets 192 168 0 2, 4000, node⟩, 0, .unrestricted, []⟩
    let seen (node : UInt32) : Address := ⟨.ofOctets 80 1 1 1, 5000, node⟩
    let start := empty 120000 1
    let calls := [(0, .register (contact 9) (seen 9)), (0, .connect 1 9), (120001, .register (contact 2) (seen 2))]
    calls.Pairwise (fun earlier later => earlier.1 ≤ later.1) ∧
      (start.lazily calls).1.map (·.answer) = [.registered .accepted, .connected (some (seen 9)), .registered .rejected] ∧
      (start.eagerly calls).1.map (·.answer) = [.registered .accepted, .connected (some (seen 9)), .registered .accepted] ∧
      (start.lazily calls).2.isForwarding 1 9 = true ∧ (start.eagerly calls).2.isForwarding 1 9 = false := by
  decide +kernel

end

end Sessions

end NatTraversal
