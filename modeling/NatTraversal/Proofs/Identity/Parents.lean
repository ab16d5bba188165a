import Mathlib.Data.List.Induction
import NatTraversal.Identity.Roster

namespace NatTraversal

/-- What can be done to a roster. -/
inductive RosterCall where
  | enter (node : UInt32) (nat : NatType)
  | leave (node : UInt32)
  | setNat (node : UInt32) (nat : NatType)
  | addParent (node : UInt32) (parent : Address)
  | removeParent (node : UInt32) (parent : Address)
deriving DecidableEq

namespace RosterCall

/-- The node that a call is about. -/
def node : RosterCall → UInt32
  | enter node _ | leave node | setNat node _ | addParent node _ | removeParent node _ => node

/-- The translator that a call gives to its node. -/
def nat? : RosterCall → Option NatType
  | enter _ nat | setNat _ nat => some nat
  | _ => none

/-- Whether a call enters a node, takes it out or sets its translator. -/
def Describes (node : UInt32) : RosterCall → Prop
  | enter own _ | leave own | setNat own _ => own = node
  | _ => False

theorem node_of_describes {node : UInt32} {call : RosterCall} (describes : call.Describes node) : call.node = node := by
  cases call with
  | enter own nat => exact describes
  | leave own => exact describes
  | setNat own nat => exact describes
  | addParent own parent => exact describes.elim
  | removeParent own parent => exact describes.elim

/-- What a call makes of the standing of its node, where so many parents are allowed. -/
def turn (limit : Nat) : RosterCall → Option Standing → Option Standing
  | enter _ nat, known => some ⟨nat, (known.map (·.parents)).getD []⟩
  | leave _, _ => none
  | setNat _ nat, known => known.map fun standing => ⟨nat, if nat.isOpen then [] else standing.parents⟩
  | addParent _ parent, known => known.map fun standing =>
    if standing.nat.isOpen ∨ limit ≤ standing.parents.length ∨ parent ∈ standing.parents then standing
    else { standing with parents := standing.parents ++ [parent] }
  | removeParent _ parent, known =>
    known.map fun standing => { standing with parents := standing.parents.filter (· != parent) }

/-- A node that is open and has no parents stays so as long as no call gives it a translator that is not open. -/
theorem turn_bare {limit : Nat} {call : RosterCall} {known : Option Standing}
    (bare : ∀ standing, known = some standing → standing.nat.isOpen = true ∧ standing.parents = [])
    (still : ∀ nat, call.nat? = some nat → nat.isOpen = true) {standing : Standing} (left : call.turn limit known = some standing) :
    standing.nat.isOpen = true ∧ standing.parents = [] := by
  cases call with
  | enter node nat =>
    cases left
    refine ⟨still nat rfl, ?_⟩
    cases known with
    | none => rfl
    | some earlier => exact (bare earlier rfl).2
  | leave node => cases left
  | setNat node nat =>
    obtain ⟨earlier, rfl, rfl⟩ := Option.map_eq_some_iff.mp left
    exact ⟨still nat rfl, if_pos (still nat rfl)⟩
  | addParent node parent =>
    obtain ⟨earlier, rfl, rfl⟩ := Option.map_eq_some_iff.mp left
    obtain ⟨isOpen, none⟩ := bare earlier rfl
    rw [if_pos (.inl isOpen)]
    exact ⟨isOpen, none⟩
  | removeParent node parent =>
    obtain ⟨earlier, rfl, rfl⟩ := Option.map_eq_some_iff.mp left
    obtain ⟨isOpen, none⟩ := bare earlier rfl
    exact ⟨isOpen, by rw [none]; rfl⟩

end RosterCall

namespace Roster

def perform (roster : Roster) : RosterCall → Roster
  | .enter node nat => roster.enter node nat
  | .leave node => (roster.leave node).2
  | .setNat node nat => (roster.setNat node nat).2
  | .addParent node parent => (roster.addParent node parent).2
  | .removeParent node parent => (roster.removeParent node parent).2

/-- What calls made one after the other leave of an empty roster. -/
def ofCalls (limit : Nat) (calls : List RosterCall) : Roster := calls.foldl perform (empty limit)

section

variable {roster : Roster} {call : RosterCall} {calls : List RosterCall} {limit index : Nat} {node : UInt32} {parent : Address}

theorem ofCalls_concat (limit : Nat) (calls : List RosterCall) (call : RosterCall) :
    ofCalls limit (calls ++ [call]) = (ofCalls limit calls).perform call := by
  rw [ofCalls, List.foldl_append]
  rfl

/-- A call is about one node, and leaves all others alone. -/
theorem get?_perform (roster : Roster) (call : RosterCall) (node : UInt32) :
    (roster.perform call).nodes.get? node =
      if node = call.node then call.turn roster.maxParents (roster.nodes.get? call.node) else roster.nodes.get? node := by
  cases call with
  | enter own nat =>
    simp only [perform, enter, Table.get?_insert, RosterCall.node, RosterCall.turn]
    cases roster.nodes.get? own <;> rfl
  | leave own => exact Table.get?_erase ..
  | setNat own nat =>
    simp only [perform, setNat, RosterCall.node, RosterCall.turn]
    cases known : roster.nodes.get? own with
    | none => exact Table.get?_eq_ite known node
    | some standing => exact Table.get?_insert ..
  | addParent own parent =>
    simp only [perform, addParent, RosterCall.node, RosterCall.turn]
    cases known : roster.nodes.get? own with
    | none => exact Table.get?_eq_ite known node
    | some standing =>
      by_cases refused : standing.nat.isOpen ∨ roster.maxParents ≤ standing.parents.length ∨ parent ∈ standing.parents
      · simp only [Option.map_some, if_pos refused]
        rw [if_pos (by simpa [or_assoc] using refused)]
        exact Table.get?_eq_ite known node
      · simp only [Option.map_some, if_neg refused]
        rw [if_neg (by simpa [or_assoc] using refused)]
        exact Table.get?_insert ..
  | removeParent own parent =>
    simp only [perform, removeParent, RosterCall.node, RosterCall.turn]
    cases known : roster.nodes.get? own with
    | none => exact Table.get?_eq_ite known node
    | some standing => exact Table.get?_insert ..

theorem maxParents_perform (roster : Roster) (call : RosterCall) : (roster.perform call).maxParents = roster.maxParents := by
  cases call with
  | enter node nat => rfl
  | leave node => rfl
  | setNat node nat => simp only [perform, setNat]; split <;> rfl
  | addParent node parent =>
    simp only [perform, addParent]
    split
    · split <;> rfl
    · rfl
  | removeParent node parent => simp only [perform, removeParent]; split <;> rfl

theorem maxParents_ofCalls (limit : Nat) (calls : List RosterCall) : (ofCalls limit calls).maxParents = limit := by
  induction calls using List.reverseRecOn with
  | nil => rfl
  | append_singleton calls call ih => rw [ofCalls_concat, maxParents_perform, ih]

theorem parents_of_get? {standing : Standing} (known : roster.nodes.get? node = some standing) :
    roster.parents node = standing.parents := by
  rw [parents, known]
  rfl

/-- A call takes a parent in behind the others, or it takes parents out, or it leaves them as they are. -/
theorem parents_perform (roster : Roster) (call : RosterCall) (node : UInt32) :
    ((roster.perform call).parents node).Sublist (roster.parents node) ∨
      ∃ parent, call = .addParent node parent ∧ parent ∉ roster.parents node ∧
        (roster.parents node).length < roster.maxParents ∧
        (roster.perform call).parents node = roster.parents node ++ [parent] := by
  simp only [parents, get?_perform]
  split
  · rename_i own
    subst own
    cases known : roster.nodes.get? call.node with
    | none => cases call <;> exact .inl (List.nil_sublist _)
    | some standing =>
      cases call with
      | enter own nat => exact .inl (List.Sublist.refl _)
      | leave own => exact .inl (List.nil_sublist _)
      | setNat own nat =>
        simp only [RosterCall.turn, Option.map_some, Option.getD_some]
        split
        · exact .inl (List.nil_sublist _)
        · exact .inl (List.Sublist.refl _)
      | addParent own parent =>
        simp only [RosterCall.turn, Option.map_some, Option.getD_some]
        split
        · exact .inl (List.Sublist.refl _)
        · rename_i admitted
          obtain ⟨_, room, new⟩ := not_or.mp admitted |>.imp_right not_or.mp
          exact .inr ⟨parent, rfl, new, Nat.not_le.mp room, rfl⟩
      | removeParent own parent => exact .inl List.filter_sublist
  · exact .inl (List.Sublist.refl _)

/-- Whether the call of a number has entered a parent of a node, which has stayed since. -/
structure AddedAt (limit : Nat) (calls : List RosterCall) (node : UInt32) (parent : Address) (index : Nat) : Prop where
  call : calls[index]? = some (.addParent node parent)
  new : parent ∉ (ofCalls limit (calls.take index)).parents node
  stays : ∀ later, index < later → later ≤ calls.length → parent ∈ (ofCalls limit (calls.take later)).parents node

/-- Whether two parents of a node have come in this order. -/
def AddedInOrder (limit : Nat) (calls : List RosterCall) (node : UInt32) (first second : Address) : Prop :=
  ∃ m n, m < n ∧ AddedAt limit calls node first m ∧ AddedAt limit calls node second n

theorem AddedAt.lt_length (added : AddedAt limit calls node parent index) : index < calls.length := by
  have call := added.call
  rw [List.getElem?_eq_some_iff] at call
  exact call.1

theorem AddedAt.still (added : AddedAt limit calls node parent index)
    (stays : parent ∈ (ofCalls limit (calls ++ [call])).parents node) : AddedAt limit (calls ++ [call]) node parent index where
  call := (List.getElem?_append_left added.lt_length).trans added.call
  new := by
    rw [List.take_append_of_le_length (Nat.le_of_lt added.lt_length)]
    exact added.new
  stays later after most := by
    rw [List.length_append, List.length_singleton] at most
    rcases Nat.lt_or_ge calls.length later with last | earlier
    · obtain rfl : later = calls.length + 1 := by omega
      rwa [List.take_of_length_le (by simp)]
    · rw [List.take_append_of_le_length earlier]
      exact added.stays later after earlier

theorem AddedAt.self (new : parent ∉ (ofCalls limit calls).parents node)
    (entered : parent ∈ (ofCalls limit (calls ++ [.addParent node parent])).parents node) :
    AddedAt limit (calls ++ [.addParent node parent]) node parent calls.length where
  call := by simp
  new := by rwa [List.take_left]
  stays later after _ := by
    rw [List.take_of_length_le (by rw [List.length_append]; exact after)]
    exact entered

/-- The parents of a node, as the calls have it: each once, no more than are allowed, and in the order of their coming. -/
structure Listed (limit : Nat) (calls : List RosterCall) (node : UInt32) (parents : List Address) : Prop where
  nodup : parents.Nodup
  few : parents.length ≤ limit
  added : ∀ parent ∈ parents, ∃ index, AddedAt limit calls node parent index
  ordered : parents.Pairwise (AddedInOrder limit calls node)

theorem listed_ofCalls (limit : Nat) (calls : List RosterCall) (node : UInt32) :
    Listed limit calls node ((ofCalls limit calls).parents node) := by
  induction calls using List.reverseRecOn with
  | nil => exact ⟨List.nodup_nil, Nat.zero_le _, fun _ member => (List.not_mem_nil member).elim, List.Pairwise.nil⟩
  | append_singleton calls call ih =>
    obtain ⟨nodup, few, added, ordered⟩ := ih
    have still {parent : Address} {index : Nat} := @AddedAt.still call calls limit index node parent
    have inOrder {first second : Address} (one : first ∈ (ofCalls limit (calls ++ [call])).parents node)
        (other : second ∈ (ofCalls limit (calls ++ [call])).parents node) :
        AddedInOrder limit calls node first second → AddedInOrder limit (calls ++ [call]) node first second := by
      rintro ⟨m, n, less, before, after⟩
      exact ⟨m, n, less, still before one, still after other⟩
    rcases parents_perform (ofCalls limit calls) call node with fewer | ⟨parent, rfl, new, room, grown⟩
    · rw [← ofCalls_concat] at fewer
      refine ⟨nodup.sublist fewer, Nat.le_trans fewer.length_le few, fun parent member => ?_, ?_⟩
      · obtain ⟨index, earlier⟩ := added parent (fewer.subset member)
        exact ⟨index, still earlier member⟩
      · exact (ordered.sublist fewer).imp_of_mem inOrder
    · rw [← ofCalls_concat] at grown
      rw [maxParents_ofCalls] at room
      have old {other : Address} (member : other ∈ (ofCalls limit calls).parents node) :
          other ∈ (ofCalls limit (calls ++ [.addParent node parent])).parents node := by
        rw [grown]
        exact List.mem_append_left _ member
      have last : parent ∈ (ofCalls limit (calls ++ [.addParent node parent])).parents node := by
        rw [grown]
        simp
      have now := AddedAt.self new last
      rw [grown]
      refine ⟨?_, ?_, fun other member => ?_, ?_⟩
      · exact List.nodup_append.mpr ⟨nodup, by simp, by
          rintro other member _ same rfl
          exact new (List.mem_singleton.mp same ▸ member)⟩
      · rw [List.length_append, List.length_singleton]
        exact room
      · rcases List.mem_append.mp member with before | same
        · obtain ⟨index, earlier⟩ := added other before
          exact ⟨index, still earlier (old before)⟩
        · exact ⟨calls.length, List.mem_singleton.mp same ▸ now⟩
      · refine List.pairwise_append.mpr ⟨?_, List.pairwise_singleton _ _, fun other member same own => ?_⟩
        · exact ordered.imp_of_mem fun one other => inOrder (old one) (old other)
        · obtain ⟨index, earlier⟩ := added other member
          rw [List.mem_singleton.mp own]
          exact ⟨index, calls.length, earlier.lt_length, still earlier (old member), now⟩

/-- Whether the call that has described a node last has entered it, and these are the parents that the node had before, without
the ones that have been removed since. -/
def KeptFromEntry (limit : Nat) (calls : List RosterCall) (node : UInt32) (parents : List Address) : Prop :=
  ∃ before nat after, calls = before ++ .enter node nat :: after ∧ (∀ call ∈ after, ¬ call.Describes node) ∧
    parents = ((ofCalls limit before).parents node).filter fun parent => .removeParent node parent ∉ after

namespace KeptFromEntry

variable {parents : List Address}

theorem entered (limit : Nat) (calls : List RosterCall) (node : UInt32) (nat : NatType) :
    KeptFromEntry limit (calls ++ [.enter node nat]) node ((ofCalls limit calls).parents node) :=
  ⟨calls, nat, [], rfl, by simp, (List.filter_eq_self.mpr (by simp)).symm⟩

theorem still (kept : KeptFromEntry limit calls node parents) (plain : ¬ call.Describes node)
    (other : ∀ parent, call ≠ .removeParent node parent) : KeptFromEntry limit (calls ++ [call]) node parents := by
  obtain ⟨before, nat, after, rfl, undescribed, rfl⟩ := kept
  refine ⟨before, nat, after ++ [call], by simp, ?_, ?_⟩
  · simpa [or_imp, forall_and] using ⟨undescribed, plain⟩
  · simp only [List.mem_append, List.mem_singleton, fun parent => (other parent).symm, or_false]

theorem removed (kept : KeptFromEntry limit calls node parents) (parent : Address) :
    KeptFromEntry limit (calls ++ [.removeParent node parent]) node (parents.filter (· != parent)) := by
  obtain ⟨before, nat, after, rfl, undescribed, rfl⟩ := kept
  refine ⟨before, nat, after ++ [.removeParent node parent], by simp, ?_, ?_⟩
  · simpa [or_imp, forall_and, RosterCall.Describes] using undescribed
  · rw [List.filter_filter]
    refine List.filter_congr fun other _ => ?_
    by_cases same : other = parent <;> simp [same]

end KeptFromEntry

/-- An open node has no parents, or it has been entered as it is while it had them. -/
theorem parents_of_open {standing : Standing} (known : (ofCalls limit calls).nodes.get? node = some standing)
    (isOpen : standing.nat.isOpen = true) :
    standing.parents = [] ∨ KeptFromEntry limit calls node standing.parents := by
  induction calls using List.reverseRecOn generalizing standing with
  | nil => cases known
  | append_singleton calls call ih =>
    rw [ofCalls_concat, get?_perform] at known
    by_cases own : node = call.node
    · rw [if_pos own, ← own] at known
      cases call with
      | enter _ nat =>
        cases own
        cases known
        exact .inr (.entered limit calls _ nat)
      | leave _ => cases known
      | setNat _ nat =>
        obtain ⟨earlier, _, rfl⟩ := Option.map_eq_some_iff.mp known
        exact .inl (if_pos isOpen)
      | addParent _ parent =>
        cases own
        obtain ⟨earlier, before, rfl⟩ := Option.map_eq_some_iff.mp known
        -- An open node refuses, so that it was open before and has what it had.
        by_cases refused : earlier.nat.isOpen = true
        · simp only [refused, true_or, if_true] at isOpen ⊢
          exact (ih before refused).imp_right fun kept => kept.still id (by simp)
        · split at isOpen <;> exact absurd isOpen refused
      | removeParent _ parent =>
        cases own
        obtain ⟨earlier, before, rfl⟩ := Option.map_eq_some_iff.mp known
        rcases ih before isOpen with none | kept
        · exact .inl (by rw [none]; rfl)
        · exact .inr (kept.removed parent)
    · rw [if_neg own] at known
      refine (ih known isOpen).imp_right fun kept => kept.still ?_ ?_
      · exact fun describes => own (RosterCall.node_of_describes describes).symm
      · rintro parent rfl
        exact own rfl

/-- From where its translator is set to an open one on, a node has no parents until it gets a translator that is not open. -/
theorem parents_eq_nil_since (limit : Nat) (before : List RosterCall) {after : List RosterCall} {nat : NatType}
    (isOpen : nat.isOpen = true)
    (since : ∀ call ∈ after, call.node = node → ∀ other, call.nat? = some other → other.isOpen = true) :
    (ofCalls limit (before ++ .setNat node nat :: after)).parents node = [] := by
  have bare : ∀ standing, (ofCalls limit (before ++ .setNat node nat :: after)).nodes.get? node = some standing →
      standing.nat.isOpen = true ∧ standing.parents = [] := by
    induction after using List.reverseRecOn with
    | nil =>
      intro standing known
      rw [ofCalls_concat, get?_perform, RosterCall.node, if_pos rfl] at known
      obtain ⟨earlier, _, rfl⟩ := Option.map_eq_some_iff.mp known
      exact ⟨isOpen, if_pos isOpen⟩
    | append_singleton after call ih =>
      have earlier := ih fun other member => since other (List.mem_append_left _ member)
      rw [← List.cons_append, ← List.append_assoc, ofCalls_concat]
      intro standing known
      rw [get?_perform] at known
      by_cases own : node = call.node
      · rw [if_pos own, ← own] at known
        exact RosterCall.turn_bare earlier (since call (by simp) own.symm) known
      · rw [if_neg own] at known
        exact earlier standing known
  cases known : (ofCalls limit (before ++ .setNat node nat :: after)).nodes.get? node with
  | none => rw [parents, known]; rfl
  | some standing => rw [parents_of_get? known, (bare standing known).2]

theorem parents_eq_nil_of_described (none : roster.parents node = []) (call : RosterCall) (given : call.nat?.isSome = true) :
    (roster.perform call).parents node = [] := by
  rcases parents_perform roster call node with fewer | ⟨parent, rfl, _⟩
  · rw [none] at fewer
    exact List.sublist_nil.mp fewer
  · cases given

/-- An open node has parents only if it has been entered again, as an open one, while it had them; then it keeps them until they
are removed. One that turns out to be open has none, also when it gets a translator again. -/
theorem open_nodes_parents (limit : Nat) (calls : List RosterCall) (node : UInt32) :
    (∀ standing, (ofCalls limit calls).nodes.get? node = some standing → standing.nat.isOpen = true →
      standing.parents = [] ∨ KeptFromEntry limit calls node standing.parents) ∧
    ∀ before nat after, calls = before ++ .setNat node nat :: after → nat.isOpen = true →
      (∀ call ∈ after, call.node = node → ∀ other, call.nat? = some other → other.isOpen = true) →
      (ofCalls limit calls).parents node = [] ∧
        ∀ again, ((ofCalls limit calls).perform (.enter node again)).parents node = [] ∧
          ((ofCalls limit calls).perform (.setNat node again)).parents node = [] := by
  refine ⟨fun standing known isOpen => parents_of_open known isOpen, ?_⟩
  rintro before nat after rfl isOpen since
  have none := parents_eq_nil_since limit before isOpen since
  exact ⟨none, fun again => ⟨parents_eq_nil_of_described none _ rfl, parents_eq_nil_of_described none _ rfl⟩⟩

/-- A node that has been entered again has kept one of its two parents, and has lost it once it turns out to be open. -/
theorem open_nodes_parents_reentered :
    let home (n : UInt32) : Address := ⟨.ofOctets 10 0 0 91, 3478, n⟩
    let natted : NatType := .natted .addressDependent .portPreservation .addressDependent
    let calls : List RosterCall := [.enter 7 natted, .addParent 7 (home 91), .addParent 7 (home 92), .enter 7 .unrestricted,
      .removeParent 7 (home 91)]
    let classified := calls ++ [.setNat 7 .unrestricted, .addParent 7 (home 93)]
    (ofCalls 3 calls).nodes.get? 7 = some ⟨.unrestricted, [home 92]⟩ ∧ KeptFromEntry 3 calls 7 [home 92] ∧
      ((ofCalls 3 classified).perform (.setNat 7 natted)).parents 7 = [] := by
  intro home natted calls classified
  have known : (ofCalls 3 calls).nodes.get? 7 = some ⟨.unrestricted, [home 92]⟩ := by decide +kernel
  have kept := (open_nodes_parents 3 calls 7).1 _ known rfl
  have since := (open_nodes_parents 3 classified 7).2 calls .unrestricted [.addParent 7 (home 93)] rfl rfl (by simp [RosterCall.nat?])
  exact ⟨known, kept.resolve_left (by simp), (since.2 natted).2⟩

/-- A node that is entered again as an open one may have parents, and they show when it gets a translator again. -/
theorem not_always_without_parents :
    let parent : Address := ⟨.ofOctets 10 0 0 91, 3478, 91⟩
    let natted : NatType := .natted .addressDependent .portPreservation .addressDependent
    let calls : List RosterCall := [.enter 7 natted, .addParent 7 parent, .enter 7 .unrestricted]
    ((ofCalls 3 calls).nat? 7).map (·.isOpen) = some true ∧ (ofCalls 3 calls).parents 7 = [parent] ∧
      (ofCalls 3 (calls ++ [.setNat 7 natted])).parents 7 = [parent] := by
  decide +kernel

end

end Roster

end NatTraversal
