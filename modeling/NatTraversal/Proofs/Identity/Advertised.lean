import NatTraversal.Identity.Basic
import NatTraversal.Message.Codec
import NatTraversal.Proofs.Identity.Parents

namespace NatTraversal

/-- Parents that differ from each other are all kept, in their order. -/
theorem Contact.withParents_of_nodup (contact : Contact) {parents : List Address} (nodup : parents.Nodup) :
    contact.withParents parents = { contact with parents } := by
  have all (kept : List Address) (apart : (kept ++ parents).Nodup) :
      parents.foldl (fun kept p => if p ∈ kept then kept else kept ++ [p]) kept = kept ++ parents := by
    induction parents generalizing kept with
    | nil => exact (List.append_nil kept).symm
    | cons first parents ih =>
      have new : first ∉ kept := fun member => (List.nodup_append.mp apart).2.2 first member first (List.mem_cons_self ..) rfl
      rw [List.foldl_cons, if_neg new, ih nodup.of_cons _ (by rwa [List.append_assoc]), List.append_assoc]
      rfl
  rw [withParents, all [] nodup]
  rfl

/-- A header with few enough parents always fits: whether a message can be encoded depends on its body alone. -/
theorem Message.encode_of_few_parents {message : Message} (few : message.source.parents.length ≤ 255) :
    ∃ header, message.encode = message.body.encode.map (header ++ ·) := by
  let parents := UInt8.ofNat message.source.parents.length :: message.source.parents.flatMap Address.encode
  have counted : Contact.encodeParents message.source.parents = .ok parents := if_neg (Nat.not_lt.mpr few)
  refine ⟨message.preamble ++ message.source.nat.encode ++ parents, ?_⟩
  rw [encode, counted]
  cases message.body.encode <;> rfl

namespace Identity

variable {me : Identity} {roster : Roster}

theorem contact_parents_of_absent (absent : roster.nat? me.node = none) : (me.contact roster).parents = [] := by
  have isOpen : (me.nat roster).isOpen = true := by rw [nat, absent]; rfl
  rw [contact, if_pos isOpen]

theorem contact_parents_of_known {known : NatType} (found : roster.nat? me.node = some known) (nodup : (roster.parents me.node).Nodup) :
    (me.contact roster).parents = if known.isOpen then [] else roster.parents me.node := by
  have same : me.nat roster = known := by rw [nat, found]; rfl
  rw [contact, same]
  split
  · rfl
  · rw [parents, Contact.withParents_of_nodup _ nodup]

end Identity

namespace Roster

/-- Whatever has been done to a roster that allows for no more parents than the wire can count, each node's parents stand in the
order in which they have come, each once, and what is done to one node changes no other. In every overlay a natted node tells of
exactly these parents, and no other node tells of any, so that its messages have a header that fits. -/
theorem advertises_parents {limit : Nat} (limited : limit ≤ 255) (calls : List RosterCall) :
    (∀ node, Listed limit calls node ((ofCalls limit calls).parents node)) ∧
    (∀ call node, node ≠ call.node → ((ofCalls limit calls).perform call).nodes.get? node = (ofCalls limit calls).nodes.get? node) ∧
    ∀ me : Identity,
      ((ofCalls limit calls).nat? me.node = none → (me.contact (ofCalls limit calls)).parents = []) ∧
      (∀ nat, (ofCalls limit calls).nat? me.node = some nat →
        (me.contact (ofCalls limit calls)).parents = if nat.isOpen then [] else (ofCalls limit calls).parents me.node) ∧
      ∀ message : Message, message.source.parents = (me.contact (ofCalls limit calls)).parents →
        ∃ header, message.encode = message.body.encode.map (header ++ ·) := by
  have listed := listed_ofCalls limit calls
  refine ⟨listed, fun call node other => ?_, fun me => ?_⟩
  · rw [get?_perform, if_neg other]
  · have absent : (ofCalls limit calls).nat? me.node = none → _ := Identity.contact_parents_of_absent
    have known (nat : NatType) (found : (ofCalls limit calls).nat? me.node = some nat) :=
      Identity.contact_parents_of_known found (listed me.node).nodup
    refine ⟨absent, known, fun message same => Message.encode_of_few_parents ?_⟩
    rw [same]
    cases found : (ofCalls limit calls).nat? me.node with
    | none =>
      rw [absent found]
      exact Nat.zero_le _
    | some nat =>
      rw [known nat found]
      split
      · exact Nat.zero_le _
      · exact Nat.le_trans (listed me.node).few limited

/-- A parent that has come, gone and come again stands behind the one that has come in between. -/
theorem advertises_parents_again :
    let home (n : UInt32) : Address := ⟨.ofOctets 10 0 0 91, 3478, n⟩
    let calls : List RosterCall := [.enter 7 (.natted .addressDependent .portPreservation .addressDependent), .addParent 7 (home 1),
      .addParent 7 (home 1), .addParent 7 (home 2), .addParent 7 (home 3), .removeParent 7 (home 1), .addParent 7 (home 1)]
    let me : Identity := ⟨⟨.loopback, 4000, 7⟩, 5, none⟩
    let message : Message := .plain (me.contact (ofCalls 2 calls)) (home 2) (.deleteConnection 9)
    message.source.parents = [home 2, home 1] ∧ AddedInOrder 2 calls 7 (home 2) (home 1) ∧
      ∃ frame, message.encode = .ok (frame ++ [0, 0, 0, 9]) := by
  intro home calls me message
  obtain ⟨listed, _, each⟩ := advertises_parents (show 2 ≤ 255 by decide) calls
  obtain ⟨_, known, fits⟩ := each me
  have natted : (ofCalls 2 calls).nat? 7 = some (.natted .addressDependent .portPreservation .addressDependent) := by decide +kernel
  have parents : (ofCalls 2 calls).parents 7 = [home 2, home 1] := by decide +kernel
  have body : message.body.encode = .ok [0, 0, 0, 9] := by decide +kernel
  have ordered := (listed 7).ordered
  rw [parents] at ordered
  obtain ⟨header, encoded⟩ := fits message rfl
  rw [body] at encoded
  exact ⟨(known _ natted).trans parents, List.rel_of_pairwise_cons ordered (by simp), header, encoded⟩

end Roster

end NatTraversal
