import NatTraversal.Proofs.Rendezvous.Forwarding

namespace NatTraversal

/-- Whom a call is made for. A sweep is made for nobody. -/
def SessionCall.client? : SessionCall → Option UInt32
  | .register contact _ => some contact.node
  | .keepAlive client _ => some client
  | .connect initiator _ => some initiator
  | .deleteConnection a _ => some a
  | .unregister client _ _ => some client
  | .completeMove client => some client
  | .sweep => none

/-- Whether an answer says that nothing has been done. -/
def SessionAnswer.refuses : SessionAnswer → Bool
  | .registered status => status = .rejected
  | .keptAlive status => status = .notRegistered
  | .connected target => target.isNone
  | .deleted any => !any
  | .unregistered status => !status.isGranted
  | .moved any => !any
  | .swept expired => expired.isEmpty

namespace Sessions

/-- What a call for one client does not reach: how the table is set up, the sessions of all others, and the pairs that do not
name the client. -/
structure Spares (own : UInt32) (before after : Sessions) : Prop where
  limits : after.ttl = before.ttl ∧ after.capacity = before.capacity
  others : ∀ client, client ≠ own → after.table.get? client = before.table.get? client
  pairs : ∀ initiator target, initiator ≠ own → target ≠ own →
    ((initiator, target) ∈ after.forwarding ↔ (initiator, target) ∈ before.forwarding)

section

variable {sessions : Sessions} {own : UInt32}

namespace Spares

theorem refl (own : UInt32) (sessions : Sessions) : Spares own sessions sessions := ⟨⟨rfl, rfl⟩, fun _ _ => rfl, fun _ _ _ _ => Iff.rfl⟩

/-- A client's own session is entered or changed. -/
theorem insert (sessions : Sessions) (own : UInt32) (session : Session) :
    Spares own sessions { sessions with table := sessions.table.insert own session } where
  limits := ⟨rfl, rfl⟩
  others _ other := (Table.get?_insert ..).trans (if_neg other)
  pairs _ _ _ _ := Iff.rfl

theorem remove (sessions : Sessions) (own : UInt32) : Spares own sessions (sessions.remove own) where
  limits := ⟨rfl, rfl⟩
  others _ other := (Table.get?_erase ..).trans (if_neg other)
  pairs _ _ first second := mem_forwarding_remove.trans (and_iff_left ⟨first, second⟩)

theorem connect (sessions : Sessions) (own peer : UInt32) (now : Nat) : Spares own sessions (sessions.connect own peer now).2 := by
  unfold Sessions.connect
  split
  · dsimp only
    split
    · exact .refl own sessions
    · refine ⟨⟨rfl, rfl⟩, fun _ _ => rfl, fun initiator target first _ => ?_⟩
      rw [List.mem_append, List.mem_singleton, or_iff_left]
      exact fun same => first (congrArg Prod.fst same)
  · exact .refl own sessions

theorem deleteConnection (sessions : Sessions) (own peer : UInt32) : Spares own sessions (sessions.deleteConnection own peer).2 where
  limits := ⟨rfl, rfl⟩
  others _ _ := rfl
  pairs initiator target first second := by
    refine mem_forwarding_deleteConnection.trans (and_iff_left ⟨?_, ?_⟩)
    · exact fun same => first (congrArg Prod.fst same)
    · exact fun same => second (congrArg Prod.snd same)

theorem unregister (sessions : Sessions) (own : UInt32) (seen : Address) (delay : Int32) (now : Nat) :
    Spares own sessions (sessions.unregister own seen delay now).2 := by
  generalize sessions.unregister own seen delay now = step, sessions.unregister_unregisters own seen delay now = unregisters
  cases unregisters with
  | refuses => exact .refl own sessions
  | removes => exact .remove sessions own
  | moves => exact .insert sessions own _

theorem perform (sessions : Sessions) (now : Nat) {call : SessionCall} (caller : call.client? = some own) :
    Spares own sessions (sessions.perform now call).2 := by
  cases call with
  | register contact seen =>
    cases caller
    simp only [Sessions.perform, register]
    split
    · exact .insert sessions _ _
    · split
      · exact .refl _ sessions
      · exact .insert sessions _ _
  | keepAlive client seen =>
    cases caller
    simp only [Sessions.perform, keepAlive]
    split
    · exact .insert sessions own _
    · exact .refl own sessions
  | connect initiator target =>
    cases caller
    exact .connect sessions own target now
  | deleteConnection a b =>
    cases caller
    exact .deleteConnection sessions own b
  | unregister client seen delay =>
    cases caller
    exact .unregister sessions own seen delay now
  | completeMove client =>
    cases caller
    simp only [Sessions.perform, completeMove]
    split
    · split
      · exact .remove sessions own
      · exact .refl own sessions
    · exact .refl own sessions
  | sweep => cases caller

end Spares

/-- A client is refused to be registered only for want of room. -/
theorem register_of_rejected {contact : Contact} {seen : Address} {now : Nat} (refused : (sessions.register contact seen now).1 = .rejected) :
    (sessions.register contact seen now).2 = sessions := by
  unfold register at refused ⊢
  split
  · rename_i session known
    simp only [known] at refused
    cases refused
  · rename_i absent
    split
    · rfl
    · rename_i room
      simp only [absent, if_neg room] at refused
      cases refused

theorem deleteConnection_of_none {a b : UInt32} (nothing : (sessions.deleteConnection a b).1 = false) :
    (sessions.deleteConnection a b).2 = sessions := by
  simp only [deleteConnection, Bool.or_eq_false_iff, isForwarding, decide_eq_false_iff_not] at nothing
  have all : (sessions.forwarding.filter fun pair => pair != (a, b) && pair != (b, a)) = sessions.forwarding := by
    refine List.filter_eq_self.mpr fun pair stored => ?_
    rw [Bool.and_eq_true, bne_iff_ne, bne_iff_ne]
    constructor
    · rintro rfl
      exact nothing.1 stored
    · rintro rfl
      exact nothing.2 stored
  simp only [deleteConnection, all]

/-- A call whose answer says that nothing has been done has done nothing. -/
theorem perform_of_refused (sessions : Sessions) (now : Nat) (call : SessionCall)
    (refused : (sessions.perform now call).1.refuses = true) : (sessions.perform now call).2 = sessions := by
  cases call with
  | register contact seen => exact register_of_rejected (of_decide_eq_true refused)
  | keepAlive client seen =>
    simp only [perform, keepAlive] at refused ⊢
    split
    · rename_i session live
      simp only [live] at refused
      cases refused
    · rfl
  | connect initiator target =>
    simp only [perform, connect] at refused ⊢
    split
    · rename_i session live
      simp only [live] at refused
      cases refused
    · rfl
  | deleteConnection a b => exact deleteConnection_of_none (Bool.not_eq_true' _ ▸ refused)
  | unregister client seen delay =>
    simp only [perform] at refused ⊢
    generalize eq : sessions.unregister client seen delay now = step at refused ⊢
    have unregisters := eq ▸ sessions.unregister_unregisters client seen delay now
    cases unregisters with
    | refuses => rfl
    | removes live due =>
      rcases due with ⟨rfl, _⟩ | ⟨rfl, _⟩
      · cases refused
      · cases refused
    | moves => cases refused
  | completeMove client =>
    simp only [perform, completeMove] at refused ⊢
    split
    · rename_i session known
      split
      · rename_i moving
        simp only [known, if_pos moving] at refused
        cases refused
      · rfl
    · rfl
  | sweep =>
    have nothing : (sessions.sweep now).1 = [] := List.isEmpty_iff.mp refused
    change (sessions.sweep now).1.foldl (fun s session => s.remove session.client) sessions = sessions
    rw [nothing]
    rfl

/-- A connection that is granted is all that there is new. -/
theorem perform_of_connected {peer : UInt32} {now : Nat} (granted : (sessions.perform now (.connect own peer)).1.refuses = false) :
    (sessions.perform now (.connect own peer)).2.table = sessions.table ∧
      ∀ pair, pair ∈ (sessions.perform now (.connect own peer)).2.forwarding ↔ pair = (own, peer) ∨ pair ∈ sessions.forwarding := by
  constructor
  · simp only [perform, connect]
    split
    · dsimp only [Prod.map]
      split <;> rfl
    · rfl
  · rintro ⟨initiator, target⟩
    have known : (sessions.connect own peer now).1.isNone = false := granted
    obtain ⟨address, linked⟩ := Option.isSome_iff_exists.mp (Option.isNone_eq_false_iff.mp known)
    have answer : (sessions.deed now (.connect own peer)).answer = .connected (some address) := congrArg SessionAnswer.connected linked
    rw [mem_forwarding_connect]
    refine or_congr_left ⟨?_, ?_⟩
    · rintro ⟨same, _⟩
      cases same
      rfl
    · intro same
      cases same
      exact ⟨rfl, address, answer⟩

/-- Calls that are refused might as well not have been made. -/
theorem Run.without_refused {start : Sessions} {log : List SessionDeed} (run : Run start log sessions) :
    Run start (log.filter fun deed => !deed.answer.refuses) sessions := by
  induction run with
  | start => exact .start
  | @step log sessions before now call ih =>
    rw [List.filter_append]
    cases refused : (sessions.deed now call).answer.refuses with
    | true =>
      rw [List.filter_cons_of_neg (by simp [refused]), List.filter_nil, List.append_nil, sessions.perform_of_refused now call refused]
      exact ih
    | false =>
      rw [List.filter_cons_of_pos (by simp [refused]), List.filter_nil]
      exact .step ih now call

/-- A call that is refused leaves the table as it is. One that is granted to a client reaches no session but the client's own and
no pair that does not name it, and a connection adds its pair and nothing else. -/
theorem calls_keep_to_their_client (sessions : Sessions) (now : Nat) (call : SessionCall) :
    ((sessions.perform now call).1.refuses = true → (sessions.perform now call).2 = sessions) ∧
      (∀ own, call.client? = some own → Spares own sessions (sessions.perform now call).2) ∧
      ∀ own peer, call = .connect own peer → (sessions.perform now call).1.refuses = false →
        (sessions.perform now call).2.table = sessions.table ∧
          ∀ pair, pair ∈ (sessions.perform now call).2.forwarding ↔ pair = (own, peer) ∨ pair ∈ sessions.forwarding := by
  refine ⟨sessions.perform_of_refused now call, fun own caller => .perform sessions now caller, ?_⟩
  rintro own peer rfl granted
  exact perform_of_connected granted

end

end Sessions

end NatTraversal
