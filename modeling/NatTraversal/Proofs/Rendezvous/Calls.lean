import NatTraversal.Rendezvous.Sessions

namespace NatTraversal

/-- What the sessions of a server are used for. -/
inductive SessionCall where
  | register (client : Contact) (seen : Address)
  | keepAlive (client : UInt32) (seen : Address)
  | connect (initiator target : UInt32)
  | deleteConnection (a b : UInt32)
  | unregister (client : UInt32) (seen : Address) (delay : Int32)
  | completeMove (client : UInt32)
  | sweep
deriving DecidableEq, Repr

inductive SessionAnswer where
  | registered (status : RegisterStatus)
  | keptAlive (status : KeepAliveStatus)
  | connected (target : Option Address)
  | deleted (any : Bool)
  | unregistered (status : UnregisterStatus)
  | moved (any : Bool)
  | swept (expired : List Session)
deriving DecidableEq, Repr

/-- A call, when it was made, and what the answer was. -/
structure SessionDeed where
  time : Nat
  call : SessionCall
  answer : SessionAnswer
deriving DecidableEq, Repr

/-- Whether a client that unregisters is done with its session, now or in a while. -/
def UnregisterStatus.isGranted : UnregisterStatus → Bool
  | .success | .delayLessThanZero => true
  | _ => false

/-- What can happen to the session of a client. -/
inductive SessionTurn where
  | registered
  | refreshed
  /-- A move has begun. -/
  | departing
  /-- The session has ended, as the client has asked for. -/
  | ended
deriving DecidableEq, Repr

namespace SessionDeed

/-- What a deed is to a client, as far as its answer tells. -/
def turn? (client : UInt32) (deed : SessionDeed) : Option SessionTurn :=
  match deed.call, deed.answer with
  | .register contact _, .registered .accepted => if contact.node = client then some .registered else none
  | .keepAlive own _, .keptAlive .alive => if own = client then some .refreshed else none
  | .unregister own _ _, .unregistered .delayLessThanZero => if own = client then some .ended else none
  | .unregister own _ delay, .unregistered .success =>
    if own = client then some (if 0 < delay then .departing else .ended) else none
  | .completeMove own, .moved true => if own = client then some .ended else none
  | _, _ => none

/-- What a deed can make of the session of one client, in a table that gives each session the same time to live. -/
inductive Leaves (ttl : Nat) (client : UInt32) (deed : SessionDeed) : Option Session → Option Session → Prop where
  | registers {contact : Contact} {seen : Address} {known : Option Session} (call : deed.call = .register contact seen)
    (turn : deed.turn? client = some .registered) :
    Leaves ttl client deed known (some ⟨client, seen, contact.address, contact.overlay, deed.time, ttl, false⟩)
  | refreshes {seen : Address} {session : Session} (call : deed.call = .keepAlive client seen)
    (turn : deed.turn? client = some .refreshed) (live : session.isExpired deed.time = false) :
    Leaves ttl client deed (some session) (some { session with publicAddress := seen, lastSeen := deed.time })
  | departs {session : Session} (turn : deed.turn? client = some .departing) (still : session.moving = false) :
    Leaves ttl client deed (some session) (some { session with moving := true })
  | ends {session : Session} (turn : deed.turn? client = some .ended) : Leaves ttl client deed (some session) none
  | lapses {session : Session} (call : deed.call = .sweep) (expired : session.isExpired deed.time = true) :
    Leaves ttl client deed (some session) none
  | rests {known : Option Session} (turn : deed.turn? client = none) : Leaves ttl client deed known known

end SessionDeed

namespace Sessions

def perform (sessions : Sessions) (now : Nat) : SessionCall → SessionAnswer × Sessions
  | .register client seen => (sessions.register client seen now).map .registered id
  | .keepAlive client seen => (sessions.keepAlive client seen now).map .keptAlive id
  | .connect initiator target => (sessions.connect initiator target now).map .connected id
  | .deleteConnection a b => (sessions.deleteConnection a b).map .deleted id
  | .unregister client seen delay => (sessions.unregister client seen delay now).map .unregistered id
  | .completeMove client => (sessions.completeMove client).map .moved id
  | .sweep => (sessions.sweep now).map .swept id

def deed (sessions : Sessions) (now : Nat) (call : SessionCall) : SessionDeed := ⟨now, call, (sessions.perform now call).1⟩

/-- Whether a client's session has expired and is stored nevertheless. -/
def lapsed (sessions : Sessions) (now : Nat) (client : UInt32) : Bool := (sessions.table.get? client).any (·.isExpired now)

/-- What a client that registers is entered as. -/
def entry (sessions : Sessions) (client : Contact) (seen : Address) (now : Nat) : Session :=
  ⟨client.node, seen, client.address, client.overlay, now, sessions.ttl, false⟩

/-- What holds of a table that has grown from an empty one. -/
structure Kept (sessions : Sessions) : Prop where
  own : ∀ client session, sessions.table.get? client = some session → session.client = client ∧ session.ttl = sessions.ttl
  room : sessions.size ≤ sessions.capacity

/-- The ways in which a client that unregisters is answered. -/
inductive Unregisters (sessions : Sessions) (client : UInt32) (delay : Int32) (now : Nat) : UnregisterStatus × Sessions → Prop where
  | refuses {status : UnregisterStatus} (refused : status.isGranted = false) : Unregisters sessions client delay now (status, sessions)
  | removes {session : Session} {status : UnregisterStatus} (live : sessions.live? client now = some session)
    (due : status = .success ∧ delay = 0 ∨ status = .delayLessThanZero ∧ delay < 0) :
    Unregisters sessions client delay now (status, sessions.remove client)
  | moves {session : Session} (live : sessions.live? client now = some session) (positive : 0 < delay)
    (still : session.moving = false) :
    Unregisters sessions client delay now
      (.success, { sessions with table := sessions.table.insert client { session with moving := true } })

/-- A table on which calls are made, at any instants. -/
inductive Run (start : Sessions) : List SessionDeed → Sessions → Prop where
  | start : Run start [] start
  | step {log : List SessionDeed} {sessions : Sessions} (before : Run start log sessions) (now : Nat) (call : SessionCall) :
    Run start (log ++ [sessions.deed now call]) (sessions.perform now call).2

section

variable {client : UInt32} {now : Nat} {session : Session} {sessions : Sessions}

theorem live?_eq_some_iff : sessions.live? client now = some session ↔
    sessions.table.get? client = some session ∧ session.isExpired now = false := by
  rw [live?, Option.filter_eq_some_iff, Bool.not_eq_true']

theorem keepAlive_leaves (sessions : Sessions) (now : Nat) (own : UInt32) (seen : Address) (client : UInt32) :
    (sessions.deed now (.keepAlive own seen)).Leaves sessions.ttl client (sessions.table.get? client)
      ((sessions.perform now (.keepAlive own seen)).2.table.get? client) := by
  cases live : sessions.live? own now with
  | some session =>
    have eq : sessions.keepAlive own seen now =
        (.alive, { sessions with table := sessions.table.insert own { session with publicAddress := seen, lastSeen := now } }) := by
      simp only [keepAlive, live]
    simp only [perform, eq, Prod.map, id, Table.get?_insert]
    split
    · rename_i same
      subst same
      obtain ⟨found, unexpired⟩ := live?_eq_some_iff.mp live
      rw [found]
      exact .refreshes rfl (by simp [SessionDeed.turn?, deed, perform, eq]) unexpired
    · rename_i other
      exact .rests (by simp [SessionDeed.turn?, deed, perform, eq, Ne.symm other])
  | none =>
    have eq : sessions.keepAlive own seen now = (.notRegistered, sessions) := by simp only [keepAlive, live]
    simp only [perform, eq, Prod.map, id]
    exact .rests (by simp [SessionDeed.turn?, deed, perform, eq])

theorem unregister_unregisters (sessions : Sessions) (client : UInt32) (seen : Address) (delay : Int32) (now : Nat) :
    sessions.Unregisters client delay now (sessions.unregister client seen delay now) := by
  unfold unregister
  split
  · exact .refuses rfl
  · rename_i session live
    split
    · exact .refuses rfl
    · split
      · rename_i negative
        exact .removes live (.inr ⟨rfl, negative⟩)
      · split
        · rename_i zero
          exact .removes live (.inl ⟨rfl, zero⟩)
        · rename_i nonnegative nonzero
          split
          · exact .refuses rfl
          · rename_i still
            have positive : 0 < delay := by
              rw [Int32.lt_iff_toInt_lt] at nonnegative ⊢
              have apart : delay.toInt ≠ (0 : Int32).toInt := fun same => nonzero (Int32.toInt_inj.mp same)
              omega
            exact .moves live positive (by simpa using still)

theorem unregister_leaves (sessions : Sessions) (now : Nat) (own : UInt32) (seen : Address) (delay : Int32) (client : UInt32) :
    (sessions.deed now (.unregister own seen delay)).Leaves sessions.ttl client (sessions.table.get? client)
      ((sessions.perform now (.unregister own seen delay)).2.table.get? client) := by
  simp only [deed, perform]
  generalize sessions.unregister own seen delay now = step, sessions.unregister_unregisters own seen delay now = unregisters
  cases unregisters with
  | @refuses status refused =>
    refine .rests ?_
    cases status with
    | success => cases refused
    | delayLessThanZero => cases refused
    | _ => rfl
  | @removes session status live due =>
    have turn : ∀ client, SessionDeed.turn? client ⟨now, .unregister own seen delay, .unregistered status⟩ =
        if own = client then some .ended else none := by
      intro client
      rcases due with ⟨rfl, rfl⟩ | ⟨rfl, _⟩ <;> rfl
    simp only [Prod.map, id, remove, Table.get?_erase]
    split
    · rename_i same
      subst same
      rw [(live?_eq_some_iff.mp live).1]
      exact .ends ((turn client).trans (if_pos rfl))
    · rename_i other
      exact .rests ((turn client).trans (if_neg (Ne.symm other)))
  | @moves session live positive still =>
    simp only [Prod.map, id, Table.get?_insert]
    split
    · rename_i same
      subst same
      rw [(live?_eq_some_iff.mp live).1]
      exact .departs (by simp [SessionDeed.turn?, positive]) still
    · rename_i other
      exact .rests (by simp [SessionDeed.turn?, Ne.symm other])

theorem completeMove_leaves (sessions : Sessions) (now : Nat) (own client : UInt32) :
    (sessions.deed now (.completeMove own)).Leaves sessions.ttl client (sessions.table.get? client)
      ((sessions.perform now (.completeMove own)).2.table.get? client) := by
  simp only [deed, perform, completeMove]
  cases known : sessions.table.get? own with
  | none => exact .rests rfl
  | some session =>
    dsimp only
    split
    · simp only [Prod.map, id, remove, Table.get?_erase]
      split
      · rename_i same
        subst same
        rw [known]
        exact .ends (if_pos rfl)
      · rename_i other
        exact .rests (if_neg (Ne.symm other))
    · exact .rests rfl

/-- A sweep takes out the sessions of some clients, and with them what is forwarded from and to these. -/
theorem foldl_remove (gone : List Session) (sessions : Sessions) :
    gone.foldl (fun s session => s.remove session.client) sessions = { sessions with
      table := sessions.table.filter fun client _ => decide (client ∉ gone.map (·.client))
      forwarding := sessions.forwarding.filter fun pair =>
        decide (pair.1 ∉ gone.map (·.client)) && decide (pair.2 ∉ gone.map (·.client)) } := by
  induction gone generalizing sessions with
  | nil =>
    have whole : sessions.table.filter (fun client _ => decide (client ∉ ([] : List Session).map (·.client))) = sessions.table :=
      Table.eq_of_entries (List.filter_eq_self.mpr (by simp))
    rw [whole, List.filter_eq_self.mpr (by simp)]
    rfl
  | cons session gone ih =>
    have rest : (sessions.table.erase session.client).filter (fun client _ => decide (client ∉ gone.map (·.client))) =
        sessions.table.filter (fun client _ => decide (client ∉ (session :: gone).map (·.client))) :=
      Table.eq_of_entries (by simp [Table.filter, Table.erase, List.filter_filter, not_or, Bool.and_comm])
    rw [List.foldl_cons, ih]
    simp only [remove, rest, List.filter_filter, Sessions.mk.injEq, true_and]
    apply List.filter_congr
    intro pair _
    by_cases first : pair.1 = session.client <;> by_cases second : pair.2 = session.client <;> simp [first, second]

namespace Kept

theorem mem_expired (kept : sessions.Kept) (now : Nat) (client : UInt32) :
    client ∈ (sessions.sweep now).1.map (·.client) ↔ sessions.lapsed now client = true := by
  simp only [sweep, Table.values, lapsed, List.mem_map, List.mem_filter, Option.any_eq_true]
  constructor
  · rintro ⟨session, ⟨⟨entry, member, rfl⟩, expired⟩, rfl⟩
    have found := Table.get?_eq_some_iff.mpr member
    rw [(kept.own _ _ found).1]
    exact ⟨_, found, expired⟩
  · rintro ⟨session, found, expired⟩
    exact ⟨session, ⟨⟨_, Table.get?_eq_some_iff.mp found, rfl⟩, expired⟩, (kept.own _ _ found).1⟩

/-- What a sweep leaves. -/
theorem sweep_eq (kept : sessions.Kept) (now : Nat) : (sessions.sweep now).2 = { sessions with
    table := sessions.table.filter fun _ session => !session.isExpired now
    forwarding := sessions.forwarding.filter fun pair => !sessions.lapsed now pair.1 && !sessions.lapsed now pair.2 } := by
  have stays (client : UInt32) : decide (client ∉ (sessions.sweep now).1.map (·.client)) = !sessions.lapsed now client := by
    rw [Bool.eq_iff_iff, decide_eq_true_eq, kept.mem_expired, Bool.not_eq_true, Bool.not_eq_true']
  have live : sessions.table.filter (fun client _ => decide (client ∉ (sessions.sweep now).1.map (·.client))) =
      sessions.table.filter (fun _ session => !session.isExpired now) := by
    apply Table.eq_of_entries
    apply List.filter_congr
    intro entry member
    refine (stays entry.1).trans ?_
    rw [lapsed, Table.get?_eq_some_iff.mpr member]
    rfl
  refine (foldl_remove (sessions.sweep now).1 sessions).trans ?_
  rw [live]
  simp only [stays]

/-- A client is registered if it is known or there is room. Nothing is left of what it was known by. -/
theorem register_eq (kept : sessions.Kept) (client : Contact) (seen : Address) (now : Nat) :
    sessions.register client seen now =
      if sessions.table.contains client.node = true ∨ sessions.size < sessions.capacity then
        (.accepted, { sessions with table := sessions.table.insert client.node (sessions.entry client seen now) })
      else (.rejected, sessions) := by
  cases known : sessions.table.get? client.node with
  | some session =>
    have present : sessions.table.contains client.node = true := by rw [Table.contains_eq_isSome, known, Option.isSome_some]
    obtain ⟨own, ttl⟩ := kept.own _ _ known
    rw [if_pos (Or.inl present)]
    simp only [register, known, entry, own, ttl]
  | none =>
    have absent : ¬ sessions.table.contains client.node = true := by
      rw [Table.contains_eq_isSome, known]
      exact Bool.false_ne_true
    by_cases room : sessions.size < sessions.capacity
    · rw [if_pos (Or.inr room)]
      simp only [register, known, ge_iff_le, Nat.not_le.mpr room, if_false, entry]
    · rw [if_neg (not_or.mpr ⟨absent, room⟩)]
      simp only [register, known, ge_iff_le, Nat.not_lt.mp room, if_true]

theorem register_leaves (kept : sessions.Kept) (now : Nat) (contact : Contact) (seen : Address) (client : UInt32) :
    (sessions.deed now (.register contact seen)).Leaves sessions.ttl client (sessions.table.get? client)
      ((sessions.perform now (.register contact seen)).2.table.get? client) := by
  have eq := kept.register_eq contact seen now
  split at eq
  · simp only [perform, eq, Prod.map, id, Table.get?_insert]
    split
    · rename_i own
      subst own
      exact .registers rfl (by simp [SessionDeed.turn?, deed, perform, eq])
    · rename_i other
      exact .rests (by simp [SessionDeed.turn?, deed, perform, eq, Ne.symm other])
  · simp only [perform, eq, Prod.map, id]
    exact .rests (by simp [SessionDeed.turn?, deed, perform, eq])

theorem sweep_leaves (kept : sessions.Kept) (now : Nat) (client : UInt32) :
    (sessions.deed now .sweep).Leaves sessions.ttl client (sessions.table.get? client)
      ((sessions.perform now .sweep).2.table.get? client) := by
  have after : (sessions.perform now .sweep).2.table.get? client =
      (sessions.table.get? client).filter fun session => !session.isExpired now := by
    simp only [perform, Prod.map, id, kept.sweep_eq, Table.get?_filter]
  rw [after]
  cases known : sessions.table.get? client with
  | none => exact .rests rfl
  | some session =>
    cases expired : session.isExpired now with
    | true =>
      rw [Option.filter_some, expired]
      exact .lapses rfl expired
    | false =>
      rw [Option.filter_some, expired]
      exact .rests rfl

/-- Whatever is called leaves a client's session in one of few ways. -/
theorem leaves (kept : sessions.Kept) (now : Nat) (call : SessionCall) (client : UInt32) :
    (sessions.deed now call).Leaves sessions.ttl client (sessions.table.get? client)
      ((sessions.perform now call).2.table.get? client) := by
  cases call with
  | register contact seen => exact kept.register_leaves now contact seen client
  | keepAlive own seen => exact sessions.keepAlive_leaves now own seen client
  | connect initiator target =>
    have same : (sessions.perform now (.connect initiator target)).2.table = sessions.table := by
      simp only [perform, connect]
      split
      · dsimp only [Prod.map]
        split <;> rfl
      · rfl
    rw [same]
    exact .rests rfl
  | deleteConnection a b => exact .rests rfl
  | unregister own seen delay => exact sessions.unregister_leaves now own seen delay client
  | completeMove own => exact sessions.completeMove_leaves now own client
  | sweep => exact kept.sweep_leaves now client

/-- A call changes the sessions and what is forwarded, and takes in no more than there is room for. -/
theorem bounds (kept : sessions.Kept) (now : Nat) (call : SessionCall) :
    (sessions.perform now call).2.ttl = sessions.ttl ∧ (sessions.perform now call).2.capacity = sessions.capacity ∧
      (sessions.perform now call).2.size ≤ sessions.capacity := by
  have known {client : UInt32} {session : Session} (live : sessions.live? client now = some session) :
      sessions.table.contains client = true := by
    rw [Table.contains_eq_isSome, (live?_eq_some_iff.mp live).1, Option.isSome_some]
  have fewer (keep : UInt32 → Session → Bool) : (sessions.table.filter keep).size ≤ sessions.capacity :=
    Nat.le_trans (List.length_filter_le ..) kept.room
  cases call with
  | register contact seen =>
    simp only [perform, kept.register_eq]
    split
    · rename_i taken
      refine ⟨rfl, rfl, ?_⟩
      cases present : sessions.table.contains contact.node with
      | true => exact Nat.le_trans (Nat.le_of_eq (Table.size_insert_of_known present _)) kept.room
      | false =>
        have room := taken.resolve_left (by simp [present])
        exact Nat.le_trans (Nat.le_of_eq (Table.size_insert_of_new present _)) room
    · exact ⟨rfl, rfl, kept.room⟩
  | keepAlive own seen =>
    simp only [perform, keepAlive]
    split
    · rename_i session live
      exact ⟨rfl, rfl, Nat.le_trans (Nat.le_of_eq (Table.size_insert_of_known (known live) _)) kept.room⟩
    · exact ⟨rfl, rfl, kept.room⟩
  | connect initiator target =>
    simp only [perform, connect]
    split
    · dsimp only [Prod.map, id]
      split <;> exact ⟨rfl, rfl, kept.room⟩
    · exact ⟨rfl, rfl, kept.room⟩
  | deleteConnection a b => exact ⟨rfl, rfl, kept.room⟩
  | unregister own seen delay =>
    simp only [perform]
    generalize sessions.unregister own seen delay now = step, sessions.unregister_unregisters own seen delay now = unregisters
    cases unregisters with
    | refuses => exact ⟨rfl, rfl, kept.room⟩
    | removes => exact ⟨rfl, rfl, fewer _⟩
    | moves live => exact ⟨rfl, rfl, Nat.le_trans (Nat.le_of_eq (Table.size_insert_of_known (known live) _)) kept.room⟩
  | completeMove own =>
    simp only [perform, completeMove]
    split
    · split
      · exact ⟨rfl, rfl, fewer _⟩
      · exact ⟨rfl, rfl, kept.room⟩
    · exact ⟨rfl, rfl, kept.room⟩
  | sweep =>
    simp only [Sessions.perform, Prod.map, id]
    rw [kept.sweep_eq]
    exact ⟨rfl, rfl, fewer _⟩

theorem perform (kept : sessions.Kept) (now : Nat) (call : SessionCall) : (sessions.perform now call).2.Kept := by
  obtain ⟨ttl, capacity, room⟩ := kept.bounds now call
  refine ⟨fun client session found => ?_, Nat.le_trans room (Nat.le_of_eq capacity.symm)⟩
  have leaves := kept.leaves now call client
  rw [found] at leaves
  rw [ttl]
  generalize before : sessions.table.get? client = known at leaves
  cases leaves with
  | registers => exact ⟨rfl, rfl⟩
  | @refreshes _ session => exact kept.own client session before
  | @departs session => exact kept.own client session before
  | rests => exact kept.own client _ before

end Kept

theorem kept_empty (ttl capacity : Nat) : (empty ttl capacity).Kept where
  own _ _ found := nomatch found
  room := Nat.zero_le _

theorem Run.constant {start : Sessions} {log : List SessionDeed} (run : Run start log sessions) (kept : start.Kept) :
    sessions.Kept ∧ sessions.ttl = start.ttl ∧ sessions.capacity = start.capacity := by
  induction run with
  | start => exact ⟨kept, rfl, rfl⟩
  | step before now call ih =>
    obtain ⟨still, ttl, capacity⟩ := ih
    have bounds := still.bounds now call
    exact ⟨still.perform now call, bounds.1.trans ttl, bounds.2.1.trans capacity⟩

end

end Sessions

end NatTraversal
