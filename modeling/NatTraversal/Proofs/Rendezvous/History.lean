import NatTraversal.Proofs.Logs
import NatTraversal.Proofs.Rendezvous.Calls

namespace NatTraversal

/-- The address that a client calls from. -/
def SessionCall.seen? : SessionCall → Option Address
  | .register _ seen | .keepAlive _ seen | .unregister _ seen _ => some seen
  | _ => none

namespace SessionDeed

/-- A client has been registered. -/
def Registers (client : UInt32) (deed : SessionDeed) : Prop := deed.turn? client = some .registered

/-- A client has been registered, or kept alive while it was. -/
def Refreshes (client : UInt32) (deed : SessionDeed) : Prop := deed.Registers client ∨ deed.turn? client = some .refreshed

end SessionDeed

namespace Sessions

/-- When and from where a client was last refreshed, if it has not ended its session since. -/
def Refreshed (log : List SessionDeed) (client : UInt32) (seen : Address) (time : Nat) : Prop :=
  ∃ refresh after, LastOf (SessionDeed.Refreshes client) log refresh after ∧ refresh.call.seen? = some seen ∧
    refresh.time = time ∧ ∀ later ∈ after, later.turn? client ≠ some .ended

/-- What a client was last registered as, and whether a move has begun since. -/
def Registered (log : List SessionDeed) (client : UInt32) (address : Address) (overlay : UInt32) (moving : Bool) : Prop :=
  ∃ register since contact seen, LastOf (SessionDeed.Registers client) log register since ∧
    register.call = .register contact seen ∧ contact.address = address ∧ contact.overlay = overlay ∧
    (moving = true ↔ ∃ later ∈ since, later.turn? client = some .departing)

/-- What a log tells of a client with a session, and of one without: it has ended its last session or let it expire. -/
inductive Told (ttl : Nat) (log : List SessionDeed) (client : UInt32) : Option Session → Prop where
  | stored {session : Session} (refreshed : Refreshed log client session.publicAddress session.lastSeen)
    (registered : Registered log client session.privateAddress session.overlay session.moving) (constant : session.ttl = ttl) :
    Told ttl log client (some session)
  | absent (gone : ∀ refresh after, LastOf (SessionDeed.Refreshes client) log refresh after →
      ∃ later ∈ after, later.turn? client = some .ended ∨ later.time - refresh.time > ttl) : Told ttl log client none

section

variable {ttl capacity time : Nat} {log : List SessionDeed} {client : UInt32} {deed : SessionDeed}

theorem Refreshed.still {seen : Address} (refreshed : Refreshed log client seen time) (other : ¬ deed.Refreshes client)
    (kept : deed.turn? client ≠ some .ended) : Refreshed (log ++ [deed]) client seen time := by
  obtain ⟨refresh, after, last, origin, instant, rest⟩ := refreshed
  refine ⟨refresh, _, last.still other, origin, instant, fun later member => ?_⟩
  rcases List.mem_append.mp member with old | new
  · exact rest later old
  · rwa [List.mem_singleton.mp new]

/-- Whether a client has left only becomes known by what it asks for after it has registered. -/
theorem Registered.still {address : Address} {overlay : UInt32} {moving moved : Bool}
    (registered : Registered log client address overlay moving) (other : ¬ deed.Registers client)
    (moves : moved = true ↔ moving = true ∨ deed.turn? client = some .departing) :
    Registered (log ++ [deed]) client address overlay moved := by
  obtain ⟨register, since, contact, seen, last, call, home, part, departed⟩ := registered
  refine ⟨register, _, contact, seen, last.still other, call, home, part, ?_⟩
  rw [moves, departed]
  simp [or_and_right, exists_or]

/-- What a deed leaves of a session is what the longer log tells. -/
theorem Told.leaves {known left : Option Session} (told : Told ttl log client known)
    (leaves : deed.Leaves ttl client known left) : Told ttl (log ++ [deed]) client left := by
  cases leaves with
  | @registers contact seen _ call turn =>
    refine .stored ⟨deed, [], .self (.inl turn), by rw [call]; rfl, rfl, by simp⟩ ?_ rfl
    exact ⟨deed, [], contact, seen, .self turn, call, rfl, rfl, by simp⟩
  | @refreshes seen session call turn live =>
    obtain ⟨_, registered, constant⟩ := told
    refine .stored ⟨deed, [], .self (.inr turn), by rw [call]; rfl, rfl, by simp⟩ ?_ constant
    exact registered.still (by simp [SessionDeed.Registers, turn]) (by simp [turn])
  | @departs session turn =>
    obtain ⟨refreshed, registered, constant⟩ := told
    exact .stored (refreshed.still (by simp [SessionDeed.Refreshes, SessionDeed.Registers, turn]) (by simp [turn]))
      (registered.still (by simp [SessionDeed.Registers, turn]) (by simp [turn])) constant
  | ends turn =>
    refine .absent fun refresh after last => ?_
    obtain ⟨rfl, _⟩ | ⟨_, earlier, rfl, _⟩ := last.of_append
    · have refresh := last.own
      simp [SessionDeed.Refreshes, SessionDeed.Registers, turn] at refresh
    · exact ⟨deed, by simp, .inl turn⟩
  | @lapses session call expired =>
    obtain ⟨⟨former, _, last, _, instant, _⟩, _, constant⟩ := told
    refine .absent fun refresh after also => ?_
    obtain ⟨rfl, _⟩ | ⟨_, earlier, rfl, before⟩ := also.of_append
    · have refresh := also.own
      simp [SessionDeed.Refreshes, SessionDeed.Registers, SessionDeed.turn?, call] at refresh
    · refine ⟨deed, by simp, .inr ?_⟩
      rw [(before.unique last).1, instant, ← constant]
      simpa [Session.isExpired] using expired
  | rests turn =>
    have quiet : ¬ deed.Refreshes client := by simp [SessionDeed.Refreshes, SessionDeed.Registers, turn]
    cases told with
    | stored refreshed registered constant =>
      exact .stored (refreshed.still quiet (by simp [turn]))
        (registered.still (by simp [SessionDeed.Registers, turn]) (by simp [turn])) constant
    | absent gone =>
      refine .absent fun refresh after last => ?_
      obtain ⟨rfl, _⟩ | ⟨_, earlier, rfl, before⟩ := last.of_append
      · exact absurd last.own quiet
      · obtain ⟨later, member, elapsed⟩ := gone refresh earlier before
        exact ⟨later, by simp [member], elapsed⟩

theorem Run.told {sessions : Sessions} (run : Run (.empty ttl capacity) log sessions) (client : UInt32) :
    Told ttl log client (sessions.table.get? client) := by
  induction run with
  | start =>
    refine .absent fun refresh after last => ?_
    obtain ⟨before, split⟩ := last.split
    simp at split
  | @step log sessions before now call ih =>
    obtain ⟨kept, constant, _⟩ := before.constant (kept_empty ttl capacity)
    have leaves := kept.leaves now call client
    rw [constant] at leaves
    exact ih.leaves leaves

/-- The log of a table, however often it was swept, tells which sessions are live and what they show. -/
theorem Run.live_as_recorded {sessions : Sessions} {now : Nat} (run : Run (.empty ttl capacity) log sessions)
    (late : ∀ deed ∈ log, deed.time ≤ now) (client : UInt32) :
    ((sessions.live? client now).isSome = true ↔ ∃ seen time, Refreshed log client seen time ∧ now - time ≤ ttl) ∧
      (∀ session, sessions.live? client now = some session →
        Refreshed log client session.publicAddress session.lastSeen ∧
          Registered log client session.privateAddress session.overlay session.moving) ∧
      sessions.size ≤ capacity := by
  obtain ⟨kept, _, bound⟩ := run.constant (kept_empty ttl capacity)
  have told := run.told client
  refine ⟨⟨fun live => ?_, ?_⟩, fun session live => ?_, Nat.le_trans kept.room (Nat.le_of_eq bound)⟩
  · obtain ⟨session, live⟩ := Option.isSome_iff_exists.mp live
    obtain ⟨found, unexpired⟩ := live?_eq_some_iff.mp live
    rw [found] at told
    obtain ⟨refreshed, _, constant⟩ := told
    refine ⟨_, _, refreshed, ?_⟩
    rw [← constant]
    simpa [Session.isExpired] using unexpired
  · rintro ⟨seen, time, ⟨refresh, after, last, origin, rfl, rest⟩, fresh⟩
    generalize found : sessions.table.get? client = known at told
    cases told with
    | @stored session refreshed registered constant =>
      obtain ⟨former, _, also, _, instant, _⟩ := refreshed
      have unexpired : session.isExpired now = false := by
        rw [Session.isExpired, ← instant, ← (last.unique also).1, constant]
        simpa using fresh
      rw [live?_eq_some_iff.mpr ⟨found, unexpired⟩]
      rfl
    | absent gone =>
      obtain ⟨later, member, ended | lapsed⟩ := gone refresh after last
      · exact absurd ended (rest later member)
      · obtain ⟨before, split⟩ := last.split
        have := late later (by simp [split, member])
        omega
  · obtain ⟨found, _⟩ := live?_eq_some_iff.mp live
    rw [found] at told
    obtain ⟨refreshed, registered, _⟩ := told
    exact ⟨refreshed, registered⟩

/-- A client that is leaving has been kept alive from another address. -/
theorem kept_session_recorded :
    let home : Address := ⟨.ofOctets 192 168 0 9, 4000, 9⟩
    let seen (port : UInt16) : Address := ⟨.ofOctets 80 1 1 1, port, 9⟩
    let registered := ((empty 100 1).perform 0 (.register ⟨home, 7, .unrestricted, []⟩ (seen 5000))).2
    let leaving := (registered.perform 10 (.unregister 9 (seen 5000) 500)).2
    let kept := (leaving.perform 60 (.keepAlive 9 (seen 5001))).2
    let swept := (kept.perform 130 .sweep).2
    swept.live? 9 150 = some ⟨9, seen 5001, home, 7, 60, 100, true⟩ ∧
      ∃ log, Run (.empty 100 1) log swept ∧ (∀ deed ∈ log, deed.time ≤ 150) ∧ Refreshed log 9 (seen 5001) 60 ∧
        Registered log 9 home 7 true ∧ swept.size ≤ 1 := by
  intro home seen registered leaving kept swept
  have live : swept.live? 9 150 = some ⟨9, seen 5001, home, 7, 60, 100, true⟩ := by decide +kernel
  obtain ⟨log, run, late⟩ : ∃ log, Run (.empty 100 1) log swept ∧ ∀ deed ∈ log, deed.time ≤ 150 :=
    ⟨_, .step (.step (.step (.step .start 0 _) 10 _) 60 _) 130 .sweep, by decide +kernel⟩
  obtain ⟨_, shows, room⟩ := run.live_as_recorded late 9
  obtain ⟨refreshed, known⟩ := shows _ live
  exact ⟨live, log, run, late, refreshed, known, room⟩

end

end Sessions

end NatTraversal
