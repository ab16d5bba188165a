import NatTraversal.Proofs.Punch.Tally

namespace NatTraversal

namespace Puncher

section

variable {c : Surroundings} {late : PunchAlarm → Prop} {p q : Puncher} {key : PeerKey} {hs : Handshake}

namespace Watched

variable {chance : Chance} {later : PunchAlarm → Prop}

/-- What is done without any parent, by what it does to the tickets. -/
theorem of_tally (watched : p.Watched chance late) (tally : Tally chance later q.drawn q.tickets q.alarms)
    (requests : q.requests = p.requests) (slots : q.slots = p.slots) : q.Watched chance later where
  tally := tally
  entered id parent := by
    have same : q.tickets (.request parent) = p.tickets (.request parent) := by simp only [tickets, awaited?, slots]
    rw [requests, same]
    exact watched.entered id parent

theorem still (watched : p.Watched chance late) (drawn : p.drawn ≤ q.drawn) (tickets : q.tickets = p.tickets)
    (alarms : q.alarms = p.alarms) (requests : q.requests = p.requests) : q.Watched chance late where
  tally := by
    rw [tickets, alarms]
    exact watched.tally.mono drawn
  entered id parent := by
    rw [tickets, requests]
    exact watched.entered id parent

theorem keep (watched : p.Watched chance late) {kept : Handshake} (found : p.handshakes.get? key = some hs)
    (retry : kept.retryId = hs.retryId) (deadline : kept.deadlineId = hs.deadlineId) : (p.keep key kept).Watched chance late := by
  refine watched.still (Nat.le_refl _) ((p.tickets_insert_handshake key kept).trans ?_) rfl rfl
  have retries : p.tickets (.retry key) = some kept.retryId := by rw [tickets, found, retry, Option.map_some]
  have ends : p.tickets (.deadline key) = some kept.deadlineId := by rw [tickets, found, deadline, Option.map_some]
  rw [← retries, Function.update_eq_self, ← ends, Function.update_eq_self]

/-- A handshake that is begun has its own alarms set. -/
theorem begun (watched : p.Watched c.chance late) (distinct : c.chance.Distinct (p.drawn + 3)) {target : Contact} {remote : Socket}
    {punchPort : UInt16} {allocated : List UInt16} {parent : Option Address} {responder : Bool}
    (idle : p.handshakes.get? target.key = none)
    (same : hs = p.opening c target remote punchPort allocated parent responder) : (p.begun c hs).Watched c.chance late := by
  subst same
  have retries : p.tickets (.retry target.key) = none := by rw [tickets, idle, Option.map_none]
  have ends : p.tickets (.deadline target.key) = none := by rw [tickets, idle, Option.map_none]
  have retrying := watched.tally.takeUp (.retry target.key) retries (n := p.drawn + 1) rfl
    (distinct.mono (by omega : p.drawn + 2 ≤ p.drawn + 3)) (by omega) (by omega) (c.now + p.backoff.first)
  have both := retrying.takeUp (.deadline target.key) (by rw [Function.update_of_ne (by simp), ends]) (n := p.drawn + 2) rfl distinct
    (by omega) (by omega) (c.now + p.handshakeLimit)
  refine watched.of_tally ?_ rfl rfl
  have after := p.tickets_insert_handshake target.key (attempted (p.opening c target remote punchPort allocated parent responder))
  change Tally c.chance late (p.drawn + 3) (tickets { p with handshakes := p.handshakes.insert target.key _ }) _
  rw [after]
  exact both

theorem forget (watched : p.Watched chance late) (found : p.handshakes.get? key = some hs) : (p.forget key hs).Watched chance late := by
  have retries : p.tickets (.retry key) = some hs.retryId := by rw [tickets, found, Option.map_some]
  have ends : p.tickets (.deadline key) = some hs.deadlineId := by rw [tickets, found, Option.map_some]
  have both := (watched.tally.letGo (.retry key) retries).letGo (.deadline key) (by rw [Function.update_of_ne (by simp), ends])
  refine watched.of_tally ?_ rfl rfl
  change Tally chance late p.drawn (tickets { p with handshakes := p.handshakes.erase key }) _
  rw [p.tickets_erase_handshake]
  exact both

theorem closed (watched : p.Watched chance late) {cached : CachedPath} (found : p.paths.get? key = some cached) :
    ({ p with paths := p.paths.erase key, alarms := p.alarms.drop cached.expiryId } : Puncher).Watched chance late := by
  have expires : p.tickets (.expiry key) = some cached.expiryId := by rw [tickets, found, Option.map_some]
  refine watched.of_tally ?_ rfl rfl
  change Tally chance late p.drawn (tickets { p with paths := p.paths.erase key }) _
  rw [p.tickets_erase_path]
  exact watched.tally.letGo (.expiry key) expires

/-- Where a path takes the place of another, its alarm does too. -/
theorem settled (watched : p.Watched c.chance late) (distinct : c.chance.Distinct (p.drawn + 1)) (found : p.handshakes.get? key = some hs)
    (remote : Socket) : (p.settled c key hs remote).Watched c.chance late := by
  have forgotten := watched.forget found
  have fresh := Nat.lt_succ_self p.drawn
  refine forgotten.of_tally ?_ rfl rfl
  have after := (p.forget key hs).tickets_insert_path key (p.cached c hs remote)
  change Tally c.chance late (p.drawn + 1) (tickets { p.forget key hs with paths := p.paths.insert key (p.cached c hs remote) }) _
  have same : (p.forget key hs).paths = p.paths := rfl
  rw [← same, after]
  cases old : p.paths.get? key with
  | none =>
    have expires : (p.forget key hs).tickets (.expiry key) = none := by rw [tickets, same, old, Option.map_none]
    simp only [Puncher.settled, old]
    exact forgotten.tally.takeUp (.expiry key) expires rfl distinct (Nat.le_refl _) fresh (c.now + p.pathTtl)
  | some before =>
    have expires : (p.forget key hs).tickets (.expiry key) = some before.expiryId := by rw [tickets, same, old, Option.map_some]
    have apart := Tally.ne_ticket distinct (Nat.le_refl _) fresh (forgotten.tally.drawn _ _ expires)
    have let_go := forgotten.tally.letGo (.expiry key) expires
    have taken := let_go.takeUp (.expiry key) (Function.update_self ..) (n := p.drawn) rfl distinct (Nat.le_refl _) fresh (c.now + p.pathTtl)
    rw [Function.update_idem] at taken
    simp only [Puncher.settled, old]
    -- The old alarm is dropped after the new one is set. As their tickets differ, the order does not matter.
    refine taken.congr (fun id event => ?_) ((forgotten.tally.recurs.arm _ _ _).drop _)
    rw [Alarms.sets_drop, Alarms.sets_arm, Alarms.sets_arm, Alarms.sets_drop]
    by_cases mine : id = c.chance.ticket p.drawn
    · rw [if_pos mine, if_pos mine, mine]
      exact ⟨And.right, fun own => ⟨Ne.symm apart, own⟩⟩
    · rw [if_neg mine, if_neg mine]

end Watched

end

/-- Whether a step keeps account of the alarms, where some have rung before it and still have to be handled after it. -/
structure Keeps (c : Surroundings) (late later : PunchAlarm → Prop) (p q : Puncher) : Prop where
  grows : p.drawn ≤ q.drawn
  watched : p.Watched c.chance late → c.chance.Distinct q.drawn → q.Watched c.chance later

section

variable {c : Surroundings} {late later last : PunchAlarm → Prop} {p q r : Puncher} {key : PeerKey} {hs : Handshake}

namespace Keeps

theorem refl (c : Surroundings) (late : PunchAlarm → Prop) (p : Puncher) : Keeps c late late p p :=
  ⟨Nat.le_refl _, fun watched _ => watched⟩

theorem trans (first : Keeps c late later p q) (second : Keeps c later last q r) : Keeps c late last p r where
  grows := Nat.le_trans first.grows second.grows
  watched before distinct := second.watched (first.watched before (distinct.mono second.grows)) distinct

/-- What is done for each of a list in turn. -/
theorem fold {α : Type} {next : α → Puncher → PunchStep} (each : ∀ a (q : Puncher), Keeps c late late q (next a q).1) (list : List α)
    {step : PunchStep} (first : Keeps c late late p step.1) :
    Keeps c late late p (list.foldl (fun step a => Puncher.followedBy step (next a)) step).1 := by
  induction list generalizing step with
  | nil => exact first
  | cons a list ih => exact ih (first.trans (each a _))

/-- What is done without a draw. -/
theorem of_watched (drawn : q.drawn = p.drawn) (watched : p.Watched c.chance late → q.Watched c.chance later) :
    Keeps c late later p q :=
  ⟨Nat.le_of_eq drawn.symm, fun before _ => watched before⟩

theorem still (drawn : p.drawn ≤ q.drawn) (tickets : q.tickets = p.tickets) (alarms : q.alarms = p.alarms)
    (requests : q.requests = p.requests) : Keeps c late late p q :=
  ⟨drawn, fun watched _ => watched.still drawn tickets alarms requests⟩

theorem keep {kept : Handshake} (found : p.handshakes.get? key = some hs) (retry : kept.retryId = hs.retryId)
    (deadline : kept.deadlineId = hs.deadlineId) : Keeps c late late p (p.keep key kept) :=
  .of_watched rfl fun watched => watched.keep found retry deadline

theorem begin {target : Contact} {remote : Socket} {punchPort : UInt16} {allocated : List UInt16} {parent : Option Address}
    {responder : Bool} (idle : p.handshakes.get? target.key = none) :
    Keeps c late late p (p.begin c target remote punchPort allocated parent responder).1 := by
  rw [begin_eq]
  exact ⟨Nat.le_add_right .., fun watched distinct => watched.begun distinct idle rfl⟩

end Keeps

theorem closePath_keeps (p : Puncher) (key : PeerKey) : Keeps c late late p (p.closePath key).1 := by
  unfold closePath
  split
  · exact .refl c late p
  · rename_i cached found
    exact .of_watched rfl fun watched => watched.closed found

theorem onPing_keeps (p : Puncher) (ping : Message) (remote here : Socket) : Keeps c late late p (p.onPing c ping remote here).1 := by
  unfold onPing
  dsimp only
  split
  · exact .refl c late p
  · rename_i hs found
    by_cases aimed : hs.remote = remote
    · simp only [followedBy, aimed, ne_eq, not_true_eq_false, if_false]
      exact .keep found rfl rfl
    · simp only [followedBy, aimed, ne_eq, not_false_eq_true, if_true]
      rw [sendAttempt_insert]
      exact .keep found rfl rfl

theorem onForwarded_keeps (p : Puncher) (initiator : Contact) (parent : Address) :
    Keeps c late late p (p.onForwarded c initiator parent).1 := by
  unfold onForwarded
  dsimp only
  split
  · rename_i hs found
    rw [sendAttempt_insert]
    exact .keep found rfl rfl
  · rename_i idle
    exact (p.closePath_keeps initiator.key).trans (.begin (p.handshakes_closePath initiator.key ▸ idle))

theorem connect_keeps (p : Puncher) (target : Contact) (grant : Except LinkError (List UInt16)) :
    Keeps c late late p (p.connect c target grant).1 := by
  unfold connect
  dsimp only
  split
  · exact .refl c late p
  · split
    · exact .refl c late p
    · rename_i idle
      have idle := Table.get?_eq_none idle
      split
      · exact .refl c late p
      · split
        · exact .begin idle
        · split
          · exact .refl c late p
          · exact .begin idle

theorem fail_keeps (p : Puncher) (key : PeerKey) (error : Error) : Keeps c late late p (p.fail key error).1 := by
  unfold fail
  split
  · exact .refl c late p
  · rename_i hs found
    exact .of_watched rfl fun watched => watched.forget found

theorem onConnectResponse_keeps (p : Puncher) (response : Message) (status : ConnectStatus) (target : UInt32) :
    Keeps c late late p (p.onConnectResponse response status target).1 := by
  unfold onConnectResponse
  split
  · exact .refl c late p
  · rename_i key owned
    split
    · rename_i hs found
      dsimp only
      generalize (if hs.refused.contains response.source.node then hs.refused else _) = refused
      have kept : Keeps c late late p (p.keep key { hs with refused }) := .keep found rfl rfl
      split
      · exact kept.trans (fail_keeps _ key _)
      · exact kept
    · exact .refl c late p

theorem probe_erased_keeps (p : Puncher) {id : Ticket} {probe : Probe} (known : p.probes.get? id = some probe) :
    Keeps c late late p (({ p with probes := p.probes.erase id }).cancel id) := by
  refine .of_watched rfl fun watched => watched.of_tally ?_ rfl rfl
  change Tally c.chance late p.drawn (tickets { p with probes := p.probes.erase id }) _
  rw [p.tickets_erase_probe]
  exact watched.tally.letGo (.probe id) (by rw [tickets, known, Option.map_some])

theorem onPong_keeps (p : Puncher) (pong : Message) (remote : Socket) : Keeps c late late p (p.onPong c pong remote).1 := by
  unfold onPong
  split
  · rename_i key owned
    cases found : p.handshakes.get? key with
    | none =>
      simp only [verify, found]
      exact .refl c late p
    | some hs =>
      rw [verify_eq found]
      exact ⟨Nat.le_add_right .., fun watched distinct => watched.settled distinct found remote⟩
  · split
    · rename_i probe known
      exact p.probe_erased_keeps known
    · exact .refl c late p

theorem probe_keeps (p : Puncher) (target : Address) : Keeps c late late p (p.probe c target).1 := by
  refine ⟨Nat.le_succ _, fun watched distinct => watched.of_tally ?_ rfl rfl⟩
  have fresh : p.tickets (.probe (c.chance.ticket p.drawn)) = none := by
    refine Option.eq_none_iff_forall_ne_some.mpr fun id held => ?_
    have own := held
    rw [tickets, Option.map_eq_some_iff] at own
    obtain ⟨_, _, rfl⟩ := own
    exact Tally.ne_ticket distinct (Nat.le_refl _) (Nat.lt_succ_self _) (watched.tally.drawn _ _ held) rfl
  have wait := max (Time.ofMillis p.backoff.budget.toNat) p.backoff.first
  change Tally c.chance late (p.drawn + 1) (tickets { p with probes := p.probes.insert (c.chance.ticket p.drawn) ⟨target, c.now⟩ }) _
  rw [p.tickets_insert_probe]
  exact watched.tally.takeUp (.probe _) fresh rfl distinct (Nat.le_refl _) (Nat.lt_succ_self _) _

end

section

variable {c : Surroundings} {late later : PunchAlarm → Prop} {p q : Puncher} {key : Socket}

namespace Watched

variable {chance : Chance}

/-- A slot lets go of what it waits for. -/
theorem letGo_request (watched : p.Watched chance late) {own : Ticket} (tally : Tally chance later q.drawn q.tickets q.alarms)
    (held : p.tickets (.request key) = some own) (tickets : q.tickets = Function.update p.tickets (.request key) none)
    (requests : q.requests = p.requests.erase own) : q.Watched chance later where
  tally := tally
  entered id parent := by
    rw [requests, tickets, Table.get?_erase, Function.update_apply]
    by_cases same : parent = key
    · subst same
      rw [if_pos rfl]
      split
      · simp
      · rename_i other
        rw [watched.entered, held]
        simpa using Ne.symm other
    · have apart : Awaiter.request parent ≠ .request key := fun known => same (Awaiter.request.inj known)
      rw [if_neg apart]
      split
      · rename_i mine
        rw [mine]
        refine ⟨fun nothing => (Option.some_ne_none parent nothing.symm).elim, fun also => ?_⟩
        exact absurd (watched.tally.single _ _ own also held) apart
      · exact watched.entered id parent

/-- A slot that waits for nothing comes to wait for a request under a fresh ticket. -/
theorem place (watched : p.Watched c.chance late) (distinct : c.chance.Distinct (p.drawn + 1)) (slot : Slot) {request : ParentRequest}
    (free : p.tickets (.request key) = none) (own : request.id = c.chance.ticket p.drawn) (due : Nat) :
    ({ p with
      drawn := p.drawn + 1
      requests := p.requests.insert request.id key
      slots := p.slots.insert key { slot with pending := some request }
      alarms := p.alarms.arm request.id due (.parentTimeout request.id) } : Puncher).Watched c.chance late := by
  have after := p.tickets_insert_slot key { slot with pending := some request }
  have fresh : ∀ awaiter, p.tickets awaiter ≠ some request.id := fun awaiter held =>
    Tally.ne_ticket distinct (Nat.le_refl _) (Nat.lt_succ_self _) (watched.tally.drawn awaiter _ held) own
  have placed := watched.tally.takeUp (.request key) free own distinct (Nat.le_refl _) (Nat.lt_succ_self _) due
  constructor
  · change Tally c.chance late (p.drawn + 1) (tickets { p with slots := p.slots.insert key { slot with pending := some request } }) _
    rw [after]
    exact placed
  · intro id parent
    change (p.requests.insert request.id key).get? id = some parent ↔
      tickets { p with slots := p.slots.insert key { slot with pending := some request } } (.request parent) = some id
    rw [after, Table.get?_insert, Function.update_apply]
    by_cases same : parent = key
    · subst same
      rw [if_pos rfl]
      split
      · rename_i mine
        simp [mine]
      · rename_i other
        rw [watched.entered, free]
        simpa using Ne.symm other
    · have apart : Awaiter.request parent ≠ .request key := fun known => same (Awaiter.request.inj known)
      rw [if_neg apart]
      split
      · rename_i mine
        rw [mine]
        exact ⟨fun also => absurd (Option.some.inj also).symm same, fun held => absurd held (fresh _)⟩
      · exact watched.entered id parent

end Watched

theorem tickets_of_slot {slot : Slot} (known : p.slots.get? key = some slot) :
    p.tickets (.request key) = slot.pending.map (·.id) := by
  rw [tickets, awaited?, known]
  rfl

/-- A request goes out under a ticket that has just been drawn. -/
theorem sendRequest_keeps {request : ParentRequest} (own : request.id = c.chance.ticket p.drawn) (key : Socket) :
    Keeps c late late p (({ p with drawn := p.drawn + 1 }).sendRequest c key request).1 := by
  unfold sendRequest
  cases known : p.slots.get? key with
  | none => exact .still (Nat.le_succ _) rfl rfl rfl
  | some slot =>
    dsimp only
    refine ⟨by cases slot.pending <;> exact Nat.le_succ _, fun watched distinct => ?_⟩
    cases pending : slot.pending with
    | none =>
      simp only [pending] at distinct ⊢
      exact watched.place distinct slot (by rw [tickets_of_slot known, pending, Option.map_none]) own _
    | some old =>
      simp only [pending] at distinct ⊢
      have held : p.tickets (.request key) = some old.id := by rw [tickets_of_slot known, pending, Option.map_some]
      -- The old request is let go of first, and the slot is free for the new one.
      let freed : Puncher := { p with
        requests := p.requests.erase old.id
        slots := p.slots.insert key { slot with pending := none }
        alarms := p.alarms.drop old.id }
      have tickets : freed.tickets = Function.update p.tickets (.request key) none := p.tickets_insert_slot key { slot with pending := none }
      have free : freed.tickets (.request key) = none := by rw [tickets, Function.update_self]
      have let_go : freed.Watched c.chance late :=
        watched.letGo_request (tickets ▸ watched.tally.letGo (.request key) held) held tickets rfl
      have placed := let_go.place distinct slot free own (c.now + request.rto)
      simp only [freed, Table.insert_insert] at placed
      exact placed

theorem request_keeps (p : Puncher) (key : Socket) (body : Body) : Keeps c late late p (p.request c key body).1 :=
  sendRequest_keeps rfl key

theorem enroll_keeps (p : Puncher) (server : Address) : Keeps c late late p (p.enroll c server).1 := by
  unfold enroll
  dsimp only
  split
  · exact .refl c late p
  · rename_i idle
    simp only [Bool.or_eq_true, not_or, Option.isSome_iff_ne_none, ne_eq, not_not] at idle
    let slot := (p.slots.get? server.socket).getD ⟨server, false, none⟩
    have entered : Keeps c late late p { p with slots := p.slots.insert server.socket slot } := by
      refine .still (Nat.le_refl _) ?_ rfl rfl
      have free : p.tickets (.request server.socket) = none := by
        rw [tickets, awaited?]
        cases known : p.slots.get? server.socket with
        | none => rfl
        | some before =>
          have same : slot = before := by simp only [slot, known, Option.getD_some]
          rw [Option.bind_some, ← same, idle.2, Option.map_none]
      rw [p.tickets_insert_slot, idle.2, Option.map_none, ← free, Function.update_eq_self]
    exact entered.trans (request_keeps _ _ _)

theorem fill_keeps (p : Puncher) : Keeps c late late p (p.fill c).1 :=
  Keeps.fold (fun server q => q.enroll_keeps server) _ (.still (Nat.le_succ _) rfl rfl rfl)

theorem startEnrollment_keeps (p : Puncher) : Keeps c late late p (p.startEnrollment c).1 := by
  unfold startEnrollment
  split
  · exact .refl c late p
  · have armed : Keeps c late late p { p with
        drawn := p.drawn + 1
        enrolling := true
        alarms := p.alarms.armEvery (c.chance.ticket p.drawn) (c.now + Time.ofMillis p.enrollment.refreshPeriod.toNat)
          (Time.ofMillis p.enrollment.refreshPeriod.toNat) .refresh } := by
      refine ⟨Nat.le_succ p.drawn, fun watched distinct => watched.of_tally ?_ rfl rfl⟩
      exact watched.tally.armEvery distinct (Nat.le_refl _) (Nat.lt_succ_self _) _ _
    exact armed.trans (fill_keeps _)

/-- An answer is taken from the slot that waits for it. -/
theorem takeResponse_keeps (p : Puncher) (response : Message) : Keeps c late late p (p.takeResponse response).2 := by
  unfold takeResponse
  split
  · exact .refl c late p
  · rename_i key known
    refine .of_watched rfl fun watched => ?_
    have held := (watched.entered response.ticket key).mp known
    have tickets : tickets { p with slots := p.slots.modify key fun slot => { slot with pending := none } } =
        Function.update p.tickets (.request key) none := by
      refine p.tickets_slots key none fun other => ?_
      rw [Table.get?_modify, awaited?]
      split
      · cases p.slots.get? other <;> rfl
      · rfl
    refine watched.letGo_request ?_ held tickets rfl
    change Tally c.chance late p.drawn (Puncher.tickets { p with slots := p.slots.modify key _ }) _
    rw [tickets]
    exact watched.tally.letGo (.request key) held

theorem lose_keeps (p : Puncher) (key : Socket) : Keeps c late late p (p.lose key).1 := by
  unfold lose
  split
  · rename_i slot known
    split
    · refine .still (Nat.le_refl _) ?_ rfl rfl
      rw [p.tickets_insert_slot]
      have same := tickets_of_slot known
      dsimp only
      rw [← same, Function.update_eq_self]
    · exact .refl c late p
  · exact .refl c late p

theorem onRegisterResponse_keeps (p : Puncher) (response : Message) (status : RegisterStatus) :
    Keeps c late late p (p.onRegisterResponse response status).1 := by
  have taken : Keeps c late late p (p.takeResponse response).2 := p.takeResponse_keeps response
  unfold onRegisterResponse
  generalize p.takeResponse response = outcome at taken ⊢
  obtain ⟨key?, q⟩ := outcome
  dsimp only at taken ⊢
  split
  · exact taken.trans (.still (Nat.le_refl _) (q.tickets_of_slots (q.awaited?_modify _ fun _ => rfl)) rfl rfl)
  · exact taken.trans (q.lose_keeps _)
  · exact taken

theorem onKeepAliveResponse_keeps (p : Puncher) (response : Message) (status : KeepAliveStatus) :
    Keeps c late late p (p.onKeepAliveResponse c response status).1 := by
  have taken : Keeps c late late p (p.takeResponse response).2 := p.takeResponse_keeps response
  unfold onKeepAliveResponse
  generalize p.takeResponse response = outcome at taken ⊢
  obtain ⟨key?, q⟩ := outcome
  dsimp only at taken ⊢
  split
  · exact taken.trans ((q.lose_keeps _).trans (fill_keeps _))
  · exact taken

theorem onExpire_keeps (p : Puncher) (remote : Socket) : Keeps c late late p (p.onExpire c remote).1 := by
  unfold onExpire
  split
  · exact (p.lose_keeps remote).trans (fill_keeps _)
  · exact .refl c late p

theorem refresh_keeps (p : Puncher) : Keeps c late late p (p.refresh c).1 :=
  (Keeps.fold (fun _ q => q.request_keeps _ _) _ (.refl c late p)).trans (fill_keeps _)

theorem leave_keeps (p : Puncher) (key : Socket) (parent : Address) : Keeps c late late p (p.leave c key parent).1 :=
  .still (Nat.le_succ _) (p.tickets_of_slots (p.awaited?_modify _ fun _ => rfl)) rfl rfl

theorem unregister_keeps (p : Puncher) : Keeps c late late p (p.unregister c).1 := by
  refine Keeps.fold (fun key q => q.closePath_keeps key) _ ?_
  exact Keeps.fold (fun (entry : Socket × Slot) q => q.leave_keeps entry.1 entry.2.address) _ (.refl c late p)

theorem inbound_keeps (p : Puncher) (message : Message) (remote here : Socket) :
    Keeps c late late p (p.inbound c message remote here).1 := by
  unfold inbound
  split
  · exact p.onPing_keeps message remote here
  · exact p.onPong_keeps message remote
  · exact p.onForwarded_keeps _ _
  · exact p.onConnectResponse_keeps message _ _
  · exact p.onRegisterResponse_keeps message _
  · exact p.onKeepAliveResponse_keeps message _
  · exact p.onExpire_keeps remote
  · exact .refl c late p

/-- Whatever a puncher is told, every alarm stays somebody's. -/
theorem handle_keeps (p : Puncher) (command : PunchCommand) : Keeps c late late p (p.handle c command).1 := by
  unfold handle
  split
  · exact .refl c late p
  · cases command with
    | connect target grant => exact p.connect_keeps target grant
    | probe target => exact p.probe_keeps target
    | inbound message remote here => exact p.inbound_keeps message remote here
    | startEnrollment => exact p.startEnrollment_keeps
    | closePath key => exact p.closePath_keeps key
    | unregister => exact p.unregister_keeps

end

/-- The alarms that have rung and are still to be handled, with one more. -/
def orElse (event : PunchAlarm) (late : PunchAlarm → Prop) : PunchAlarm → Prop := fun other => other = event ∨ late other

section

variable {c : Surroundings} {late : PunchAlarm → Prop} {p q : Puncher} {key : PeerKey} {hs : Handshake} {id : Ticket}

/-- An alarm that nobody waits for is handled without anything being done. -/
theorem Keeps.stale {event : PunchAlarm} (nobody : ∀ awaiter id, p.tickets awaiter = some id → awaiter.alarm id ≠ event) :
    Keeps c (orElse event late) late p p :=
  .of_watched rfl fun watched => watched.of_tally (watched.tally.stale nobody) rfl rfl

/-- A handshake whose retry has rung goes on. -/
theorem Watched.retried (watched : p.Watched c.chance (orElse (.retry key hs.retryId) late)) (distinct : c.chance.Distinct (p.drawn + 1))
    (found : p.handshakes.get? key = some hs) (rto : Nat) :
    ({ p with
      handshakes := p.handshakes.insert key (attempted (p.retried c hs rto))
      alarms := p.alarms.arm (c.chance.ticket p.drawn) (c.now + rto) (.retry key (c.chance.ticket p.drawn))
      drawn := p.drawn + 1 } : Puncher).Watched c.chance late := by
  have retries : p.tickets (.retry key) = some hs.retryId := by rw [tickets, found, Option.map_some]
  have ends : p.tickets (.deadline key) = some hs.deadlineId := by rw [tickets, found, Option.map_some]
  have handled := Tally.handled (.retry key) watched.tally retries
  have taken := handled.takeUp (.retry key) (Function.update_self ..) rfl distinct (Nat.le_refl _) (Nat.lt_succ_self _) (c.now + rto)
  have after := p.tickets_insert_handshake key (attempted (p.retried c hs rto))
  refine watched.of_tally ?_ rfl rfl
  change Tally c.chance late (p.drawn + 1) (tickets { p with handshakes := p.handshakes.insert key (attempted (p.retried c hs rto)) }) _
  -- The handshake is written anew, but its deadline stays.
  have same : Function.update p.tickets (.retry key) (some (c.chance.ticket p.drawn)) (.deadline key) = some hs.deadlineId := by
    rw [Function.update_of_ne (by simp), ends]
  rw [after]
  change Tally c.chance late (p.drawn + 1)
    (Function.update (Function.update p.tickets (.retry key) (some (c.chance.ticket p.drawn))) (.deadline key) (some hs.deadlineId)) _
  rw [← same, Function.update_eq_self, ← Function.update_idem]
  exact taken

theorem ne_retry (idle : p.tickets (.retry key) ≠ some id) (awaiter : Awaiter) (own : Ticket) (held : p.tickets awaiter = some own) :
    awaiter.alarm own ≠ .retry key id := by
  intro same
  cases awaiter <;> cases same
  exact idle held

theorem ne_deadline (idle : p.tickets (.deadline key) ≠ some id) (awaiter : Awaiter) (own : Ticket) (held : p.tickets awaiter = some own) :
    awaiter.alarm own ≠ .deadline key id := by
  intro same
  cases awaiter <;> cases same
  exact idle held

theorem ne_pathExpired (idle : p.tickets (.expiry key) ≠ some id) (awaiter : Awaiter) (own : Ticket) (held : p.tickets awaiter = some own) :
    awaiter.alarm own ≠ .pathExpired key id := by
  intro same
  cases awaiter <;> cases same
  exact idle held

theorem ne_probeExpired (idle : p.tickets (.probe id) ≠ some id) (awaiter : Awaiter) (own : Ticket) (held : p.tickets awaiter = some own) :
    awaiter.alarm own ≠ .probeExpired id := by
  intro same
  cases awaiter with
  | probe other =>
    cases same
    have known := held
    rw [tickets, Option.map_eq_some_iff] at known
    obtain ⟨_, _, rfl⟩ := known
    exact idle held
  | _ => cases same

theorem ne_parentTimeout (idle : ∀ parent, p.tickets (.request parent) ≠ some id) (awaiter : Awaiter) (own : Ticket)
    (held : p.tickets awaiter = some own) : awaiter.alarm own ≠ .parentTimeout id := by
  intro same
  cases awaiter <;> cases same
  exact idle _ held

theorem handshakes_fail (p : Puncher) (key : PeerKey) (error : Error) : (p.fail key error).1.handshakes.get? key = none := by
  unfold fail
  split
  · assumption
  · exact (Table.get?_erase ..).trans (if_pos rfl)

theorem retry_keeps (p : Puncher) (key : PeerKey) (id : Ticket) :
    (p.retry c key id).1.halted = true ∨ Keeps c (orElse (.retry key id) late) late p (p.retry c key id).1 := by
  unfold retry
  split
  · rename_i idle
    exact .inr (.stale (ne_retry (by rw [tickets, idle]; simp)))
  · rename_i hs found
    split
    · rename_i other
      exact .inr (.stale (ne_retry (by rw [tickets, found]; simpa using other)))
    · rename_i current
      obtain rfl : hs.retryId = id := not_ne_iff.mp current
      split
      · refine .inr ((p.fail_keeps key _).trans (.stale (ne_retry ?_)))
        rw [tickets, handshakes_fail]
        simp
      · split
        · exact .inl rfl
        · rename_i rto next
          let ready : Puncher := { p with
            handshakes := p.handshakes.insert key (p.retried c hs rto)
            alarms := p.alarms.arm (c.chance.ticket p.drawn) (c.now + rto) (.retry key (c.chance.ticket p.drawn))
            drawn := p.drawn + 1 }
          have entered : ready.handshakes.get? key = some (p.retried c hs rto) := by
            rw [Table.get?_insert, if_pos rfl]
          change _ ∨ Keeps c _ late p (ready.sendAttempt c key).1
          rw [sendAttempt_eq entered]
          refine .inr ⟨Nat.le_succ _, fun watched distinct => ?_⟩
          simp only [ready, keep, Table.insert_insert]
          exact watched.retried distinct found rto

theorem onDeadline_keeps (p : Puncher) (key : PeerKey) (id : Ticket) :
    Keeps c (orElse (.deadline key id) late) late p (p.onDeadline key id).1 := by
  unfold onDeadline
  split
  · rename_i hs found
    split
    · refine (p.fail_keeps key _).trans (.stale (ne_deadline ?_))
      rw [tickets, handshakes_fail]
      simp
    · rename_i other
      exact .stale (ne_deadline (by rw [tickets, found]; simpa using other))
  · rename_i idle
    exact .stale (ne_deadline (by rw [tickets, idle]; simp))

theorem onPathExpired_keeps (p : Puncher) (key : PeerKey) (id : Ticket) :
    Keeps c (orElse (.pathExpired key id) late) late p (p.onPathExpired key id).1 := by
  unfold onPathExpired
  split
  · rename_i cached found
    split
    · refine (p.closePath_keeps key).trans (.stale (ne_pathExpired ?_))
      rw [tickets, paths_closePath]
      simp
    · rename_i other
      exact .stale (ne_pathExpired (by rw [tickets, found]; simpa using other))
  · rename_i gone
    exact .stale (ne_pathExpired (by rw [tickets, gone]; simp))

theorem probeExpired_keeps (p : Puncher) (id : Ticket) :
    Keeps c (orElse (.probeExpired id) late) late p { p with probes := p.probes.erase id } := by
  refine .of_watched rfl fun watched => watched.of_tally ?_ rfl rfl
  change Tally c.chance late p.drawn (tickets { p with probes := p.probes.erase id }) p.alarms
  rw [p.tickets_erase_probe]
  by_cases held : p.tickets (.probe id) = some id
  · exact Tally.handled (.probe id) watched.tally held
  · have free : p.tickets (.probe id) = none := by
      cases known : p.probes.get? id with
      | none => rw [tickets, known, Option.map_none]
      | some probe => exact absurd (by rw [tickets, known, Option.map_some]) held
    rw [← free, Function.update_eq_self]
    exact watched.tally.stale (ne_probeExpired held)

/-- A request whose timeout has rung is given up. -/
theorem Watched.given_up {parent : Socket} {slot : Slot}
    (watched : p.Watched c.chance (orElse (.parentTimeout id) late)) (entered : p.requests.get? id = some parent) :
    ({ p with requests := p.requests.erase id, slots := p.slots.insert parent { slot with pending := none } } : Puncher).Watched
      c.chance late := by
  have held := (watched.entered id parent).mp entered
  have tickets := p.tickets_insert_slot parent { slot with pending := none }
  refine watched.letGo_request ?_ held tickets rfl
  change Tally c.chance late p.drawn (Puncher.tickets { p with slots := p.slots.insert parent { slot with pending := none } }) p.alarms
  rw [tickets]
  exact Tally.handled (.request parent) watched.tally held

theorem onParentTimeout_keeps (p : Puncher) (id : Ticket) :
    (p.onParentTimeout c id).1.halted = true ∨ Keeps c (orElse (.parentTimeout id) late) late p (p.onParentTimeout c id).1 := by
  unfold onParentTimeout
  split
  · rename_i gone
    refine .inr (.of_watched rfl fun watched => ?_)
    have idle : ∀ parent, p.tickets (.request parent) ≠ some id := by
      intro parent held
      cases gone.symm.trans ((watched.entered id parent).mpr held)
    exact watched.of_tally (watched.tally.stale (ne_parentTimeout idle)) rfl rfl
  · rename_i parent entered
    dsimp only
    split
    · rename_i absent
      refine .inr (.of_watched rfl fun watched => ?_)
      have held := (watched.entered id parent).mp entered
      rw [tickets, awaited?, absent] at held
      cases held
    · rename_i slot known
      split
      · rename_i pending
        refine .inr (.of_watched rfl fun watched => ?_)
        have held := (watched.entered id parent).mp entered
        rw [tickets_of_slot known, pending] at held
        cases held
      · rename_i request pending
        have given_up : Keeps c (orElse (.parentTimeout id) late) late p
            { p with requests := p.requests.erase id, slots := p.slots.insert parent { slot with pending := none } } :=
          .of_watched rfl fun watched => watched.given_up entered
        split
        · exact .inr (given_up.trans (lose_keeps _ parent))
        · split
          · exact .inl rfl
          · exact .inr (given_up.trans (sendRequest_keeps rfl parent))

/-- Once an alarm has been handled, nobody waits for it. -/
theorem onAlarm_keeps (p : Puncher) (event : PunchAlarm) (going : (p.onAlarm c event).1.halted = false) :
    Keeps c (orElse event late) late p (p.onAlarm c event).1 := by
  have alive : ¬ p.halted = true := by
    intro halted
    simp [onAlarm, halted] at going
  unfold onAlarm at going ⊢
  rw [if_neg alive] at going ⊢
  cases event with
  | retry key id => exact (p.retry_keeps key id).resolve_left (by rw [going]; simp)
  | deadline key id => exact p.onDeadline_keeps key id
  | probeExpired id => exact p.probeExpired_keeps id
  | pathExpired key id => exact p.onPathExpired_keeps key id
  | parentTimeout id => exact (p.onParentTimeout_keeps id).resolve_left (by rw [going]; simp)
  | refresh =>
    have nobody : ∀ awaiter id, p.tickets awaiter = some id → awaiter.alarm id ≠ .refresh := by
      intro awaiter id _ same
      cases awaiter <;> cases same
    exact (Keeps.stale nobody).trans p.refresh_keeps

/-- An alarm that nobody waits for does nothing. -/
theorem onAlarm_stale {chance : Chance} (watched : p.Watched chance late) {event : PunchAlarm} (once : event ≠ .refresh)
    (nobody : ∀ awaiter id, p.tickets awaiter = some id → awaiter.alarm id ≠ event) (c : Surroundings) :
    p.onAlarm c event = (p, []) := by
  unfold onAlarm
  split
  · rfl
  · cases event with
    | retry key id =>
      have idle : p.tickets (.retry key) ≠ some id := fun held => nobody _ id held rfl
      dsimp only
      unfold retry
      split
      · rfl
      · rename_i hs found
        rw [tickets, found, Option.map_some, ne_eq, Option.some_inj] at idle
        rw [if_pos idle]
    | deadline key id =>
      have idle : p.tickets (.deadline key) ≠ some id := fun held => nobody _ id held rfl
      dsimp only
      unfold onDeadline
      split
      · rename_i hs found
        rw [tickets, found, Option.map_some, ne_eq, Option.some_inj] at idle
        rw [if_neg idle]
      · rfl
    | probeExpired id =>
      have idle : p.tickets (.probe id) ≠ some id := fun held => nobody _ id held rfl
      have gone : p.probes.get? id = none := by
        cases known : p.probes.get? id with
        | none => rfl
        | some probe => exact absurd (by rw [tickets, known, Option.map_some]) idle
      dsimp only
      rw [Table.erase_eq_self gone]
    | pathExpired key id =>
      have idle : p.tickets (.expiry key) ≠ some id := fun held => nobody _ id held rfl
      dsimp only
      unfold onPathExpired
      split
      · rename_i cached found
        rw [tickets, found, Option.map_some, ne_eq, Option.some_inj] at idle
        rw [if_neg idle]
      · rfl
    | parentTimeout id =>
      have gone : p.requests.get? id = none := by
        refine Option.eq_none_iff_forall_ne_some.mpr fun parent entered => ?_
        exact nobody _ id ((watched.entered id parent).mp entered) rfl
      dsimp only
      unfold onParentTimeout
      simp only [gone]
    | refresh => exact absurd rfl once

end

end Puncher

end NatTraversal
