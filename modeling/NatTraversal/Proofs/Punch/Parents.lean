import NatTraversal.Proofs.Punch.Phases

namespace NatTraversal

/-- Whether a parent is asked for something that it answers, and that is asked again until it does. -/
def Body.asksParent : Body → Bool
  | .registerRequest .. => true
  | .keepAliveRequest => true
  | _ => false

/-- Whether an effect is a request that a parent answers, or news of a parent. -/
def PunchEffect.isParental : PunchEffect → Bool
  | .send message => message.body.asksParent
  | .report (.parentRegistered _) => true
  | .report (.parentLost _) => true
  | _ => false

namespace Puncher

/-- What effects have to do with parents, in order. -/
def parental (effects : List PunchEffect) : List PunchEffect := effects.filter (·.isParental)

/-- What leaves the parents of a puncher alone. -/
structure Rests (p q : Puncher) (effects : List PunchEffect) : Prop where
  constant : q.me = p.me ∧ q.backoff = p.backoff ∧ q.enrollment = p.enrollment
  slots : q.slots = p.slots
  requests : q.requests = p.requests
  drawn : p.drawn ≤ q.drawn
  silent : parental effects = []

/-- A slot has come to wait for a request under a fresh ticket. -/
def asked (p : Puncher) (key : Socket) (slot : Slot) (request : ParentRequest) (alarms : Alarms PunchAlarm) : Puncher :=
  { p with
    requests := p.requests.insert request.id key
    slots := p.slots.insert key { slot with pending := some request }
    alarms
    drawn := p.drawn + 1 }

/-- How a request goes out. -/
def question (p : Puncher) (c : Surroundings) (slot : Slot) (request : ParentRequest) : Message :=
  { Message.plain (p.contactAt c p.mainPort) slot.address request.body with ticket := request.id }

/-- A request that is not yet sent. -/
def freshRequest (p : Puncher) (c : Surroundings) (body : Body) : ParentRequest :=
  ⟨c.chance.ticket p.drawn, body, p.retries, p.backoff.first⟩

/-- A request that has not been answered, as it is sent again. -/
def freshRetry (p : Puncher) (c : Surroundings) (request : ParentRequest) (rto : Nat) : ParentRequest :=
  { request with id := c.chance.ticket p.drawn, rto, retriesLeft := request.retriesLeft - 1 }

/-- What an answer does to the slot that waits for it, and what the want of one does. -/
inductive Opening (c : Surroundings) (input : PunchInput) (p : Puncher) : Puncher → List PunchEffect → Prop where
  /-- The slot no longer waits. -/
  | settles {id : Ticket} {key : Socket} {alarms : Alarms PunchAlarm} {halted : Bool} (mapped : p.requests.get? id = some key) :
    Opening c input p
      { p with
        requests := p.requests.erase id, slots := p.slots.modify key fun slot => { slot with pending := none }, alarms, halted }
      []
  | accepts {answer : Message} {remote here key : Socket} {slot : Slot} {alarms : Alarms PunchAlarm}
    (given : input = .command (.inbound answer remote here)) (accepted : answer.body = .registerResponse .accepted)
    (mapped : p.requests.get? answer.ticket = some key) (known : p.slots.get? key = some slot) :
    Opening c input p
      { p with
        requests := p.requests.erase answer.ticket, slots := p.slots.insert key ⟨answer.source.address, true, none⟩, alarms }
      (if slot.registered then [] else [.report (.parentRegistered answer.source.address)])
  | resends {id : Ticket} {key : Socket} {slot : Slot} {request : ParentRequest} {rto : Nat} {alarms : Alarms PunchAlarm}
    (given : input = .alarm (.parentTimeout id)) (mapped : p.requests.get? id = some key) (known : p.slots.get? key = some slot)
    (waits : slot.pending = some request) (some_left : request.retriesLeft ≠ 0) :
    Opening c input p (({ p with requests := p.requests.erase id }).asked key slot (p.freshRetry c request rto) alarms)
      [.send (p.question c slot (p.freshRetry c request rto))]

/-- What else a puncher can do about its parents at once. -/
inductive ParentMove (c : Surroundings) (input : PunchInput) (p : Puncher) : Puncher → List PunchEffect → Prop where
  | rests {q : Puncher} {effects : List PunchEffect} (rests : p.Rests q effects) : ParentMove c input p q effects
  /-- A candidate that is not taken is asked to be a parent, as long as there are not enough. -/
  | enrolls {key : Socket} {slot : Slot} {body : Body} {alarms : Alarms PunchAlarm} (unhurried : ∀ id, input ≠ .alarm (.parentTimeout id))
    (same : ∀ old, p.slots.get? key = some old → old = slot) (free : slot.registered = false) (idle : slot.pending = none)
    (room : p.busyCount < p.enrollment.maxParents.toNat) (asks : body.asksParent = true) :
    ParentMove c input p (p.asked key slot (p.freshRequest c body) alarms) [.send (p.question c slot (p.freshRequest c body))]
  /-- A parent is asked to keep the session. -/
  | renews {key : Socket} {slot : Slot} {alarms : Alarms PunchAlarm} (unhurried : ∀ id, input ≠ .alarm (.parentTimeout id))
    (known : p.slots.get? key = some slot) (registered : slot.registered = true) (idle : slot.pending = none) :
    ParentMove c input p (p.asked key slot (p.freshRequest c .keepAliveRequest) alarms)
      [.send (p.question c slot (p.freshRequest c .keepAliveRequest))]
  | loses {key : Socket} {slot : Slot} (known : p.slots.get? key = some slot) (registered : slot.registered = true) :
    ParentMove c input p { p with slots := p.slots.insert key { slot with registered := false } } [.report (.parentLost slot.address)]

/-- What else a puncher does about its parents, move by move. -/
inductive ParentMoves (c : Surroundings) (input : PunchInput) (p : Puncher) : Puncher → List PunchEffect → Prop where
  | refl : ParentMoves c input p p []
  | step {q r : Puncher} {effects later : List PunchEffect} (before : ParentMoves c input p q effects)
    (move : ParentMove c input q r later) : ParentMoves c input p r (effects ++ later)

/-- What a puncher does about its parents upon one input: an answer, or the want of one, comes before all else. -/
inductive ParentCourse (c : Surroundings) (input : PunchInput) (p : Puncher) : Puncher → List PunchEffect → Prop where
  | plain {q : Puncher} {effects : List PunchEffect} (moves : ParentMoves c input p q effects) : ParentCourse c input p q effects
  | opened {q r : Puncher} {effects later : List PunchEffect} (opening : Opening c input p q effects)
    (moves : ParentMoves c input q r later) : ParentCourse c input p r (effects ++ later)

/-- Whether an input can change anything about the parents of a puncher: it is told to enroll, or to leave someone, a parent
answers what it has been asked, stays silent or ends a session, or it is time to refresh. -/
def Stirs (p : Puncher) : PunchInput → Prop
  | .command (.inbound message remote _) =>
    match message.body with
    | .registerResponse _ => p.requests.contains message.ticket = true
    | .keepAliveResponse _ => p.requests.contains message.ticket = true
    | .expire => p.slots.contains remote = true
    | _ => False
  | .command .startEnrollment => True
  | .command .unregister => ∃ key slot, p.slots.get? key = some slot ∧ slot.registered = true
  | .alarm (.parentTimeout id) => p.requests.contains id = true
  | .alarm .refresh => True
  | _ => False

section

variable {effects later : List PunchEffect}

@[simp] theorem parental_nil : parental [] = [] := rfl

@[simp] theorem parental_append (effects later : List PunchEffect) :
    parental (effects ++ later) = parental effects ++ parental later :=
  List.filter_append ..

@[simp] theorem parental_releasing (ports : List UInt16) : parental (releasing ports) = [] := by
  unfold releasing
  split <;> rfl

theorem parental_eq_nil (other : ∀ effect ∈ effects, effect.isParental = false) : parental effects = [] :=
  List.filter_eq_nil_iff.mpr fun effect member => by simp [other effect member]

@[simp] theorem parental_sends {α : Type} (list : List α) (message : α → Message) (other : ∀ a, (message a).body.asksParent = false) :
    parental (list.map fun a => PunchEffect.send (message a)) = [] := by
  refine parental_eq_nil fun effect member => ?_
  obtain ⟨a, _, rfl⟩ := List.mem_map.mp member
  exact other a

@[simp] theorem parental_attempt (p : Puncher) (c : Surroundings) (hs : Handshake) : parental (p.attempt c hs) = [] := by
  rw [attempt, parental_append, parental_sends _ _ fun _ => rfl]
  rfl

end

namespace Rests

variable {p q r : Puncher} {effects later : List PunchEffect}

/-- Only what is kept about peers and probes changes, and the alarms, and more may be drawn. -/
theorem elsewhere {handshakes : Table PeerKey Handshake} {byPing : Table Ticket PeerKey} {paths : Table PeerKey CachedPath}
    {probes : Table Ticket Probe} {enrolling halted : Bool} {alarms : Alarms PunchAlarm} {drawn : Nat} (more : p.drawn ≤ drawn)
    (silent : parental effects = []) :
    p.Rests { p with handshakes, byPing, paths, probes, enrolling, alarms, drawn, halted } effects :=
  ⟨⟨rfl, rfl, rfl⟩, rfl, rfl, more, silent⟩

theorem refl (p : Puncher) : p.Rests p [] := elsewhere (Nat.le_refl _) rfl

theorem trans (first : p.Rests q effects) (second : q.Rests r later) : p.Rests r (effects ++ later) where
  constant := by
    obtain ⟨me, backoff, enrollment⟩ := first.constant
    obtain ⟨still_me, still_backoff, still_enrollment⟩ := second.constant
    exact ⟨still_me.trans me, still_backoff.trans backoff, still_enrollment.trans enrollment⟩
  slots := second.slots.trans first.slots
  requests := second.requests.trans first.requests
  drawn := Nat.le_trans first.drawn second.drawn
  silent := by rw [parental_append, first.silent, second.silent, List.append_nil]

theorem followedBy {step : PunchStep} {next : Puncher → PunchStep} (first : p.Rests step.1 step.2)
    (second : step.1.Rests (next step.1).1 (next step.1).2) : p.Rests (Puncher.followedBy step next).1 (Puncher.followedBy step next).2 :=
  first.trans second

theorem fold {α : Type} {next : α → Puncher → PunchStep} (each : ∀ a (q : Puncher), q.Rests (next a q).1 (next a q).2) 
    (list : List α) {step : PunchStep} (first : p.Rests step.1 step.2) :
    p.Rests (list.foldl (fun step a => Puncher.followedBy step (next a)) step).1
      (list.foldl (fun step a => Puncher.followedBy step (next a)) step).2 := by
  induction list generalizing step with
  | nil => exact first
  | cons a list ih => exact ih (first.followedBy (each a _))

end Rests

/-! What is about peers and probes leaves the parents alone. -/

section

variable {c : Surroundings} {p : Puncher}

theorem sendAttempt_rests (key : PeerKey) : p.Rests (p.sendAttempt c key).1 (p.sendAttempt c key).2 := by
  cases found : p.handshakes.get? key with
  | none =>
    simp only [sendAttempt, found]
    exact .refl p
  | some hs =>
    rw [sendAttempt_eq found]
    exact .elsewhere (Nat.le_refl _) (parental_attempt ..)

theorem begin_rests (target : Contact) (remote : Socket) (punchPort : UInt16) (allocated : List UInt16) (parent : Option Address)
    (responder : Bool) :
    p.Rests (p.begin c target remote punchPort allocated parent responder).1
      (p.begin c target remote punchPort allocated parent responder).2 := by
  rw [begin_eq]
  exact .elsewhere (Nat.le_add_right ..) (parental_attempt ..)

theorem closePath_rests (key : PeerKey) : p.Rests (p.closePath key).1 (p.closePath key).2 := by
  unfold closePath
  split
  · exact .refl p
  · exact .elsewhere (Nat.le_refl _) (by simp; rfl)

theorem fail_rests (key : PeerKey) (error : Error) : p.Rests (p.fail key error).1 (p.fail key error).2 := by
  unfold fail
  split
  · exact .refl p
  · exact .elsewhere (Nat.le_refl _) (by simp; rfl)

theorem verify_rests (key : PeerKey) (remote : Socket) : p.Rests (p.verify c key remote).1 (p.verify c key remote).2 := by
  cases found : p.handshakes.get? key with
  | none =>
    simp only [verify, found]
    exact .refl p
  | some hs =>
    rw [verify_eq found]
    refine .elsewhere (Nat.le_add_right ..) ?_
    rw [leftover, tidings, parental_append, parental_append, parental_releasing, parental_sends _ _ fun _ => rfl]
    rfl

theorem connect_rests (target : Contact) (grant : Except LinkError (List UInt16)) :
    p.Rests (p.connect c target grant).1 (p.connect c target grant).2 := by
  have told : ∀ event, (PunchEffect.report event).isParental = false → p.Rests p [.report event] := fun event other =>
    .elsewhere (Nat.le_refl _) (by simp [parental, other])
  unfold connect
  dsimp only
  split
  · exact told _ rfl
  · split
    · exact .refl p
    · split
      · exact told _ rfl
      · split
        · exact begin_rests ..
        · split
          · exact told _ rfl
          · exact begin_rests ..

theorem onForwarded_rests (initiator : Contact) (parent : Address) :
    p.Rests (p.onForwarded c initiator parent).1 (p.onForwarded c initiator parent).2 := by
  unfold onForwarded
  dsimp only
  split
  · rw [sendAttempt_insert]
    exact .elsewhere (Nat.le_refl _) (parental_attempt ..)
  · exact (closePath_rests _).trans (begin_rests ..)

theorem onPing_rests (ping : Message) (remote here : Socket) :
    p.Rests (p.onPing c ping remote here).1 (p.onPing c ping remote here).2 := by
  have answered : ∀ handshakes, p.Rests { p with handshakes } [.send (p.pong c ping remote here)] := fun _ =>
    .elsewhere (Nat.le_refl _) rfl
  unfold onPing
  dsimp only
  split
  · exact answered p.handshakes
  · refine Rests.followedBy (answered _) ?_
    split
    · exact sendAttempt_rests _
    · exact .refl _

theorem onPong_rests (pong : Message) (remote : Socket) : p.Rests (p.onPong c pong remote).1 (p.onPong c pong remote).2 := by
  unfold onPong
  split
  · exact verify_rests ..
  · split
    · exact .elsewhere (Nat.le_refl _) rfl
    · exact .refl p

theorem onConnectResponse_rests (response : Message) (status : ConnectStatus) (target : UInt32) :
    p.Rests (p.onConnectResponse response status target).1 (p.onConnectResponse response status target).2 := by
  unfold onConnectResponse
  split
  · exact .refl p
  · split
    · rename_i hs found
      dsimp only
      generalize (if hs.refused.contains response.source.node then hs.refused else hs.refused ++ [response.source.node]) = refused
      have noted : ∀ handshakes, p.Rests { p with handshakes } [] := fun _ => .elsewhere (Nat.le_refl _) rfl
      split
      · exact (noted _).trans (fail_rests ..)
      · exact noted _
    · exact .refl p

theorem retry_rests (key : PeerKey) (id : Ticket) : p.Rests (p.retry c key id).1 (p.retry c key id).2 := by
  unfold retry
  split
  · exact .refl p
  · split
    · exact .refl p
    · split
      · exact fail_rests ..
      · split
        · exact .elsewhere (Nat.le_refl _) rfl
        · have ready : ∀ handshakes alarms, p.Rests { p with handshakes, alarms, drawn := p.drawn + 1 } [] := fun _ _ =>
            .elsewhere (Nat.le_add_right ..) rfl
          exact (ready _ _).trans (sendAttempt_rests _)

theorem onDeadline_rests (key : PeerKey) (id : Ticket) : p.Rests (p.onDeadline key id).1 (p.onDeadline key id).2 := by
  unfold onDeadline
  split
  · split
    · exact fail_rests ..
    · exact .refl p
  · exact .refl p

theorem onPathExpired_rests (key : PeerKey) (id : Ticket) : p.Rests (p.onPathExpired key id).1 (p.onPathExpired key id).2 := by
  unfold onPathExpired
  split
  · split
    · exact closePath_rests _
    · exact .refl p
  · exact .refl p

theorem probe_rests (target : Address) : p.Rests (p.probe c target).1 (p.probe c target).2 :=
  .elsewhere (Nat.le_add_right ..) rfl

end

/-! Whatever concerns the parents is made up of their moves. -/

namespace ParentMoves

variable {c : Surroundings} {input : PunchInput} {p q r : Puncher} {effects later : List PunchEffect}

theorem single (move : ParentMove c input p q effects) : ParentMoves c input p q effects := .step .refl move

theorem trans (before : ParentMoves c input p q effects) (after : ParentMoves c input q r later) :
    ParentMoves c input p r (effects ++ later) := by
  induction after with
  | refl => rwa [List.append_nil]
  | step _ move ih =>
    rw [← List.append_assoc]
    exact .step ih move

theorem followedBy {step : PunchStep} {next : Puncher → PunchStep} (first : ParentMoves c input p step.1 step.2)
    (second : ParentMoves c input step.1 (next step.1).1 (next step.1).2) :
    ParentMoves c input p (followedBy step next).1 (followedBy step next).2 :=
  first.trans second

/-- What is done for each of a list in turn. -/
theorem fold {α : Type} {next : α → Puncher → PunchStep}
    (each : ∀ a (q : Puncher), ParentMoves c input q (next a q).1 (next a q).2) (list : List α) {step : PunchStep}
    (first : ParentMoves c input p step.1 step.2) :
    ParentMoves c input p (list.foldl (fun step a => Puncher.followedBy step (next a)) step).1
      (list.foldl (fun step a => Puncher.followedBy step (next a)) step).2 := by
  induction list generalizing step with
  | nil => exact first
  | cons a list ih => exact ih (first.followedBy (each a _))

/-- What is done for each of some slots in turn. Each is found as it was, since what is done for the others leaves it alone. -/
theorem foldSlots {next : Socket × Slot → Puncher → PunchStep} {entries : List (Socket × Slot)}
    (each : ∀ entry ∈ entries, ∀ q : Puncher, q.slots.get? entry.1 = some entry.2 →
      ParentMoves c input q (next entry q).1 (next entry q).2 ∧
        ∀ other, other ≠ entry.1 → (next entry q).1.slots.get? other = q.slots.get? other)
    (nodup : (entries.map (·.1)).Nodup) {step : PunchStep} (first : ParentMoves c input p step.1 step.2)
    (here : ∀ entry ∈ entries, step.1.slots.get? entry.1 = some entry.2) :
    ParentMoves c input p (entries.foldl (fun step entry => Puncher.followedBy step (next entry)) step).1
      (entries.foldl (fun step entry => Puncher.followedBy step (next entry)) step).2 := by
  induction entries generalizing step with
  | nil => exact first
  | cons entry entries ih =>
    rw [List.forall_mem_cons] at each here
    rw [List.map_cons, List.nodup_cons] at nodup
    obtain ⟨moves, others⟩ := each.1 step.1 here.1
    refine ih each.2 nodup.2 (first.followedBy moves) fun later member => ?_
    refine (others later.1 ?_).trans (here.2 later member)
    intro same
    exact nodup.1 (same ▸ List.mem_map_of_mem member)

end ParentMoves

namespace ParentCourse

variable {c : Surroundings} {input : PunchInput} {p q r : Puncher} {effects later : List PunchEffect}

/-- An answer, or the want of one, and nothing else. -/
theorem of_opening (opening : Opening c input p q effects) : ParentCourse c input p q effects := by
  have course := ParentCourse.opened opening .refl
  rwa [List.append_nil] at course

/-- What follows where nothing is told of an answer itself. -/
theorem of_silent (opening : Opening c input p q []) (moves : ParentMoves c input q r later) : ParentCourse c input p r later :=
  .opened opening moves

end ParentCourse

/-- The slots with their keys, as far as they satisfy a condition. -/
theorem nodup_filter_entries (slots : Table Socket Slot) (keep : Socket × Slot → Bool) :
    ((slots.entries.filter keep).map (·.1)).Nodup := slots.nodup.sublist (List.filter_sublist.map _)

theorem get?_of_mem_filter_entries {slots : Table Socket Slot} {keep : Socket × Slot → Bool} {entry : Socket × Slot}
    (member : entry ∈ slots.entries.filter keep) : slots.get? entry.1 = some entry.2 :=
  Table.get?_eq_some_iff.mpr (List.mem_filter.mp member).1

section

variable {c : Surroundings} {input : PunchInput} {p q : Puncher} {effects : List PunchEffect} {key : Socket} {slot : Slot}

theorem request_eq (known : p.slots.get? key = some slot) (idle : slot.pending = none) (c : Surroundings) (body : Body) :
    ∃ alarms, p.request c key body =
      (p.asked key slot (p.freshRequest c body) alarms, [.send (p.question c slot (p.freshRequest c body))]) := by
  refine ⟨p.alarms.arm (c.chance.ticket p.drawn) (c.now + p.backoff.first) (.parentTimeout (c.chance.ticket p.drawn)), ?_⟩
  simp only [request, draw, sendRequest, known, idle]
  rfl

theorem enroll_move (unhurried : ∀ id, input ≠ .alarm (.parentTimeout id)) (server : Address) :
    ParentMove c input p (p.enroll c server).1 (p.enroll c server).2 := by
  unfold enroll
  dsimp only
  split
  · exact .rests (.refl p)
  · rename_i free
    simp only [ge_iff_le, Bool.or_eq_true, decide_eq_true_eq, not_or, Nat.not_le, Bool.not_eq_true, Option.isSome_eq_false_iff,
      Option.isNone_iff_eq_none] at free
    generalize slot_eq : (p.slots.get? server.socket).getD ⟨server, false, none⟩ = slot at free ⊢
    obtain ⟨⟨room, unregistered⟩, idle⟩ := free
    have entered : ({ p with slots := p.slots.insert server.socket slot } : Puncher).slots.get? server.socket = some slot :=
      (Table.get?_insert ..).trans (if_pos rfl)
    obtain ⟨alarms, asked⟩ := request_eq entered idle c (.registerRequest 0 p.me.overlay)
    rw [asked]
    have same : ∀ old, p.slots.get? server.socket = some old → old = slot := by
      rintro old known
      rw [← slot_eq, known, Option.getD_some]
    have move : ParentMove c input p (p.asked server.socket slot (p.freshRequest c (.registerRequest 0 p.me.overlay)) alarms) _ :=
      .enrolls unhurried same unregistered idle room rfl
    rw [Puncher.asked, Table.insert_insert]
    exact move

theorem fill_parentMoves (unhurried : ∀ id, input ≠ .alarm (.parentTimeout id)) : ParentMoves c input p (p.fill c).1 (p.fill c).2 := by
  have drawn : p.Rests { p with drawn := p.drawn + 1 } [] := .elsewhere (Nat.le_add_right ..) rfl
  exact .fold (fun server q => .single (enroll_move unhurried server)) _ (.single (.rests drawn))

theorem startEnrollment_parentMoves (unhurried : ∀ id, input ≠ .alarm (.parentTimeout id)) :
    ParentMoves c input p (p.startEnrollment c).1 (p.startEnrollment c).2 := by
  unfold startEnrollment
  split
  · exact .refl
  · have armed : ∀ alarms, p.Rests { p with drawn := p.drawn + 1, enrolling := true, alarms } [] := fun _ =>
      .elsewhere (Nat.le_add_right ..) rfl
    exact (ParentMoves.single (.rests (armed _))).trans (fill_parentMoves unhurried)

theorem lose_move (key : Socket) : ParentMove c input p (p.lose key).1 (p.lose key).2 := by
  unfold lose
  split
  · rename_i slot known
    split
    · rename_i registered
      exact .loses known registered
    · exact .rests (.refl p)
  · exact .rests (.refl p)

theorem refresh_parentMoves (unhurried : ∀ id, input ≠ .alarm (.parentTimeout id)) :
    ParentMoves c input p (p.refresh c).1 (p.refresh c).2 := by
  refine ParentMoves.followedBy (ParentMoves.foldSlots ?_ (nodup_filter_entries ..) .refl fun entry => get?_of_mem_filter_entries)
    (fill_parentMoves unhurried)
  intro entry member q found
  have keep := (List.mem_filter.mp member).2
  rw [Bool.and_eq_true, Option.isNone_iff_eq_none] at keep
  obtain ⟨registered, idle⟩ := keep
  obtain ⟨alarms, asked⟩ := request_eq found idle c .keepAliveRequest
  rw [asked]
  refine ⟨.single (.renews unhurried found registered idle), fun other apart => ?_⟩
  exact (Table.get?_insert ..).trans (if_neg apart)

/-- To leave a parent is to tell it, and then to lose it. -/
theorem leave_parentMoves (found : p.slots.get? key = some slot) (registered : slot.registered = true) :
    ParentMoves c input p (p.leave c key slot.address).1 (p.leave c key slot.address).2 ∧
      ∀ other, other ≠ key → (p.leave c key slot.address).1.slots.get? other = p.slots.get? other := by
  have told : p.Rests { p with drawn := p.drawn + 1 }
      [.send { Message.plain (p.contactAt c p.mainPort) slot.address (.unregisterRequest 0 .accepted) with
        ticket := c.chance.ticket p.drawn }] := .elsewhere (Nat.le_add_right ..) rfl
  have lost : ParentMove c input { p with drawn := p.drawn + 1 } _ _ := .loses found registered
  simp only [leave, draw, Table.modify_eq_insert found]
  refine ⟨(ParentMoves.single (.rests told)).trans (.single lost), fun other apart => ?_⟩
  exact (Table.get?_insert ..).trans (if_neg apart)

theorem unregister_parentMoves : ParentMoves c input p (p.unregister c).1 (p.unregister c).2 := by
  refine ParentMoves.fold (fun key q => .single (.rests (closePath_rests key))) _ ?_
  refine ParentMoves.foldSlots ?_ (nodup_filter_entries ..) .refl fun entry => get?_of_mem_filter_entries
  exact fun entry member q found => leave_parentMoves found (List.mem_filter.mp member).2

/-- An answer that a slot waits for is taken from it. -/
theorem takeResponse_cases (p : Puncher) (response : Message) :
    p.requests.get? response.ticket = none ∧ p.takeResponse response = (none, p) ∨
      ∃ key, p.requests.get? response.ticket = some key ∧ p.takeResponse response =
        (if p.slots.contains key then some key else none,
          { p with
            requests := p.requests.erase response.ticket
            slots := p.slots.modify key fun slot => { slot with pending := none }
            alarms := p.alarms.drop response.ticket }) := by
  unfold takeResponse
  split
  · rename_i stray
    exact .inl ⟨stray, rfl⟩
  · rename_i key mapped
    exact .inr ⟨key, mapped, rfl⟩

theorem onRegisterResponse_course {answer : Message} {remote here : Socket} {status : RegisterStatus}
    (answers : answer.body = .registerResponse status) :
    ParentCourse c (.command (.inbound answer remote here)) p (p.onRegisterResponse answer status).1
      (p.onRegisterResponse answer status).2 := by
  unfold onRegisterResponse
  rcases p.takeResponse_cases answer with ⟨stray, taken⟩ | ⟨key, mapped, taken⟩
  · rw [taken]
    cases status <;> exact .plain .refl
  · rw [taken]
    have settled : ∀ alarms, Opening c (.command (.inbound answer remote here)) p { p with
      requests := p.requests.erase answer.ticket, slots := p.slots.modify key fun slot => { slot with pending := none }, alarms } [] :=
      fun _ => .settles mapped
    cases known : p.slots.get? key with
    | none =>
      rw [Table.not_contains_of_get?_eq_none known]
      cases status <;> exact .of_opening (settled _)
    | some slot =>
      rw [Table.contains_of_get? known, if_pos rfl]
      cases status with
      | rejected => exact .of_silent (settled _) (.single (lose_move key))
      | accepted =>
        have cleared : (p.slots.insert key { slot with pending := none }).get? key = some { slot with pending := none } :=
          (Table.get?_insert ..).trans (if_pos rfl)
        simp only [Table.modify_eq_insert known, Table.modify_eq_insert cleared, Table.insert_insert, cleared, Option.map_some,
          Option.getD_some]
        exact .of_opening (.accepts rfl answers mapped known)

theorem onKeepAliveResponse_course {answer : Message} {remote here : Socket} (status : KeepAliveStatus) :
    ParentCourse c (.command (.inbound answer remote here)) p (p.onKeepAliveResponse c answer status).1
      (p.onKeepAliveResponse c answer status).2 := by
  unfold onKeepAliveResponse
  rcases p.takeResponse_cases answer with ⟨stray, taken⟩ | ⟨key, mapped, taken⟩
  · rw [taken]
    cases status <;> exact .plain .refl
  · rw [taken]
    dsimp only
    split
    · exact .of_silent (.settles mapped) (ParentMoves.followedBy (.single (lose_move _)) (fill_parentMoves (by simp)))
    · exact .of_opening (.settles mapped)

theorem onExpire_parentMoves (unhurried : ∀ id, input ≠ .alarm (.parentTimeout id)) (remote : Socket) :
    ParentMoves c input p (p.onExpire c remote).1 (p.onExpire c remote).2 := by
  unfold onExpire
  split
  · exact ParentMoves.followedBy (.single (lose_move _)) (fill_parentMoves unhurried)
  · exact .refl

theorem onParentTimeout_course (id : Ticket) :
    ParentCourse c (.alarm (.parentTimeout id)) p (p.onParentTimeout c id).1 (p.onParentTimeout c id).2 := by
  unfold onParentTimeout
  split
  · exact .plain .refl
  · rename_i key mapped
    have settled : ∀ halted, Opening c (.alarm (.parentTimeout id)) p { p with
      requests := p.requests.erase id, slots := p.slots.modify key fun slot => { slot with pending := none }, halted } [] :=
      fun _ => .settles mapped
    dsimp only
    split
    · rename_i unknown
      rw [Table.modify_eq_self unknown] at settled
      exact .of_opening (settled _)
    · rename_i slot known
      rw [Table.modify_eq_insert known] at settled
      split
      · rename_i idle
        have same : { slot with pending := none } = slot := by rw [← idle]
        rw [same, Table.insert_eq_self known] at settled
        exact .of_opening (settled _)
      · rename_i request waits
        split
        · exact .of_silent (settled _) (.single (lose_move key))
        · rename_i some_left
          split
          · exact .of_opening (settled true)
          · rename_i rto next
            unfold sendRequest
            simp only [draw, arm, Table.get?_insert, if_true, Table.insert_insert]
            exact .of_opening (.resends rfl mapped known waits some_left)

theorem inbound_rests {message : Message} {remote here : Socket}
    (unstirred : ¬ p.Stirs (.command (.inbound message remote here))) :
    p.Rests (p.inbound c message remote here).1 (p.inbound c message remote here).2 := by
  have unasked : p.requests.contains message.ticket = false → p.takeResponse message = (none, p) := by
    intro stray
    rcases p.takeResponse_cases message with ⟨_, taken⟩ | ⟨key, mapped, _⟩
    · exact taken
    · cases stray.symm.trans (Table.contains_of_get? mapped)
  unfold inbound
  simp only [Stirs] at unstirred
  split
  · exact onPing_rests ..
  · exact onPong_rests ..
  · exact onForwarded_rests ..
  · exact onConnectResponse_rests ..
  · rename_i status answers
    simp only [answers, Bool.not_eq_true] at unstirred
    rw [onRegisterResponse, unasked unstirred]
    cases status <;> exact .refl p
  · rename_i status answers
    simp only [answers, Bool.not_eq_true] at unstirred
    rw [onKeepAliveResponse, unasked unstirred]
    cases status <;> exact .refl p
  · rename_i ends
    simp only [ends] at unstirred
    rw [onExpire, if_neg unstirred]
    exact .refl p
  · exact .refl p

theorem inbound_course {message : Message} {remote here : Socket} (stirred : p.Stirs (.command (.inbound message remote here))) :
    ParentCourse c (.command (.inbound message remote here)) p (p.inbound c message remote here).1 (p.inbound c message remote here).2 := by
  unfold inbound
  simp only [Stirs] at stirred
  split at stirred
  · rename_i status answers
    rw [answers]
    exact onRegisterResponse_course answers
  · rename_i status answers
    rw [answers]
    exact onKeepAliveResponse_course status
  · rename_i ends
    rw [ends]
    exact .plain (onExpire_parentMoves (by simp) remote)
  · exact stirred.elim

theorem unregister_rests (free : ∀ key slot, p.slots.get? key = some slot → slot.registered = false) :
    p.Rests (p.unregister c).1 (p.unregister c).2 := by
  have nobody : p.slots.entries.filter (·.2.registered) = [] := by
    refine List.filter_eq_nil_iff.mpr fun entry member => ?_
    rw [free entry.1 entry.2 (Table.get?_eq_some_iff.mpr member)]
    exact Bool.false_ne_true
  simp only [unregister, nobody, List.foldl_nil]
  exact .fold (fun key q => closePath_rests key) _ (.refl p)

/-- Whatever does not stir a puncher leaves its parents alone. -/
theorem react_rests (unstirred : ¬ p.Stirs input) (c : Surroundings) : p.Rests (p.react c input).1 (p.react c input).2 := by
  cases input with
  | command command =>
    simp only [react, handle]
    split
    · exact .refl p
    · cases command with
      | connect target grant => exact connect_rests ..
      | probe target => exact probe_rests _
      | inbound message remote here => exact inbound_rests unstirred
      | startEnrollment => exact absurd trivial unstirred
      | closePath key => exact closePath_rests key
      | unregister =>
        refine unregister_rests fun key slot known => ?_
        by_contra registered
        exact unstirred ⟨key, slot, known, Bool.not_eq_false _ ▸ registered⟩
  | alarm alarm =>
    simp only [react, onAlarm]
    split
    · exact .refl p
    · cases alarm with
      | retry key id => exact retry_rests ..
      | deadline key id => exact onDeadline_rests ..
      | probeExpired id => exact .elsewhere (Nat.le_refl _) rfl
      | pathExpired key id => exact onPathExpired_rests ..
      | parentTimeout id =>
        have unmapped : p.requests.get? id = none := Table.get?_eq_none unstirred
        simp only [onParentTimeout, unmapped]
        exact .refl p
      | refresh => exact absurd trivial unstirred

/-- What a puncher does about its parents, whatever it is told. -/
theorem react_course (input : PunchInput) : ParentCourse c input p (p.react c input).1 (p.react c input).2 := by
  by_cases stirred : p.Stirs input
  · cases input with
    | command command =>
      have unhurried : ∀ id, PunchInput.command command ≠ .alarm (.parentTimeout id) := by simp
      simp only [react, handle]
      split
      · exact .plain .refl
      · cases command with
        | inbound message remote here => exact inbound_course stirred
        | startEnrollment => exact .plain (startEnrollment_parentMoves unhurried)
        | unregister => exact .plain unregister_parentMoves
        | _ => exact stirred.elim
    | alarm alarm =>
      simp only [react, onAlarm]
      split
      · exact .plain .refl
      · cases alarm with
        | parentTimeout id => exact onParentTimeout_course id
        | refresh => exact .plain (refresh_parentMoves (by simp))
        | _ => exact stirred.elim
  · exact .plain (.single (.rests (react_rests stirred c)))

end

end Puncher

end NatTraversal
