import NatTraversal.Proofs.Punch.Sent

namespace NatTraversal

/-- Whether an effect asks a parent, under a ticket, to pass a request on. -/
def PunchEffect.asks (id : Ticket) : PunchEffect → Bool
  | .send message => message.ticket = id ∧ message.body.opcode = .connectRequest
  | _ => false

/-- How many connect requests go out under a ticket. -/
def requestsUnder (id : Ticket) (effects : List PunchEffect) : Nat := effects.countP (·.asks id)

/-- What an input has been answered with, unless it is one that prompts. -/
def PunchInput.unprompted (input : PunchInput) (effects : List PunchEffect) : List PunchEffect :=
  if input.prompts = true then [] else effects

theorem PunchInput.unprompted_append (input : PunchInput) (first second : List PunchEffect) :
    input.unprompted (first ++ second) = input.unprompted first ++ input.unprompted second := by
  unfold unprompted
  split <;> rfl

theorem requestsUnder_append (id : Ticket) (first second : List PunchEffect) :
    requestsUnder id (first ++ second) = requestsUnder id first + requestsUnder id second := List.countP_append

/-- Where a request is counted there is one. -/
theorem exists_of_requestsUnder {id : Ticket} {effects : List PunchEffect} (asked : requestsUnder id effects ≠ 0) :
    ∃ message, .send message ∈ effects ∧ message.ticket = id ∧ message.body.opcode = .connectRequest := by
  obtain ⟨effect, member, asks⟩ := List.countP_pos_iff.mp (Nat.pos_of_ne_zero asked)
  cases effect with
  | send message => exact ⟨message, member, of_decide_eq_true asks⟩
  | release ports => cases asks
  | report event => cases asks

theorem requestsUnder_pongs (id : Ticket) (pongs : List Message) (answers : ∀ pong ∈ pongs, pong.body = .punchPong) :
    requestsUnder id (pongs.map .send) = 0 := by
  by_contra asked
  obtain ⟨message, member, _, request⟩ := exists_of_requestsUnder asked
  obtain ⟨_, known, same⟩ := List.mem_map.mp member
  cases same
  rw [answers message known] at request
  cases request

namespace Puncher

section

variable {c : Surroundings} {input : PunchInput} {p q : Puncher} {effects sent free : List PunchEffect} {id : Ticket} {key : PeerKey}
  {later : Handshake}

theorem requestsUnder_attempt_le_one (id : Ticket) (p : Puncher) (c : Surroundings) (hs : Handshake) :
    requestsUnder id (p.attempt c hs) ≤ 1 := by
  let ping := { Message.plain (p.contactAt c hs.punchPort) (.ofSocket hs.remote hs.target.node) .punchPing with ticket := hs.pingId }
  have other : requestsUnder id [.send ping] = 0 := List.countP_eq_zero.mpr (by simp [PunchEffect.asks, ping, Message.plain, Body.opcode])
  have few : ((nextParent? hs).toList.map fun parent => PunchEffect.send
      { Message.plain (p.contactAt c hs.punchPort) parent (.connectRequest hs.target false) with ticket := hs.pingId }).length ≤ 1 := by
    rw [List.length_map]
    exact Option.length_toList_le
  rw [attempt, requestsUnder_append, other]
  exact Nat.le_trans List.countP_le_length few

/-- A connect request goes out aside of handshakes, or alone and for a handshake that is prompted, tried again, or new. -/
theorem Move.asking (move : Move c input p q effects) (asked : requestsUnder id effects ≠ 0) :
    c.chance.Draws p.drawn q.drawn id ∧ q.handshakes = p.handshakes ∨
      ∃ key hs, q.handshakes.get? key = some (attempted hs) ∧ hs.pingId = id ∧ requestsUnder id effects ≤ 1 ∧
        (input.prompts = true ∨ ∀ old, p.handshakes.get? key = some old → hs.attempt = old.attempt + 1) := by
  obtain ⟨message, member, ticket, request⟩ := exists_of_requestsUnder asked
  cases move.sender member with
  | aside fresh same => exact .inl ⟨ticket ▸ fresh, same⟩
  | pong answers =>
    rw [answers] at request
    cases request
  | unnamed none deletes =>
    obtain ⟨node, body⟩ := deletes
    rw [body] at request
    cases request
  | @handshake key hs found tried whole due =>
    obtain ⟨pongs, rfl, answers⟩ := whole
    refine .inr ⟨key, hs, found, (owns_of_mem_attempt tried).1.symm.trans ticket, ?_, due⟩
    rw [requestsUnder_append, requestsUnder_pongs id pongs answers, Nat.zero_add]
    exact requestsUnder_attempt_le_one ..

/-- What a move sends for a handshake that is left pending. -/
theorem Move.asking_pending (move : Move c input p q effects) (ticketed : p.Ticketed c.chance) (distinct : c.chance.Distinct q.drawn)
    (found : q.handshakes.get? key = some later) (asked : requestsUnder later.pingId effects ≠ 0) :
    requestsUnder later.pingId effects ≤ 1 ∧
      (input.prompts = true ∨ ∀ old, p.handshakes.get? key = some old → later.attempt = old.attempt + 1) := by
  rcases move.asking asked with ⟨⟨n, first, last, ticket⟩, same⟩ | ⟨own, hs, known, named, once, due⟩
  · have worn : p.Wears (.ping key) later.pingId := ⟨later, same ▸ found, rfl⟩
    exact absurd (ticket ▸ worn) (ticketed.unworn distinct first last _)
  · have mine : q.Wears (.ping own) later.pingId := ⟨_, known, named⟩
    cases (ticketed.move move distinct).single (.ping own) (.ping key) later.pingId mine ⟨later, found, rfl⟩
    cases known.symm.trans found
    exact ⟨once, due⟩

/-- What a puncher has spent of its transmissions: on each pending handshake, and on some tickets that it has drawn.
`free` is what it has sent without being prompted. -/
structure Thrifty (chance : Chance) (named : Ticket → Prop) (p : Puncher) (sent free : List PunchEffect) : Prop where
  accounted : p.Accounted chance sent
  among : free ⊆ sent
  pending : ∀ key hs, p.handshakes.get? key = some hs → requestsUnder hs.pingId free ≤ hs.attempt + 1
  spent : ∀ id, named id → chance.Draws 0 p.drawn id ∧ requestsUnder id free ≤ p.retries + 1

theorem requestsUnder_undrawn {chance : Chance} (accounted : p.Accounted chance sent) (among : free ⊆ sent) {count : Nat}
    (distinct : chance.Distinct count) (more : p.drawn < count) : requestsUnder (chance.ticket p.drawn) free = 0 := by
  by_contra asked
  obtain ⟨message, member, ticket, request⟩ := exists_of_requestsUnder asked
  rw [accounted.pong_of_undrawn distinct more (among member) ticket] at request
  cases request

/-- Each handshake that is pending after a move has been paid for, with what it sends in the move or without. -/
theorem Move.pending (move : Move c input p q effects) (accounted : p.Accounted c.chance sent) (among : free ⊆ sent)
    (pending : ∀ key hs, p.handshakes.get? key = some hs → requestsUnder hs.pingId free ≤ hs.attempt + 1)
    (distinct : c.chance.Distinct q.drawn) (found : q.handshakes.get? key = some later) :
    requestsUnder later.pingId free ≤ later.attempt + 1 ∧
      (input.prompts = false → requestsUnder later.pingId (free ++ effects) ≤ later.attempt + 1) := by
  have asking := move.asking_pending accounted.ticketed distinct found
  rw [requestsUnder_append]
  cases move.origin found with
  | @edited hs later known edited asleep =>
    have before := pending key hs known
    rw [← edited.pingId, ← edited.attempt] at before
    refine ⟨before, fun unprompted => ?_⟩
    have nothing : requestsUnder later.pingId effects = 0 := by
      by_contra asked
      rcases (asking asked).2 with prompted | tried
      · cases unprompted.symm.trans prompted
      · have := (tried hs known).symm.trans edited.attempt
        omega
    rwa [nothing]
  | @retried hs rto known given some_left early next drawn alarms =>
    have before : requestsUnder (attempted (p.retried c hs rto)).pingId free ≤ hs.attempt + 1 := pending key hs known
    have tries : (attempted (p.retried c hs rto)).attempt = hs.attempt + 1 := rfl
    generalize attempted (p.retried c hs rto) = later at before tries asking ⊢
    omega
  | @opened hs target remote punchPort allocated parent responder idle own same next =>
    have new : requestsUnder (attempted hs).pingId free = 0 := by
      subst same next
      exact requestsUnder_undrawn accounted among distinct (Nat.lt_add_of_pos_right (by decide))
    have tries : (attempted hs).attempt = 0 := by rw [same]; rfl
    generalize attempted hs = later at new tries asking ⊢
    omega

/-- A ticket that has been drawn before is paid for, with what is sent under it or without. -/
theorem Move.spent (move : Move c input p q effects) (later : q.Accounted c.chance sent) (distinct : c.chance.Distinct q.drawn)
    (pending : ∀ key hs, q.handshakes.get? key = some hs → requestsUnder hs.pingId (free ++ effects) ≤ hs.attempt + 1)
    (drawn : c.chance.Draws 0 p.drawn id) (before : requestsUnder id free ≤ p.retries + 1) :
    requestsUnder id (free ++ effects) ≤ p.retries + 1 := by
  by_cases asked : requestsUnder id effects = 0
  · rwa [requestsUnder_append, asked]
  · rcases move.asking asked with ⟨⟨n, first, last, ticket⟩, _⟩ | ⟨key, hs, found, rfl, _, _⟩
    · obtain ⟨m, _, old, same⟩ := drawn
      have growing := move.drawn_le
      have := distinct m n (by omega) last (same.symm.trans ticket)
      omega
    · have total := later.total key _ found
      have few := pending key _ found
      rw [Puncher.retries, move.constant.2.1] at total
      exact Nat.le_trans few (Nat.succ_le_succ (by rw [Puncher.retries]; omega))

theorem Move.thrifty {named : Ticket → Prop} (move : Move c input p q effects) (thrifty : p.Thrifty c.chance named sent free)
    (distinct : c.chance.Distinct q.drawn) : q.Thrifty c.chance named (sent ++ effects) (free ++ input.unprompted effects) := by
  obtain ⟨accounted, among, pending, spent⟩ := thrifty
  have after := move.accounted accounted distinct
  have retries : q.retries = p.retries := by rw [Puncher.retries, Puncher.retries, move.constant.2.1]
  have drawn : ∀ id, named id → c.chance.Draws 0 q.drawn id := fun id own => (spent id own).1.mono (Nat.le_refl _) move.drawn_le
  have still : free ⊆ sent ++ effects := fun effect member => List.mem_append_left _ (among member)
  unfold PunchInput.unprompted
  split
  · rw [List.append_nil]
    refine ⟨after, still, ?_, fun id own => ⟨drawn id own, ?_⟩⟩
    · exact fun key later found => (move.pending accounted among pending distinct found).1
    · rw [retries]
      exact (spent id own).2
  · rename_i prompted
    have left : ∀ key later, q.handshakes.get? key = some later →
        requestsUnder later.pingId (free ++ effects) ≤ later.attempt + 1 := fun key later found =>
      (move.pending accounted among pending distinct found).2 (Bool.not_eq_true _ ▸ prompted)
    refine ⟨after, List.append_subset.mpr ⟨still, List.subset_append_right ..⟩, left, fun id own => ⟨drawn id own, ?_⟩⟩
    rw [retries]
    exact move.spent after distinct left (spent id own).1 (spent id own).2

theorem Moves.thrifty {named : Ticket → Prop} (moves : Moves c input p q effects) (thrifty : p.Thrifty c.chance named sent free)
    (distinct : c.chance.Distinct q.drawn) : q.Thrifty c.chance named (sent ++ effects) (free ++ input.unprompted effects) := by
  induction moves with
  | refl =>
    have nothing : input.unprompted [] = [] := by
      unfold PunchInput.unprompted
      split <;> rfl
    rwa [nothing, List.append_nil, List.append_nil]
  | step before move ih =>
    rw [PunchInput.unprompted_append, ← List.append_assoc, ← List.append_assoc]
    exact move.thrifty (ih (distinct.mono move.drawn_le)) distinct

theorem requestsUnder_closePath (id : Ticket) (p : Puncher) (key : PeerKey) : requestsUnder id (p.closePath key).2 = 0 := by
  by_contra asked
  obtain ⟨message, member, _⟩ := exists_of_requestsUnder asked
  unfold closePath at member
  split at member
  · cases member
  · rcases List.mem_append.mp member with released | closed
    · cases eq_release_of_mem_releasing released
    · cases List.mem_singleton.mp closed

theorem onForwarded_requestsUnder (id : Ticket) (p : Puncher) (c : Surroundings) (initiator : Contact) (parent : Address) :
    requestsUnder id (p.onForwarded c initiator parent).2 ≤ 1 := by
  unfold onForwarded
  dsimp only
  split
  · rw [sendAttempt_insert]
    exact requestsUnder_attempt_le_one ..
  · simp only [followedBy, begin_eq, requestsUnder_append, requestsUnder_closePath, Nat.zero_add]
    exact requestsUnder_attempt_le_one ..

theorem onPing_requestsUnder (id : Ticket) (p : Puncher) (c : Surroundings) (ping : Message) (remote here : Socket) :
    requestsUnder id (p.onPing c ping remote here).2 ≤ 1 := by
  have pong : requestsUnder id [.send (p.pong c ping remote here)] = 0 := by
    refine requestsUnder_pongs id [p.pong c ping remote here] fun pong member => ?_
    rw [List.mem_singleton.mp member]
    rfl
  cases found : p.view.handshake ping.source.key with
  | none =>
    rw [onPing_eq_of_none found, pong]
    exact Nat.zero_le _
  | some hs =>
    by_cases aimed : hs.remote = remote
    · rw [(onPing_spec_of_same found aimed here).2, pong]
      exact Nat.zero_le _
    · rw [(onPing_spec_of_moved found aimed rfl here).2, ← List.singleton_append, requestsUnder_append, pong, Nat.zero_add]
      exact requestsUnder_attempt_le_one ..

/-- A ping or a forwarded request has at most one connect request sent. -/
theorem react_prompted (id : Ticket) (prompted : input.prompts = true) : requestsUnder id (p.react c input).2 ≤ 1 := by
  unfold PunchInput.prompts at prompted
  split at prompted
  · rename_i message remote here
    simp only [react, handle]
    split
    · exact Nat.zero_le _
    · unfold inbound
      split at prompted
      · rename_i asks
        rw [asks]
        exact onPing_requestsUnder ..
      · rename_i peer forwarded asks
        rw [asks, prompted]
        exact onForwarded_requestsUnder ..
      · cases prompted
  · cases prompted

end

/-- What has been sent without being prompted. -/
def unprompted (log : List Deed) : List PunchEffect := log.flatMap fun deed => deed.input.unprompted deed.effects

/-- Whether a ping or a forwarded request has had a connect request sent under a ticket. -/
def Deed.Prompted (id : Ticket) (deed : Deed) : Prop := deed.input.prompts = true ∧ requestsUnder id deed.effects ≠ 0

instance (id : Ticket) (deed : Deed) : Decidable (deed.Prompted id) := inferInstanceAs (Decidable (_ ∧ _))

section

variable {chance : Chance} {config : Config} {me : Identity} {start p q : Puncher} {log more : List Deed} {key : PeerKey} {hs : Handshake}

theorem Run.trans (before : Run chance start log p) (after : Run chance p more q) : Run chance start (log ++ more) q := by
  induction after with
  | start => rwa [List.append_nil]
  | step _ same alarms input ih =>
    rw [← List.append_assoc]
    exact .step ih same alarms input

theorem Run.constant (run : Run chance p more q) : q.backoff = p.backoff := by
  induction run with
  | start => rfl
  | step before same alarms input ih => exact (react_moves input).constant.2.1.trans ih

theorem Run.drawn_le (run : Run chance p more q) : p.drawn ≤ q.drawn := by
  induction run with
  | start => exact Nat.le_refl _
  | @step q log c before same alarms input ih => exact Nat.le_trans ih (react_moves (p := { q with alarms }) input).drawn_le

theorem Thrifty.with_alarms {named : Ticket → Prop} {sent free : List PunchEffect} (thrifty : p.Thrifty chance named sent free)
    (alarms : Alarms PunchAlarm) : ({ p with alarms } : Puncher).Thrifty chance named sent free :=
  ⟨thrifty.accounted.with_alarms alarms, thrifty.among, thrifty.pending, thrifty.spent⟩

theorem Run.thrifty {named : Ticket → Prop} (run : Run chance p more q)
    (thrifty : p.Thrifty chance named (done log) (unprompted log)) (distinct : chance.Distinct q.drawn) :
    q.Thrifty chance named (done (log ++ more)) (unprompted (log ++ more)) := by
  induction run with
  | start => rwa [List.append_nil]
  | @step q more c before same alarms input ih =>
    subst same
    have moves := react_moves (c := c) (p := { q with alarms }) input
    have after := moves.thrifty ((ih (distinct.mono moves.drawn_le)).with_alarms alarms) distinct
    simpa [done, unprompted] using after

theorem thrifty_ofConfig (chance : Chance) (config : Config) (me : Identity) :
    (ofConfig config me).Thrifty chance (fun _ => False) (done []) (unprompted []) where
  accounted := accounted_ofConfig chance config me
  among := List.nil_subset _
  pending _ _ found := by cases found
  spent _ named := named.elim

/-- What has gone out under a ticket has been prompted or not. -/
theorem Run.requestsUnder_le (run : Run chance start log p) (id : Ticket) :
    requestsUnder id (done log) ≤ requestsUnder id (unprompted log) + log.countP (·.Prompted id) := by
  induction run with
  | start => exact Nat.zero_le _
  | @step p log c before same alarms input ih =>
    let deed : Deed := ⟨input, (({ p with alarms }).react c input).2⟩
    have all : done (log ++ [deed]) = done log ++ deed.effects := by simp [done]
    have own : unprompted (log ++ [deed]) = unprompted log ++ input.unprompted deed.effects := by simp [unprompted, deed]
    have last : requestsUnder id deed.effects ≤ requestsUnder id (input.unprompted deed.effects) + [deed].countP (·.Prompted id) := by
      rw [List.countP_singleton]
      by_cases prompted : input.prompts = true
      · have once : requestsUnder id deed.effects ≤ 1 := react_prompted id prompted
        by_cases asked : requestsUnder id deed.effects = 0
        · omega
        · have counts : deed.Prompted id := ⟨prompted, asked⟩
          rw [if_pos (decide_eq_true counts)]
          omega
      · rw [PunchInput.unprompted, if_neg prompted]
        exact Nat.le_add_right ..
    change requestsUnder id (done (log ++ [deed])) ≤ requestsUnder id (unprompted (log ++ [deed])) + (log ++ [deed]).countP _
    rw [all, own, requestsUnder_append, requestsUnder_append, List.countP_append]
    omega

/-- However long a handshake lasts, its connect requests are no more than the transmissions that are configured, one at least,
and the pings and forwarded requests that have had it try again. -/
theorem requestsUnder_le_transmissions (before : Run chance (ofConfig config me) log p)
    (pending : p.handshakes.get? key = some hs) (after : Run chance p more q) (distinct : chance.Distinct q.drawn) :
    requestsUnder hs.pingId (done (log ++ more)) ≤
      max 1 config.punch.backoff.attempts.toNat + (log ++ more).countP (·.Prompted hs.pingId) := by
  have earlier := before.thrifty (thrifty_ofConfig chance config me) (distinct.mono after.drawn_le)
  rw [List.nil_append] at earlier
  have total := earlier.accounted.total key hs pending
  have few := earlier.pending key hs pending
  have drawn := earlier.accounted.ticketed.drawn (.ping key) hs.pingId ⟨hs, pending, rfl⟩
  have named : p.Thrifty chance (fun id => id = hs.pingId) (done log) (unprompted log) := by
    refine ⟨earlier.accounted, earlier.among, earlier.pending, ?_⟩
    rintro _ rfl
    exact ⟨drawn, by omega⟩
  have spent := ((after.thrifty named distinct).spent hs.pingId rfl).2
  have whole := (before.trans after).requestsUnder_le hs.pingId
  have retries : q.retries = config.punch.backoff.attempts.toNat - 1 := by rw [Puncher.retries, after.constant, before.constant]; rfl
  omega

/-- With a single transmission configured, a node that is called by the one that it calls asks twice. -/
theorem crossed_handshake_asks_twice :
    let config : Config := { punch := { backoff := ⟨500, .finite false 5404319552844595 (-52), 1⟩ } }
    let c : Surroundings := ⟨0, 0, (Roster.empty 3).enter 1 .unrestricted, .counting 0⟩
    let server : Contact := ⟨⟨.ofOctets 10 0 0 9, 3478, 9⟩, 0, .unrestricted, []⟩
    let caller := ofConfig config ⟨⟨.ofOctets 10 0 0 1, 4000, 1⟩, 0, none⟩
    let target : Contact :=
      ⟨⟨.ofOctets 10 0 0 2, 4000, 2⟩, 0, .natted .endpointIndependent .portPreservation .endpointIndependent, [server.address]⟩
    let call : PunchInput := .command (.connect target (.ok []))
    let crossing : PunchInput := .command (.inbound (Message.plain server caller.me.address (.connectRequest target true))
      server.address.socket caller.me.address.socket)
    let called := caller.react c call
    let log : List Deed := [⟨call, called.2⟩, ⟨crossing, (called.1.react c crossing).2⟩]
    ∃ hs, called.1.handshakes.get? target.key = some hs ∧ requestsUnder hs.pingId (done log) = 2 ∧
      config.punch.backoff.attempts = 1 ∧ 2 ≤ 1 + log.countP (·.Prompted hs.pingId) := by
  intro config c server caller target call crossing called log
  have before : Run (.counting 0) caller [⟨call, called.2⟩] called.1 := .step (c := c) .start rfl {} call
  have after : Run (.counting 0) called.1 [⟨crossing, (called.1.react c crossing).2⟩] (called.1.react c crossing).1 :=
    .step (c := c) .start rfl called.1.alarms crossing
  have twice : ∃ hs, called.1.handshakes.get? target.key = some hs ∧ requestsUnder hs.pingId (done log) = 2 := by
    refine ⟨((called.1.handshakes.get? target.key).get (by decide +kernel)), ?_, ?_⟩
    · exact (Option.some_get _).symm
    · decide +kernel
  obtain ⟨hs, found, asked⟩ := twice
  have distinct : (Chance.counting 0).Distinct (called.1.react c crossing).1.drawn := Chance.counting_distinct (by decide +kernel)
  have bound := requestsUnder_le_transmissions before found after distinct
  exact ⟨hs, found, asked, rfl, asked ▸ bound⟩

end

end Puncher

end NatTraversal
