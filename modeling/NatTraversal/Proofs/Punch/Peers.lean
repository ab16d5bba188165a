import NatTraversal.Proofs.Punch.Phases
import NatTraversal.Proofs.Punch.Requests

namespace NatTraversal

/-- What a log has led to for one peer. -/
inductive PeerPhase.Trace (key : PeerKey) : List Puncher.Deed → PeerPhase → Prop where
  | start : Trace key [] .idle
  | step {log : List Puncher.Deed} {deed : Puncher.Deed} {phase later : PeerPhase} (before : Trace key log phase)
    (step : Step key deed.input phase (Puncher.eventsOf key deed.effects) later) : Trace key (log ++ [deed]) later

namespace Puncher

section

variable {c : Surroundings} {input : PunchInput} {p q : Puncher} {effects : List PunchEffect}

theorem Moves.apart (moves : Moves c input p q effects) (apart : p.Apart) : q.Apart := by
  induction moves with
  | refl => exact apart
  | step before move ih => exact move.apart ih

/-- Whether the ticket of every handshake's pings leads to the handshake. -/
def Named (p : Puncher) : Prop := ∀ key hs, p.handshakes.get? key = some hs → p.byPing.get? hs.pingId = some key

theorem Named.keep (named : p.Named) {own : PeerKey} {hs kept : Handshake} (found : p.handshakes.get? own = some hs)
    (handshakes : q.handshakes = p.handshakes.insert own kept) (byPing : q.byPing = p.byPing) (same : kept.pingId = hs.pingId) :
    q.Named := by
  intro key later known
  rw [byPing]
  rw [handshakes, Table.get?_insert] at known
  split at known
  · rename_i mine
    cases known
    rw [same, mine]
    exact named own hs found
  · exact named key later known

theorem Named.begun (named : p.Named) (ticketed : p.Ticketed c.chance) (distinct : c.chance.Distinct (p.drawn + 3)) {hs : Handshake}
    (ping : hs.pingId = c.chance.ticket p.drawn) : (p.begun c hs).Named := by
  intro key later known
  rw [Puncher.begun, Table.get?_insert] at known
  split at known
  · rename_i mine
    cases known
    rw [mine]
    exact (Table.get?_insert ..).trans (if_pos rfl)
  · have other : later.pingId ≠ hs.pingId := by
      intro same
      have worn : p.Wears (.ping key) (c.chance.ticket p.drawn) := ⟨later, known, same.trans ping⟩
      exact ticketed.unworn distinct (Nat.le_refl _) (by omega) _ worn
    exact (Table.get?_insert ..).trans ((if_neg other).trans (named key later known))

theorem Named.erase (named : p.Named) (ticketed : p.Ticketed c.chance) {own : PeerKey} {hs : Handshake}
    (found : p.handshakes.get? own = some hs) (handshakes : q.handshakes = p.handshakes.erase own)
    (byPing : q.byPing = p.byPing.erase hs.pingId) : q.Named := by
  intro key later known
  rw [handshakes, Table.get?_erase] at known
  split at known
  · cases known
  · rename_i apart
    have other : later.pingId ≠ hs.pingId := by
      intro same
      have one := ticketed.single (.ping key) (.ping own) hs.pingId ⟨later, known, same⟩ ⟨hs, found, rfl⟩
      exact apart (TicketRole.ping.inj one)
    rw [byPing, Table.get?_erase, if_neg other]
    exact named key later known

theorem Named.of_frame (named : p.Named) (handshakes : q.handshakes = p.handshakes) (byPing : q.byPing = p.byPing) : q.Named := by
  intro key hs known
  rw [byPing]
  exact named key hs (handshakes ▸ known)

theorem Move.named (move : Move c input p q effects) (named : p.Named) (ticketed : p.Ticketed c.chance)
    (distinct : c.chance.Distinct q.drawn) : q.Named := by
  cases move with
  | aside aside asleep => exact named.of_frame (by rw [aside.frame]) (by rw [aside.frame])
  | hears given asks found aimed => exact named.keep found rfl rfl rfl
  | follows given asks found elsewhere same => exact named.keep found rfl rfl (by rw [same]; rfl)
  | crosses given asks found same => exact named.keep found rfl rfl (by rw [same]; rfl)
  | notes given found refused => exact named.keep found rfl rfl rfl
  | retries given found some_left early next => exact named.keep found rfl rfl rfl
  | responds given asks idle gone same => exact named.begun ticketed distinct (by rw [same]; rfl)
  | calls given idle gone allowed granted same => exact named.begun ticketed distinct (by rw [same]; rfl)
  | fails found own error => exact named.erase ticketed found rfl rfl
  | verifies given answer owned found => exact named.erase ticketed found rfl rfl
  | closes found asleep => exact named.of_frame rfl rfl
  | stalls frame spares stuck => exact named.of_frame (by rw [frame]) (by rw [frame])
  | _ => exact named

/-- A ticket that has been drawn and stands for nothing never stands for anything again. -/
theorem Move.unworn (move : Move c input p q effects) (distinct : c.chance.Distinct q.drawn) {id : Ticket}
    (drawn : c.chance.Draws 0 p.drawn id) (unworn : ∀ role, ¬ p.Wears role id) (role : TicketRole) : ¬ q.Wears role id := by
  intro worn
  obtain ⟨purpose, wears⟩ := move.wears
  rcases wears role id worn with old | ⟨n, first, last, same, _⟩
  · exact unworn role old
  · obtain ⟨m, _, before, ticket⟩ := drawn
    have := distinct m n (by omega) last (ticket.symm.trans same)
    omega

theorem Moves.unworn (moves : Moves c input p q effects) (distinct : c.chance.Distinct q.drawn) {id : Ticket}
    (drawn : c.chance.Draws 0 p.drawn id) (unworn : ∀ role, ¬ p.Wears role id) (role : TicketRole) : ¬ q.Wears role id := by
  induction moves generalizing role with
  | refl => exact unworn role
  | step before move ih =>
    have earlier := ih (distinct.mono move.drawn_le)
    exact move.unworn distinct (drawn.mono (Nat.le_refl _) before.drawn_le) earlier role

end

section

variable {chance : Chance} {config : Config} {me : Identity} {start p q : Puncher} {log more : List Deed} {id : Ticket}

theorem Run.apart (run : Run chance (ofConfig config me) log p) : p.Apart := by
  induction run with
  | start =>
    intro key hs known
    cases known
  | @step p log c before same alarms input ih => exact (react_moves (p := { p with alarms }) input).apart ih

theorem Moves.named {c : Surroundings} {input : PunchInput} {effects : List PunchEffect} (moves : Moves c input p q effects)
    (named : p.Named) {sent : List PunchEffect} (accounted : p.Accounted c.chance sent) (distinct : c.chance.Distinct q.drawn) :
    q.Named := by
  induction moves with
  | refl => exact named
  | step before move ih =>
    have earlier := distinct.mono move.drawn_le
    exact move.named (ih earlier) (before.accounted accounted earlier).ticketed distinct

theorem Run.named (run : Run chance (ofConfig config me) log p) (distinct : chance.Distinct p.drawn) : p.Named := by
  induction run with
  | start =>
    intro key hs known
    cases known
  | @step p log c before same alarms input ih =>
    subst same
    have moves := react_moves (c := c) (p := { p with alarms }) input
    have earlier := distinct.mono moves.drawn_le
    exact moves.named (ih earlier) ((before.accounted earlier).with_alarms alarms) distinct

/-- What a ping's ticket leads to is the handshake that it is of. -/
theorem Run.byPing_iff (run : Run chance (ofConfig config me) log p) (distinct : chance.Distinct p.drawn) (id : Ticket) (key : PeerKey) :
    p.byPing.get? id = some key ↔ ∃ hs, p.handshakes.get? key = some hs ∧ hs.pingId = id := by
  constructor
  · exact (run.accounted distinct).owned id key
  · rintro ⟨hs, found, rfl⟩
    exact run.named distinct key hs found

theorem Run.unworn (run : Run chance p more q) (distinct : chance.Distinct q.drawn) (drawn : chance.Draws 0 p.drawn id)
    (unworn : ∀ role, ¬ p.Wears role id) (role : TicketRole) : ¬ q.Wears role id := by
  induction run generalizing role with
  | start => exact unworn role
  | @step q log c before same alarms input ih =>
    subst same
    have moves := react_moves (c := c) (p := { q with alarms }) input
    have earlier := ih (distinct.mono moves.drawn_le)
    exact moves.unworn distinct (drawn.mono (Nat.le_refl _) before.drawn_le) earlier role

theorem react_pong {pong : Message} (going : p.halted = false) (answer : pong.body = .punchPong) (c : Surroundings)
    (remote here : Socket) : p.react c (.command (.inbound pong remote here)) = p.onPong c pong remote := by
  simp only [react, handle, going, Bool.false_eq_true, if_false, inbound, answer]

/-- A pong whose ticket stands for nothing changes nothing. -/
theorem Accounted.react_pong_eq_self {sent : List PunchEffect} (accounted : p.Accounted chance sent) {pong : Message}
    (answer : pong.body = .punchPong) (unworn : ∀ role, ¬ p.Wears role pong.ticket) (c : Surroundings) (remote here : Socket) :
    p.react c (.command (.inbound pong remote here)) = (p, []) := by
  cases going : p.halted with
  | true => exact react_halted going c _
  | false =>
    rw [react_pong going answer]
    refine onPong_eq_self ?_ ?_ c remote
    · refine Option.eq_none_iff_forall_ne_some.mpr fun key owned => unworn (.ping key) ?_
      exact accounted.owned pong.ticket key owned
    · refine Option.eq_none_iff_forall_ne_some.mpr fun probe asked => unworn .spare (.inl ?_)
      exact Option.isSome_of_eq_some asked

/-- Once a pong has verified a handshake, its ticket stands for nothing. -/
theorem Accounted.unworn_of_verified {c : Surroundings} {sent : List PunchEffect} (accounted : p.Accounted c.chance sent)
    (going : p.halted = false) {pong : Message} {key : PeerKey} (answer : pong.body = .punchPong)
    (owned : p.byPing.get? pong.ticket = some key) {remote here : Socket}
    (distinct : c.chance.Distinct (p.react c (.command (.inbound pong remote here))).1.drawn) (role : TicketRole) :
    ¬ (p.react c (.command (.inbound pong remote here))).1.Wears role pong.ticket := by
  obtain ⟨hs, found, ping⟩ := accounted.owned pong.ticket key owned
  have verified : p.react c (.command (.inbound pong remote here)) =
      (p.settled c key hs remote, p.leftover key ++ p.tidings c key hs remote) := by
    rw [react_pong going answer, onPong]
    simp only [owned]
    exact verify_eq found c remote
  rw [verified] at distinct ⊢
  intro worn
  have own : p.Wears (.ping key) pong.ticket := ⟨hs, found, ping⟩
  rcases wears_settled worn with old | ⟨n, first, last, same, _⟩
  · cases accounted.ticketed.single role (.ping key) _ old own
    obtain ⟨later, still, _⟩ := worn
    rw [settled, Table.get?_erase, if_pos rfl] at still
    cases still
  · rw [same] at own
    exact accounted.ticketed.unworn distinct first last _ own

/-- What holds for every peer of a puncher, whatever it has been told. -/
structure PeerLaws (chance : Chance) (log : List Deed) (p : Puncher) : Prop where
  /-- Each peer goes from phase to phase as it is told, until a timeout too long to measure ends everything. -/
  traced : ∃ lived dead, log = lived ++ dead ∧ (dead ≠ [] → p.halted = true) ∧ (∀ deed ∈ dead, deed.effects = []) ∧
    ∀ key, PeerPhase.Trace key lived (p.phase key)
  apart : ∀ key hs, p.handshakes.get? key = some hs → p.paths.get? key = none
  byPing : ∀ id key, p.byPing.get? id = some key ↔ ∃ hs, p.handshakes.get? key = some hs ∧ hs.pingId = id
  others : ∀ c alarms input key, input ≠ .command .unregister → p.concern? input ≠ some key →
    (({ p with alarms }).react c input).1.handshakes.get? key = p.handshakes.get? key ∧
      (({ p with alarms }).react c input).1.paths.get? key = p.paths.get? key
  /-- A ping's ticket verifies a handshake once. -/
  once : ∀ c alarms pong key remote here more q, c.chance = chance → pong.body = .punchPong →
    p.byPing.get? pong.ticket = some key → Run chance (({ p with alarms }).react c (.command (.inbound pong remote here))).1 more q →
    chance.Distinct q.drawn → ∀ c alarms later remote here, later.body = .punchPong → later.ticket = pong.ticket →
      ({ q with alarms }).react c (.command (.inbound later remote here)) = ({ q with alarms }, [])

theorem Run.traced (run : Run chance (ofConfig config me) log p) :
    ∃ lived dead, log = lived ++ dead ∧ (dead ≠ [] → p.halted = true) ∧ (∀ deed ∈ dead, deed.effects = []) ∧
      ∀ key, PeerPhase.Trace key lived (p.phase key) := by
  induction run with
  | start => exact ⟨[], [], rfl, by simp, by simp, fun key => .start⟩
  | @step p log c before same alarms input ih =>
    obtain ⟨lived, dead, rfl, stopped, silent, traces⟩ := ih
    -- A puncher that has halted adds to the dead end of the log only.
    by_cases halted : p.halted = true
    · rw [react_halted (p := { p with alarms }) halted]
      refine ⟨lived, dead ++ [⟨input, []⟩], by simp, fun _ => halted, ?_, traces⟩
      intro deed member
      rcases List.mem_append.mp member with old | last
      · exact silent deed old
      · rw [List.mem_singleton.mp last]
    · have going : p.halted = false := Bool.not_eq_true _ ▸ halted
      obtain rfl : dead = [] := by
        by_contra some_dead
        exact halted (stopped some_dead)
      rw [List.append_nil] at before ⊢
      refine ⟨_, [], (List.append_nil _).symm, by simp, by simp, fun key => ?_⟩
      exact .step (traces key) (react_step (p := { p with alarms }) going before.apart c input key)

theorem Run.halted (run : Run chance p more q) (halted : p.halted = true) : q.halted = true := by
  induction run with
  | start => exact halted
  | @step q log c before same alarms input ih =>
    rw [react_halted (p := { q with alarms }) ih]
    exact ih

/-- A pong under the ticket of one that has verified a handshake changes nothing any more. -/
theorem Run.react_later_pong (run : Run chance (ofConfig config me) log p) {c : Surroundings} (same : c.chance = chance)
    {alarms : Alarms PunchAlarm} {pong : Message} {key : PeerKey} {remote here : Socket} (answer : pong.body = .punchPong)
    (owned : p.byPing.get? pong.ticket = some key)
    (after : Run chance (({ p with alarms }).react c (.command (.inbound pong remote here))).1 more q)
    (distinct : chance.Distinct q.drawn) {later : Message} (answers : later.body = .punchPong) (named : later.ticket = pong.ticket)
    (d : Surroundings) (left : Alarms PunchAlarm) (from_there at_here : Socket) :
    ({ q with alarms := left }).react d (.command (.inbound later from_there at_here)) = ({ q with alarms := left }, []) := by
  by_cases stopped : q.halted = true
  · exact react_halted (p := { q with alarms := left }) stopped d _
  · have going : p.halted = false := by
      by_contra halted
      rw [Bool.not_eq_false] at halted
      rw [react_halted (p := { p with alarms }) halted] at after
      exact stopped (after.halted halted)
    have whole := (Run.step run same alarms (.command (.inbound pong remote here))).trans after
    have between := distinct.mono after.drawn_le
    have moves := react_moves (c := c) (p := { p with alarms }) (.command (.inbound pong remote here))
    have accounted := (run.accounted (between.mono moves.drawn_le)).with_alarms alarms
    have drawn : chance.Draws 0 p.drawn pong.ticket :=
      accounted.ticketed.drawn (.ping key) pong.ticket (accounted.owned pong.ticket key owned)
    -- The first pong has used the ticket up, and no later draw gives it again.
    have unworn : ∀ role, ¬ q.Wears role pong.ticket := by
      refine after.unworn distinct (drawn.mono (Nat.le_refl _) moves.drawn_le) ?_
      subst same
      exact accounted.unworn_of_verified going answer owned between
    refine ((whole.accounted distinct).with_alarms left).react_pong_eq_self answers ?_ d from_there at_here
    rw [named]
    exact unworn

/-- Whatever a puncher is told and whenever its alarms ring, it keeps the laws of its peers. -/
theorem Run.peerLaws (run : Run chance (ofConfig config me) log p) (distinct : chance.Distinct p.drawn) : p.PeerLaws chance log where
  traced := run.traced
  apart := run.apart
  byPing := run.byPing_iff distinct
  others c alarms _ _ single other := react_other (p := { p with alarms }) run.apart c single other
  once _ _ _ _ _ _ _ _ same answer owned after later_distinct d left _ from_there at_here answers named :=
    run.react_later_pong same answer owned after later_distinct answers named d left from_there at_here

/-- An open node calls another, and has a path to it once a pong has come. -/
theorem called_peerLaws :
    let c : Surroundings := ⟨0, 0, (Roster.empty 3).enter 1 .unrestricted, .counting 0⟩
    let caller := ofConfig {} ⟨⟨.ofOctets 10 0 0 1, 4000, 1⟩, 0, none⟩
    let target : Contact := ⟨⟨.ofOctets 10 0 0 2, 4000, 2⟩, 0, .unrestricted, []⟩
    let call : PunchInput := .command (.connect target (.ok []))
    let called := caller.react c call
    let pong : Message := ⟨target, caller.me.address, (Chance.counting 0).ticket 0, .udp, .punchPong⟩
    let answer : PunchInput := .command (.inbound pong target.address.socket caller.me.address.socket)
    let answered := called.1.react c answer
    answered.1.PeerLaws (.counting 0) [⟨call, called.2⟩, ⟨answer, answered.2⟩] ∧ called.1.phase target.key = .running ∧
      answered.1.phase target.key = .cached ⟨target.address.socket, 4000⟩ := by
  intro c caller target call called pong answer answered
  have run : Run (.counting 0) caller [⟨call, called.2⟩, ⟨answer, answered.2⟩] answered.1 :=
    .step (c := c) (.step (c := c) .start rfl {} call) rfl called.1.alarms answer
  have distinct : (Chance.counting 0).Distinct answered.1.drawn := Chance.counting_distinct (by decide +kernel)
  exact ⟨run.peerLaws distinct, by decide +kernel, by decide +kernel⟩

end

end Puncher

end NatTraversal
