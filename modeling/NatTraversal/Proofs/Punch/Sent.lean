import NatTraversal.Proofs.Punch.Tickets

namespace NatTraversal

/-- Whether a message under the ping's ticket of a handshake is the handshake's own, or only answers a ping. -/
def Handshake.Owns (hs : Handshake) (message : Message) : Prop :=
  message.body = .punchPing ∧ message.dest.node = hs.target.node ∨ message.body = .connectRequest hs.target false ∨
    message.body = .punchPong

/-- Whether an input can have a pending handshake try again before its timeout: a ping, or a request that a parent has
passed on. -/
def PunchInput.prompts : PunchInput → Bool
  | .command (.inbound message _ _) =>
    match message.body with
    | .punchPing => true
    | .connectRequest _ forwarded => forwarded
    | _ => false
  | _ => false

namespace Puncher

section

variable {c : Surroundings} {input : PunchInput} {p q : Puncher} {effects : List PunchEffect} {message : Message}

theorem owns_of_mem_attempt {hs : Handshake} (sent : .send message ∈ p.attempt c hs) :
    message.ticket = hs.pingId ∧ hs.Owns message := by
  rcases List.mem_append.mp sent with request | ping
  · obtain ⟨parent, _, same⟩ := List.mem_map.mp request
    cases same
    exact ⟨rfl, .inr (.inl rfl)⟩
  · cases List.mem_singleton.mp ping
    exact ⟨rfl, .inl ⟨rfl, rfl⟩⟩

/-- Why a message has been sent: with a fresh ticket and no handshake, as a pong, without a ticket, or for a handshake that
is prompted, tried again, or new. -/
inductive Sender (c : Surroundings) (input : PunchInput) (p q : Puncher) (effects : List PunchEffect) (message : Message) : Prop where
  | aside (fresh : c.chance.Draws p.drawn q.drawn message.ticket) (same : q.handshakes = p.handshakes)
  | pong (answers : message.body = .punchPong)
  | unnamed (none : message.ticket = .none) (deletes : ∃ node, message.body = .deleteConnection node)
  | handshake {key : PeerKey} {hs : Handshake} (found : q.handshakes.get? key = some (attempted hs))
    (sent : .send message ∈ p.attempt c hs)
    (whole : ∃ pongs : List Message, effects = pongs.map .send ++ p.attempt c hs ∧ ∀ pong ∈ pongs, pong.body = .punchPong)
    (due : input.prompts = true ∨ ∀ old, p.handshakes.get? key = some old → hs.attempt = old.attempt + 1)

theorem Move.sender (move : Move c input p q effects) (sent : .send message ∈ effects) : Sender c input p q effects message := by
  cases move with
  | aside aside asleep =>
    refine .aside (aside.effects _ sent) ?_
    rw [aside.frame]
  | answers given asks idle =>
    cases List.mem_singleton.mp sent
    exact .pong rfl
  | hears given asks found aimed =>
    cases List.mem_singleton.mp sent
    exact .pong rfl
  | @follows ping remote here hs moved given asks found elsewhere same =>
    rcases List.mem_cons.mp sent with pong | tried
    · cases pong
      exact .pong rfl
    · refine .handshake ((Table.get?_insert ..).trans (if_pos rfl)) tried ⟨[p.pong c ping remote here], rfl, ?_⟩ (.inl ?_)
      · intro pong member
        rw [List.mem_singleton.mp member]
        rfl
      · rw [given, PunchInput.prompts, asks]
  | crosses given asks found same =>
    refine .handshake ((Table.get?_insert ..).trans (if_pos rfl)) sent ⟨[], rfl, by simp⟩ (.inl ?_)
    rw [given, PunchInput.prompts, asks]
  | responds given asks idle apart same =>
    refine .handshake ((Table.get?_insert ..).trans (if_pos rfl)) sent ⟨[], rfl, by simp⟩ (.inl ?_)
    rw [given, PunchInput.prompts, asks]
  | @calls target grant ports hs given idle apart allowed granted same =>
    refine .handshake ((Table.get?_insert ..).trans (if_pos rfl)) sent ⟨[], rfl, by simp⟩ (.inr fun old known => ?_)
    have key : hs.target.key = target.key := by rw [same, opening]
    cases idle.symm.trans (key ▸ known)
  | retries given found some_left early next =>
    refine .handshake ((Table.get?_insert ..).trans (if_pos rfl)) sent ⟨[], rfl, by simp⟩ (.inr fun old known => ?_)
    cases found.symm.trans known
    rfl
  | verifies given answer owned found =>
    rcases List.mem_append.mp sent with released | told
    · cases eq_release_of_mem_releasing released
    · rcases List.mem_append.mp told with deletes | report
      · obtain ⟨parent, _, same⟩ := List.mem_map.mp deletes
        cases same
        exact .unnamed rfl ⟨_, rfl⟩
      · cases List.mem_singleton.mp report
  | fails found own error =>
    rcases List.mem_append.mp sent with released | report
    · cases eq_release_of_mem_releasing released
    · cases List.mem_singleton.mp report
  | closes found asleep =>
    rcases List.mem_append.mp sent with released | report
    · cases eq_release_of_mem_releasing released
    · cases List.mem_singleton.mp report
  | recalls given found => cases List.mem_singleton.mp sent
  | refuses given error => cases List.mem_singleton.mp sent
  | notes given found refused => cases sent
  | stalls frame spares stuck => cases sent

/-- Why an event has been reported: aside from handshakes and paths, at a call that needs no handshake or gets none, at the end of
a handshake, or at the end of a path. -/
inductive Reporter (c : Surroundings) (input : PunchInput) (p q : Puncher) : PunchEvent → Prop where
  | aside {event : PunchEvent} (aside : PunchEffect.IsAside (c.chance.Draws p.drawn q.drawn) (.report event)) : Reporter c input p q event
  | recalls {target : Contact} {grant : Except LinkError (List UInt16)} {cached : CachedPath}
    (given : input = .command (.connect target grant)) (found : p.paths.get? target.key = some cached) :
    Reporter c input p q (.verified target.key target cached.path)
  | refuses {target : Contact} {grant : Except LinkError (List UInt16)} {error : Error} (given : input = .command (.connect target grant))
    (cause : p.refusal? c target = some error ∨ ∃ fault, error = .link fault) :
    Reporter c input p q (.failed target.key target error)
  | fails {key : PeerKey} {hs : Handshake} {error : Error} (found : p.handshakes.get? key = some hs)
    (cause : error = .handshakeTimeout key.node ∨ ∃ denial, input.denial? = some denial ∧
      p.byPing.get? denial.ticket = some key ∧ error = .unknownTarget denial.target ∧
      ∀ parent ∈ hs.target.parents, parent.node ∈ hs.refusedWith denial.server) :
    Reporter c input p q (.failed key hs.target error)
  | verifies {pong : Message} {remote here : Socket} {key : PeerKey} {hs : Handshake}
    (given : input = .command (.inbound pong remote here)) (answer : pong.body = .punchPong)
    (owned : p.byPing.get? pong.ticket = some key) (found : p.handshakes.get? key = some hs) (next : q = p.settled c key hs remote) :
    Reporter c input p q (.verified key hs.target ⟨remote, hs.punchPort⟩)
  | closes {key : PeerKey} {cached : CachedPath} (found : p.paths.get? key = some cached) :
    Reporter c input p q (.pathClosed key cached.path)

theorem Move.reporter {event : PunchEvent} (move : Move c input p q effects) (reported : .report event ∈ effects) :
    Reporter c input p q event := by
  cases move with
  | aside aside asleep => exact .aside (aside.effects _ reported)
  | answers given asks idle => cases List.mem_singleton.mp reported
  | hears given asks found aimed => cases List.mem_singleton.mp reported
  | follows given asks found elsewhere same =>
    rcases List.mem_cons.mp reported with pong | tried
    · cases pong
    · simp [attempt] at tried
  | crosses given asks found same => simp [attempt] at reported
  | responds given asks idle apart same => simp [attempt] at reported
  | recalls given found =>
    cases List.mem_singleton.mp reported
    exact .recalls given found
  | refuses given error cause =>
    cases List.mem_singleton.mp reported
    exact .refuses given cause
  | calls given idle apart allowed granted same => simp [attempt] at reported
  | notes given found refused => cases reported
  | fails found own error cause =>
    rcases List.mem_append.mp reported with released | failed
    · cases eq_release_of_mem_releasing released
    · cases List.mem_singleton.mp failed
      exact .fails found cause
  | verifies given answer owned found =>
    rcases List.mem_append.mp reported with released | told
    · cases eq_release_of_mem_releasing released
    · rcases List.mem_append.mp told with deletes | report
      · simp at deletes
      · cases List.mem_singleton.mp report
        exact .verifies given answer owned found rfl
  | retries given found some_left early next => simp [attempt] at reported
  | closes found asleep =>
    rcases List.mem_append.mp reported with released | closed
    · cases eq_release_of_mem_releasing released
    · cases List.mem_singleton.mp closed
      exact .closes found
  | stalls frame spares stuck => cases reported

/-- What a puncher knows of its handshakes by the tickets that it has sent. -/
structure Accounted (chance : Chance) (p : Puncher) (sent : List PunchEffect) : Prop where
  ticketed : p.Ticketed chance
  keyed : ∀ key hs, p.handshakes.get? key = some hs → hs.target.key = key
  owned : ∀ id key, p.byPing.get? id = some key → p.Wears (.ping key) id
  total : ∀ key hs, p.handshakes.get? key = some hs → hs.attempt + hs.retriesLeft = p.retries
  drawn : ∀ message, .send message ∈ sent →
    message.body = .punchPong ∨ message.ticket = .none ∨ chance.Draws 0 p.drawn message.ticket
  /-- No other message has the ticket of a handshake's pings. -/
  own : ∀ key hs, p.handshakes.get? key = some hs → ∀ message, .send message ∈ sent → message.ticket = hs.pingId →
    hs.Owns message

theorem Move.keyed (move : Move c input p q effects)
    (keyed : ∀ key hs, p.handshakes.get? key = some hs → hs.target.key = key) {key : PeerKey} {later : Handshake}
    (found : q.handshakes.get? key = some later) : later.target.key = key := by
  cases move.origin found with
  | edited known edited asleep => exact edited.target ▸ keyed key _ known
  | @retried hs rto known given some_left early next drawn alarms => exact keyed key hs known
  | opened idle own same next =>
    rw [same]
    exact own

theorem Move.total (move : Move c input p q effects)
    (total : ∀ key hs, p.handshakes.get? key = some hs → hs.attempt + hs.retriesLeft = p.retries) {key : PeerKey}
    {later : Handshake} (found : q.handshakes.get? key = some later) : later.attempt + later.retriesLeft = q.retries := by
  have same : q.retries = p.retries := by rw [Puncher.retries, Puncher.retries, move.constant.2.1]
  rw [same]
  cases move.origin found with
  | edited known edited asleep =>
    rw [edited.attempt, edited.retriesLeft]
    exact total key _ known
  | @retried hs rto known given some_left early next drawn alarms =>
    have before := total key hs known
    change hs.attempt + 1 + (hs.retriesLeft - 1) = p.retries
    omega
  | opened idle own opening next =>
    rw [opening]
    exact Nat.zero_add _

theorem wears_ping_insert {own : PeerKey} {hs kept : Handshake} (found : p.handshakes.get? own = some hs)
    (same : q.handshakes = p.handshakes.insert own kept) (named : kept.pingId = hs.pingId) {key : PeerKey} {id : Ticket}
    (worn : p.Wears (.ping key) id) : q.Wears (.ping key) id := by
  obtain ⟨old, known, ping⟩ := worn
  by_cases mine : key = own
  · subst mine
    cases found.symm.trans known
    exact ⟨kept, by rw [same, Table.get?_insert, if_pos rfl], named.trans ping⟩
  · exact ⟨old, by rw [same, Table.get?_insert, if_neg mine]; exact known, ping⟩

theorem wears_ping_begun {hs : Handshake} (owned : ∀ id key, p.byPing.get? id = some key → p.Wears (.ping key) id)
    (idle : p.handshakes.get? hs.target.key = none) {id : Ticket} {key : PeerKey}
    (known : (p.begun c hs).byPing.get? id = some key) : (p.begun c hs).Wears (.ping key) id := by
  rw [begun, Table.get?_insert] at known
  split at known
  · rename_i same
    cases known
    exact ⟨attempted hs, (Table.get?_insert ..).trans (if_pos rfl), same.symm⟩
  · obtain ⟨old, found, ping⟩ := owned id key known
    refine ⟨old, (Table.get?_insert ..).trans ((if_neg ?_).trans found), ping⟩
    rintro rfl
    cases idle.symm.trans found

theorem wears_ping_erase {own : PeerKey} {hs : Handshake} (owned : ∀ id key, p.byPing.get? id = some key → p.Wears (.ping key) id)
    (found : p.handshakes.get? own = some hs) (handshakes : q.handshakes = p.handshakes.erase own)
    (byPing : q.byPing = p.byPing.erase hs.pingId) {id : Ticket} {key : PeerKey} (known : q.byPing.get? id = some key) :
    q.Wears (.ping key) id := by
  rw [byPing, Table.get?_erase] at known
  split at known
  · cases known
  · rename_i other
    obtain ⟨old, there, ping⟩ := owned id key known
    refine ⟨old, ?_, ping⟩
    rw [handshakes, Table.get?_erase, if_neg]
    · exact there
    · rintro rfl
      cases found.symm.trans there
      exact other ping.symm

/-- A ping's ticket leads to the handshake that it has been drawn for. -/
theorem Move.owned (move : Move c input p q effects) (owned : ∀ id key, p.byPing.get? id = some key → p.Wears (.ping key) id)
    {id : Ticket} {key : PeerKey} (known : q.byPing.get? id = some key) : q.Wears (.ping key) id := by
  cases move with
  | aside aside asleep =>
    rw [aside.frame] at known ⊢
    exact owned id key known
  | hears given asks found aimed => exact wears_ping_insert found rfl (by rfl) (owned id key known)
  | follows given asks found elsewhere same => exact wears_ping_insert found rfl (by rw [same]; rfl) (owned id key known)
  | crosses given asks found same => exact wears_ping_insert found rfl (by rw [same]; rfl) (owned id key known)
  | responds given asks idle apart same => exact wears_ping_begun owned (by rw [same]; exact idle) known
  | calls given idle apart allowed granted same => exact wears_ping_begun owned (by rw [same]; exact idle) known
  | notes given found refused => exact wears_ping_insert found rfl (by rfl) (owned id key known)
  | fails found own error => exact wears_ping_erase owned found rfl rfl known
  | verifies given answer own found => exact wears_ping_erase owned found rfl rfl known
  | retries given found some_left early next => exact wears_ping_insert found rfl (by rfl) (owned id key known)
  | stalls frame spares stuck =>
    rw [frame] at known ⊢
    exact owned id key known
  | _ => exact owned id key known

theorem ticket_ne_none (chance : Chance) (n : Nat) : chance.ticket n ≠ .none := by
  intro same
  have := chance.ticket_isNone n
  rw [same] at this
  cases this

/-- Nothing but pongs has been sent under a ticket that is still to be drawn. -/
theorem Accounted.pong_of_undrawn {chance : Chance} {sent : List PunchEffect} (accounted : p.Accounted chance sent) {count : Nat}
    (distinct : chance.Distinct count) (more : p.drawn < count) (before : .send message ∈ sent)
    (named : message.ticket = chance.ticket p.drawn) : message.body = .punchPong := by
  rcases accounted.drawn message before with pong | none | ⟨n, _, old, ticket⟩
  · exact pong
  · exact absurd (named.symm.trans none) (ticket_ne_none _ _)
  · have := distinct n p.drawn (by omega) more (ticket.symm.trans named)
    omega

/-- What has been sent under the ticket of a handshake has been sent for it. -/
theorem Move.owns_sent (move : Move c input p q effects) {sent : List PunchEffect} (accounted : p.Accounted c.chance sent)
    (distinct : c.chance.Distinct q.drawn) {key : PeerKey} {later : Handshake} (found : q.handshakes.get? key = some later)
    (before : .send message ∈ sent) (named : message.ticket = later.pingId) : later.Owns message := by
  cases move.origin found with
  | @edited hs later known edited asleep =>
    have own := accounted.own key hs known message before (named.trans edited.pingId)
    rwa [Handshake.Owns, ← edited.target] at own
  | @retried hs rto known given some_left early next drawn alarms => exact accounted.own key hs known message before named
  | opened idle own same next =>
    subst same next
    exact .inr (.inr (accounted.pong_of_undrawn distinct (Nat.lt_add_of_pos_right (by decide)) before named))

/-- What is sent under the ticket of a handshake is sent for it. -/
theorem Move.owns_sending (move : Move c input p q effects) {sent : List PunchEffect} (accounted : p.Accounted c.chance sent)
    (distinct : c.chance.Distinct q.drawn) {key : PeerKey} {later : Handshake} (found : q.handshakes.get? key = some later)
    (now : .send message ∈ effects) (named : message.ticket = later.pingId) : later.Owns message := by
  have ticketed := accounted.ticketed.move move distinct
  cases move.sender now with
  | aside fresh same =>
    obtain ⟨n, first, last, ticket⟩ := fresh
    have worn : p.Wears (.ping key) (c.chance.ticket n) := ⟨later, same ▸ found, named.symm.trans ticket⟩
    exact absurd worn (accounted.ticketed.unworn distinct first last _)
  | pong answers => exact .inr (.inr answers)
  | unnamed none deletes =>
    obtain ⟨n, _, _, ticket⟩ := ticketed.drawn (.ping key) later.pingId ⟨later, found, rfl⟩
    exact absurd (ticket.symm.trans (named.symm.trans none)) (ticket_ne_none _ _)
  | @handshake own hs there sent =>
    obtain ⟨ticket, owns⟩ := owns_of_mem_attempt sent
    have mine : q.Wears (.ping own) later.pingId := ⟨attempted hs, there, ticket.symm.trans named⟩
    cases ticketed.single (.ping own) (.ping key) later.pingId mine ⟨later, found, rfl⟩
    cases there.symm.trans found
    exact owns

/-- Whatever a puncher does, it accounts for what it has sent. -/
theorem Move.accounted (move : Move c input p q effects) {sent : List PunchEffect} (accounted : p.Accounted c.chance sent)
    (distinct : c.chance.Distinct q.drawn) : q.Accounted c.chance (sent ++ effects) := by
  have ticketed := accounted.ticketed.move move distinct
  refine ⟨ticketed, fun key hs => move.keyed accounted.keyed, fun id key => move.owned accounted.owned,
    fun key hs => move.total accounted.total, ?_, ?_⟩
  · intro message member
    rcases List.mem_append.mp member with before | now
    · exact (accounted.drawn message before).imp_right (.imp_right fun draws => draws.mono (Nat.le_refl _) move.drawn_le)
    · cases move.sender now with
      | aside fresh same => exact .inr (.inr (fresh.mono (Nat.zero_le _) (Nat.le_refl _)))
      | pong answers => exact .inl answers
      | unnamed none deletes => exact .inr (.inl none)
      | handshake found sent => exact .inr (.inr ((owns_of_mem_attempt sent).1 ▸ ticketed.drawn (.ping _) _ ⟨_, found, rfl⟩))
  · intro key later found message member named
    rcases List.mem_append.mp member with before | now
    · exact move.owns_sent accounted distinct found before named
    · exact move.owns_sending accounted distinct found now named

theorem Moves.accounted (moves : Moves c input p q effects) {sent : List PunchEffect} (accounted : p.Accounted c.chance sent)
    (distinct : c.chance.Distinct q.drawn) : q.Accounted c.chance (sent ++ effects) := by
  induction moves with
  | refl => rwa [List.append_nil]
  | step before move ih =>
    rw [← List.append_assoc]
    exact move.accounted (ih (distinct.mono move.drawn_le)) distinct

end

/-- What a puncher has been told at some time, and what it has done. -/
structure Deed where
  input : PunchInput
  effects : List PunchEffect

/-- Whatever may happen to a puncher, at any time and with any alarms left, and what it does about it. -/
inductive Run (chance : Chance) (start : Puncher) : List Deed → Puncher → Prop where
  | start : Run chance start [] start
  | step {p : Puncher} {log : List Deed} {c : Surroundings} (before : Run chance start log p) (same : c.chance = chance)
    (alarms : Alarms PunchAlarm) (input : PunchInput) :
    Run chance start (log ++ [⟨input, (({ p with alarms }).react c input).2⟩]) (({ p with alarms }).react c input).1

/-- All that has been done. -/
def done (log : List Deed) : List PunchEffect := log.flatMap (·.effects)

section

variable {chance : Chance} {config : Config} {me : Identity} {p start : Puncher} {log : List Deed}

theorem Accounted.with_alarms {sent : List PunchEffect} (accounted : p.Accounted chance sent) (alarms : Alarms PunchAlarm) :
    ({ p with alarms } : Puncher).Accounted chance sent where
  ticketed := ⟨accounted.ticketed.drawn, accounted.ticketed.single⟩
  keyed := accounted.keyed
  owned := accounted.owned
  total := accounted.total
  drawn := accounted.drawn
  own := accounted.own

theorem accounted_ofConfig (chance : Chance) (config : Config) (me : Identity) : (ofConfig config me).Accounted chance [] where
  ticketed := ticketed_ofConfig chance config me
  keyed _ _ found := by cases found
  owned _ _ known := by cases known
  total _ _ found := by cases found
  drawn _ sent := by cases sent
  own _ _ found := by cases found

theorem Run.accounted (run : Run chance (ofConfig config me) log p) (distinct : chance.Distinct p.drawn) :
    p.Accounted chance (done log) := by
  induction run with
  | start => exact accounted_ofConfig chance config me
  | @step p log c before same alarms input ih =>
    subst same
    have moves := react_moves (c := c) (p := { p with alarms }) input
    have earlier := (ih (distinct.mono moves.drawn_le)).with_alarms alarms
    have accounted := moves.accounted earlier distinct
    simpa [done] using accounted

end

end Puncher

end NatTraversal
