import Mathlib.Data.List.Basic
import NatTraversal.Proofs.Punch.Farewell

namespace NatTraversal

/-- The attempts that refusals can cost. At worst each comes when every parent but one of those who are left has had its turn since
the one before. -/
def missedTurns (parents : Nat) : Nat → Nat
  | 0 => 0
  | refusals + 1 => missedTurns parents refusals + (parents - 1 - refusals)

theorem missedTurns_le (parents : Nat) {few many : Nat} (le : few ≤ many) : missedTurns parents few ≤ missedTurns parents many := by
  induction le with
  | refl => exact Nat.le_refl _
  | step _ ih => exact Nat.le_trans ih (Nat.le_add_right ..)

/-- Whoever takes turns has one among any that many turns in a row. -/
theorem mem_of_turns {live asked : List Address} {start last : Nat} (long : start + live.length ≤ last + 1)
    (turns : ∀ turn, start ≤ turn → turn ≤ last → ∀ parent, live[turn % live.length]? = some parent → parent ∈ asked) :
    ∀ parent ∈ live, parent ∈ asked := by
  intro parent member
  obtain ⟨place, inside, rfl⟩ := List.getElem_of_mem member
  have whole := Nat.div_add_mod start live.length
  have part := Nat.mod_lt start (Nat.zero_lt_of_lt inside)
  obtain ⟨round, late, soon⟩ :
      ∃ round, start ≤ live.length * round + place ∧ live.length * round + place < start + live.length := by
    by_cases ahead : start % live.length ≤ place
    · exact ⟨start / live.length, by omega, by omega⟩
    · refine ⟨start / live.length + 1, ?_⟩
      rw [Nat.mul_succ]
      omega
  refine turns (live.length * round + place) late (by omega) _ ?_
  rw [Nat.mul_add_mod, Nat.mod_eq_of_lt inside, List.getElem?_eq_getElem inside]

namespace Handshake

/-- The parents of the target that have not refused. -/
def live (hs : Handshake) : List Address := hs.target.parents.filter fun parent => !hs.refused.contains parent.node

/-- Whether a handshake goes through its target's parents. -/
def Consults (hs : Handshake) : Prop := hs.responder = false ∧ hs.target.isOpen = false

/-- Whether the parents that have not refused have been asked, or have taken turns since an attempt that is early for the refusals
there have been. -/
def Rotates (hs : Handshake) (asked : List Address) : Prop :=
  (∀ parent ∈ hs.live, parent ∈ asked) ∨
    ∃ start ≤ missedTurns hs.target.parents.length (hs.target.parents.length - hs.live.length),
      ∀ turn, start ≤ turn → turn ≤ hs.attempt → ∀ parent, hs.live[turn % hs.live.length]? = some parent → parent ∈ asked

variable {hs later : Handshake} {asked more : List Address}

theorem mem_live {parent : Address} : parent ∈ hs.live ↔ parent ∈ hs.target.parents ∧ parent.node ∉ hs.refused := by
  simp [live]

theorem mem_refusedWith {node server : UInt32} : node ∈ hs.refusedWith server ↔ node ∈ hs.refused ∨ node = server := by
  unfold refusedWith
  split
  · rename_i already
    rw [List.contains_iff_mem] at already
    exact ⟨.inl, fun either => either.elim id fun same => same ▸ already⟩
  · rw [List.mem_append, List.mem_singleton]

theorem live_sublist (target : later.target = hs.target) (refused : ∀ node ∈ hs.refused, node ∈ later.refused) :
    later.live.Sublist hs.live := by
  rw [live, live, target]
  refine List.monotone_filter_right _ fun parent left => ?_
  simp only [Bool.not_eq_true', List.contains_eq_mem, decide_eq_false_iff_not] at left ⊢
  exact fun already => left (refused _ already)

theorem nextParent?_eq (consults : hs.Consults) : Puncher.nextParent? hs = hs.live[hs.attempt % hs.live.length]? := by
  rw [Puncher.nextParent?, consults.1, consults.2]
  rfl

namespace Rotates

theorem mono (rotates : hs.Rotates asked) (grows : ∀ parent ∈ asked, parent ∈ more) : hs.Rotates more := by
  rcases rotates with all | ⟨start, early, turns⟩
  · exact .inl fun parent left => grows parent (all parent left)
  · exact .inr ⟨start, early, fun turn late past parent own => grows parent (turns turn late past parent own)⟩

/-- After enough attempts everyone has been asked who has not refused. -/
theorem reach (rotates : hs.Rotates asked)
    (enough : missedTurns hs.target.parents.length (hs.target.parents.length - hs.live.length + 1) ≤ hs.attempt) :
    ∀ parent ∈ hs.live, parent ∈ asked := by
  rcases rotates with all | ⟨start, early, turns⟩
  · exact all
  · intro parent left
    have some_left := List.length_pos_of_mem left
    have few : hs.live.length ≤ hs.target.parents.length := List.length_filter_le ..
    rw [missedTurns] at enough
    exact mem_of_turns (by omega) turns parent left

theorem first (new : hs.attempt = 0) (own : ∀ parent, hs.live[hs.attempt % hs.live.length]? = some parent → parent ∈ asked) :
    hs.Rotates asked := by
  refine .inr ⟨0, Nat.zero_le _, fun turn _ past => ?_⟩
  obtain rfl : turn = hs.attempt := by omega
  exact own

theorem next (rotates : hs.Rotates asked) (target : later.target = hs.target) (refused : later.refused = hs.refused)
    (attempt : later.attempt = hs.attempt + 1)
    (own : ∀ parent, later.live[later.attempt % later.live.length]? = some parent → parent ∈ asked) : later.Rotates asked := by
  have live : later.live = hs.live := by rw [Handshake.live, target, refused, ← Handshake.live]
  rcases rotates with all | ⟨start, early, turns⟩
  · exact .inl (live ▸ all)
  · refine .inr ⟨start, by rwa [target, live], fun turn late past parent mine => ?_⟩
    rcases Nat.lt_or_ge hs.attempt turn with new | old
    · obtain rfl : turn = later.attempt := by omega
      exact own parent mine
    · rw [live] at mine
      exact turns turn late old parent mine

/-- A refusal has the turns count from the next attempt on: the index goes on, but who is left has moved up. -/
theorem fewer (rotates : hs.Rotates asked) (target : later.target = hs.target) (attempt : later.attempt = hs.attempt)
    (refused : ∀ node ∈ hs.refused, node ∈ later.refused) : later.Rotates asked := by
  have sublist := live_sublist target refused
  by_cases all : ∀ parent ∈ hs.live, parent ∈ asked
  · exact .inl fun parent left => all parent (sublist.subset left)
  -- Where a parent is gone, nothing is known of whose turn the next attempts will be: all turns so far may have been in vain.
  rcases Nat.lt_or_ge later.live.length hs.live.length with shorter | same
  · have missed := Nat.lt_of_not_le fun enough => all (rotates.reach enough)
    have few : hs.live.length ≤ hs.target.parents.length := List.length_filter_le ..
    have costs := missedTurns_le hs.target.parents.length
      (show hs.target.parents.length - hs.live.length + 1 ≤ hs.target.parents.length - later.live.length by omega)
    refine .inr ⟨hs.attempt + 1, by rw [target]; omega, fun turn late past => ?_⟩
    omega
  · have live := sublist.eq_of_length_le same
    rcases rotates with asked | ⟨start, early, turns⟩
    · exact absurd asked all
    · exact .inr ⟨start, by rwa [target, live], by rwa [live, attempt]⟩

end Rotates

end Handshake

namespace Puncher

section

variable {c : Surroundings} {input : PunchInput} {p q : Puncher} {effects sent : List PunchEffect} {key : PeerKey}
  {hs later : Handshake}

/-- How a move has left the turns of a handshake: as they were, at the next, at the first, or with a parent less. -/
inductive Turn (c : Surroundings) (input : PunchInput) (p : Puncher) (effects : List PunchEffect) (key : PeerKey) :
    Handshake → Prop where
  | stays {hs : Handshake} (found : p.handshakes.get? key = some hs) (remote : Socket) (parent : Option Address) (stage : Stage) :
    Turn c input p effects key { hs with remote, parent, stage }
  | next {hs : Handshake} {rto : Nat} (found : p.handshakes.get? key = some hs)
    (tries : effects = p.attempt c (p.retried c hs rto)) : Turn c input p effects key (attempted (p.retried c hs rto))
  | first {hs : Handshake} (new : hs.attempt = 0) (willing : hs.refused = []) (tries : effects = p.attempt c hs) :
    Turn c input p effects key (attempted hs)
  | fewer {hs : Handshake} {denial : Denial} (found : p.handshakes.get? key = some hs) (denies : input.denial? = some denial)
    (owned : p.byPing.get? denial.ticket = some key) :
    Turn c input p effects key { hs with refused := hs.refusedWith denial.server }

theorem turn_insert {own : PeerKey} {kept : Handshake} (handshakes : q.handshakes = p.handshakes.insert own kept)
    (mine : key = own → Turn c input p effects key kept) (found : q.handshakes.get? key = some later) :
    Turn c input p effects key later := by
  rw [handshakes, Table.get?_insert] at found
  split at found
  · rename_i same
    cases found
    exact mine same
  · exact .stays found later.remote later.parent later.stage

/-- A handshake that is edited, though not in its turns. -/
theorem turn_edit {own : PeerKey} {kept : Handshake} (handshakes : q.handshakes = p.handshakes.insert own kept)
    (known : p.handshakes.get? own = some hs)
    (edits : kept = { hs with remote := kept.remote, parent := kept.parent, stage := kept.stage })
    (found : q.handshakes.get? key = some later) : Turn c input p effects key later := by
  refine turn_insert handshakes (fun same => ?_) found
  rw [edits]
  exact .stays (same ▸ known) kept.remote kept.parent kept.stage

theorem turn_erase {own : PeerKey} (handshakes : q.handshakes = p.handshakes.erase own) (found : q.handshakes.get? key = some later) :
    Turn c input p effects key later := by
  rw [handshakes, Table.get?_erase] at found
  split at found
  · cases found
  · exact .stays found later.remote later.parent later.stage

theorem Move.turn (move : Move c input p q effects) (found : q.handshakes.get? key = some later) :
    Turn c input p effects key later := by
  have same (handshakes : q.handshakes = p.handshakes) : Turn c input p effects key later :=
    .stays (handshakes ▸ found) later.remote later.parent later.stage
  cases move with
  | aside aside asleep => exact same (by rw [aside.frame])
  | answers given asks idle => exact same rfl
  | hears given asks known aimed => exact turn_edit rfl known (by rfl) found
  | follows given asks known elsewhere moved => exact turn_edit rfl known (by rw [moved]; rfl) found
  | crosses given asks known moved => exact turn_edit rfl known (by rw [moved]; rfl) found
  | responds given asks idle apart opening =>
    exact turn_insert rfl (fun _ => .first (by rw [opening]; rfl) (by rw [opening]; rfl) rfl) found
  | recalls given known => exact same rfl
  | refuses given error => exact same rfl
  | calls given idle apart allowed granted opening =>
    exact turn_insert rfl (fun _ => .first (by rw [opening]; rfl) (by rw [opening]; rfl) rfl) found
  | notes given known refused cause =>
    obtain ⟨denial, denies, owned, rfl⟩ := cause
    exact turn_insert rfl (fun own => .fewer (own ▸ known) denies (own ▸ owned)) found
  | fails known own error => exact turn_erase rfl found
  | verifies given answer owned known => exact turn_erase rfl found
  | retries given known some_left early next => exact turn_insert rfl (fun own => .next (own ▸ known) rfl) found
  | closes known asleep => exact same rfl
  | stalls frame spares stuck => exact same (by rw [frame])

/-- Whether the parents of every target that is natted take turns. -/
def Rotating (p : Puncher) (sent : List PunchEffect) : Prop :=
  ∀ key hs, p.handshakes.get? key = some hs → hs.Consults → hs.Rotates (consulted hs.pingId sent)

theorem consulted_own (hs : Handshake) (consults : hs.Consults) (p : Puncher) (c : Surroundings) (sent : List PunchEffect) :
    ∀ parent, hs.live[hs.attempt % hs.live.length]? = some parent → parent ∈ consulted hs.pingId (sent ++ p.attempt c hs) := by
  intro parent own
  rw [consulted_append, consulted_attempt, Handshake.nextParent?_eq consults, own]
  exact List.mem_append_right _ (List.mem_singleton_self _)

theorem Move.rotating (move : Move c input p q effects) (rotating : p.Rotating sent) : q.Rotating (sent ++ effects) := by
  intro key later found consults
  have grows (id : Ticket) : ∀ parent ∈ consulted id sent, parent ∈ consulted id (sent ++ effects) := by
    rw [consulted_append]
    exact fun parent asked => List.mem_append_left _ asked
  cases move.turn found with
  | stays known remote parent stage => exact (rotating key _ known consults).mono (grows _)
  | @next hs rto known tries =>
    have own := consulted_own (p.retried c hs rto) consults p c sent
    rw [← tries] at own
    exact ((rotating key hs known consults).mono (grows _)).next rfl rfl rfl own
  | @first hs new willing tries =>
    have own := consulted_own hs consults p c sent
    rw [← tries] at own
    exact .first new own
  | @fewer hs denial known denies owned =>
    have more : ∀ node ∈ hs.refused, node ∈ hs.refusedWith denial.server :=
      fun node before => Handshake.mem_refusedWith.mpr (.inl before)
    exact ((rotating key hs known consults).mono (grows _)).fewer rfl rfl more

theorem Moves.rotating (moves : Moves c input p q effects) (rotating : p.Rotating sent) : q.Rotating (sent ++ effects) := by
  induction moves with
  | refl => rwa [List.append_nil]
  | step _ move ih =>
    rw [← List.append_assoc]
    exact move.rotating ih

/-- The servers that have answered under a ticket that they do not know the target. -/
def refusers (id : Ticket) (log : List Deed) : List UInt32 :=
  log.filterMap fun deed => deed.input.denial?.bind fun denial => if denial.ticket = id then some denial.server else none

theorem mem_refusers {id : Ticket} {log : List Deed} {node : UInt32} : node ∈ refusers id log ↔
    ∃ deed ∈ log, ∃ denial, deed.input.denial? = some denial ∧ denial.ticket = id ∧ denial.server = node := by
  simp only [refusers, List.mem_filterMap, Option.bind_eq_some_iff, Option.ite_none_right_eq_some, Option.some.injEq]

theorem refusers_append (id : Ticket) (first second : List Deed) :
    refusers id (first ++ second) = refusers id first ++ refusers id second := List.filterMap_append

theorem server_mem_refusers {log : List Deed} {deed : Deed} {denial : Denial} (member : deed ∈ log)
    (denies : deed.input.denial? = some denial) : denial.server ∈ refusers denial.ticket log :=
  mem_refusers.mpr ⟨deed, member, denial, denies, rfl, rfl⟩

/-- Whether every refusal that a handshake knows of has been heard, under the ticket of its pings. -/
structure Records (p : Puncher) (log : List Deed) : Prop where
  owned : ∀ id key, p.byPing.get? id = some key → p.Wears (.ping key) id
  total : ∀ key hs, p.handshakes.get? key = some hs → hs.attempt + hs.retriesLeft = p.retries
  heard : ∀ key hs, p.handshakes.get? key = some hs → ∀ node ∈ hs.refused, node ∈ refusers hs.pingId log

variable {log : List Deed}

theorem Records.ticket {p : Puncher} (records : p.Records log) {id : Ticket} (owned : p.byPing.get? id = some key)
    (found : p.handshakes.get? key = some hs) : hs.pingId = id := by
  obtain ⟨other, known, named⟩ := records.owned id key owned
  cases found.symm.trans known
  exact named

theorem Records.grows (records : p.Records log) (alarms : Alarms PunchAlarm) (more : List Deed) :
    ({ p with alarms } : Puncher).Records (log ++ more) where
  owned := records.owned
  total := records.total
  heard key hs found node refused := by
    rw [refusers_append]
    exact List.mem_append_left _ (records.heard key hs found node refused)

theorem Move.records (move : Move c input p q effects) (records : p.Records log)
    (noted : ∀ denial, input.denial? = some denial → denial.server ∈ refusers denial.ticket log) : q.Records log := by
  refine ⟨fun id key => move.owned records.owned, fun key hs => move.total records.total, ?_⟩
  intro key later found node refused
  cases move.turn found with
  | stays known remote parent stage => exact records.heard key _ known node refused
  | next known tries => exact records.heard key _ known node refused
  | @first hs new willing tries =>
    change node ∈ hs.refused at refused
    rw [willing] at refused
    cases refused
  | @fewer hs denial known denies owned =>
    rcases Handshake.mem_refusedWith.mp refused with before | now
    · exact records.heard key hs known node before
    · rw [now, show hs.pingId = denial.ticket from records.ticket owned known]
      exact noted denial denies

theorem Moves.records (moves : Moves c input p q effects) (records : p.Records log)
    (noted : ∀ denial, input.denial? = some denial → denial.server ∈ refusers denial.ticket log) : q.Records log := by
  induction moves with
  | refl => exact records
  | step _ move ih => exact move.records ih noted

theorem refusal?_noParents {target : Contact} {error : Error} (refused : p.refusal? c target = some error) :
    ∃ node, error = .noParents node := by
  unfold refusal? at refused
  split at refused
  · exact ⟨_, (Option.some.inj refused).symm⟩
  · split at refused
    · exact ⟨_, (Option.some.inj refused).symm⟩
    · cases refused

/-- A handshake fails for an unknown target at an answer that says so, once all its parents have refused. -/
theorem Move.reports_unknown {target : Contact} {node : UInt32} (move : Move c input p q effects)
    (reported : .report (.failed key target (.unknownTarget node)) ∈ effects) :
    ∃ denial hs, input.denial? = some denial ∧ p.byPing.get? denial.ticket = some key ∧ p.handshakes.get? key = some hs ∧
      hs.target = target ∧ ∀ parent ∈ hs.target.parents, parent.node ∈ hs.refusedWith denial.server := by
  cases move.reporter reported with
  | aside aside => exact aside.elim
  | refuses given cause =>
    rcases cause with refused | ⟨fault, link⟩
    · obtain ⟨_, parentless⟩ := refusal?_noParents refused
      cases parentless
    · cases link
  | fails found cause =>
    rcases cause with late | ⟨denial, denies, owned, _, all⟩
    · cases late
    · exact ⟨denial, _, denies, owned, found, rfl, all⟩

theorem Moves.reports_unknown {target : Contact} {node : UInt32} (moves : Moves c input p q effects)
    (reported : .report (.failed key target (.unknownTarget node)) ∈ effects) : ∃ denial, input.denial? = some denial := by
  induction moves with
  | refl => cases reported
  | step before move ih =>
    rcases List.mem_append.mp reported with earlier | now
    · exact ih earlier
    · obtain ⟨denial, _, denies, _⟩ := move.reports_unknown now
      exact ⟨denial, denies⟩

theorem exists_of_denial {denial : Denial} (denies : input.denial? = some denial) :
    ∃ response remote here, input = .command (.inbound response remote here) ∧
      response.body = .connectResponse .unknownTarget denial.target := by
  unfold PunchInput.denial? at denies
  split at denies
  · rename_i response remote here
    split at denies
    · rename_i answer
      cases denies
      exact ⟨response, remote, here, rfl, answer⟩
    · cases denies
  · cases denies

/-- A server's answer is done with in one move. -/
theorem react_reports_unknown {target : Contact} {node : UInt32}
    (reported : .report (.failed key target (.unknownTarget node)) ∈ (p.react c input).2) :
    Move c input p (p.react c input).1 (p.react c input).2 := by
  obtain ⟨denial, denies⟩ := (react_moves input).reports_unknown reported
  obtain ⟨response, remote, here, rfl, answer⟩ := exists_of_denial denies
  by_cases halted : p.halted = true
  · simp [react, handle, halted] at reported
  · simp only [react, handle, halted, Bool.false_eq_true, if_false, inbound, answer]
    exact onConnectResponse_move answer

end

section

variable {chance : Chance} {config : Config} {me : Identity} {p : Puncher} {log : List Deed}

theorem Run.rotating (run : Run chance (ofConfig config me) log p) : p.Rotating (done log) := by
  induction run with
  | start =>
    intro key hs found
    cases found
  | @step p log c before same alarms input ih =>
    have rotating := (react_moves (c := c) (p := { p with alarms }) input).rotating (p := { p with alarms }) ih
    simpa [done] using rotating

theorem Run.records (run : Run chance (ofConfig config me) log p) : p.Records log := by
  induction run with
  | start =>
    refine ⟨fun id key known => ?_, fun key hs found => ?_, fun key hs found => ?_⟩
    · cases known
    · cases found
    · cases found
  | @step p log c before same alarms input ih =>
    refine (react_moves (c := c) (p := { p with alarms }) input).records (ih.grows alarms _) fun denial denies => ?_
    exact server_mem_refusers (List.mem_append_right _ (List.mem_singleton_self _)) denies

theorem Run.attempt_eq (run : Run chance (ofConfig config me) log p) {key : PeerKey} {hs : Handshake}
    (pending : p.handshakes.get? key = some hs) (spent : hs.retriesLeft = 0) : hs.attempt = config.punch.backoff.attempts.toNat - 1 := by
  have total := run.records.total key hs pending
  rw [spent, retries, run.constant] at total
  exact total

/-- Refusals that are heard leave no fewer parents than refusals that are on record. -/
theorem Run.refused_le (run : Run chance (ofConfig config me) log p) {key : PeerKey} {hs : Handshake}
    (pending : p.handshakes.get? key = some hs) :
    hs.target.parents.length - hs.live.length ≤ hs.target.parents.countP fun parent => parent.node ∈ refusers hs.pingId log := by
  have split : hs.target.parents.length = _ + _ :=
    List.length_eq_countP_add_countP fun parent : Address => hs.refused.contains parent.node
  have live : hs.live.length = hs.target.parents.countP fun parent => !hs.refused.contains parent.node := List.countP_eq_length_filter.symm
  have heard : hs.target.parents.countP (fun parent => hs.refused.contains parent.node) ≤
      hs.target.parents.countP fun parent => parent.node ∈ refusers hs.pingId log := by
    refine List.countP_mono_left fun parent _ refused => ?_
    exact decide_eq_true (run.records.heard key hs pending _ (List.contains_iff_mem.mp refused))
  simp only [Bool.not_eq_true, Bool.decide_eq_false] at split
  omega

/-- A handshake that has no retries left has asked every parent of its target, or has been refused by it, unless the refusals have
cost it too many turns. Where nobody refuses, as many attempts as parents are enough; a refusal can have the turns pass over a parent.
No handshake fails for an unknown target before every parent of it has refused under the ticket of the handshake's pings. -/
theorem parents_take_turns (run : Run chance (ofConfig config me) log p) :
    (∀ key hs, p.handshakes.get? key = some hs → hs.responder = false → hs.target.isOpen = false → hs.retriesLeft = 0 →
      let refusals := hs.target.parents.countP fun parent => parent.node ∈ refusers hs.pingId log
      missedTurns hs.target.parents.length (refusals + 1) < config.punch.backoff.attempts.toNat →
      ∀ parent ∈ hs.target.parents, parent ∈ consulted hs.pingId (done log) ∨ parent.node ∈ refusers hs.pingId log) ∧
    ∀ c alarms input key target node,
      .report (.failed key target (.unknownTarget node)) ∈ (({ p with alarms }).react c input).2 →
      ∃ hs, p.handshakes.get? key = some hs ∧ hs.target = target ∧ ∀ parent ∈ target.parents,
        parent.node ∈ refusers hs.pingId (log ++ [⟨input, (({ p with alarms }).react c input).2⟩]) := by
  constructor
  · intro key hs pending initiator natted spent refusals enough parent member
    by_cases refused : parent.node ∈ hs.refused
    · exact .inr (run.records.heard key hs pending _ refused)
    · have fewer : missedTurns hs.target.parents.length (hs.target.parents.length - hs.live.length + 1) ≤
          missedTurns hs.target.parents.length (refusals + 1) :=
        missedTurns_le _ (Nat.add_le_add_right (run.refused_le pending) 1)
      have attempts := run.attempt_eq pending spent
      have rotates := run.rotating key hs pending ⟨initiator, natted⟩
      exact .inl (rotates.reach (by omega) parent (Handshake.mem_live.mpr ⟨member, refused⟩))
  · intro c alarms input key target node reported
    obtain ⟨denial, hs, denies, owned, found, rfl, all⟩ := (react_reports_unknown reported).reports_unknown reported
    refine ⟨hs, found, rfl, fun parent member => ?_⟩
    rcases Handshake.mem_refusedWith.mp (all parent member) with before | now
    · rw [refusers_append]
      exact List.mem_append_left _ (run.records.heard key hs found _ before)
    · rw [now, run.records.ticket owned found]
      exact server_mem_refusers (List.mem_append_right _ (List.mem_singleton_self _)) denies

/-- Of three parents the second refuses when two have been asked. The third attempt is the first parent's again; the fourth is
the third's. When the two that are left refuse as well, the handshake fails. -/
theorem third_parent_asked_fourth :
    let c : Surroundings := ⟨0, 0, (Roster.empty 3).enter 1 .unrestricted, .counting 0⟩
    let caller := ofConfig { punch := { backoff := { ({} : PunchConfig).backoff with attempts := 4 } } }
      ⟨⟨.ofOctets 10 0 0 1, 4000, 1⟩, 0, none⟩
    let server (node : UInt32) : Contact := ⟨⟨.ofOctets 10 0 0 9, 3478, node⟩, 0, .unrestricted, []⟩
    let target : Contact := ⟨⟨.ofOctets 10 0 0 2, 5000, 2⟩, 0, .natted .endpointIndependent .portPreservation .endpointIndependent,
      [(server 91).address, (server 92).address, (server 93).address]⟩
    let retry (number : Nat) : PunchInput := .alarm (.retry target.key (c.chance.ticket number))
    let denial (node : UInt32) : PunchInput :=
      .command (.inbound ⟨server node, caller.me.address, c.chance.ticket 0, .udp, .connectResponse .unknownTarget 2⟩
        (server node).address.socket caller.me.address.socket)
    let called := caller.react c (.command (.connect target (.ok [])))
    let second := called.1.react c (retry 1)
    let refused := second.1.react c (denial 92)
    let third := refused.1.react c (retry 3)
    let fourth := third.1.react c (retry 4)
    let fewer := fourth.1.react c (denial 91)
    let failed := fewer.1.react c (denial 93)
    let log : List Deed := [⟨.command (.connect target (.ok [])), called.2⟩, ⟨retry 1, second.2⟩, ⟨denial 92, refused.2⟩,
      ⟨retry 3, third.2⟩, ⟨retry 4, fourth.2⟩]
    (∃ hs, fourth.1.handshakes.get? target.key = some hs ∧ hs.retriesLeft = 0 ∧ refusers hs.pingId log = [92] ∧
      ∀ parent ∈ target.parents, parent ∈ consulted hs.pingId (done log) ∨ parent.node ∈ refusers hs.pingId log) ∧
    .report (.failed target.key target (.unknownTarget 2)) ∈ failed.2 ∧
    ∃ hs, fewer.1.handshakes.get? target.key = some hs ∧ ∀ parent ∈ target.parents,
      parent.node ∈ refusers hs.pingId (log ++ [⟨denial 91, fewer.2⟩] ++ [⟨denial 93, failed.2⟩]) := by
  intro c caller server target retry denial called second refused third fourth fewer failed log
  have run : Run (.counting 0) caller log fourth.1 :=
    (run_react caller c _).trans ((run_react called.1 c _).trans ((run_react second.1 c _).trans
      ((run_react refused.1 c _).trans (run_react third.1 c _))))
  have reported : .report (.failed target.key target (.unknownTarget 2)) ∈ failed.2 := by decide +kernel
  have spent : (fourth.1.handshakes.get? target.key).map (fun hs => (hs.target, hs.responder, hs.retriesLeft, refusers hs.pingId log)) =
      some (target, false, 0, [92]) := by
    decide +kernel
  obtain ⟨hs, pending, known⟩ := Option.map_eq_some_iff.mp spent
  simp only [Prod.mk.injEq] at known
  obtain ⟨named, initiator, none_left, refusals⟩ := known
  obtain ⟨asks, _⟩ := parents_take_turns run
  obtain ⟨_, fails⟩ := parents_take_turns (run.trans (run_react fourth.1 c (denial 91)))
  refine ⟨⟨hs, pending, none_left, refusals, ?_⟩, reported, ?_⟩
  · have natted : target.isOpen = false := by decide +kernel
    have reached := asks target.key hs pending initiator (by rw [named]; exact natted) none_left
      (by rw [named, refusals]; decide +kernel)
    rwa [named] at reached
  · obtain ⟨later, found, _, all⟩ := fails c fewer.1.alarms (denial 93) target.key target 2 reported
    exact ⟨later, found, all⟩

/-- With as many attempts as parents, one is never asked: the refusal of the second has the third attempt be the first's. -/
theorem not_always_asked :
    ¬ ∀ (chance : Chance) (config : Config) (me : Identity) (log : List Deed) (p : Puncher) (c : Surroundings) (key : PeerKey)
      (hs : Handshake), Run chance (ofConfig config me) log p → c.chance = chance → chance.Distinct p.drawn →
      p.handshakes.get? key = some hs → hs.responder = false → hs.target.isOpen = false → (hs.target.parents.map (·.node)).Nodup →
      hs.target.parents.length ≤ config.punch.backoff.attempts.toNat → hs.retriesLeft = 0 →
      .report (.failed key hs.target (.handshakeTimeout key.node)) ∈ (p.react c (.alarm (.retry key hs.retryId))).2 →
      ∀ parent ∈ hs.target.parents,
        parent ∈ consulted hs.pingId (done log ++ (p.react c (.alarm (.retry key hs.retryId))).2) := by
  intro always
  let c : Surroundings := ⟨0, 0, (Roster.empty 3).enter 1 .unrestricted, .counting 0⟩
  let config : Config := { punch := { backoff := { ({} : PunchConfig).backoff with attempts := 3 } } }
  let me : Identity := ⟨⟨.ofOctets 10 0 0 1, 4000, 1⟩, 0, none⟩
  let server (node : UInt32) : Contact := ⟨⟨.ofOctets 10 0 0 9, 3478, node⟩, 0, .unrestricted, []⟩
  let target : Contact := ⟨⟨.ofOctets 10 0 0 2, 5000, 2⟩, 0, .natted .endpointIndependent .portPreservation .endpointIndependent,
    [(server 91).address, (server 92).address, (server 93).address]⟩
  let retry (number : Nat) : PunchInput := .alarm (.retry target.key (c.chance.ticket number))
  let denial : PunchInput :=
    .command (.inbound ⟨server 92, me.address, c.chance.ticket 0, .udp, .connectResponse .unknownTarget 2⟩
      (server 92).address.socket me.address.socket)
  let called := (ofConfig config me).react c (.command (.connect target (.ok [])))
  let second := called.1.react c (retry 1)
  let refused := second.1.react c denial
  let third := refused.1.react c (retry 3)
  let log : List Deed := [⟨.command (.connect target (.ok [])), called.2⟩, ⟨retry 1, second.2⟩, ⟨denial, refused.2⟩,
    ⟨retry 3, third.2⟩]
  have run : Run (.counting 0) (ofConfig config me) log third.1 :=
    (run_react _ c _).trans ((run_react called.1 c _).trans ((run_react second.1 c _).trans (run_react refused.1 c _)))
  have spent : (third.1.handshakes.get? target.key).map (fun hs =>
      (hs.target, hs.responder, hs.retriesLeft, hs.retryId, consulted hs.pingId (done log ++ (third.1.react c (retry 4)).2))) =
      some (target, false, 0, c.chance.ticket 4, [(server 91).address, (server 92).address, (server 91).address]) := by
    decide +kernel
  obtain ⟨hs, pending, known⟩ := Option.map_eq_some_iff.mp spent
  simp only [Prod.mk.injEq] at known
  obtain ⟨named, initiator, none_left, alarm, parents⟩ := known
  have natted : target.isOpen = false := by decide +kernel
  have late : .report (.failed target.key target (.handshakeTimeout 2)) ∈ (third.1.react c (retry 4)).2 := by decide +kernel
  have asked := always _ config me log third.1 c target.key hs run rfl (Chance.counting_distinct (by decide +kernel)) pending initiator
    (by rw [named]; exact natted) (by rw [named]; decide +kernel) (by rw [named]; decide +kernel) none_left
    (by rw [named, alarm]; exact late) (server 93).address (by rw [named]; decide +kernel)
  rw [alarm, parents] at asked
  exact absurd asked (by decide +kernel)

end

end Puncher

end NatTraversal
