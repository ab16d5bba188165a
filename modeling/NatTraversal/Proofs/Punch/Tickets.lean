import NatTraversal.Proofs.Punch.Moves

namespace NatTraversal

/-- What a ticket stands for. -/
inductive TicketRole where
  | ping (key : PeerKey)
  | retry (key : PeerKey)
  | deadline (key : PeerKey)
  | expiry (key : PeerKey)
  | spare
deriving DecidableEq

/-- Whether a handshake has become another without a retry. -/
structure Handshake.Edited (hs later : Handshake) : Prop where
  target : later.target = hs.target
  attempt : later.attempt = hs.attempt
  retriesLeft : later.retriesLeft = hs.retriesLeft
  rto : later.rto = hs.rto
  deadline : later.deadline = hs.deadline
  retryId : later.retryId = hs.retryId
  deadlineId : later.deadlineId = hs.deadlineId
  pingId : later.pingId = hs.pingId
  punchPort : later.punchPort = hs.punchPort
  stage : later.stage = hs.stage ∨ hs.stage = .registered ∧ later.stage = .connectRequested ∨ later.stage = .holeOpen

namespace Puncher

/-- How a move has left a handshake: as it was but for its course, after one more retry, or just begun. -/
inductive Origin (c : Surroundings) (input : PunchInput) (p q : Puncher) (key : PeerKey) : Handshake → Prop where
  | edited {hs later : Handshake} (found : p.handshakes.get? key = some hs) (edited : hs.Edited later)
    (asleep : q.halted = false → ¬ input.Wakes key hs) : Origin c input p q key later
  | retried {hs : Handshake} {rto : Nat} (found : p.handshakes.get? key = some hs)
    (given : input = .alarm (.retry key hs.retryId)) (some_left : hs.retriesLeft ≠ 0) (early : c.now < hs.deadline)
    (next : p.backoff.next? hs.rto = some rto) (drawn : q.drawn = p.drawn + 1)
    (alarms : q.alarms = p.alarms.arm (c.chance.ticket p.drawn) (c.now + rto) (.retry key (c.chance.ticket p.drawn))) :
    Origin c input p q key (attempted (p.retried c hs rto))
  | opened {hs : Handshake} {target : Contact} {remote : Socket} {punchPort : UInt16} {allocated : List UInt16}
    {parent : Option Address} {responder : Bool} (idle : p.handshakes.get? key = none) (own : target.key = key)
    (same : hs = p.opening c target remote punchPort allocated parent responder) (next : q = p.begun c hs) :
    Origin c input p q key (attempted hs)

end Puncher

namespace Handshake.Edited

theorem of_stage {hs : Handshake} (remote : Socket) (parent : Option Address) (refused : List UInt32) {stage : Stage}
    (course : stage = hs.stage ∨ hs.stage = .registered ∧ stage = .connectRequested ∨ stage = .holeOpen) :
    hs.Edited { hs with remote, parent, refused, stage } :=
  ⟨rfl, rfl, rfl, rfl, rfl, rfl, rfl, rfl, rfl, course⟩

theorem refl (hs : Handshake) : hs.Edited hs := of_stage hs.remote hs.parent hs.refused (.inl rfl)

theorem attempted {hs later : Handshake} (edited : hs.Edited later) : hs.Edited (Puncher.attempted later) :=
  { edited with
    stage := by
      rcases edited.stage with same | ⟨before, after⟩ | opened
      · simp only [Puncher.attempted, same]
        split
        · rename_i registered
          exact .inr (.inl ⟨registered, rfl⟩)
        · exact .inl rfl
      · simp [Puncher.attempted, before, after]
      · simp [Puncher.attempted, opened] }

end Handshake.Edited

namespace Puncher

section

variable {c : Surroundings} {input : PunchInput} {p q : Puncher} {effects : List PunchEffect} {key : PeerKey} {later : Handshake}

theorem origin_of_same (same : q.handshakes = p.handshakes)
    (asleep : ∀ key hs, p.handshakes.get? key = some hs → q.halted = false → ¬ input.Wakes key hs)
    (found : q.handshakes.get? key = some later) : Origin c input p q key later :=
  .edited (same ▸ found) (.refl later) (asleep key later (same ▸ found))

theorem origin_keep {command : PunchCommand} {own : PeerKey} {hs kept : Handshake} (given : input = .command command)
    (known : p.handshakes.get? own = some hs) (edited : hs.Edited kept)
    (found : (p.keep own kept).handshakes.get? key = some later) : Origin c input p (p.keep own kept) key later := by
  have asleep : ∀ hs, ¬ input.Wakes key hs := fun hs => given ▸ not_wakes_command command key hs
  rw [keep, Table.get?_insert] at found
  split at found
  · rename_i same
    cases found
    exact .edited (same ▸ known) edited fun _ => asleep hs
  · exact .edited found (.refl later) fun _ => asleep later

theorem origin_begun {command : PunchCommand} {hs : Handshake} {target : Contact} {remote : Socket} {punchPort : UInt16}
    {allocated : List UInt16} {parent : Option Address} {responder : Bool} (given : input = .command command)
    (idle : p.handshakes.get? target.key = none)
    (same : hs = p.opening c target remote punchPort allocated parent responder)
    (found : (p.begun c hs).handshakes.get? key = some later) : Origin c input p (p.begun c hs) key later := by
  rw [begun, Table.get?_insert] at found
  have own : hs.target.key = target.key := by rw [same, opening]
  split at found
  · rename_i known
    cases found
    exact .opened (known ▸ own ▸ idle) (own ▸ known.symm) same rfl
  · exact .edited found (.refl later) fun _ => given ▸ not_wakes_command command key later

theorem origin_erase {own : PeerKey} (asleep : ∀ woken, key ≠ own → ¬ input.Wakes key woken)
    (same : q.handshakes = p.handshakes.erase own) (found : q.handshakes.get? key = some later) : Origin c input p q key later := by
  rw [same, Table.get?_erase] at found
  split at found
  · cases found
  · rename_i other
    exact .edited found (.refl later) fun _ => asleep later other

theorem Move.origin (move : Move c input p q effects) (found : q.handshakes.get? key = some later) :
    Origin c input p q key later := by
  cases move with
  | aside aside asleep =>
    have frame := aside.frame
    exact origin_of_same (by rw [frame]) (fun key hs known _ => asleep key hs known) found
  | answers given asks idle => exact origin_of_same rfl (fun key hs _ _ => given ▸ not_wakes_command _ key hs) found
  | hears given asks known aimed => exact origin_keep given known (.of_stage _ _ _ (.inr (.inr rfl))) found
  | @follows ping remote here hs moved given asks known elsewhere same =>
    subst same
    exact origin_keep given known (Handshake.Edited.of_stage _ _ _ (.inr (.inr rfl))).attempted found
  | @crosses request remote here initiator hs moved given asks known same =>
    subst same
    exact origin_keep given known (Handshake.Edited.of_stage _ _ _ (.inl rfl)).attempted found
  | responds given asks idle apart same => exact origin_begun given idle same found
  | recalls given known => exact origin_of_same rfl (fun key hs _ _ => given ▸ not_wakes_command _ key hs) found
  | refuses given error => exact origin_of_same rfl (fun key hs _ _ => given ▸ not_wakes_command _ key hs) found
  | calls given idle apart allowed granted same => exact origin_begun given idle same found
  | notes given known refused => exact origin_keep given known (.of_stage _ _ _ (.inl rfl)) found
  | fails known own error => exact origin_erase (fun woken other wakes => other (own key woken wakes)) rfl found
  | verifies given answer owned known =>
    exact origin_erase (fun woken _ => given ▸ not_wakes_command _ key woken) rfl found
  | @retries own hs rto given known some_left early next =>
    rw [Table.get?_insert] at found
    split at found
    · rename_i same
      subst same
      cases found
      exact .retried known given some_left early next rfl rfl
    · rename_i other
      refine .edited found (.refl later) fun _ wakes => ?_
      rcases wakes with retry | deadline
      · exact other (PunchAlarm.retry.inj (PunchInput.alarm.inj (given.symm.trans retry))).1.symm
      · cases given.symm.trans deadline
  | closes known asleep => exact origin_of_same rfl (fun key hs _ _ => asleep key hs) found
  | stalls frame spares stuck =>
    refine origin_of_same (by rw [frame]) (fun key hs known going => ?_) found
    rw [frame] at going
    cases going

/-- What is set up with a puncher and stays. -/
theorem Move.constant (move : Move c input p q effects) :
    q.me = p.me ∧ q.backoff = p.backoff ∧ q.handshakeLimit = p.handshakeLimit ∧ q.enrollment = p.enrollment := by
  cases move with
  | aside aside asleep => rw [aside.frame]; exact ⟨rfl, rfl, rfl, rfl⟩
  | stalls frame spares stuck => rw [frame]; exact ⟨rfl, rfl, rfl, rfl⟩
  | _ => exact ⟨rfl, rfl, rfl, rfl⟩

theorem Move.drawn_le (move : Move c input p q effects) : p.drawn ≤ q.drawn := by
  cases move with
  | aside aside asleep => exact aside.drawn
  | stalls frame spares stuck => exact Nat.le_of_eq (congrArg Puncher.drawn frame).symm
  | responds given asks idle apart same => exact Nat.le_add_right ..
  | calls given idle apart allowed granted same => exact Nat.le_add_right ..
  | verifies given answer owned found => exact Nat.le_add_right ..
  | retries given found some_left early next => exact Nat.le_add_right ..
  | _ => exact Nat.le_refl _

theorem Moves.drawn_le (moves : Moves c input p q effects) : p.drawn ≤ q.drawn := by
  induction moves with
  | refl => exact Nat.le_refl _
  | step _ move ih => exact Nat.le_trans ih move.drawn_le

theorem Moves.constant (moves : Moves c input p q effects) :
    q.me = p.me ∧ q.backoff = p.backoff ∧ q.handshakeLimit = p.handshakeLimit ∧ q.enrollment = p.enrollment := by
  induction moves with
  | refl => exact ⟨rfl, rfl, rfl, rfl⟩
  | step _ move ih =>
    obtain ⟨me, backoff, limit, enrollment⟩ := move.constant
    exact ⟨me.trans ih.1, backoff.trans ih.2.1, limit.trans ih.2.2.1, enrollment.trans ih.2.2.2⟩

/-- Whether a ticket stands for something. -/
def Wears (p : Puncher) : TicketRole → Ticket → Prop
  | .ping key, id => ∃ hs, p.handshakes.get? key = some hs ∧ hs.pingId = id
  | .retry key, id => ∃ hs, p.handshakes.get? key = some hs ∧ hs.retryId = id
  | .deadline key, id => ∃ hs, p.handshakes.get? key = some hs ∧ hs.deadlineId = id
  | .expiry key, id => ∃ cached, p.paths.get? key = some cached ∧ cached.expiryId = id
  | .spare, id => p.Spares id

/-- Every ticket that stands for something has been drawn, and stands for nothing else. -/
structure Ticketed (chance : Chance) (p : Puncher) : Prop where
  drawn : ∀ role id, p.Wears role id → chance.Draws 0 p.drawn id
  single : ∀ one two id, p.Wears one id → p.Wears two id → one = two

/-- Where handshakes are edited at most and nothing else comes up, no ticket comes to stand for anything. -/
theorem wears_of_edited {role : TicketRole} {id : Ticket}
    (edits : ∀ key later, q.handshakes.get? key = some later → ∃ hs, p.handshakes.get? key = some hs ∧ hs.Edited later)
    (paths : ∀ key cached, q.paths.get? key = some cached → p.paths.get? key = some cached)
    (spares : ∀ id, q.Spares id → p.Spares id) (worn : q.Wears role id) : p.Wears role id := by
  cases role with
  | ping key =>
    obtain ⟨later, found, own⟩ := worn
    obtain ⟨hs, known, edited⟩ := edits key later found
    exact ⟨hs, known, edited.pingId.symm.trans own⟩
  | retry key =>
    obtain ⟨later, found, own⟩ := worn
    obtain ⟨hs, known, edited⟩ := edits key later found
    exact ⟨hs, known, edited.retryId.symm.trans own⟩
  | deadline key =>
    obtain ⟨later, found, own⟩ := worn
    obtain ⟨hs, known, edited⟩ := edits key later found
    exact ⟨hs, known, edited.deadlineId.symm.trans own⟩
  | expiry key =>
    obtain ⟨cached, found, own⟩ := worn
    exact ⟨cached, paths key cached found, own⟩
  | spare => exact spares id worn

/-- A move that draws nothing brings up no ticket. -/
theorem Move.wears_of_drawn_eq (move : Move c input p q effects) (same : q.drawn = p.drawn)
    (paths : ∀ key cached, q.paths.get? key = some cached → p.paths.get? key = some cached)
    (spares : ∀ id, q.Spares id → p.Spares id) {role : TicketRole} {id : Ticket} (worn : q.Wears role id) : p.Wears role id := by
  refine wears_of_edited (fun key later found => ?_) paths spares worn
  cases move.origin found with
  | edited known edited asleep => exact ⟨_, known, edited⟩
  | retried known given some_left early next drawn alarms =>
    rw [same] at drawn
    omega
  | opened idle own opening next =>
    rw [next] at same
    exact absurd same (by simp [begun])

/-- The purposes of the draws that a handshake begins with. -/
def opening_purpose (p : Puncher) (key : PeerKey) (n : Nat) : TicketRole :=
  if n = p.drawn then .ping key else if n = p.drawn + 1 then .retry key else .deadline key

theorem wears_begun {hs : Handshake} {target : Contact} {remote : Socket} {punchPort : UInt16} {allocated : List UInt16}
    {parent : Option Address} {responder : Bool}
    (same : hs = p.opening c target remote punchPort allocated parent responder) {role : TicketRole} {id : Ticket}
    (worn : (p.begun c hs).Wears role id) : p.Wears role id ∨
      ∃ n, p.drawn ≤ n ∧ n < (p.begun c hs).drawn ∧ id = c.chance.ticket n ∧ role = p.opening_purpose target.key n := by
  have drawn : (p.begun c hs).drawn = p.drawn + 3 := rfl
  have known : ∀ key later, (p.begun c hs).handshakes.get? key = some later →
      key = target.key ∧ later = attempted hs ∨ p.handshakes.get? key = some later := by
    intro key later found
    rw [begun, Table.get?_insert] at found
    split at found
    · rename_i own
      exact .inl ⟨own.trans (by rw [same, opening]), (Option.some.inj found).symm⟩
    · exact .inr found
  cases role with
  | ping key =>
    obtain ⟨later, found, own⟩ := worn
    rcases known key later found with ⟨rfl, rfl⟩ | old
    · exact .inr ⟨p.drawn, by omega, by omega, by rw [← own, attempted, same, opening], by simp [opening_purpose]⟩
    · exact .inl ⟨later, old, own⟩
  | retry key =>
    obtain ⟨later, found, own⟩ := worn
    rcases known key later found with ⟨rfl, rfl⟩ | old
    · exact .inr ⟨p.drawn + 1, by omega, by omega, by rw [← own, attempted, same, opening], by simp [opening_purpose]⟩
    · exact .inl ⟨later, old, own⟩
  | deadline key =>
    obtain ⟨later, found, own⟩ := worn
    rcases known key later found with ⟨rfl, rfl⟩ | old
    · exact .inr ⟨p.drawn + 2, by omega, by omega, by rw [← own, attempted, same, opening], by simp [opening_purpose]⟩
    · exact .inl ⟨later, old, own⟩
  | expiry key => exact .inl worn
  | spare => exact .inl worn

theorem wears_settled {own : PeerKey} {hs : Handshake} {remote : Socket} {role : TicketRole} {id : Ticket}
    (worn : (p.settled c own hs remote).Wears role id) : p.Wears role id ∨
      ∃ n, p.drawn ≤ n ∧ n < (p.settled c own hs remote).drawn ∧ id = c.chance.ticket n ∧ role = .expiry own := by
  have kept : ∀ key later, (p.settled c own hs remote).handshakes.get? key = some later → p.handshakes.get? key = some later := by
    intro key later found
    rw [settled, Table.get?_erase] at found
    split at found
    · cases found
    · exact found
  cases role with
  | ping key => exact .inl (worn.imp fun later found => ⟨kept key later found.1, found.2⟩)
  | retry key => exact .inl (worn.imp fun later found => ⟨kept key later found.1, found.2⟩)
  | deadline key => exact .inl (worn.imp fun later found => ⟨kept key later found.1, found.2⟩)
  | expiry key =>
    obtain ⟨cached, found, expires⟩ := worn
    rw [settled, Table.get?_insert] at found
    split at found
    · rename_i same
      cases found
      exact .inr ⟨p.drawn, Nat.le_refl _, Nat.lt_succ_self _, expires.symm, same ▸ rfl⟩
    · exact .inl ⟨cached, found, expires⟩
  | spare => exact .inl worn

theorem wears_retried {own : PeerKey} {hs : Handshake} {rto : Nat} {alarms : Alarms PunchAlarm} (known : p.handshakes.get? own = some hs)
    {role : TicketRole} {id : Ticket} (worn : Wears { p with
      handshakes := p.handshakes.insert own (attempted (p.retried c hs rto)), alarms, drawn := p.drawn + 1 } role id) :
    p.Wears role id ∨ ∃ n, p.drawn ≤ n ∧ n < p.drawn + 1 ∧ id = c.chance.ticket n ∧ role = .retry own := by
  have before : ∀ key later, (p.handshakes.insert own (attempted (p.retried c hs rto))).get? key = some later →
      key = own ∧ later = attempted (p.retried c hs rto) ∨ p.handshakes.get? key = some later := by
    intro key later found
    rw [Table.get?_insert] at found
    split at found
    · rename_i own
      exact .inl ⟨own, (Option.some.inj found).symm⟩
    · exact .inr found
  cases role with
  | ping key =>
    obtain ⟨later, found, same⟩ := worn
    rcases before key later found with ⟨rfl, rfl⟩ | old
    · exact .inl ⟨hs, known, same⟩
    · exact .inl ⟨later, old, same⟩
  | retry key =>
    obtain ⟨later, found, same⟩ := worn
    rcases before key later found with ⟨rfl, rfl⟩ | old
    · exact .inr ⟨p.drawn, Nat.le_refl _, Nat.lt_succ_self _, same.symm, rfl⟩
    · exact .inl ⟨later, old, same⟩
  | deadline key =>
    obtain ⟨later, found, same⟩ := worn
    rcases before key later found with ⟨rfl, rfl⟩ | old
    · exact .inl ⟨hs, known, same⟩
    · exact .inl ⟨later, old, same⟩
  | expiry key => exact .inl worn
  | spare => exact .inl worn

/-- What stands for something after a move did so before, or has been drawn meanwhile for a purpose of its own. -/
theorem Move.wears (move : Move c input p q effects) : ∃ purpose : Nat → TicketRole, ∀ role id, q.Wears role id →
    p.Wears role id ∨ ∃ n, p.drawn ≤ n ∧ n < q.drawn ∧ id = c.chance.ticket n ∧ role = purpose n := by
  have whole := move
  cases move with
  | aside aside asleep =>
    have frame := aside.frame
    refine ⟨fun _ => .spare, fun role id worn => ?_⟩
    cases role with
    | spare => exact (aside.spares id worn).imp_right fun ⟨n, first, last, same⟩ => ⟨n, first, last, same, rfl⟩
    | _ =>
      rw [frame] at worn
      exact .inl worn
  | responds given asks idle apart same => exact ⟨_, fun role id => wears_begun same⟩
  | calls given idle apart allowed granted same => exact ⟨_, fun role id => wears_begun same⟩
  | @verifies pong remote here own hs given answer owned known =>
    exact ⟨fun _ => .expiry own, fun role id => wears_settled⟩
  | @retries own hs rto given known some_left early next =>
    exact ⟨fun _ => .retry own, fun role id => wears_retried known⟩
  | closes found asleep =>
    refine ⟨fun _ => .spare, fun role id worn => .inl (whole.wears_of_drawn_eq rfl (fun key cached known => ?_) (fun _ spare => spare) worn)⟩
    rw [Table.get?_erase] at known
    split at known
    · cases known
    · exact known
  | stalls frame spares stuck =>
    refine ⟨fun _ => .spare, fun role id worn => .inl (whole.wears_of_drawn_eq ?_ (fun key cached known => ?_) spares worn)⟩
    · rw [frame]
    · rw [frame] at known
      exact known
  | _ =>
    exact ⟨fun _ => .spare, fun role id worn => .inl (whole.wears_of_drawn_eq rfl (fun _ _ known => known) (fun _ spare => spare) worn)⟩

/-- What is still to be drawn stands for nothing. -/
theorem Ticketed.unworn {chance : Chance} (ticketed : p.Ticketed chance) {n count : Nat} (distinct : chance.Distinct count)
    (first : p.drawn ≤ n) (last : n < count) (role : TicketRole) : ¬ p.Wears role (chance.ticket n) := by
  intro worn
  obtain ⟨m, _, before, same⟩ := ticketed.drawn role _ worn
  have := distinct n m last (by omega) same
  omega

theorem Ticketed.move (ticketed : p.Ticketed c.chance) (move : Move c input p q effects) (distinct : c.chance.Distinct q.drawn) :
    q.Ticketed c.chance := by
  obtain ⟨purpose, wears⟩ := move.wears
  have growing := move.drawn_le
  refine ⟨fun role id worn => ?_, fun one two id first second => ?_⟩
  · rcases wears role id worn with old | ⟨n, _, last, same, _⟩
    · exact (ticketed.drawn role id old).mono (Nat.le_refl _) growing
    · exact ⟨n, Nat.zero_le _, last, same⟩
  · rcases wears one id first with old | ⟨n, from_here, last, same, own⟩ <;>
      rcases wears two id second with older | ⟨m, from_there, final, also, other⟩
    · exact ticketed.single one two id old older
    · exact absurd (also ▸ old) (ticketed.unworn distinct from_there final one)
    · exact absurd (same ▸ older) (ticketed.unworn distinct from_here last two)
    · rw [own, other, distinct n m last final (same.symm.trans also)]

theorem ticketed_ofConfig (chance : Chance) (config : Config) (me : Identity) : (ofConfig config me).Ticketed chance := by
  have nothing : ∀ role id, ¬ (ofConfig config me).Wears role id := by
    intro role id worn
    cases role with
    | spare =>
      rcases worn with probe | request | ⟨key, request, waits, _⟩
      · cases probe
      · cases request
      · cases waits
    | _ =>
      obtain ⟨_, found, _⟩ := worn
      cases found
  exact ⟨fun role id worn => absurd worn (nothing role id), fun one _ id worn _ => absurd worn (nothing one id)⟩

theorem alarm_begun {hs : Handshake} {target : Contact} {remote : Socket} {punchPort : UInt16} {allocated : List UInt16}
    {parent : Option Address} {responder : Bool} (same : hs = p.opening c target remote punchPort allocated parent responder)
    {id : Ticket} (other : ∀ n, p.drawn ≤ n → n < p.drawn + 3 → id ≠ c.chance.ticket n) :
    (p.begun c hs).alarms.table.get? id = p.alarms.table.get? id := by
  have retry : id ≠ hs.retryId := same ▸ other (p.drawn + 1) (by omega) (by omega)
  have deadline : id ≠ hs.deadlineId := same ▸ other (p.drawn + 2) (by omega) (by omega)
  rw [begun, Alarms.get?_arm, if_neg deadline, Alarms.get?_arm, if_neg retry]

/-- What stands for something once a handshake is gone is not of that handshake. -/
theorem Wears.ne_of_gone {own : PeerKey} {role : TicketRole} {id : Ticket} (still : q.Wears role id)
    (gone : q.handshakes.get? own = none) : role ≠ .retry own ∧ role ≠ .deadline own := by
  constructor
  · rintro rfl
    obtain ⟨_, remains, _⟩ := still
    cases gone.symm.trans remains
  · rintro rfl
    obtain ⟨_, remains, _⟩ := still
    cases gone.symm.trans remains

/-- A handshake that ends takes its own alarms with it. -/
theorem alarm_forget (ticketed : p.Ticketed c.chance) {own : PeerKey} {hs : Handshake} (found : p.handshakes.get? own = some hs)
    {role : TicketRole} {id : Ticket} (worn : p.Wears role id) (retry : role ≠ .retry own) (deadline : role ≠ .deadline own) :
    (p.forget own hs).alarms.table.get? id = p.alarms.table.get? id := by
  have first : id ≠ hs.retryId := by
    rintro rfl
    exact retry (ticketed.single role (.retry own) _ worn ⟨hs, found, rfl⟩)
  have second : id ≠ hs.deadlineId := by
    rintro rfl
    exact deadline (ticketed.single role (.deadline own) _ worn ⟨hs, found, rfl⟩)
  simp only [forget, cancel, Alarms.get?_drop, if_neg first, if_neg second]

/-- The alarm of a ticket that goes on to stand for the same part of a handshake or a path is left alone. -/
theorem Move.alarm_kept (ticketed : p.Ticketed c.chance) (move : Move c input p q effects) (distinct : c.chance.Distinct q.drawn)
    {role : TicketRole} {id : Ticket} (worn : p.Wears role id) (still : q.Wears role id) (timed : role ≠ .spare) :
    q.alarms.table.get? id = p.alarms.table.get? id := by
  have other : ∀ n, p.drawn ≤ n → n < q.drawn → id ≠ c.chance.ticket n := by
    rintro n first last rfl
    exact ticketed.unworn distinct first last role worn
  cases move with
  | aside aside asleep =>
    refine aside.alarms id (fun spare => timed (ticketed.single role .spare id worn spare)) ?_
    rintro ⟨n, first, last, same⟩
    exact other n first last same
  | responds given asks idle apart same => exact alarm_begun same other
  | calls given idle apart allowed granted same => exact alarm_begun same other
  | @fails own hs found owned error =>
    have gone : (p.forget own hs).handshakes.get? own = none := (Table.get?_erase ..).trans (if_pos rfl)
    obtain ⟨retry, deadline⟩ := still.ne_of_gone gone
    exact alarm_forget ticketed found worn retry deadline
  | @verifies pong remote here own hs given answer owned known =>
    have gone : (p.settled c own hs remote).handshakes.get? own = none := (Table.get?_erase ..).trans (if_pos rfl)
    obtain ⟨retry, deadline⟩ := still.ne_of_gone gone
    have forgotten := alarm_forget ticketed known worn retry deadline
    have new : id ≠ c.chance.ticket p.drawn := other p.drawn (Nat.le_refl _) (Nat.lt_succ_self _)
    cases old : p.paths.get? own with
    | none => simp only [settled, old, Alarms.get?_arm, if_neg new, forgotten]
    | some cached =>
      have apart : id ≠ cached.expiryId := by
        rintro rfl
        obtain rfl := ticketed.single role (.expiry own) _ worn ⟨cached, old, rfl⟩
        obtain ⟨_, found, same⟩ := still
        rw [settled, Table.get?_insert, if_pos rfl] at found
        cases found
        exact new same.symm
      simp only [settled, old, Alarms.get?_drop, if_neg apart, Alarms.get?_arm, if_neg new, forgotten]
  | @retries own hs rto given known some_left early next =>
    rw [Alarms.get?_arm, if_neg (other p.drawn (Nat.le_refl _) (Nat.lt_succ_self _))]
  | @closes own cached found asleep =>
    rw [Alarms.get?_drop, if_neg]
    rintro rfl
    obtain rfl := ticketed.single role (.expiry own) _ worn ⟨cached, found, rfl⟩
    obtain ⟨_, remains, _⟩ := still
    rw [Table.get?_erase, if_pos rfl] at remains
    cases remains
  | stalls frame spares stuck => rw [frame]
  | _ => rfl

end

end Puncher

end NatTraversal
