import NatTraversal.Proofs.Punch.Aside

namespace NatTraversal

/-- What a puncher reacts to. -/
inductive PunchInput where
  | command (command : PunchCommand)
  | alarm (alarm : PunchAlarm)

/-- Whether an alarm is the current one of a handshake. -/
def PunchInput.Wakes (input : PunchInput) (key : PeerKey) (hs : Handshake) : Prop :=
  input = .alarm (.retry key hs.retryId) ∨ input = .alarm (.deadline key hs.deadlineId)

/-- A server's answer that it does not know the target of a request. -/
structure Denial where
  ticket : Ticket
  server : UInt32
  target : UInt32

def PunchInput.denial? : PunchInput → Option Denial
  | .command (.inbound response _ _) =>
    match response.body with
    | .connectResponse .unknownTarget target => some ⟨response.ticket, response.source.node, target⟩
    | _ => none
  | _ => none

/-- The parents that have refused, with one more. -/
def Handshake.refusedWith (hs : Handshake) (server : UInt32) : List UInt32 :=
  if hs.refused.contains server then hs.refused else hs.refused ++ [server]

namespace Puncher

def react (p : Puncher) (c : Surroundings) : PunchInput → PunchStep
  | .command command => p.handle c command
  | .alarm alarm => p.onAlarm c alarm

/-- Gives a peer's handshake a new form. -/
def keep (p : Puncher) (key : PeerKey) (hs : Handshake) : Puncher := { p with handshakes := p.handshakes.insert key hs }

/-- A handshake has been begun, with its alarms. -/
def begun (p : Puncher) (c : Surroundings) (hs : Handshake) : Puncher :=
  { p with
    handshakes := p.handshakes.insert hs.target.key (attempted hs)
    byPing := p.byPing.insert hs.pingId hs.target.key
    alarms := (p.alarms.arm hs.retryId (c.now + hs.rto) (.retry hs.target.key hs.retryId)).arm hs.deadlineId hs.deadline
      (.deadline hs.target.key hs.deadlineId)
    drawn := p.drawn + 3 }

/-- A handshake goes on with a longer timeout. -/
def retried (c : Surroundings) (p : Puncher) (hs : Handshake) (rto : Nat) : Handshake :=
  { hs with retriesLeft := hs.retriesLeft - 1, attempt := hs.attempt + 1, rto, retryId := c.chance.ticket p.drawn }

/-- The path that a handshake has led to. -/
def cached (c : Surroundings) (p : Puncher) (hs : Handshake) (remote : Socket) : CachedPath :=
  ⟨⟨remote, hs.punchPort⟩, hs.allocated, c.chance.ticket p.drawn⟩

/-- What a path held, if there was one. -/
def leftover (p : Puncher) (key : PeerKey) : List PunchEffect := releasing (((p.paths.get? key).map (·.allocated)).getD [])

/-- A handshake has given way to a path. -/
def settled (p : Puncher) (c : Surroundings) (key : PeerKey) (hs : Handshake) (remote : Socket) : Puncher :=
  let armed := (p.forget key hs).alarms.arm (c.chance.ticket p.drawn) (c.now + p.pathTtl)
    (.pathExpired key (c.chance.ticket p.drawn))
  { p with
    handshakes := p.handshakes.erase key
    byPing := p.byPing.erase hs.pingId
    paths := p.paths.insert key (p.cached c hs remote)
    alarms := match p.paths.get? key with
      | some old => armed.drop old.expiryId
      | none => armed
    drawn := p.drawn + 1 }

/-- What a path that is settled is told of: a parent that helped, and the courier. -/
def tidings (p : Puncher) (c : Surroundings) (key : PeerKey) (hs : Handshake) (remote : Socket) : List PunchEffect :=
  hs.parent.toList.map (fun parent => PunchEffect.send
    (Message.plain (p.contactAt c p.mainPort) parent (.deleteConnection hs.target.node))) ++
  [.report (.verified key hs.target ⟨remote, hs.punchPort⟩)]

theorem eq_release_of_mem_releasing {ports : List UInt16} {effect : PunchEffect} (member : effect ∈ releasing ports) :
    effect = .release ports := by
  unfold releasing at member
  split at member
  · cases member
  · exact List.mem_singleton.mp member

theorem sendAttempt_eq {p : Puncher} {key : PeerKey} {hs : Handshake} (found : p.handshakes.get? key = some hs) (c : Surroundings) :
    p.sendAttempt c key = (p.keep key (attempted hs), p.attempt c hs) := by
  simp only [sendAttempt, found, keep, attempted, attempt]

/-- A handshake that has just been changed goes on. -/
theorem sendAttempt_insert (p : Puncher) (c : Surroundings) (key : PeerKey) (hs : Handshake) :
    ({ p with handshakes := p.handshakes.insert key hs }).sendAttempt c key = (p.keep key (attempted hs), p.attempt c hs) := by
  rw [sendAttempt_eq (by rw [Table.get?_insert, if_pos rfl])]
  simp only [keep, Table.insert_insert]
  rfl

theorem begin_eq (p : Puncher) (c : Surroundings) (target : Contact) (remote : Socket) (punchPort : UInt16)
    (allocated : List UInt16) (parent : Option Address) (responder : Bool) :
    p.begin c target remote punchPort allocated parent responder =
      (p.begun c (p.opening c target remote punchPort allocated parent responder),
        p.attempt c (p.opening c target remote punchPort allocated parent responder)) := by
  let hs := p.opening c target remote punchPort allocated parent responder
  have entered : (p.handshakes.insert target.key hs).get? target.key = some hs := by rw [Table.get?_insert, if_pos rfl]
  refine (sendAttempt_eq entered c).trans ?_
  simp only [keep, begun, Table.insert_insert]
  rfl

theorem verify_eq {p : Puncher} {key : PeerKey} {hs : Handshake} (found : p.handshakes.get? key = some hs) (c : Surroundings)
    (remote : Socket) : p.verify c key remote = (p.settled c key hs remote, p.leftover key ++ p.tidings c key hs remote) := by
  have paths : (p.forget key hs).paths = p.paths := rfl
  unfold verify
  simp only [found]
  cases old : p.paths.get? key with
  | none =>
    simp only [draw, arm, paths, old, settled, leftover]
    rfl
  | some cached =>
    simp only [draw, arm, paths, old, settled, leftover, Option.map_some, Option.getD_some, List.append_assoc]
    rfl

/-- What a puncher can do at once. -/
inductive Move (c : Surroundings) (input : PunchInput) (p : Puncher) : Puncher → List PunchEffect → Prop where
  | aside {q : Puncher} {effects : List PunchEffect} (aside : p.StepsAside c q effects)
    (asleep : ∀ key hs, p.handshakes.get? key = some hs → ¬ input.Wakes key hs) : Move c input p q effects
  /-- A ping outside any handshake is answered. -/
  | answers {ping : Message} {remote here : Socket} (given : input = .command (.inbound ping remote here))
    (asks : ping.body = .punchPing) (idle : p.handshakes.get? ping.source.key = none) :
    Move c input p p [.send (p.pong c ping remote here)]
  | hears {ping : Message} {remote here : Socket} {hs : Handshake} (given : input = .command (.inbound ping remote here))
    (asks : ping.body = .punchPing) (found : p.handshakes.get? ping.source.key = some hs) (aimed : hs.remote = remote) :
    Move c input p (p.keep ping.source.key { hs with stage := .holeOpen }) [.send (p.pong c ping remote here)]
  /-- A handshake turns to where its target's ping comes from. -/
  | follows {ping : Message} {remote here : Socket} {hs moved : Handshake} (given : input = .command (.inbound ping remote here))
    (asks : ping.body = .punchPing) (found : p.handshakes.get? ping.source.key = some hs) (elsewhere : hs.remote ≠ remote)
    (same : moved = { hs with stage := .holeOpen, remote }) :
    Move c input p (p.keep ping.source.key (attempted moved)) (.send (p.pong c ping remote here) :: p.attempt c moved)
  /-- Both sides have asked at once. -/
  | crosses {request : Message} {remote here : Socket} {initiator : Contact} {hs moved : Handshake}
    (given : input = .command (.inbound request remote here)) (asks : request.body = .connectRequest initiator true)
    (found : p.handshakes.get? initiator.key = some hs)
    (same : moved =
      { hs with remote := initiator.address.socket, parent := hs.parent.or (some request.source.address) }) :
    Move c input p (p.keep initiator.key (attempted moved)) (p.attempt c moved)
  | responds {request : Message} {remote here : Socket} {initiator : Contact} {hs : Handshake}
    (given : input = .command (.inbound request remote here)) (asks : request.body = .connectRequest initiator true)
    (idle : p.handshakes.get? initiator.key = none) (apart : p.paths.get? initiator.key = none)
    (same : hs = p.opening c initiator initiator.address.socket p.mainPort [] (some request.source.address) true) :
    Move c input p (p.begun c hs) (p.attempt c hs)
  /-- A path that is known is reported again. -/
  | recalls {target : Contact} {grant : Except LinkError (List UInt16)} {cached : CachedPath}
    (given : input = .command (.connect target grant)) (found : p.paths.get? target.key = some cached) :
    Move c input p p [.report (.verified target.key target cached.path)]
  | refuses {target : Contact} {grant : Except LinkError (List UInt16)} (given : input = .command (.connect target grant))
    (error : Error) (cause : p.refusal? c target = some error ∨ ∃ fault, error = .link fault) :
    Move c input p p [.report (.failed target.key target error)]
  | calls {target : Contact} {grant : Except LinkError (List UInt16)} {ports : List UInt16} {hs : Handshake}
    (given : input = .command (.connect target grant)) (idle : p.handshakes.get? target.key = none)
    (apart : p.paths.get? target.key = none) (allowed : p.refusal? c target = none)
    (granted : target.nat.mapping ≠ .endpointIndependent → grant = .ok ports)
    (same : hs = p.opening c target target.address.socket (p.punching target ports).1 (p.punching target ports).2 none false) :
    Move c input p (p.begun c hs) (p.attempt c hs)
  /-- A parent has refused; others are left. -/
  | notes {response : Message} {remote here : Socket} {key : PeerKey} {hs : Handshake} (given : input = .command (.inbound response remote here))
    (found : p.handshakes.get? key = some hs) (refused : List UInt32)
    (cause : ∃ denial, input.denial? = some denial ∧ p.byPing.get? denial.ticket = some key ∧ refused = hs.refusedWith denial.server) :
    Move c input p (p.keep key { hs with refused }) []
  /-- A handshake has run out of time, or of parents. -/
  | fails {key : PeerKey} {hs : Handshake} (found : p.handshakes.get? key = some hs)
    (own : ∀ other woken, input.Wakes other woken → other = key) (error : Error)
    (cause : error = .handshakeTimeout key.node ∨ ∃ denial, input.denial? = some denial ∧
      p.byPing.get? denial.ticket = some key ∧ error = .unknownTarget denial.target ∧
      ∀ parent ∈ hs.target.parents, parent.node ∈ hs.refusedWith denial.server) :
    Move c input p (p.forget key hs) (releasing hs.allocated ++ [.report (.failed key hs.target error)])
  | verifies {pong : Message} {remote here : Socket} {key : PeerKey} {hs : Handshake}
    (given : input = .command (.inbound pong remote here)) (answer : pong.body = .punchPong)
    (owned : p.byPing.get? pong.ticket = some key) (found : p.handshakes.get? key = some hs) :
    Move c input p (p.settled c key hs remote) (p.leftover key ++ p.tidings c key hs remote)
  | retries {key : PeerKey} {hs : Handshake} {rto : Nat} (given : input = .alarm (.retry key hs.retryId))
    (found : p.handshakes.get? key = some hs) (some_left : hs.retriesLeft ≠ 0) (early : c.now < hs.deadline)
    (next : p.backoff.next? hs.rto = some rto) :
    Move c input p ({ p with
        handshakes := p.handshakes.insert key (attempted (p.retried c hs rto))
        alarms := p.alarms.arm (c.chance.ticket p.drawn) (c.now + rto) (.retry key (c.chance.ticket p.drawn))
        drawn := p.drawn + 1 })
      (p.attempt c (p.retried c hs rto))
  | closes {key : PeerKey} {cached : CachedPath} (found : p.paths.get? key = some cached)
    (asleep : ∀ key hs, ¬ input.Wakes key hs) :
    Move c input p { p with paths := p.paths.erase key, alarms := p.alarms.drop cached.expiryId }
      (releasing cached.allocated ++ [.report (.pathClosed key cached.path)])
  /-- A timeout is too long to measure. -/
  | stalls {q : Puncher} (frame : q = { p with halted := true, requests := q.requests, slots := q.slots })
    (spares : ∀ id, q.Spares id → p.Spares id)
    (stuck : (∃ key hs, p.handshakes.get? key = some hs ∧ hs.retriesLeft ≠ 0 ∧ p.backoff.next? hs.rto = none) ∨
      ∃ key request, p.awaited? key = some request ∧ request.retriesLeft ≠ 0 ∧ p.backoff.next? request.rto = none) :
    Move c input p q []

/-- What a puncher does about one input, move by move. -/
inductive Moves (c : Surroundings) (input : PunchInput) (p : Puncher) : Puncher → List PunchEffect → Prop where
  | refl : Moves c input p p []
  | step {q r : Puncher} {effects later : List PunchEffect} (before : Moves c input p q effects)
    (move : Move c input q r later) : Moves c input p r (effects ++ later)

namespace Moves

variable {c : Surroundings} {input : PunchInput} {p q r : Puncher} {effects later : List PunchEffect}

theorem single (move : Move c input p q effects) : Moves c input p q effects := .step .refl move

theorem trans (before : Moves c input p q effects) (after : Moves c input q r later) : Moves c input p r (effects ++ later) := by
  induction after with
  | refl => rwa [List.append_nil]
  | step _ move ih =>
    rw [← List.append_assoc]
    exact .step ih move

/-- What is done for each of a list in turn. -/
theorem fold {α : Type} {next : α → Puncher → PunchStep}
    (each : ∀ a (q : Puncher), Moves c input q (next a q).1 (next a q).2) (list : List α) {step : PunchStep}
    (first : Moves c input p step.1 step.2) :
    Moves c input p (list.foldl (fun step a => followedBy step (next a)) step).1
      (list.foldl (fun step a => followedBy step (next a)) step).2 := by
  induction list generalizing step with
  | nil => exact first
  | cons a list ih => exact ih (first.trans (each a _))

end Moves

theorem not_wakes_command (command : PunchCommand) (key : PeerKey) (hs : Handshake) :
    ¬ (PunchInput.command command).Wakes key hs := by
  rintro (retry | deadline)
  · cases retry
  · cases deadline

section

variable {c : Surroundings} {p : Puncher}

theorem onPing_move {ping : Message} {remote here : Socket} (asks : ping.body = .punchPing) :
    Move c (.command (.inbound ping remote here)) p (p.onPing c ping remote here).1 (p.onPing c ping remote here).2 := by
  unfold onPing
  dsimp only
  split
  · rename_i idle
    exact .answers rfl asks idle
  · rename_i hs found
    by_cases aimed : hs.remote = remote
    · simp only [followedBy, aimed, ne_eq, not_true_eq_false, if_false, List.append_nil]
      subst aimed
      exact .hears rfl asks found rfl
    · simp only [followedBy, aimed, ne_eq, not_false_eq_true, if_true]
      rw [sendAttempt_insert]
      exact .follows rfl asks found aimed rfl

theorem closePath_moves {input : PunchInput} (asleep : ∀ key hs, ¬ input.Wakes key hs) (key : PeerKey) :
    Moves c input p (p.closePath key).1 (p.closePath key).2 := by
  unfold closePath
  split
  · exact .refl
  · rename_i cached found
    exact .single (.closes found asleep)

theorem handshakes_closePath (p : Puncher) (key : PeerKey) : (p.closePath key).1.handshakes = p.handshakes := by
  unfold closePath
  split <;> rfl

theorem paths_closePath (p : Puncher) (key : PeerKey) : (p.closePath key).1.paths.get? key = none := by
  unfold closePath
  split
  · assumption
  · exact (Table.get?_erase ..).trans (if_pos rfl)

theorem onForwarded_moves {request : Message} {remote here : Socket} {initiator : Contact}
    (asks : request.body = .connectRequest initiator true) :
    Moves c (.command (.inbound request remote here)) p (p.onForwarded c initiator request.source.address).1
      (p.onForwarded c initiator request.source.address).2 := by
  unfold onForwarded
  dsimp only
  split
  · rename_i hs found
    rw [sendAttempt_insert]
    exact .single (.crosses rfl asks found rfl)
  · rename_i idle
    have closed := closePath_moves (c := c) (p := p) (not_wakes_command (.inbound request remote here)) initiator.key
    have still := p.handshakes_closePath initiator.key
    have apart := p.paths_closePath initiator.key
    generalize p.closePath initiator.key = step at closed still apart ⊢
    have begun : Moves c (.command (.inbound request remote here)) step.1
        (step.1.begin c initiator initiator.address.socket step.1.mainPort [] (some request.source.address) true).1
        (step.1.begin c initiator initiator.address.socket step.1.mainPort [] (some request.source.address) true).2 := by
      rw [begin_eq]
      exact .single (.responds rfl asks (still ▸ idle) apart rfl)
    exact closed.trans begun

theorem connect_move (target : Contact) (grant : Except LinkError (List UInt16)) :
    Move c (.command (.connect target grant)) p (p.connect c target grant).1 (p.connect c target grant).2 := by
  unfold connect
  dsimp only
  split
  · rename_i cached found
    exact .recalls rfl found
  · rename_i apart
    split
    · exact .aside (.refl c p) fun key hs _ => not_wakes_command _ key hs
    · rename_i idle
      split
      · rename_i error refused
        exact .refuses rfl error (.inl refused)
      · rename_i allowed
        have idle := Table.get?_eq_none idle
        have begins : ∀ ports, (target.nat.mapping ≠ .endpointIndependent → grant = .ok ports) →
            Move c (.command (.connect target grant)) p
              (p.begin c target target.address.socket (p.punching target ports).1 (p.punching target ports).2 none false).1
              (p.begin c target target.address.socket (p.punching target ports).1 (p.punching target ports).2 none false).2 := by
          intro ports granted
          rw [begin_eq]
          exact .calls rfl idle apart allowed granted rfl
        split
        · rename_i independent
          have begun := begins [] fun dependent => absurd independent dependent
          rwa [punching, if_pos independent] at begun
        · rename_i dependent
          split
          · rename_i fault
            exact .refuses rfl _ (.inr ⟨fault, rfl⟩)
          · rename_i ports
            have begun := begins ports fun _ => rfl
            rwa [punching, if_neg dependent] at begun

theorem fail_move {input : PunchInput} {key : PeerKey} (own : ∀ other woken, input.Wakes other woken → other = key)
    (asleep : p.handshakes.get? key = none → ∀ key hs, p.handshakes.get? key = some hs → ¬ input.Wakes key hs) :
    Move c input p (p.fail key (.handshakeTimeout key.node)).1 (p.fail key (.handshakeTimeout key.node)).2 := by
  unfold fail
  split
  · rename_i idle
    exact .aside (.refl c p) (asleep idle)
  · rename_i hs found
    exact .fails found own _ (.inl rfl)

theorem onPong_move {pong : Message} {remote here : Socket} (answer : pong.body = .punchPong) :
    Move c (.command (.inbound pong remote here)) p (p.onPong c pong remote).1 (p.onPong c pong remote).2 := by
  have asleep : ∀ key hs, p.handshakes.get? key = some hs → ¬ (PunchInput.command (.inbound pong remote here)).Wakes key hs :=
    fun key hs _ => not_wakes_command _ key hs
  unfold onPong
  split
  · rename_i key owned
    cases found : p.handshakes.get? key with
    | none =>
      simp only [verify, found]
      exact .aside (.refl c p) asleep
    | some hs =>
      rw [verify_eq found]
      exact .verifies rfl answer owned found
  · split
    · rename_i probe known
      refine .aside (erase_probe_aside ?_ ?_) asleep
      · intro other idle
        refine (Alarms.get?_drop ..).trans (if_neg ?_)
        rintro rfl
        exact idle (.inl (by rw [known]; rfl))
      · simp [PunchEffect.IsAside]
    · exact .aside (.refl c p) asleep

theorem onConnectResponse_move {response : Message} {remote here : Socket} {status : ConnectStatus} {target : UInt32}
    (answer : response.body = .connectResponse status target) :
    Move c (.command (.inbound response remote here)) p (p.onConnectResponse response status target).1
      (p.onConnectResponse response status target).2 := by
  have asleep : ∀ key hs, p.handshakes.get? key = some hs → ¬ (PunchInput.command (.inbound response remote here)).Wakes key hs :=
    fun key hs _ => not_wakes_command _ key hs
  unfold onConnectResponse
  split
  · exact .aside (.refl c p) asleep
  · rename_i key owned
    split
    · rename_i hs found
      have denies : (PunchInput.command (.inbound response remote here)).denial? =
          some ⟨response.ticket, response.source.node, target⟩ := by
        simp only [PunchInput.denial?, answer]
      dsimp only
      generalize grown : (if hs.refused.contains response.source.node then hs.refused else _) = refused
      change hs.refusedWith response.source.node = refused at grown
      split
      · rename_i all
        rw [← grown] at all
        simp only [fail, Table.get?_insert, if_true]
        have failed : Move c (.command (.inbound response remote here)) p _ _ :=
          .fails found (fun other woken wakes => absurd wakes (not_wakes_command _ other woken)) (.unknownTarget target)
            (.inr ⟨_, denies, owned, rfl, by simpa using all⟩)
        unfold forget at failed ⊢
        simpa only [cancel, Table.erase_insert] using failed
      · exact .notes rfl found _ ⟨_, denies, owned, grown.symm⟩
    · exact .aside (.refl c p) asleep

theorem inbound_moves (message : Message) (remote here : Socket) :
    Moves c (.command (.inbound message remote here)) p (p.inbound c message remote here).1 (p.inbound c message remote here).2 := by
  have asleep : ∀ key hs, p.handshakes.get? key = some hs → ¬ (PunchInput.command (.inbound message remote here)).Wakes key hs :=
    fun key hs _ => not_wakes_command _ key hs
  unfold inbound
  split
  · rename_i asks
    exact .single (onPing_move asks)
  · rename_i answer
    exact .single (onPong_move answer)
  · rename_i peer asks
    exact onForwarded_moves asks
  · rename_i answer
    exact .single (onConnectResponse_move answer)
  · exact .single (.aside (onRegisterResponse_aside _ p message _) asleep)
  · exact .single (.aside (onKeepAliveResponse_stepsAside p message _) asleep)
  · exact .single (.aside (onExpire_stepsAside p remote) asleep)
  · exact .refl

theorem unregister_moves : Moves c (.command .unregister) p (p.unregister c).1 (p.unregister c).2 := by
  refine Moves.fold (fun key q => closePath_moves (not_wakes_command _) key) _ ?_
  refine Moves.fold (fun entry q => ?_) _ .refl
  exact .single (.aside (q.leave_stepsAside entry.1 entry.2.address) fun key hs _ => not_wakes_command _ key hs)

theorem handle_moves (command : PunchCommand) : Moves c (.command command) p (p.handle c command).1 (p.handle c command).2 := by
  have asleep : ∀ key hs, p.handshakes.get? key = some hs → ¬ (PunchInput.command command).Wakes key hs :=
    fun key hs _ => not_wakes_command command key hs
  unfold handle
  split
  · exact .refl
  · cases command with
    | connect target grant => exact .single (connect_move target grant)
    | probe target => exact .single (.aside (p.probe_stepsAside target) asleep)
    | inbound message remote here => exact inbound_moves message remote here
    | startEnrollment => exact .single (.aside p.startEnrollment_stepsAside asleep)
    | closePath key => exact closePath_moves (not_wakes_command _) key
    | unregister => exact unregister_moves

theorem retry_move (key : PeerKey) (id : Ticket) :
    Move c (.alarm (.retry key id)) p (p.retry c key id).1 (p.retry c key id).2 := by
  have own : ∀ other woken, (PunchInput.alarm (.retry key id)).Wakes other woken → other = key ∧ woken.retryId = id := by
    rintro other woken (retry | deadline)
    · cases retry
      exact ⟨rfl, rfl⟩
    · cases deadline
  unfold retry
  split
  · rename_i idle
    refine .aside (.refl c p) fun other hs found wakes => ?_
    rw [(own other hs wakes).1, idle] at found
    cases found
  · rename_i hs found
    split
    · rename_i stale
      refine .aside (.refl c p) fun other woken known wakes => stale ?_
      obtain ⟨rfl, same⟩ := own other woken wakes
      cases found.symm.trans known
      exact same
    · rename_i current
      obtain rfl : hs.retryId = id := not_ne_iff.mp current
      split
      · refine fail_move (fun other woken wakes => (own other woken wakes).1) fun idle => ?_
        rw [found] at idle
        cases idle
      · rename_i going
        obtain ⟨some_left, early⟩ := not_or.mp going
        split
        · rename_i stuck
          exact .stalls rfl (fun _ spare => spare) (.inl ⟨key, hs, found, some_left, stuck⟩)
        · rename_i rto next
          let ready : Puncher := { p with
            handshakes := p.handshakes.insert key (p.retried c hs rto)
            alarms := p.alarms.arm (c.chance.ticket p.drawn) (c.now + rto) (.retry key (c.chance.ticket p.drawn))
            drawn := p.drawn + 1 }
          have entered : ready.handshakes.get? key = some (p.retried c hs rto) := by
            rw [Table.get?_insert, if_pos rfl]
          have moved := Move.retries (c := c) rfl found some_left (Nat.lt_of_not_le early) next
          rw [← Table.insert_insert _ _ (p.retried c hs rto)] at moved
          change Move c _ p (ready.sendAttempt c key).1 (ready.sendAttempt c key).2
          rw [sendAttempt_eq entered]
          exact moved

theorem onDeadline_move (key : PeerKey) (id : Ticket) :
    Move c (.alarm (.deadline key id)) p (p.onDeadline key id).1 (p.onDeadline key id).2 := by
  have own : ∀ other woken, (PunchInput.alarm (.deadline key id)).Wakes other woken → other = key ∧ woken.deadlineId = id := by
    rintro other woken (retry | deadline)
    · cases retry
    · cases deadline
      exact ⟨rfl, rfl⟩
  unfold onDeadline
  split
  · rename_i hs found
    split
    · refine fail_move (fun other woken wakes => (own other woken wakes).1) fun idle => ?_
      rw [found] at idle
      cases idle
    · rename_i stale
      refine .aside (.refl c p) fun other woken known wakes => stale ?_
      obtain ⟨rfl, same⟩ := own other woken wakes
      cases found.symm.trans known
      exact same
  · rename_i idle
    refine .aside (.refl c p) fun other hs found wakes => ?_
    rw [(own other hs wakes).1, idle] at found
    cases found

/-- The alarms that wake a handshake are its own retries and its own deadline. -/
theorem not_wakes_alarm {alarm : PunchAlarm} (retry : ∀ key id, alarm ≠ .retry key id) (deadline : ∀ key id, alarm ≠ .deadline key id)
    (key : PeerKey) (hs : Handshake) : ¬ (PunchInput.alarm alarm).Wakes key hs := by
  rintro (woken | woken)
  · exact retry key hs.retryId (PunchInput.alarm.inj woken)
  · exact deadline key hs.deadlineId (PunchInput.alarm.inj woken)

theorem onParentTimeout_move (id : Ticket) :
    Move c (.alarm (.parentTimeout id)) p (p.onParentTimeout c id).1 (p.onParentTimeout c id).2 := by
  rcases p.onParentTimeout_stepsAside (c := c) id with aside | ⟨stuck, requests, slots, same, spares⟩
  · exact .aside aside fun key hs _ => not_wakes_alarm (by simp) (by simp) key hs
  · rw [same]
    exact .stalls rfl spares (.inr stuck)

theorem onAlarm_moves (alarm : PunchAlarm) : Moves c (.alarm alarm) p (p.onAlarm c alarm).1 (p.onAlarm c alarm).2 := by
  unfold onAlarm
  split
  · exact .refl
  · cases alarm with
    | retry key id => exact .single (retry_move key id)
    | deadline key id => exact .single (onDeadline_move key id)
    | probeExpired id =>
      refine .single (.aside (erase_probe_aside (fun _ _ => rfl) (by simp)) fun key hs _ => ?_)
      exact not_wakes_alarm (by simp) (by simp) key hs
    | pathExpired key id =>
      dsimp only [onPathExpired]
      split
      · split
        · exact closePath_moves (not_wakes_alarm (by simp) (by simp)) key
        · exact .refl
      · exact .refl
    | parentTimeout id => exact .single (onParentTimeout_move id)
    | refresh => exact .single (.aside p.refresh_stepsAside fun key hs _ => not_wakes_alarm (by simp) (by simp) key hs)

theorem react_moves (input : PunchInput) : Moves c input p (p.react c input).1 (p.react c input).2 := by
  cases input with
  | command command => exact handle_moves command
  | alarm alarm => exact onAlarm_moves alarm

end

end Puncher

end NatTraversal
