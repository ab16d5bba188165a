import NatTraversal.Proofs.Punch.Moves

namespace NatTraversal

/-- How things stand with a peer. -/
inductive PeerPhase where
  | idle
  | running
  | cached (path : Path)
deriving DecidableEq, Repr

/-- A handshake hides a path, should there be both. -/
def PeerPhase.of : Option Handshake → Option CachedPath → PeerPhase
  | some _, _ => .running
  | none, some known => .cached known.path
  | none, none => .idle

/-- The peer that an event is about. -/
def PunchEvent.key? : PunchEvent → Option PeerKey
  | .verified key _ _ => some key
  | .failed key _ _ => some key
  | .pathClosed key _ => some key
  | _ => none

def PunchEffect.event? : PunchEffect → Option PunchEvent
  | .report event => some event
  | _ => none

namespace PunchInput

/-- Whether a puncher is told to connect to a peer. -/
def Calls (input : PunchInput) (key : PeerKey) : Prop :=
  ∃ target grant, input = .command (.connect target grant) ∧ target.key = key

/-- Whether a parent has passed on a peer's request. -/
def Forwards (input : PunchInput) (key : PeerKey) : Prop :=
  ∃ request remote here initiator, input = .command (.inbound request remote here) ∧
    request.body = .connectRequest initiator true ∧ initiator.key = key

/-- Whether a pong has come from somewhere. -/
def Answers (input : PunchInput) (remote : Socket) : Prop :=
  ∃ pong here, input = .command (.inbound pong remote here) ∧ pong.body = .punchPong

/-- Whether an input can end a handshake with a peer without a path: an alarm of it, or the answer of a parent. -/
def Ends (input : PunchInput) (key : PeerKey) : Prop :=
  (∃ id, input = .alarm (.retry key id) ∨ input = .alarm (.deadline key id)) ∨
    ∃ response remote here status node, input = .command (.inbound response remote here) ∧ response.body = .connectResponse status node

/-- Whether an input can end a path to a peer without a handshake. -/
def Closes (input : PunchInput) (key : PeerKey) : Prop :=
  input = .command (.closePath key) ∨ input = .command .unregister ∨ ∃ id, input = .alarm (.pathExpired key id)

end PunchInput

/-- What an input can lead to for one peer, and what is told of it. -/
inductive PeerPhase.Step (key : PeerKey) (input : PunchInput) : PeerPhase → List PunchEvent → PeerPhase → Prop where
  | refuses {target : Contact} {error : Error} (called : input.Calls key) : Step key input .idle [.failed key target error] .idle
  | begins (asked : input.Calls key ∨ input.Forwards key) : Step key input .idle [] .running
  | recalls {target : Contact} {path : Path} (called : input.Calls key) :
    Step key input (.cached path) [.verified key target path] (.cached path)
  | yields {path : Path} (forwarded : input.Forwards key) : Step key input (.cached path) [.pathClosed key path] .running
  | verifies {target : Contact} {path : Path} (answered : input.Answers path.remote) :
    Step key input .running [.verified key target path] (.cached path)
  | fails {target : Contact} {error : Error} (ended : input.Ends key) : Step key input .running [.failed key target error] .idle
  | closes {path : Path} (closed : input.Closes key) : Step key input (.cached path) [.pathClosed key path] .idle
  | stays : Step key input .running [] .running
  | rests {phase : PeerPhase} (uncalled : ¬ input.Calls key) (unasked : ¬ input.Forwards key) : Step key input phase [] phase

namespace Puncher

/-- What effects tell, in order. -/
def reports (effects : List PunchEffect) : List PunchEvent := effects.filterMap (·.event?)

/-- What effects tell of one peer, in order. -/
def eventsOf (key : PeerKey) (effects : List PunchEffect) : List PunchEvent :=
  (reports effects).filter fun event => event.key? = some key

def phase (p : Puncher) (key : PeerKey) : PeerPhase := .of (p.handshakes.get? key) (p.paths.get? key)

/-- Whether no peer has a handshake and a path at once. -/
def Apart (p : Puncher) : Prop := ∀ key hs, p.handshakes.get? key = some hs → p.paths.get? key = none

/-- The peer that a message is about: its source, the initiator that it names, or the owner of its ticket. -/
def subject? (p : Puncher) (message : Message) : Option PeerKey :=
  match message.body with
  | .punchPing => some message.source.key
  | .punchPong => p.byPing.get? message.ticket
  | .connectRequest initiator true => some initiator.key
  | .connectResponse .. => p.byPing.get? message.ticket
  | _ => none

/-- The peer whose handshake or path an input can change, if it is about a single one. -/
def concern? (p : Puncher) : PunchInput → Option PeerKey
  | .command (.connect target _) => some target.key
  | .command (.closePath key) => some key
  | .command (.inbound message _ _) => p.subject? message
  | .alarm (.retry key _) => some key
  | .alarm (.deadline key _) => some key
  | .alarm (.pathExpired key _) => some key
  | _ => none

section

variable {effects : List PunchEffect} {key : PeerKey}

theorem mem_reports {event : PunchEvent} : event ∈ reports effects ↔ .report event ∈ effects := by
  rw [reports, List.mem_filterMap]
  constructor
  · rintro ⟨effect, member, told⟩
    cases effect with
    | report other =>
      cases told
      exact member
    | send message => cases told
    | release ports => cases told
  · exact fun member => ⟨.report event, member, rfl⟩

@[simp] theorem reports_nil : reports [] = [] := rfl

@[simp] theorem reports_append (effects later : List PunchEffect) : reports (effects ++ later) = reports effects ++ reports later :=
  List.filterMap_append ..

@[simp] theorem reports_send (message : Message) (effects : List PunchEffect) : reports (.send message :: effects) = reports effects := rfl

@[simp] theorem reports_report (event : PunchEvent) (effects : List PunchEffect) :
    reports (.report event :: effects) = event :: reports effects := rfl

@[simp] theorem reports_releasing (ports : List UInt16) : reports (releasing ports) = [] := by
  unfold releasing
  split <;> rfl

@[simp] theorem reports_sends {α : Type} (list : List α) (message : α → Message) :
    reports (list.map fun a => PunchEffect.send (message a)) = [] := by
  rw [reports, List.filterMap_map]
  exact List.filterMap_eq_nil_iff.mpr fun _ _ => rfl

@[simp] theorem reports_attempt (p : Puncher) (c : Surroundings) (hs : Handshake) : reports (p.attempt c hs) = [] := by
  rw [attempt, reports_append, reports_sends]
  rfl

@[simp] theorem eventsOf_append (key : PeerKey) (effects later : List PunchEffect) :
    eventsOf key (effects ++ later) = eventsOf key effects ++ eventsOf key later := by
  rw [eventsOf, reports_append, List.filter_append]
  rfl

theorem eventsOf_eq_nil (other : ∀ event ∈ reports effects, event.key? ≠ some key) : eventsOf key effects = [] :=
  List.filter_eq_nil_iff.mpr fun event member => by simpa using other event member

theorem eventsOf_eq_self (own : ∀ event ∈ reports effects, event.key? = some key) : eventsOf key effects = reports effects :=
  List.filter_eq_self.mpr fun event member => by simpa using own event member

end

/-- Whether a step leaves alone all peers but one, or all of them. -/
structure Touches (p : Puncher) (own? : Option PeerKey) (step : PunchStep) : Prop where
  handshakes : ∀ other, own? ≠ some other → step.1.handshakes.get? other = p.handshakes.get? other
  paths : ∀ other, own? ≠ some other → step.1.paths.get? other = p.paths.get? other
  events : ∀ event ∈ reports step.2, event.key? = none ∨ event.key? = own?

/-- Whether a step goes on with one peer as an input asks for, and with no other. -/
structure Serves (p : Puncher) (input : PunchInput) (own? : Option PeerKey) (step : PunchStep) : Prop extends Touches p own? step where
  turn : ∀ own, own? = some own → PeerPhase.Step own input (p.phase own) (eventsOf own step.2) (step.1.phase own)

section

variable {c : Surroundings} {input : PunchInput} {p q : Puncher} {effects : List PunchEffect} {key own : PeerKey} {step : PunchStep}

theorem phase_of_handshake {hs : Handshake} (found : p.handshakes.get? key = some hs) : p.phase key = .running := by
  rw [phase, found]
  rfl

theorem isSome_of_running (running : p.phase key = .running) : (p.handshakes.get? key).isSome = true := by
  rw [phase] at running
  cases found : p.handshakes.get? key with
  | some hs => rfl
  | none =>
    rw [found] at running
    cases known : p.paths.get? key <;> rw [known] at running <;> cases running

theorem phase_of_path {cached : CachedPath} (idle : p.handshakes.get? key = none) (found : p.paths.get? key = some cached) :
    p.phase key = .cached cached.path := by
  rw [phase, idle, found]
  rfl

theorem phase_of_none (idle : p.handshakes.get? key = none) (apart : p.paths.get? key = none) : p.phase key = .idle := by
  rw [phase, idle, apart]
  rfl

theorem Apart.idle (apart : p.Apart) {cached : CachedPath} (found : p.paths.get? key = some cached) : p.handshakes.get? key = none := by
  cases shaking : p.handshakes.get? key with
  | none => rfl
  | some hs => cases found.symm.trans (apart key hs shaking)

theorem Touches.phase {own? : Option PeerKey} (touches : p.Touches own? step) (other : own? ≠ some key) : step.1.phase key = p.phase key := by
  rw [Puncher.phase, touches.handshakes key other, touches.paths key other]
  rfl

theorem Touches.eventsOf {own? : Option PeerKey} (touches : p.Touches own? step) (other : own? ≠ some key) : eventsOf key step.2 = [] := by
  refine eventsOf_eq_nil fun event member about => ?_
  rcases touches.events event member with none | same
  · cases none.symm.trans about
  · exact other (same.symm.trans about)

/-- What is done without any peer. -/
theorem Touches.of_frame (handshakes : q.handshakes = p.handshakes) (paths : q.paths = p.paths)
    (about : ∀ event ∈ reports effects, event.key? = none) : p.Touches none (q, effects) where
  handshakes other _ := by rw [handshakes]
  paths other _ := by rw [paths]
  events event member := .inl (about event member)

theorem Serves.of_none (touches : p.Touches none step) (input : PunchInput) : p.Serves input none step :=
  ⟨touches, fun _ same => by cases same⟩

/-- A step for one peer, by what becomes of its handshake and its path and what is told. -/
theorem Serves.of_own (hs : Option Handshake) (cached : Option CachedPath) (told : List PunchEvent)
    (handshakes : ∀ key, step.1.handshakes.get? key = if key = own then hs else p.handshakes.get? key)
    (paths : ∀ key, step.1.paths.get? key = if key = own then cached else p.paths.get? key)
    (events : reports step.2 = told) (about : ∀ event ∈ told, event.key? = some own)
    (turn : PeerPhase.Step own input (p.phase own) told (.of hs cached)) : p.Serves input (some own) step where
  handshakes other ne := by rw [handshakes, if_neg fun same => ne (congrArg some same.symm)]
  paths other ne := by rw [paths, if_neg fun same => ne (congrArg some same.symm)]
  events event member := .inr (about event (events ▸ member))
  turn other same := by
    cases same
    have after : step.1.phase own = .of hs cached := by rw [phase, handshakes, paths, if_pos rfl, if_pos rfl]
    rw [eventsOf_eq_self fun event member => about event (events ▸ member), events, after]
    exact turn

/-- A step that changes the handshake with one peer, or nothing. -/
theorem Serves.of_handshake (hs : Option Handshake) (told : List PunchEvent)
    (handshakes : ∀ key, step.1.handshakes.get? key = if key = own then hs else p.handshakes.get? key)
    (paths : step.1.paths = p.paths) (events : reports step.2 = told)
    (about : ∀ event ∈ told, event.key? = some own)
    (turn : PeerPhase.Step own input (p.phase own) told (.of hs (p.paths.get? own))) : p.Serves input (some own) step :=
  .of_own hs _ told handshakes (fun key => by rw [paths]; exact Table.get?_eq_ite rfl key) events about turn

/-- A step that changes nothing and tells of one peer at most. -/
theorem Serves.of_same (told : List PunchEvent) (events : reports effects = told) (about : ∀ event ∈ told, event.key? = some own)
    (turn : PeerPhase.Step own input (p.phase own) told (p.phase own)) : p.Serves input (some own) (p, effects) :=
  .of_handshake _ told (Table.get?_eq_ite rfl) rfl events about turn

/-- Nothing is done about a peer that is not asked for. -/
theorem Serves.refl (uncalled : ¬ input.Calls own) (unasked : ¬ input.Forwards own) : p.Serves input (some own) (p, []) :=
  .of_same _ rfl (by simp) (.rests uncalled unasked)

/-- A handshake goes on. -/
theorem Serves.of_keep {hs kept : Handshake} (found : p.handshakes.get? own = some hs) (silent : reports effects = []) :
    p.Serves input (some own) (p.keep own kept, effects) :=
  .of_handshake (some kept) [] (fun _ => Table.get?_insert ..) rfl silent (by simp) (by rw [phase_of_handshake found]; exact .stays)

theorem Aside.touches {fresh : Ticket → Prop} (aside : Aside fresh p q effects) : p.Touches none (q, effects) := by
  refine .of_frame (by rw [aside.frame]) (by rw [aside.frame]) fun event member => ?_
  obtain ⟨effect, among, told⟩ := List.mem_filterMap.mp member
  have own := aside.effects effect among
  cases effect with
  | send message => cases told
  | release ports => cases told
  | report known =>
    cases told
    cases event with
    | verified key target path => exact own.elim
    | failed key target error => exact own.elim
    | pathClosed key path => exact own.elim
    | _ => rfl

end

section

variable {c : Surroundings} {p : Puncher}

theorem begun_opening (p : Puncher) (c : Surroundings) (target : Contact) (remote : Socket) (punchPort : UInt16)
    (allocated : List UInt16) (parent : Option Address) (responder : Bool) (key : PeerKey) :
    (p.begun c (p.opening c target remote punchPort allocated parent responder)).handshakes.get? key =
      if key = target.key then some (attempted (p.opening c target remote punchPort allocated parent responder))
      else p.handshakes.get? key :=
  Table.get?_insert ..

theorem connect_serves (apart : p.Apart) (target : Contact) (grant : Except LinkError (List UInt16)) :
    p.Serves (.command (.connect target grant)) (some target.key) (p.connect c target grant) := by
  have called : (PunchInput.command (.connect target grant)).Calls target.key := ⟨target, grant, rfl, rfl⟩
  unfold connect
  dsimp only
  split
  · rename_i cached found
    have before := phase_of_path (apart.idle found) found
    refine .of_same _ rfl (by simp [PunchEvent.key?]) ?_
    rw [before]
    exact .recalls called
  · rename_i gone
    split
    · rename_i shaking
      rw [Table.contains_eq_isSome, Option.isSome_iff_exists] at shaking
      obtain ⟨hs, found⟩ := shaking
      refine .of_same _ rfl (by simp) ?_
      rw [phase_of_handshake found]
      exact .stays
    · rename_i idle
      have idle := Table.get?_eq_none idle
      have before := phase_of_none idle gone
      have refused : ∀ error, p.Serves (.command (.connect target grant)) (some target.key)
          (p, [.report (.failed target.key target error)]) := by
        intro error
        refine .of_same _ rfl (by simp [PunchEvent.key?]) ?_
        rw [before]
        exact .refuses called
      have begins : ∀ punchPort allocated, p.Serves (.command (.connect target grant)) (some target.key)
          (p.begin c target target.address.socket punchPort allocated none false) := by
        intro punchPort allocated
        rw [begin_eq]
        refine .of_handshake _ _ (fun _ => begun_opening ..) rfl (reports_attempt ..) (by simp) ?_
        rw [before]
        exact .begins (.inl called)
      split
      · exact refused _
      · split
        · exact begins ..
        · split
          · exact refused _
          · exact begins ..

/-- A path is given up where there is one; the handshakes stay. -/
theorem closePath_cases (p : Puncher) (key : PeerKey) :
    (p.paths.get? key = none ∧ p.closePath key = (p, [])) ∨
      ∃ cached, p.paths.get? key = some cached ∧ (p.closePath key).1.paths = p.paths.erase key ∧ reports (p.closePath key).2 = [.pathClosed key cached.path] := by
  unfold closePath
  split
  · rename_i gone
    exact .inl ⟨gone, rfl⟩
  · rename_i cached found
    exact .inr ⟨cached, found, rfl, by simp⟩

theorem closePath_serves (apart : p.Apart) {input : PunchInput} (key : PeerKey) (closed : input.Closes key)
    (uncalled : ¬ input.Calls key) (unasked : ¬ input.Forwards key) : p.Serves input (some key) (p.closePath key) := by
  rcases p.closePath_cases key with ⟨gone, same⟩ | ⟨cached, found, paths, told⟩
  · rw [same]
    exact .refl uncalled unasked
  · have idle := apart.idle found
    refine .of_own none none _ (fun other => ?_) (fun other => ?_) told (by simp [PunchEvent.key?]) ?_
    · rw [p.handshakes_closePath]
      exact Table.get?_eq_ite idle other
    · rw [paths]
      exact Table.get?_erase ..
    · rw [phase_of_path idle found]
      exact .closes closed

theorem onForwarded_serves {request : Message} {remote here : Socket} {initiator : Contact}
    (asks : request.body = .connectRequest initiator true) :
    p.Serves (.command (.inbound request remote here)) (some initiator.key) (p.onForwarded c initiator request.source.address) := by
  have forwarded : (PunchInput.command (.inbound request remote here)).Forwards initiator.key :=
    ⟨request, remote, here, initiator, rfl, asks, rfl⟩
  unfold onForwarded
  dsimp only
  split
  · rename_i hs found
    rw [sendAttempt_insert]
    exact .of_keep found (reports_attempt ..)
  · rename_i idle
    simp only [followedBy, begin_eq]
    rcases p.closePath_cases initiator.key with ⟨gone, same⟩ | ⟨cached, found, paths, told⟩
    · rw [same]
      refine .of_handshake _ _ (fun _ => begun_opening ..) rfl (reports_attempt ..) (by simp) ?_
      rw [phase_of_none idle gone]
      exact .begins (.inr forwarded)
    · -- What is left of the old path does not matter to the handshake that begins.
      have handshakes := p.handshakes_closePath initiator.key
      generalize p.closePath initiator.key = closed at handshakes paths told ⊢
      let hs := closed.1.opening c initiator initiator.address.socket closed.1.mainPort [] (some request.source.address) true
      refine .of_own (some (attempted hs)) none [.pathClosed initiator.key cached.path]
        (fun other => (begun_opening ..).trans ?_) (fun other => ?_) (by simp [told]) (by simp [PunchEvent.key?]) ?_
      · rw [handshakes]
      · change closed.1.paths.get? other = _
        rw [paths]
        exact Table.get?_erase ..
      · rw [phase_of_path idle found]
        exact .yields forwarded

/-- A message that is no forwarded request asks for no handshake. -/
theorem uncalled_inbound (message : Message) (remote here : Socket) (key : PeerKey) :
    ¬ (PunchInput.command (.inbound message remote here)).Calls key := by
  rintro ⟨target, grant, given, _⟩
  cases given

theorem unasked_inbound {message : Message} {remote here : Socket} {key : PeerKey}
    (other : ∀ initiator, message.body ≠ .connectRequest initiator true) :
    ¬ (PunchInput.command (.inbound message remote here)).Forwards key := by
  rintro ⟨request, from_there, at_here, initiator, given, asks, _⟩
  cases given
  exact other initiator asks

theorem uncalled_alarm (alarm : PunchAlarm) (key : PeerKey) : ¬ (PunchInput.alarm alarm).Calls key := by
  rintro ⟨target, grant, given, _⟩
  cases given

theorem unasked_alarm (alarm : PunchAlarm) (key : PeerKey) : ¬ (PunchInput.alarm alarm).Forwards key := by
  rintro ⟨request, remote, here, initiator, given, _⟩
  cases given

theorem onPing_serves {ping : Message} {remote here : Socket} (asks : ping.body = .punchPing) :
    p.Serves (.command (.inbound ping remote here)) (some ping.source.key) (p.onPing c ping remote here) := by
  unfold onPing
  dsimp only
  split
  · refine .of_same _ rfl (by simp) (.rests (uncalled_inbound _ _ _ _) (unasked_inbound ?_))
    rw [asks]
    simp
  · rename_i hs found
    by_cases aimed : hs.remote = remote
    · simp only [followedBy, aimed, ne_eq, not_true_eq_false, if_false, List.append_nil]
      exact .of_keep found rfl
    · simp only [followedBy, aimed, ne_eq, not_false_eq_true, if_true]
      rw [sendAttempt_insert]
      exact .of_keep found (reports_attempt ..)

theorem verify_serves {pong : Message} {remote here : Socket} (answer : pong.body = .punchPong) (key : PeerKey) :
    p.Serves (.command (.inbound pong remote here)) (some key) (p.verify c key remote) := by
  cases found : p.handshakes.get? key with
  | none =>
    simp only [verify, found]
    exact .refl (uncalled_inbound _ _ _ _) (unasked_inbound (by simp [answer]))
  | some hs =>
    rw [verify_eq found]
    refine .of_own none _ [.verified key hs.target ⟨remote, hs.punchPort⟩] (fun _ => Table.get?_erase ..)
      (fun _ => Table.get?_insert ..) (by simp [leftover, tidings]) (by simp [PunchEvent.key?]) ?_
    rw [phase_of_handshake found]
    exact .verifies ⟨pong, here, rfl, answer⟩

theorem onPong_serves {pong : Message} {remote here : Socket} (answer : pong.body = .punchPong) :
    p.Serves (.command (.inbound pong remote here)) (p.byPing.get? pong.ticket) (p.onPong c pong remote) := by
  unfold onPong
  split
  · rename_i key owned
    rw [owned]
    exact verify_serves answer key
  · rename_i stray
    rw [stray]
    split
    · refine .of_none ?_ _
      refine .of_frame rfl rfl fun event member => ?_
      rw [List.mem_singleton.mp member]
      rfl
    · exact .of_none (.of_frame rfl rfl (by simp)) _

theorem fail_serves (apart : p.Apart) {input : PunchInput} {key : PeerKey} (ended : input.Ends key) (uncalled : ¬ input.Calls key)
    (unasked : ¬ input.Forwards key) (error : Error) : p.Serves input (some key) (p.fail key error) := by
  unfold fail
  split
  · exact .refl uncalled unasked
  · rename_i hs found
    refine .of_handshake none [.failed key hs.target error] (fun _ => Table.get?_erase ..) rfl (by simp)
      (by simp [PunchEvent.key?]) ?_
    rw [phase_of_handshake found, apart key hs found]
    exact .fails ended

theorem onConnectResponse_serves (apart : p.Apart) {response : Message} {remote here : Socket} {status : ConnectStatus} {node : UInt32}
    (answer : response.body = .connectResponse status node) :
    p.Serves (.command (.inbound response remote here)) (p.byPing.get? response.ticket) (p.onConnectResponse response status node) := by
  have uncalled := uncalled_inbound response remote here
  have unasked : ∀ key, ¬ (PunchInput.command (.inbound response remote here)).Forwards key :=
    fun key => unasked_inbound (by simp [answer])
  unfold onConnectResponse
  split
  · rename_i stray
    rw [stray]
    exact .of_none (.of_frame rfl rfl (by simp)) _
  · rename_i key owned
    rw [owned]
    split
    · rename_i hs found
      dsimp only
      generalize (if hs.refused.contains response.source.node then hs.refused else _) = refused
      split
      · simp only [fail, Table.get?_insert, if_true]
        refine .of_handshake none [.failed key hs.target (.unknownTarget node)] (fun other => ?_) rfl (by simp)
          (by simp [PunchEvent.key?]) ?_
        · change ((p.handshakes.insert key _).erase key).get? other = _
          rw [Table.erase_insert]
          exact Table.get?_erase ..
        · rw [phase_of_handshake found, apart key hs found]
          exact .fails (.inr ⟨response, remote, here, _, node, rfl, answer⟩)
      · exact .of_keep found rfl
    · exact .refl (uncalled key) (unasked key)

theorem retry_serves (apart : p.Apart) (key : PeerKey) (id : Ticket) :
    p.Serves (.alarm (.retry key id)) (some key) (p.retry c key id) := by
  have idle : p.Serves (.alarm (.retry key id)) (some key) (p, []) := .refl (uncalled_alarm _ key) (unasked_alarm _ key)
  unfold retry
  split
  · exact idle
  · rename_i hs found
    split
    · exact idle
    · split
      · exact fail_serves apart (.inl ⟨id, .inl rfl⟩) (uncalled_alarm _ key) (unasked_alarm _ key) _
      · split
        · refine .of_handshake _ _ (Table.get?_eq_ite found) rfl rfl (by simp) ?_
          rw [phase_of_handshake found]
          exact .stays
        · rename_i rto next
          let ready : Puncher := { p with
            handshakes := p.handshakes.insert key (p.retried c hs rto)
            alarms := p.alarms.arm (c.chance.ticket p.drawn) (c.now + rto) (.retry key (c.chance.ticket p.drawn))
            drawn := p.drawn + 1 }
          have entered : ready.handshakes.get? key = some (p.retried c hs rto) := by
            rw [Table.get?_insert, if_pos rfl]
          change p.Serves _ _ (ready.sendAttempt c key)
          rw [sendAttempt_eq entered]
          refine .of_handshake (some (attempted (p.retried c hs rto))) [] (fun other => ?_) rfl (reports_attempt ..) (by simp) ?_
          · change ((p.handshakes.insert key _).insert key _).get? other = _
            rw [Table.insert_insert]
            exact Table.get?_insert ..
          · rw [phase_of_handshake found]
            exact .stays

theorem onDeadline_serves (apart : p.Apart) (key : PeerKey) (id : Ticket) :
    p.Serves (.alarm (.deadline key id)) (some key) (p.onDeadline key id) := by
  have idle : p.Serves (.alarm (.deadline key id)) (some key) (p, []) := .refl (uncalled_alarm _ key) (unasked_alarm _ key)
  unfold onDeadline
  split
  · split
    · exact fail_serves apart (.inl ⟨id, .inr rfl⟩) (uncalled_alarm _ key) (unasked_alarm _ key) _
    · exact idle
  · exact idle

theorem onPathExpired_serves (apart : p.Apart) (key : PeerKey) (id : Ticket) :
    p.Serves (.alarm (.pathExpired key id)) (some key) (p.onPathExpired key id) := by
  have idle : p.Serves (.alarm (.pathExpired key id)) (some key) (p, []) := .refl (uncalled_alarm _ key) (unasked_alarm _ key)
  unfold onPathExpired
  split
  · split
    · exact closePath_serves apart key (.inr (.inr ⟨id, rfl⟩)) (uncalled_alarm _ key) (unasked_alarm _ key)
    · exact idle
  · exact idle

theorem onParentTimeout_touches (p : Puncher) (c : Surroundings) (id : Ticket) : p.Touches none (p.onParentTimeout c id) := by
  rcases p.onParentTimeout_stepsAside (c := c) id with aside | ⟨_, requests, slots, same, _⟩
  · exact Aside.touches aside
  · rw [same]
    exact .of_frame rfl rfl (by simp)

theorem inbound_serves (apart : p.Apart) (message : Message) (remote here : Socket) :
    p.Serves (.command (.inbound message remote here)) (p.subject? message) (p.inbound c message remote here) := by
  unfold inbound
  split
  · rename_i asks
    rw [subject?, asks]
    exact onPing_serves asks
  · rename_i answer
    rw [subject?, answer]
    exact onPong_serves answer
  · rename_i initiator asks
    rw [subject?, asks]
    exact onForwarded_serves asks
  · rename_i status node answer
    rw [subject?, answer]
    exact onConnectResponse_serves apart answer
  · rename_i status answer
    rw [subject?, answer]
    exact .of_none (Aside.touches (onRegisterResponse_aside (fun _ => True) p message status)) _
  · rename_i status answer
    rw [subject?, answer]
    exact .of_none (Aside.touches (onKeepAliveResponse_stepsAside (c := c) p message status)) _
  · rename_i answer
    rw [subject?, answer]
    exact .of_none (Aside.touches (onExpire_stepsAside (c := c) p remote)) _
  · rename_i no_ping no_pong no_request no_response _ _ _
    have nobody : p.subject? message = none := by
      unfold subject?
      split
      · rename_i asks
        exact absurd asks no_ping
      · rename_i answer
        exact absurd answer no_pong
      · rename_i asks
        exact absurd asks (no_request _)
      · rename_i answer
        exact absurd answer (no_response _ _)
      · rfl
    rw [nobody]
    exact .of_none (.of_frame rfl rfl (by simp)) _

/-- Apart from leaving every parent and path, a step is about one peer at most. -/
theorem react_serves (going : p.halted = false) (apart : p.Apart) {input : PunchInput} (single : input ≠ .command .unregister) :
    p.Serves input (p.concern? input) (p.react c input) := by
  cases input with
  | command command =>
    simp only [react, handle, going, Bool.false_eq_true, if_false]
    cases command with
    | connect target grant => exact connect_serves apart target grant
    | probe target => exact .of_none (Aside.touches (p.probe_stepsAside (c := c) target)) _
    | inbound message remote here => exact inbound_serves apart message remote here
    | startEnrollment => exact .of_none (Aside.touches (p.startEnrollment_stepsAside (c := c))) _
    | closePath key =>
      refine closePath_serves apart key (.inl rfl) ?_ ?_
      · rintro ⟨target, grant, given, _⟩
        cases given
      · rintro ⟨request, remote, here, initiator, given, _⟩
        cases given
    | unregister => exact absurd rfl single
  | alarm alarm =>
    simp only [react, onAlarm, going, Bool.false_eq_true, if_false]
    cases alarm with
    | retry key id => exact retry_serves apart key id
    | deadline key id => exact onDeadline_serves apart key id
    | probeExpired id =>
      refine .of_none ?_ _
      exact .of_frame rfl rfl (by simp)
    | pathExpired key id => exact onPathExpired_serves apart key id
    | parentTimeout id => exact .of_none (p.onParentTimeout_touches c id) _
    | refresh => exact .of_none (Aside.touches (p.refresh_stepsAside (c := c))) _

end

/-- What becomes of a peer where paths are given up: nothing, or its path is closed. -/
structure Clears (p : Puncher) (key : PeerKey) (step : PunchStep) : Prop where
  handshake : step.1.handshakes.get? key = p.handshakes.get? key
  path : (step.1.paths.get? key = p.paths.get? key ∧ eventsOf key step.2 = []) ∨
    ∃ cached, p.paths.get? key = some cached ∧ step.1.paths.get? key = none ∧ eventsOf key step.2 = [.pathClosed key cached.path]

namespace Clears

variable {p : Puncher} {key : PeerKey} {step : PunchStep} {next : Puncher → PunchStep}

theorem of_touches (touches : p.Touches none step) (key : PeerKey) : p.Clears key step where
  handshake := touches.handshakes key (by simp)
  path := .inl ⟨touches.paths key (by simp), touches.eventsOf (by simp)⟩

theorem followedBy (first : p.Clears key step) (second : step.1.Clears key (next step.1)) : p.Clears key (followedBy step next) where
  handshake := second.handshake.trans first.handshake
  path := by
    simp only [Puncher.followedBy, eventsOf_append]
    rcases first.path with ⟨same, silent⟩ | ⟨cached, found, gone, told⟩
    · rw [silent, List.nil_append, ← same]
      exact second.path
    · rcases second.path with ⟨same, silent⟩ | ⟨again, still, _⟩
      · exact .inr ⟨cached, found, same.trans gone, by rw [told, silent, List.append_nil]⟩
      · cases gone.symm.trans still

/-- What is done for each of a list in turn. -/
theorem fold {α : Type} {next : α → Puncher → PunchStep} (each : ∀ a (q : Puncher), q.Clears key (next a q)) (list : List α)
    (first : p.Clears key step) : p.Clears key (list.foldl (fun step a => Puncher.followedBy step (next a)) step) := by
  induction list generalizing step with
  | nil => exact first
  | cons a list ih => exact ih (first.followedBy (each a _))

end Clears

theorem closePath_clears (p : Puncher) (own key : PeerKey) : p.Clears key (p.closePath own) := by
  rcases p.closePath_cases own with ⟨gone, same⟩ | ⟨cached, found, paths, told⟩
  · rw [same]
    exact ⟨rfl, .inl ⟨rfl, rfl⟩⟩
  · refine ⟨by rw [p.handshakes_closePath], ?_⟩
    rw [paths, Table.get?_erase]
    by_cases own : key = own
    · subst own
      rw [if_pos rfl, eventsOf_eq_self (by simp [told, PunchEvent.key?]), told]
      exact .inr ⟨cached, found, rfl, rfl⟩
    · rw [if_neg own]
      exact .inl ⟨rfl, eventsOf_eq_nil (by simp [told, PunchEvent.key?, Ne.symm own])⟩

theorem unregister_clears (p : Puncher) (c : Surroundings) (key : PeerKey) : p.Clears key (p.unregister c) := by
  refine Clears.fold (fun own q => q.closePath_clears own key) _ ?_
  refine Clears.fold (fun entry q => ?_) _ ⟨rfl, .inl ⟨rfl, rfl⟩⟩
  exact .of_touches (Aside.touches (q.leave_stepsAside (c := c) entry.1 entry.2.address)) key

section

variable {c : Surroundings} {input : PunchInput} {p q : Puncher} {effects : List PunchEffect}

theorem uncalled_unregister (key : PeerKey) : ¬ (PunchInput.command .unregister).Calls key := by
  rintro ⟨target, grant, given, _⟩
  cases given

theorem unasked_unregister (key : PeerKey) : ¬ (PunchInput.command .unregister).Forwards key := by
  rintro ⟨request, remote, here, initiator, given, _⟩
  cases given

theorem concern?_of_calls {key : PeerKey} (called : input.Calls key) : p.concern? input = some key := by
  obtain ⟨target, grant, rfl, same⟩ := called
  exact congrArg some same

theorem concern?_of_forwards {key : PeerKey} (forwarded : input.Forwards key) : p.concern? input = some key := by
  obtain ⟨request, remote, here, initiator, rfl, asks, same⟩ := forwarded
  rw [concern?, subject?, asks]
  exact congrArg some same

/-- Nothing is done once a timeout has been too long to measure. -/
theorem react_halted (halted : p.halted = true) (c : Surroundings) (input : PunchInput) : p.react c input = (p, []) := by
  cases input with
  | command command => simp only [react, handle, halted, if_true]
  | alarm alarm => simp only [react, onAlarm, halted, if_true]

/-- A puncher that goes on after a step has gone on before. -/
theorem going_of_react (going : (p.react c input).1.halted = false) : p.halted = false := by
  by_contra halted
  rw [Bool.not_eq_false] at halted
  rw [react_halted halted] at going
  cases halted.symm.trans going

/-- Whatever a puncher is told, it goes on with every peer step by step. -/
theorem react_step (going : p.halted = false) (apart : p.Apart) (c : Surroundings) (input : PunchInput) (key : PeerKey) :
    PeerPhase.Step key input (p.phase key) (eventsOf key (p.react c input).2) ((p.react c input).1.phase key) := by
  -- Leaving closes every path; whatever else is handled is about one peer at most.
  by_cases leaves : input = .command .unregister
  · subst leaves
    have left : p.react c (.command .unregister) = p.unregister c := by simp only [react, handle, going, Bool.false_eq_true, if_false]
    rw [left]
    obtain ⟨handshake, path⟩ := p.unregister_clears c key
    rcases path with ⟨same, silent⟩ | ⟨cached, found, gone, told⟩
    · rw [silent, phase, phase, handshake, same]
      exact .rests (uncalled_unregister key) (unasked_unregister key)
    · have idle := apart.idle found
      rw [told, phase_of_path idle found, phase_of_none (handshake.trans idle) gone]
      exact .closes (.inr (.inl rfl))
  · have serves := react_serves (c := c) going apart leaves
    by_cases own : p.concern? input = some key
    · exact serves.turn key own
    · rw [serves.eventsOf own, serves.phase own]
      exact .rests (fun called => own (concern?_of_calls called)) (fun forwarded => own (concern?_of_forwards forwarded))

/-- A peer that an input is not about keeps its handshake and its path. -/
theorem react_other {key : PeerKey} (apart : p.Apart) (c : Surroundings) (single : input ≠ .command .unregister)
    (other : p.concern? input ≠ some key) :
    (p.react c input).1.handshakes.get? key = p.handshakes.get? key ∧ (p.react c input).1.paths.get? key = p.paths.get? key := by
  cases going : p.halted with
  | true =>
    rw [react_halted going]
    exact ⟨rfl, rfl⟩
  | false =>
    have serves := react_serves (c := c) going apart single
    exact ⟨serves.handshakes key other, serves.paths key other⟩

theorem apart_of_keep {own : PeerKey} {hs kept : Handshake} (apart : p.Apart) (found : p.handshakes.get? own = some hs)
    (handshakes : q.handshakes = p.handshakes.insert own kept) (paths : q.paths = p.paths) : q.Apart := by
  intro key later known
  rw [paths]
  rw [handshakes, Table.get?_insert] at known
  split at known
  · rename_i same
    rw [same]
    exact apart own hs found
  · exact apart key later known

theorem apart_of_begun {hs : Handshake} (apart : p.Apart) (gone : p.paths.get? hs.target.key = none) : (p.begun c hs).Apart := by
  intro key later known
  rw [begun, Table.get?_insert] at known
  split at known
  · rename_i same
    rw [same]
    exact gone
  · exact apart key later known

theorem apart_of_frame (apart : p.Apart) (handshakes : q.handshakes = p.handshakes) (paths : q.paths = p.paths) : q.Apart := by
  intro key hs known
  rw [paths]
  exact apart key hs (handshakes ▸ known)

theorem apart_of_fewer (apart : p.Apart)
    (handshakes : ∀ key hs, q.handshakes.get? key = some hs → p.handshakes.get? key = some hs)
    (paths : ∀ key cached, q.paths.get? key = some cached → p.paths.get? key = some cached) : q.Apart := by
  intro key hs known
  cases still : q.paths.get? key with
  | none => rfl
  | some cached => cases (paths key cached still).symm.trans (apart key hs (handshakes key hs known))

theorem Move.apart (move : Move c input p q effects) (apart : p.Apart) : q.Apart := by
  cases move with
  | aside aside asleep => exact apart_of_frame apart (by rw [aside.frame]) (by rw [aside.frame])
  | hears given asks found aimed => exact apart_of_keep apart found rfl rfl
  | follows given asks found elsewhere same => exact apart_of_keep apart found rfl rfl
  | crosses given asks found same => exact apart_of_keep apart found rfl rfl
  | notes given found refused => exact apart_of_keep apart found rfl rfl
  | retries given found some_left early next => exact apart_of_keep apart found rfl rfl
  | responds given asks idle gone same => exact apart_of_begun apart (by rw [same]; exact gone)
  | calls given idle gone allowed granted same => exact apart_of_begun apart (by rw [same]; exact gone)
  | fails found own error => exact apart_of_fewer apart (fun _ _ => Table.get?_of_erase) (fun _ _ still => still)
  | @verifies pong remote here own hs given answer owned found =>
    intro key later known
    have other : key ≠ own := by
      rintro rfl
      rw [settled, Table.get?_erase, if_pos rfl] at known
      cases known
    refine (Table.get?_insert ..).trans ((if_neg other).trans ?_)
    exact apart key later (Table.get?_of_erase known)
  | closes found asleep => exact apart_of_fewer apart (fun _ _ still => still) (fun _ _ => Table.get?_of_erase)
  | stalls frame spares stuck => exact apart_of_frame apart (by rw [frame]) (by rw [frame])
  | _ => exact apart

end

end Puncher

end NatTraversal
