import NatTraversal.Proofs.Alarms
import NatTraversal.Proofs.Chance
import NatTraversal.Proofs.Logs
import NatTraversal.Proofs.Rendezvous.Calls
import NatTraversal.Rendezvous.Server

namespace NatTraversal

/-- What a rendezvous server acts on. -/
inductive ServerEvent where
  | request (message : Message) (remote : Socket)
  | alarm (alarm : ServerAlarm)
deriving DecidableEq, Repr

/-- What the server uses its sessions for, if it does. -/
def ServerEvent.call? : ServerEvent → Option SessionCall
  | .request message remote =>
    let client := message.source.node
    let seen := Address.ofSocket remote client
    match message.body with
    | .registerRequest .. => some (.register message.source seen)
    | .keepAliveRequest => some (.keepAlive client seen)
    | .unregisterRequest delay _ => some (.unregister client seen delay)
    | .connectRequest peer false => some (.connect client peer.node)
    | .deleteConnection peer => some (.deleteConnection client peer)
    | _ => none
  | .alarm .sweep => some .sweep
  | .alarm (.completeMove client) => some (.completeMove client)

namespace ServerEvent

/-- Which requests and alarms the sessions are used on, and what for. -/
inductive Asks : ServerEvent → SessionCall → Prop where
  | registers {request : Message} {remote : Socket} {wait overlay : UInt32} (body : request.body = .registerRequest wait overlay) :
    Asks (.request request remote) (.register request.source (.ofSocket remote request.source.node))
  | keepsAlive {request : Message} {remote : Socket} (body : request.body = .keepAliveRequest) :
    Asks (.request request remote) (.keepAlive request.source.node (.ofSocket remote request.source.node))
  | unregisters {request : Message} {remote : Socket} {delay : Int32} {previous : RegisterStatus}
    (body : request.body = .unregisterRequest delay previous) :
    Asks (.request request remote) (.unregister request.source.node (.ofSocket remote request.source.node) delay)
  | connects {request : Message} {remote : Socket} {peer : Contact} (body : request.body = .connectRequest peer false) :
    Asks (.request request remote) (.connect request.source.node peer.node)
  | parts {request : Message} {remote : Socket} {peer : UInt32} (body : request.body = .deleteConnection peer) :
    Asks (.request request remote) (.deleteConnection request.source.node peer)
  | sweeps : Asks (.alarm .sweep) .sweep
  | ends (client : UInt32) : Asks (.alarm (.completeMove client)) (.completeMove client)

theorem asks_of_call? {event : ServerEvent} {call : SessionCall} (called : event.call? = some call) : event.Asks call := by
  cases event with
  | request request remote =>
    cases body : request.body with
    | registerRequest =>
      simp only [call?, body, Option.some.injEq] at called
      subst called
      exact .registers body
    | keepAliveRequest =>
      simp only [call?, body, Option.some.injEq] at called
      subst called
      exact .keepsAlive body
    | unregisterRequest =>
      simp only [call?, body, Option.some.injEq] at called
      subst called
      exact .unregisters body
    | connectRequest peer forwarded =>
      cases forwarded with
      | true => simp only [call?, body, reduceCtorEq] at called
      | false =>
        simp only [call?, body, Option.some.injEq] at called
        subst called
        exact .connects body
    | deleteConnection =>
      simp only [call?, body, Option.some.injEq] at called
      subst called
      exact .parts body
    | _ => simp only [call?, body, reduceCtorEq] at called
  | alarm alarm =>
    cases alarm with
    | sweep =>
      cases called
      exact .sweeps
    | completeMove client =>
      cases called
      exact .ends client

end ServerEvent

/-- What a server has acted on, when it did, and what it has sent. -/
structure ServerDeed where
  now : Nat
  event : ServerEvent
  sent : List Message
deriving DecidableEq, Repr

namespace ServerDeed

/-- A client has been told that it is registered. -/
def Registers (client : UInt32) (deed : ServerDeed) : Prop :=
  ∃ request remote wait overlay, deed.event = .request request remote ∧ request.source.node = client ∧
    request.body = .registerRequest wait overlay ∧ ∃ answer ∈ deed.sent, answer.body = .registerResponse .accepted

/-- A client has been told that its session ends after a delay. -/
def Departs (client : UInt32) (delay : Int32) (deed : ServerDeed) : Prop :=
  ∃ request remote parent, deed.event = .request request remote ∧ request.source.node = client ∧
    request.body = .unregisterRequest delay parent ∧ 0 < delay ∧ ∃ answer ∈ deed.sent, answer.body = .unregisterResponse .success

/-- When a delay is over that a deed has begun. -/
def dueAfter (deed : ServerDeed) (delay : Int32) : Nat := deed.now + Time.ofMillis delay.toInt.toNat

end ServerDeed

namespace SessionDeed

variable {client : UInt32} {deed : SessionDeed}

theorem call_of_registered (turn : deed.turn? client = some .registered) :
    ∃ contact seen, deed.call = .register contact seen ∧ deed.answer = .registered .accepted ∧ contact.node = client := by
  unfold turn? at turn
  split at turn
  · rename_i contact seen call answer
    split at turn
    · rename_i own
      exact ⟨contact, seen, call, answer, own⟩
    · cases turn
  · split at turn <;> cases turn
  · split at turn <;> cases turn
  · split at turn
    · split at turn <;> cases turn
    · cases turn
  · split at turn <;> cases turn
  · cases turn

theorem call_of_ended (turn : deed.turn? client = some .ended) :
    (∃ seen delay, deed.call = .unregister client seen delay ∧
      (deed.answer = .unregistered .delayLessThanZero ∨ deed.answer = .unregistered .success ∧ ¬ 0 < delay)) ∨
      deed.call = .completeMove client := by
  unfold turn? at turn
  split at turn
  · split at turn <;> cases turn
  · split at turn <;> cases turn
  · rename_i seen delay call answer
    split at turn
    · rename_i same
      exact .inl ⟨seen, delay, by rw [call, same], .inl answer⟩
    · cases turn
  · rename_i seen delay call answer
    split at turn
    · rename_i same
      split at turn
      · cases turn
      · rename_i nonpositive
        exact .inl ⟨seen, delay, by rw [call, same], .inr ⟨answer, nonpositive⟩⟩
    · cases turn
  · rename_i call answer
    split at turn
    · rename_i same
      exact .inr (by rw [call, same])
    · cases turn
  · cases turn

namespace Leaves

variable {ttl : Nat} {known left : Option Session}

/-- A move begins with a session that is not moving yet. -/
theorem of_departing (leaves : deed.Leaves ttl client known left) (turn : deed.turn? client = some .departing) :
    ∃ session, known = some session ∧ session.moving = false ∧ left = some { session with moving := true } := by
  cases leaves with
  | registers _ other => cases turn.symm.trans other
  | refreshes _ other => cases turn.symm.trans other
  | @departs session _ still => exact ⟨session, rfl, still, rfl⟩
  | ends other => cases turn.symm.trans other
  | lapses call =>
    rw [turn?, call] at turn
    cases turn
  | rests other => cases turn.symm.trans other

/-- A client that moves goes on with it until it registers. -/
theorem moving (leaves : deed.Leaves ttl client known left) (other : deed.turn? client ≠ some .registered)
    (before : ∀ session, known = some session → session.moving = true) {session : Session} (stays : left = some session) :
    session.moving = true := by
  cases leaves with
  | registers _ turn => exact absurd turn other
  | @refreshes _ known =>
    cases stays
    exact before known rfl
  | departs =>
    cases stays
    rfl
  | ends => cases stays
  | lapses => cases stays
  | rests => exact before session stays

end Leaves

end SessionDeed

/-- A client ends its own session at once if it asks for no delay. -/
theorem Sessions.call_ends {sessions : Sessions} {now : Nat} {call : SessionCall} {client : UInt32}
    (turn : (sessions.deed now call).turn? client = some .ended) :
    (∃ seen delay, call = .unregister client seen delay ∧ delay ≤ 0) ∨ call = .completeMove client := by
  rcases SessionDeed.call_of_ended turn with ⟨seen, delay, rfl, answer⟩ | moves
  · refine .inl ⟨seen, delay, rfl, ?_⟩
    simp only [deed, perform, Prod.map, SessionAnswer.unregistered.injEq] at answer
    rw [Int32.le_iff_toInt_le]
    rcases answer with answer | ⟨_, nonpositive⟩
    · have unregisters := sessions.unregister_unregisters client seen delay now
      generalize sessions.unregister client seen delay now = step at unregisters answer
      cases unregisters with
      | refuses refused =>
        dsimp only at answer
        rw [answer] at refused
        cases refused
      | removes _ due =>
        rcases due with ⟨success, _⟩ | ⟨_, negative⟩
        · cases answer.symm.trans success
        · rw [Int32.lt_iff_toInt_lt] at negative
          omega
      | moves => cases answer
    · rw [Int32.lt_iff_toInt_lt] at nonpositive
      omega
  · exact .inr moves

namespace RendezvousServer

/-- Something happens to the server: a request is handed to it, or an alarm rings. -/
inductive Step (c : Surroundings) (server : RendezvousServer) : ServerEvent → RendezvousServer → List Message → Prop where
  | handles (request : Message) (remote : Socket) :
    Step c server (.request request remote) (server.handle c request remote).1 (server.handle c request remote).2
  | rings {alarm : ServerAlarm} {alarms : Alarms ServerAlarm} {next : RendezvousServer} {sent : List Message}
    (first : server.alarms.ring? c.now = some (alarm, alarms)) (acts : server.ring? c = some (next, sent)) :
    Step c server (.alarm alarm) next sent

/-- Whatever may happen to a server, at any instants. -/
inductive Run (start : RendezvousServer) : List ServerDeed → RendezvousServer → Prop where
  | start : Run start [] start
  | step {log : List ServerDeed} {server next : RendezvousServer} {c : Surroundings} {event : ServerEvent} {sent : List Message}
    (before : Run start log server) (step : server.Step c event next sent) : Run start (log ++ [⟨c.now, event, sent⟩]) next

section

variable {c : Surroundings} {server next start : RendezvousServer} {event : ServerEvent} {sent : List Message} {log : List ServerDeed}
  {client : UInt32} {delay : Int32}

theorem ring?_eq {alarm : ServerAlarm} {alarms : Alarms ServerAlarm} (first : server.alarms.ring? c.now = some (alarm, alarms))
    (acts : server.ring? c = some (next, sent)) : next = (({ server with alarms }).onAlarm c alarm).1 := by
  rw [ring?, first, Option.map_some, Option.some.injEq] at acts
  exact (congrArg Prod.fst acts).symm

theorem onAlarm_alarms (server : RendezvousServer) (c : Surroundings) (alarm : ServerAlarm) :
    (server.onAlarm c alarm).1.alarms = server.alarms := by
  cases alarm <;> rfl

theorem Step.sessions (step : server.Step c event next sent) :
    next.sessions = event.call?.elim server.sessions fun call => (server.sessions.perform c.clock call).2 := by
  cases step with
  | handles request remote =>
    cases body : request.body with
    | unregisterRequest delay parent =>
      simp only [handle, ServerEvent.call?, body]
      split <;> rfl
    | connectRequest peer forwarded =>
      cases forwarded with
      | true => simp only [handle, ServerEvent.call?, body, Option.elim]
      | false =>
        simp only [handle, ServerEvent.call?, body, Sessions.perform, Option.elim]
        split
        · rename_i found
          rw [found]
          rfl
        · rename_i found
          rw [found]
          rfl
    | _ => simp only [handle, ServerEvent.call?, body, Option.elim] <;> rfl
  | @rings alarm alarms _ _ first acts =>
    rw [ring?_eq first acts]
    cases alarm <;> rfl

theorem Step.kept (kept : server.sessions.Kept) (step : server.Step c event next sent) : next.sessions.Kept := by
  rw [step.sessions]
  cases event.call? with
  | none => exact kept
  | some call => exact kept.perform c.clock call

theorem Step.rests (step : server.Step c event next sent) (called : event.call? = none) : next.sessions = server.sessions := by
  rw [step.sessions, called, Option.elim_none]

theorem Step.leaves (kept : server.sessions.Kept) (step : server.Step c event next sent) {call : SessionCall}
    (called : event.call? = some call) (client : UInt32) :
    (server.sessions.deed c.clock call).Leaves server.sessions.ttl client (server.sessions.table.get? client)
      (next.sessions.table.get? client) := by
  rw [step.sessions, called, Option.elim_some]
  exact kept.leaves c.clock call client

theorem Step.registers (step : server.Step c event next sent) {call : SessionCall} (called : event.call? = some call)
    (turn : (server.sessions.deed c.clock call).turn? client = some .registered) :
    (⟨c.now, event, sent⟩ : ServerDeed).Registers client := by
  obtain ⟨contact, seen, rfl, answer, own⟩ := SessionDeed.call_of_registered turn
  cases ServerEvent.asks_of_call? called with
  | @registers request remote wait overlay body =>
    cases step
    refine ⟨request, remote, wait, overlay, rfl, own, body, ?_⟩
    simp only [Sessions.deed, Sessions.perform, Prod.map, SessionAnswer.registered.injEq] at answer
    simp only [handle, body, List.mem_singleton, exists_eq_left, Message.plain, answer]

theorem Step.departs (step : server.Step c event next sent) (departs : (⟨c.now, event, sent⟩ : ServerDeed).Departs client delay) :
    ∃ call, event.call? = some call ∧ (server.sessions.deed c.clock call).turn? client = some .departing := by
  obtain ⟨request, remote, parent, same, rfl, body, positive, answer, answers, success⟩ := departs
  dsimp only at same answers
  subst same
  cases step
  simp only [handle, body, List.mem_singleton] at answers
  subst answers
  refine ⟨.unregister request.source.node (.ofSocket remote request.source.node) delay, by simp only [ServerEvent.call?, body], ?_⟩
  simp only [Message.plain, Body.unregisterResponse.injEq] at success
  simp [SessionDeed.turn?, Sessions.deed, Sessions.perform, success, positive]

/-- An alarm that is set for the end of a move stands for a delay that its client was granted. -/
def Owed (log : List ServerDeed) (alarm : Alarm ServerAlarm) : Prop :=
  ∀ client, alarm.event = .completeMove client →
    alarm.period = none ∧ ∃ deed ∈ log, ∃ delay, deed.Departs client delay ∧ alarm.due = deed.dueAfter delay

theorem Owed.append {alarm : Alarm ServerAlarm} (owed : Owed log alarm) (deed : ServerDeed) : Owed (log ++ [deed]) alarm := by
  intro client ends
  obtain ⟨once, granted, member, known⟩ := owed client ends
  exact ⟨once, granted, List.mem_append_left _ member, known⟩

/-- Requests set an alarm only with a granted delay. -/
theorem handle_alarms (request : Message) (remote : Socket) :
    let step := server.handle c request remote
    step.1.alarms = server.alarms ∨ ∃ client delay id, (⟨c.now, .request request remote, step.2⟩ : ServerDeed).Departs client delay ∧
      step.1.alarms = server.alarms.arm id (c.now + Time.ofMillis delay.toInt.toNat) (.completeMove client) := by
  intro step
  cases body : request.body with
  | unregisterRequest delay parent =>
    by_cases granted : (server.sessions.unregister request.source.node (.ofSocket remote request.source.node) delay c.clock).1 = .success ∧
        0 < delay
    · refine .inr ⟨request.source.node, delay, c.chance.ticket server.drawn, ?_, ?_⟩
      · refine ⟨request, remote, parent, rfl, rfl, body, granted.2, ?_⟩
        simp only [step, handle, body, List.mem_singleton, exists_eq_left, Message.plain, granted.1]
      · simp only [step, handle, body, if_pos granted, armMove]
    · exact .inl (by simp only [step, handle, body, if_neg granted])
  | connectRequest peer forwarded =>
    left
    cases forwarded with
    | true => simp only [step, handle, body]
    | false =>
      simp only [step, handle, body]
      split <;> rfl
  | _ => exact .inl (by simp only [step, handle, body])

theorem Step.owed (step : server.Step c event next sent) (owed : ∀ id alarm, server.alarms.table.get? id = some alarm → Owed log alarm)
    {id : Ticket} {alarm : Alarm ServerAlarm} (set : next.alarms.table.get? id = some alarm) :
    Owed (log ++ [⟨c.now, event, sent⟩]) alarm := by
  cases step with
  | handles request remote =>
    rcases server.handle_alarms (c := c) request remote with same | ⟨client, delay, own, departs, armed⟩
    · rw [same] at set
      exact (owed id alarm set).append _
    · rw [armed, Alarms.get?_arm] at set
      split at set
      · cases set
        intro _ ends
        cases ends
        exact ⟨rfl, _, by simp, delay, departs, rfl⟩
      · exact (owed id alarm set).append _
  | rings first acts =>
    obtain ⟨own, rung, _, known, _, _, _, rfl⟩ := Alarms.ring?_eq_some first
    rw [ring?_eq first acts, onAlarm_alarms] at set
    by_cases same : id = own
    · subst same
      rw [Alarms.get?_rung_self] at set
      obtain ⟨period, again, rfl⟩ := Option.map_eq_some_iff.mp set
      intro client ends
      cases again.symm.trans (owed id rung known client ends).1
    · rw [Alarms.get?_rung_of_ne same] at set
      exact (owed id alarm set).append _

variable {config : RendezvousConfig} {me : Identity} {c₀ : Surroundings}

theorem Run.kept (run : Run (.start config me c₀) log server) : server.sessions.Kept := by
  induction run with
  | start => exact Sessions.kept_empty _ _
  | step _ step ih => exact step.kept ih

theorem Run.owed (run : Run (.start config me c₀) log server) (id : Ticket) (alarm : Alarm ServerAlarm)
    (set : server.alarms.table.get? id = some alarm) : Owed log alarm := by
  induction run generalizing id alarm with
  | start =>
    rw [RendezvousServer.start, Alarms.get?_armEvery] at set
    split at set
    · cases set
      intro client ends
      cases ends
    · cases set
  | step _ step ih => exact step.owed ih set

/-- What a run has done at some point was a step of the server that it had come to. -/
theorem Run.at {first later : List ServerDeed} {deed : ServerDeed} (run : Run start (first ++ deed :: later) server) :
    ∃ before c after, Run start first before ∧ deed.now = c.now ∧ before.Step c deed.event after deed.sent := by
  generalize eq : first ++ deed :: later = log at run
  induction run generalizing later with
  | start => simp at eq
  | @step log before next c event sent run step ih =>
    rcases append_cons_eq_concat eq with ⟨_, rfl, rfl⟩ | ⟨others, _, earlier⟩
    · exact ⟨before, c, next, run, rfl, step⟩
    · exact ih earlier

/-- A client that was granted a delay and has not registered since is moving, if it is stored. -/
theorem Run.moving {first since : List ServerDeed} {deed : ServerDeed} {session : Session}
    (run : Run (.start config me c₀) (first ++ deed :: since) server) (departs : deed.Departs client delay)
    (still : ∀ later ∈ since, ¬ later.Registers client) (stored : server.sessions.table.get? client = some session) :
    session.moving = true := by
  generalize eq : first ++ deed :: since = log at run
  induction run generalizing since session with
  | start => simp at eq
  | @step log before next c event sent run step ih =>
    rcases append_cons_eq_concat eq with ⟨_, rfl, rfl⟩ | ⟨rest, rfl, earlier⟩
    · obtain ⟨call, called, turn⟩ := step.departs departs
      obtain ⟨former, _, _, left⟩ := (step.leaves run.kept called client).of_departing turn
      cases stored.symm.trans left
      rfl
    · have moves (session : Session) (known : before.sessions.table.get? client = some session) : session.moving = true :=
        ih (fun later member => still later (by simp [member])) known earlier
      cases called : event.call? with
      | none =>
        rw [step.rests called] at stored
        exact moves session stored
      | some call =>
        refine (step.leaves run.kept called client).moving (fun turn => ?_) moves stored
        exact still _ (by simp) (step.registers called turn)

/-- A client is not granted two delays unless it registers in between. -/
theorem Run.registers_between {first middle last : List ServerDeed} {one two : ServerDeed} {delay' : Int32}
    (run : Run (.start config me c₀) (first ++ one :: (middle ++ two :: last)) server) (departs : one.Departs client delay)
    (again : two.Departs client delay') : ∃ deed ∈ middle, deed.Registers client := by
  rw [← List.cons_append, ← List.append_assoc] at run
  obtain ⟨before, c, after, run, now, step⟩ := run.at
  obtain ⟨call, called, turn⟩ := step.departs (by rw [← now]; exact again)
  obtain ⟨session, stored, still, _⟩ := (step.leaves run.kept called client).of_departing turn
  refine Classical.byContradiction fun none => ?_
  have moving := run.moving departs (fun later member registers => none ⟨later, member, registers⟩) stored
  cases still.symm.trans moving

/-- The session of a client that was granted a delay does not go before this is over, unless it has expired, or the client asks
for no more delay, or registers again: what then ends may be an earlier or a later delay. -/
theorem Run.stays_until_due {first since : List ServerDeed} {deed : ServerDeed} {session : Session}
    (run : Run (.start config me c₀) (first ++ deed :: since) server) (departs : deed.Departs client delay)
    (stored : server.sessions.table.get? client = some session) (step : server.Step c event next sent)
    (early : c.now < deed.dueAfter delay) (gone : next.sessions.table.get? client = none) :
    event = .alarm .sweep ∧ session.isExpired c.clock = true ∨
      (∃ request remote delay' parent, event = .request request remote ∧ request.source.node = client ∧
        request.body = .unregisterRequest delay' parent ∧ delay' ≤ 0) ∨
      event = .alarm (.completeMove client) ∧ ∃ other delay', other.Departs client delay' ∧ other.dueAfter delay' ≤ c.now ∧
        ((∃ before middle, first = before ++ other :: middle ∧ ∃ again ∈ middle, again.Registers client) ∨
          ∃ middle later, since = middle ++ other :: later ∧ ∃ again ∈ middle, again.Registers client) := by
  cases called : event.call? with
  | none => cases (step.rests called ▸ gone).symm.trans stored
  | some call =>
    have leaves := step.leaves run.kept called client
    rw [stored, gone] at leaves
    cases leaves with
    | lapses sweeps expired =>
      cases sweeps
      cases ServerEvent.asks_of_call? called
      exact .inl ⟨rfl, expired⟩
    | ends turn =>
      right
      rcases Sessions.call_ends turn with ⟨seen, delay', rfl, nonpositive⟩ | rfl
      · cases ServerEvent.asks_of_call? called with
        | @unregisters request remote delay' parent body => exact .inl ⟨request, remote, delay', parent, rfl, rfl, body, nonpositive⟩
      · cases ServerEvent.asks_of_call? called
        refine .inr ⟨rfl, ?_⟩
        cases step with
        | rings ring acts =>
          obtain ⟨id, alarm, time, set, rings, passed, ends, _⟩ := Alarms.ring?_eq_some ring
          obtain ⟨once, other, member, delay', granted, due⟩ := run.owed id alarm set client ends.symm
          have elapsed : other.dueAfter delay' ≤ c.now := by
            rw [Alarm.rings?, once, if_neg (by simp), Option.some.injEq] at rings
            have := Time.le_ceilMillis alarm.due
            omega
          refine ⟨other, delay', granted, elapsed, ?_⟩
          rcases List.mem_append.mp member with earlier | later
          · obtain ⟨before, middle, rfl⟩ := List.append_of_mem earlier
            rw [List.append_assoc, List.cons_append] at run
            exact .inl ⟨before, middle, rfl, run.registers_between granted departs⟩
          · rcases List.mem_cons.mp later with rfl | later
            · obtain ⟨_, _, _, same, _, body, _⟩ := granted
              obtain ⟨_, _, _, same', _, body', _⟩ := departs
              cases same.symm.trans same'
              cases body.symm.trans body'
              omega
            · obtain ⟨middle, last, rfl⟩ := List.append_of_mem later
              exact .inr ⟨middle, last, rfl, run.registers_between departs granted⟩

theorem Step.of_ring {alarm : ServerAlarm} (rings : (server.alarms.ring? c.now).map (·.1) = some alarm) :
    ∃ next sent, server.ring? c = some (next, sent) ∧ server.Step c (.alarm alarm) next sent := by
  obtain ⟨⟨rung, alarms⟩, first, rfl⟩ := Option.map_eq_some_iff.mp rings
  have acts : server.ring? c = some (({ server with alarms }).onAlarm c rung) := by rw [ring?, first]; rfl
  exact ⟨_, _, acts, .rings first acts⟩

/-- The client has registered again and been granted a shorter delay, and this is what ends its session. -/
theorem shorter_delay_due :
    let c (ms : Nat) : Surroundings := ⟨Time.ofMillis ms, Time.ofMillis ms, (Roster.empty 3).enter 1 .unrestricted, .counting 0⟩
    let me : Identity := ⟨⟨.ofOctets 10 0 0 1, 4000, 1⟩, 0, none⟩
    let client : Contact := ⟨⟨.ofOctets 10 0 0 9, 4000, 9⟩, 0, .unrestricted, []⟩
    let asks (body : Body) : Message := .plain client me.address body
    let begun := RendezvousServer.start {} me (c 0)
    let known := begun.handle (c 0) (asks (.registerRequest 0 0)) client.address.socket
    let leaving := known.1.handle (c 10) (asks (.unregisterRequest 1000 .accepted)) client.address.socket
    let deed : ServerDeed := ⟨Time.ofMillis 10, .request (asks (.unregisterRequest 1000 .accepted)) client.address.socket, leaving.2⟩
    let back := leaving.1.handle (c 20) (asks (.registerRequest 0 0)) client.address.socket
    let again := back.1.handle (c 30) (asks (.unregisterRequest 50 .accepted)) client.address.socket
    deed.Departs 9 1000 ∧ (c 80).now < deed.dueAfter 1000 ∧ ∃ first since next sent session, Run begun (first ++ deed :: since) again.1 ∧
      again.1.sessions.table.get? 9 = some session ∧ again.1.Step (c 80) (.alarm (.completeMove 9)) next sent ∧
      next.sessions.table.get? 9 = none ∧ ∃ (other : ServerDeed) (delay : Int32), other.Departs 9 delay ∧ other.dueAfter delay ≤ (c 80).now := by
  intro c me client asks begun known leaving deed back again
  have departs : deed.Departs 9 1000 := ⟨_, _, _, rfl, rfl, rfl, by decide, by decide +kernel⟩
  have early : (c 80).now < deed.dueAfter 1000 := by decide +kernel
  obtain ⟨first, since, run⟩ : ∃ first since, Run begun (first ++ deed :: since) again.1 :=
    ⟨[_], [_, _], .step (.step (.step (.step .start (.handles (c := c 0) ..)) (.handles (c := c 10) ..)) (.handles (c := c 20) ..))
      (.handles (c := c 30) ..)⟩
  obtain ⟨session, stored⟩ := Option.isSome_iff_exists.mp (show (again.1.sessions.table.get? 9).isSome = true by decide +kernel)
  obtain ⟨next, sent, acts, step⟩ := Step.of_ring (show (again.1.alarms.ring? (c 80).now).map (·.1) = some (.completeMove 9) by decide +kernel)
  have gone : next.sessions.table.get? 9 = none := by
    have left : (again.1.ring? (c 80)).map (·.1.sessions.table.get? 9) = some none := by decide +kernel
    simpa [acts] using left
  refine ⟨departs, early, first, since, next, sent, session, run, stored, step, gone, ?_⟩
  rcases run.stays_until_due departs stored step early gone with ⟨sweep, _⟩ | ⟨_, _, _, _, request, _⟩ | ⟨_, other, delay, granted, elapsed, _⟩
  · cases sweep
  · cases request
  · exact ⟨other, delay, granted, elapsed⟩

/-- A client that has registered again is granted a second of delay, and its session ends with the delay that it was granted
first, of a tenth of a second. -/
theorem earlier_delay_ends_move :
    let c (ms : Nat) : Surroundings := ⟨Time.ofMillis ms, Time.ofMillis ms, (Roster.empty 3).enter 1 .unrestricted, .counting 0⟩
    let me : Identity := ⟨⟨.ofOctets 10 0 0 1, 4000, 1⟩, 0, none⟩
    let client : Contact := ⟨⟨.ofOctets 10 0 0 9, 4000, 9⟩, 0, .unrestricted, []⟩
    let asks (body : Body) : Message := .plain client me.address body
    let begun := RendezvousServer.start {} me (c 0)
    let known := begun.handle (c 0) (asks (.registerRequest 0 0)) client.address.socket
    let leaving := known.1.handle (c 0) (asks (.unregisterRequest 100 .accepted)) client.address.socket
    let back := leaving.1.handle (c 0) (asks (.registerRequest 0 0)) client.address.socket
    let again := back.1.handle (c 0) (asks (.unregisterRequest 1000 .accepted)) client.address.socket
    let deed : ServerDeed := ⟨0, .request (asks (.unregisterRequest 1000 .accepted)) client.address.socket, again.2⟩
    deed.Departs 9 1000 ∧ (c 100).now < deed.dueAfter 1000 ∧ ∃ first next sent session, Run begun (first ++ [deed]) again.1 ∧
      again.1.sessions.table.get? 9 = some session ∧ session.isExpired (c 100).clock = false ∧
      again.1.Step (c 100) (.alarm (.completeMove 9)) next sent ∧ next.sessions.table.get? 9 = none := by
  intro c me client asks begun known leaving back again deed
  have departs : deed.Departs 9 1000 := ⟨_, _, _, rfl, rfl, rfl, by decide, by decide +kernel⟩
  obtain ⟨first, run⟩ : ∃ first, Run begun (first ++ [deed]) again.1 :=
    ⟨[_, _, _], .step (.step (.step (.step .start (.handles (c := c 0) ..)) (.handles (c := c 0) ..)) (.handles (c := c 0) ..))
      (.handles (c := c 0) ..)⟩
  obtain ⟨session, stored⟩ := Option.isSome_iff_exists.mp (show (again.1.sessions.table.get? 9).isSome = true by decide +kernel)
  have live : again.1.sessions.lapsed (c 100).clock 9 = false := by decide +kernel
  obtain ⟨next, sent, acts, step⟩ := Step.of_ring (show (again.1.alarms.ring? (c 100).now).map (·.1) = some (.completeMove 9) by decide +kernel)
  have left : (again.1.ring? (c 100)).map (·.1.sessions.table.get? 9) = some none := by decide +kernel
  refine ⟨departs, by decide +kernel, first, next, sent, session, run, stored, ?_, step, ?_⟩
  · simpa [Sessions.lapsed, stored] using live
  · simpa [acts] using left

end

end RendezvousServer

end NatTraversal
