import NatTraversal.Proofs.Chance
import NatTraversal.Proofs.Courier.Tandem

namespace NatTraversal

/-- The peer whose handshake an event ends, or for which it stands in where there is a path already. -/
def PunchEvent.settled? : PunchEvent → Option PeerKey
  | .verified key _ _ => some key
  | .failed key _ _ => some key
  | _ => none

/-- What a message carries along a path. -/
def Message.parcel (message : Message) : Parcel := ⟨message.body, message.ticket⟩

/-- The message that an effect hands to the endpoint. -/
def CourierEffect.message? : CourierEffect → Option Message
  | .send message => some message
  | _ => none

/-- The parcels that effects hand to the endpoint, in order, as far as its verdicts count. -/
def CourierEffect.handed (counts : Except Error Unit → Bool) (verdicts : Nat → Message → Except LinkError Unit)
    (effects : List CourierEffect) : List Parcel :=
  let messages := effects.filterMap (·.message?)
  (messages.zipIdx.filter fun entry => counts ((verdicts entry.2 entry.1).mapError .link)).map (·.1.parcel)

namespace CourierDeed

/-- What a deed has handed to the endpoint for a peer, in order, as far as the endpoint's verdicts count. -/
def handed (counts : Except Error Unit → Bool) (key : PeerKey) : CourierDeed → List Parcel
  | .sent dest _ verdicts _ effects => if dest.key = key then CourierEffect.handed counts verdicts effects else []
  | .heard event verdicts effects => if event.key? = some key then CourierEffect.handed counts verdicts effects else []

/-- What a deed has taken from the application for a peer, if the answer to the application counts. -/
def accepted (counts : Except Error Unit → Bool) (key : PeerKey) : CourierDeed → List Parcel
  | .sent dest parcel _ answer _ => if dest.key = key ∧ counts answer = true then [parcel] else []
  | .heard .. => []

/-- Whether a deed sends a peer nothing at an open address. -/
def isIndirect (key : PeerKey) : CourierDeed → Bool
  | .sent dest .. => dest.key != key || !dest.isOpen
  | .heard .. => true

end CourierDeed

namespace Courier

/-- Whether no parcel waits for a path that is there. -/
def Prompt (courier : Courier) : Prop := ∀ key path, courier.paths.get? key = some path → courier.parcels key = []

section

variable {accept : Message → Except LinkError Unit} {answer : Except Error Unit} {counts : Except Error Unit → Bool}
  {courier later : Courier} {dest : Contact} {effects : List CourierEffect} {event : PunchEvent} {key : PeerKey} {parcel : Parcel}

theorem parcels_insert (courier : Courier) (own key : PeerKey) (queue : List Parcel) :
    ({ courier with queued := courier.queued.insert own queue } : Courier).parcels key =
      if key = own then queue else courier.parcels key := by
  rw [parcels, Table.get?_insert]
  split <;> rfl

theorem parcels_erase (courier : Courier) (own key : PeerKey) :
    ({ courier with queued := courier.queued.erase own } : Courier).parcels key = if key = own then [] else courier.parcels key := by
  rw [parcels, Table.get?_erase]
  split <;> rfl

/-- A queue grows only at its end and only without a path, and the first parcel asks for one. -/
theorem Sending.parcels (sending : courier.Sending accept dest parcel answer later effects) (key : PeerKey) :
    later.parcels key = courier.parcels key ∨
      dest.key = key ∧ later.paths.get? key = none ∧ later.parcels key = courier.parcels key ++ [parcel] ∧
        (courier.parcels key = [] → .connect dest ∈ effects) := by
  cases sending with
  | asks gone first =>
    rw [parcels_insert]
    by_cases own : key = dest.key
    · subst own
      exact .inr ⟨rfl, gone, by rw [if_pos rfl, first, List.nil_append], fun _ => List.mem_singleton_self _⟩
    · exact .inl (if_neg own)
  | waits gone behind =>
    rw [parcels_insert]
    by_cases own : key = dest.key
    · subst own
      exact .inr ⟨rfl, gone, if_pos rfl, fun empty => absurd empty behind⟩
    · exact .inl (if_neg own)
  | _ => exact .inl rfl

/-- A queue is emptied when its handshake ends, and only then. -/
theorem onPunch_parcels (courier : Courier) (event : PunchEvent) (key : PeerKey) :
    (courier.onPunch event).1.parcels key = if event.settled? = some key then [] else courier.parcels key := by
  cases event with
  | verified own target path =>
    refine (parcels_erase courier own key).trans ?_
    simp only [PunchEvent.settled?, Option.some.injEq, eq_comm]
  | failed own target error =>
    refine (parcels_erase courier own key).trans ?_
    simp only [PunchEvent.settled?, Option.some.injEq, eq_comm]
  | pathClosed own path =>
    simp only [onPunch]
    split <;> rfl
  | _ => rfl

theorem Prompt.sends (prompt : courier.Prompt) (sending : courier.Sending accept dest parcel answer later effects) : later.Prompt := by
  intro key path known
  rcases sending.parcels key with same | ⟨_, gone, _⟩
  · rw [same]
    refine prompt key path ?_
    cases sending with
    | breaks found lost => exact Table.get?_of_erase known
    | _ => exact known
  · cases gone.symm.trans known

theorem Prompt.hears (prompt : courier.Prompt) (event : PunchEvent) : (courier.onPunch event).1.Prompt := by
  intro key path known
  rw [onPunch_parcels]
  split
  · rfl
  · rename_i unsettled
    refine prompt key path ?_
    cases event with
    | verified own target other =>
      have apart : key ≠ own := fun same => unsettled (congrArg some same.symm)
      exact ((Table.get?_insert ..).trans (if_neg apart)).symm.trans known
    | failed own target error => exact Table.get?_of_erase known
    | pathClosed own other =>
      simp only [onPunch] at known
      split at known
      · exact Table.get?_of_erase known
      · exact known
    | _ => exact known

/-- A parcel comes out of a message as it went in. -/
@[simp] theorem parcel_directMessage (courier : Courier) (key : PeerKey) (path : Path) (parcel : Parcel) :
    (courier.directMessage key path parcel).parcel = parcel := rfl

theorem handed_sublist (counts : Except Error Unit → Bool) (verdicts : Nat → Message → Except LinkError Unit)
    (effects : List CourierEffect) :
    (CourierEffect.handed counts verdicts effects).Sublist ((effects.filterMap (·.message?)).map (·.parcel)) := by
  have all : (effects.filterMap (·.message?)).zipIdx.map (·.1.parcel) = (effects.filterMap (·.message?)).map (·.parcel) :=
    List.map_map.symm.trans (congrArg (List.map Message.parcel) (List.zipIdx_map_fst 0 _))
  rw [← all]
  exact List.filter_sublist.map _

/-- What is handed over and what still waits has waited before, or has just been accepted. -/
theorem Sending.conserves {verdicts : Nat → Message → Except LinkError Unit}
    (sending : courier.Sending (verdicts 0) dest parcel answer later effects) (prompt : courier.Prompt)
    (indirect : (CourierDeed.sent dest parcel verdicts answer effects).isIndirect key = true) (successes : counts (.ok ()) = true) :
    ((CourierDeed.sent dest parcel verdicts answer effects).handed counts key ++ later.parcels key).Sublist
      (courier.parcels key ++ (CourierDeed.sent dest parcel verdicts answer effects).accepted counts key) := by
  simp only [CourierDeed.handed, CourierDeed.accepted]
  by_cases own : dest.key = key
  · subst own
    simp only [true_and, if_true]
    cases sending with
    | direct is_open same => simp [CourierDeed.isIndirect, is_open] at indirect
    | @along path found taken =>
      have counted : counts ((verdicts 0 (courier.directMessage dest.key path parcel)).mapError .link) = true := by
        rw [taken]
        exact successes
      simp [prompt dest.key path found, CourierEffect.handed, CourierEffect.message?, counted, successes]
    | @breaks path error found lost =>
      have empty := prompt dest.key path found
      have still : ({ courier with paths := courier.paths.erase dest.key } : Courier).parcels dest.key = [] := empty
      have told : (verdicts 0 (courier.directMessage dest.key path parcel)).mapError Error.link = .error (.link error) := by
        rw [lost]
        rfl
      cases counted : counts (.error (.link error)) <;>
        simp [still, empty, CourierEffect.handed, CourierEffect.message?, told, counted]
    | refuses gone => exact List.sublist_append_left ..
    | asks gone first => simp [parcels_insert, CourierEffect.handed, CourierEffect.message?, first, successes]
    | waits gone behind => simp [parcels_insert, CourierEffect.handed, successes]
  · have same : later.parcels key = courier.parcels key := by
      rcases sending.parcels key with same | ⟨mine, _⟩
      · exact same
      · exact absurd mine own
    simp [own, same]

/-- What a new path lets out has waited for it, in the same order. -/
theorem heard_conserves (courier : Courier) (counts : Except Error Unit → Bool) (event : PunchEvent)
    (verdicts : Nat → Message → Except LinkError Unit) (key : PeerKey) :
    ((CourierDeed.heard event verdicts (courier.onPunch event).2).handed counts key ++ (courier.onPunch event).1.parcels key).Sublist
      (courier.parcels key) := by
  rw [onPunch_parcels, CourierDeed.handed]
  cases event with
  | verified own target path =>
    by_cases mine : own = key
    · subst mine
      have some_of := handed_sublist counts verdicts (courier.onPunch (.verified own target path)).2
      have all : ((courier.onPunch (.verified own target path)).2.filterMap (·.message?)).map (·.parcel) = courier.parcels own := by
        simp [onPunch, CourierEffect.message?, Function.comp_def]
      rw [all] at some_of
      simpa [PunchEvent.key?, PunchEvent.settled?] using some_of
    · simp [PunchEvent.key?, PunchEvent.settled?, mine]
  | failed own target error =>
    by_cases mine : own = key
    · simp [PunchEvent.key?, PunchEvent.settled?, mine, onPunch, CourierEffect.handed, CourierEffect.message?]
    · simp [PunchEvent.key?, PunchEvent.settled?, mine]
  | pathClosed own path => simp [PunchEvent.key?, PunchEvent.settled?, onPunch, CourierEffect.handed]
  | _ => simp [PunchEvent.key?, PunchEvent.settled?]

end

end Courier

/-- A handshake that is asked for or pending is pending afterwards or has ended, and where there is a path it is told of
instead. -/
theorem PeerPhase.Step.outcome {key : PeerKey} {input : PunchInput} {phase later : PeerPhase} {events : List PunchEvent}
    (step : PeerPhase.Step key input phase events later) (due : input.Calls key ∨ phase = .running) :
    later = .running ∨ ∃ event ∈ events, event.settled? = some key := by
  cases step with
  | refuses called => exact .inr ⟨_, List.mem_singleton_self _, rfl⟩
  | begins asked => exact .inl rfl
  | recalls called => exact .inr ⟨_, List.mem_singleton_self _, rfl⟩
  | yields forwarded => exact .inl rfl
  | verifies answered => exact .inr ⟨_, List.mem_singleton_self _, rfl⟩
  | fails ended => exact .inr ⟨_, List.mem_singleton_self _, rfl⟩
  | closes closed =>
    rcases due with ⟨target, grant, rfl, _⟩ | running
    · rcases closed with command | command | ⟨id, command⟩ <;> cases command
    · cases running
  | stays => exact .inl rfl
  | rests uncalled unasked => exact .inl (due.resolve_left uncalled)

namespace Tandem

/-- Whether something under way or pending will let out or drop what waits for a peer. -/
def Awaits (t : Tandem) (key : PeerKey) : Prop :=
  (∃ input ∈ t.mailbox, input.Calls key) ∨ (t.puncher.handshakes.get? key).isSome = true ∨
    ∃ event ∈ t.events, event.settled? = some key

section

variable {grant : Contact → Except LinkError (List UInt16)} {input : PunchInput} {key : PeerKey} {later : List PunchInput}
  {t : Tandem}

theorem Awaits.more (awaits : t.Awaits key) (more : List PunchInput) : ({ t with mailbox := t.mailbox ++ more } : Tandem).Awaits key :=
  awaits.imp_left fun ⟨input, waiting, called⟩ => ⟨input, List.mem_append_left more waiting, called⟩

theorem Awaits.handles (awaits : t.Awaits key) (going : t.puncher.halted = false) (apart : t.puncher.Apart)
    (next : t.mailbox = input :: later) (c : Surroundings) (alarms : Alarms PunchAlarm) :
    (({ t with mailbox := later }).punched (({ t.puncher with alarms }).react c input)).Awaits key := by
  have step := Puncher.react_step (p := { t.puncher with alarms }) going apart c input key
  have told : input.Calls key ∨ t.puncher.phase key = .running →
      (({ t with mailbox := later }).punched (({ t.puncher with alarms }).react c input)).Awaits key := by
    intro due
    rcases step.outcome due with running | ⟨event, among, settled⟩
    · exact .inr (.inl (Puncher.isSome_of_running running))
    · exact .inr (.inr ⟨event, List.mem_append_right _ (List.mem_filter.mp among).1, settled⟩)
  rcases awaits with ⟨call, waiting, called⟩ | shaking | ⟨event, waiting, settled⟩
  · rw [next] at waiting
    rcases List.mem_cons.mp waiting with rfl | behind
    · exact told (.inl called)
    · exact .inl ⟨call, behind, called⟩
  · obtain ⟨hs, found⟩ := Option.isSome_iff_exists.mp shaking
    exact told (.inr (Puncher.phase_of_handshake found))
  · exact .inr (.inr ⟨event, List.mem_append_left _ waiting, settled⟩)

/-- The first parcel in a queue asks for a path. -/
theorem awaits_of_sends (awaits : t.courier.parcels key ≠ [] → t.Awaits key) (going : t.puncher.halted = false)
    (accept : Message → Except LinkError Unit) (dest : Contact) (parcel : Parcel)
    (some_waiting : (t.sending accept dest parcel).2.1.parcels key ≠ []) :
    (t.carried grant (t.sending accept dest parcel).2).Awaits key := by
  by_cases empty : t.courier.parcels key = []
  · have sending := sending_sending going accept dest parcel
    obtain ⟨own, _, _, asked⟩ := (sending.parcels key).resolve_left fun same => some_waiting (same.trans empty)
    exact .inl ⟨_, List.mem_append_right _ (List.mem_filterMap.mpr ⟨_, asked empty, rfl⟩), dest, _, rfl, own⟩
  · exact (awaits empty).more _

/-- What a courier hears of a peer without ending its wait leaves it waiting. -/
theorem awaits_of_hears {event : PunchEvent} {events : List PunchEvent} (awaits : t.courier.parcels key ≠ [] → t.Awaits key)
    (next : t.events = event :: events) (some_waiting : (t.courier.onPunch event).1.parcels key ≠ []) :
    (({ t with events }).carried grant (t.courier.onPunch event)).Awaits key := by
  rw [Courier.onPunch_parcels] at some_waiting
  split at some_waiting
  · exact absurd rfl some_waiting
  · rename_i unsettled
    rcases awaits some_waiting with ⟨call, waiting, called⟩ | shaking | ⟨outcome, waiting, settled⟩
    · exact .inl ⟨call, List.mem_append_left _ waiting, called⟩
    · exact .inr (.inl shaking)
    · rw [next] at waiting
      rcases List.mem_cons.mp waiting with rfl | behind
      · exact absurd settled unsettled
      · exact .inr (.inr ⟨outcome, behind, settled⟩)

end

section

variable {config : Config} {counts : Except Error Unit → Bool} {key : PeerKey} {log : List CourierDeed} {me : Identity}
  {roster : Roster} {t : Tandem}

theorem Run.prompt (run : Run (ofConfig config me roster) log t) (going : t.puncher.halted = false) : t.courier.Prompt := by
  induction run with
  | start =>
    intro key path known
    cases known
  | @sends log t before dest parcel verdicts grant ih => exact (ih going).sends (sending_sending (t := t) going (verdicts 0) dest parcel)
  | hears before next verdicts grant ih => exact (ih going).hears _
  | sorts before event grant ih => exact ih going
  | classifies before nat grant ih => exact ih going
  | told before input other ih => exact ih going
  | handles before next c alarms ih => exact ih (going_of_handles going)

theorem Run.awaits (run : Run (ofConfig config me roster) log t) (going : t.puncher.halted = false)
    (some_waiting : t.courier.parcels key ≠ []) : t.Awaits key := by
  induction run with
  | start => exact absurd rfl some_waiting
  | sends before dest parcel verdicts grant ih => exact awaits_of_sends (ih going) going (verdicts 0) dest parcel some_waiting
  | hears before next verdicts grant ih => exact awaits_of_hears (ih going) next some_waiting
  | sorts before event grant ih => exact (ih going some_waiting).more _
  | classifies before nat grant ih => exact (ih going some_waiting).more _
  | told before input other ih => exact (ih going some_waiting).more [input]
  | handles before next c alarms ih =>
    have earlier := going_of_handles going
    exact (ih earlier some_waiting).handles earlier before.apart next c alarms

/-- What a courier has handed over and what it still has in a queue has been accepted in that order. -/
theorem Run.conserves (run : Run (ofConfig config me roster) log t) (going : t.puncher.halted = false)
    (indirect : ∀ deed ∈ log, deed.isIndirect key = true) (successes : counts (.ok ()) = true) :
    (log.flatMap (·.handed counts key) ++ t.courier.parcels key).Sublist (log.flatMap (·.accepted counts key)) := by
  induction run with
  | start => exact .slnil
  | @sends log t before dest parcel verdicts grant ih =>
    rw [List.forall_mem_append] at indirect
    have kept := (sending_sending (t := t) going (verdicts 0) dest parcel).conserves (before.prompt going)
      (indirect.2 _ (List.mem_singleton_self _)) successes
    -- What had waited before pays for what is handed over now, and for what still waits.
    have whole := (ih going indirect.1).append_right ((CourierDeed.sent dest parcel verdicts (t.sending (verdicts 0) dest parcel).1
      (t.sending (verdicts 0) dest parcel).2.2).accepted counts key)
    rw [List.append_assoc] at whole
    simp only [List.flatMap_append, List.flatMap_singleton, List.append_assoc]
    exact (kept.append_left _).trans whole
  | @hears log t event later before next verdicts grant ih =>
    rw [List.forall_mem_append] at indirect
    have kept := t.courier.heard_conserves counts event verdicts key
    simp only [List.flatMap_append, List.flatMap_singleton, List.append_assoc]
    exact (kept.append_left _).trans ((ih going indirect.1).trans (List.sublist_append_left ..))
  | sorts before event grant ih => exact ih going indirect
  | classifies before nat grant ih => exact ih going indirect
  | told before input other ih => exact ih going indirect
  | handles before next c alarms ih => exact ih (going_of_handles going) indirect

/-- As long as the puncher goes on: no queue stands beside a path, and none waits for nothing. What is handed to the endpoint for
a peer has been accepted before, in the same order and each parcel once. Whether something counts as handed over is told by the
endpoint's verdict, whether it counts as accepted by the courier's answer. -/
theorem Run.queues_served (run : Run (ofConfig config me roster) log t) (going : t.puncher.halted = false) (key : PeerKey) :
    (∀ path, t.courier.paths.get? key = some path → t.courier.parcels key = []) ∧
    (t.courier.parcels key ≠ [] → t.Awaits key) ∧
    ((∀ deed ∈ log, deed.isIndirect key = true) → ∀ counts : Except Error Unit → Bool, counts (.ok ()) = true →
      (log.flatMap (·.handed counts key)).Sublist (log.flatMap (·.accepted counts key))) := by
  refine ⟨run.prompt going key, run.awaits going, fun indirect counts successes => ?_⟩
  exact (List.sublist_append_left ..).trans (run.conserves going indirect successes)

/-- The first parcel has gone out along the path that it has waited for. The endpoint has not taken the second, which has cost
the path, and the third waits for the puncher to learn of it. -/
theorem lost_queues_served :
    let c : Surroundings := ⟨0, 0, (Roster.empty 3).enter 1 .unrestricted, .counting 0⟩
    let relay : Address := ⟨.ofOctets 10 0 0 9, 3478, 9⟩
    let me : Identity := ⟨⟨.ofOctets 10 0 0 1, 4000, 1⟩, 0, none⟩
    let target : Contact :=
      ⟨⟨.ofOctets 10 0 0 2, 4000, 2⟩, 0, .natted .endpointIndependent .portPreservation .endpointIndependent, [relay]⟩
    let pong : Message := ⟨target, me.address, c.chance.ticket 0, .udp, .punchPong⟩
    let path : Path := ⟨target.address.socket, 4000⟩
    let parcel (number : UInt8) : Parcel := ⟨.data [number], .none⟩
    let takes (_ : Nat) (_ : Message) : Except LinkError Unit := .ok ()
    let fails (_ : Nat) (_ : Message) : Except LinkError Unit := .error .shutdown
    let begun := ofConfig {} me c.roster
    let queued := begun.carried (fun _ => .ok []) (begun.sending (takes 0) target (parcel 1)).2
    let called := ({ queued with mailbox := [] }).punched (queued.puncher.react c (.command (.connect target (.ok []))))
    let answered := called.carried (fun _ => .ok [])
      (called.courier, called.courier.onEndpoint (.message pong target.address.socket me.address.socket))
    let verified := ({ answered with mailbox := [] }).punched
      (answered.puncher.react c (.command (.inbound pong target.address.socket me.address.socket)))
    let heard := ({ verified with events := [] }).carried (fun _ => .ok []) (verified.courier.onPunch (.verified target.key target path))
    let broken := heard.carried (fun _ => .ok []) (heard.sending (fails 0) target (parcel 2)).2
    let lost := broken.carried (fun _ => .ok []) (broken.sending (takes 0) target (parcel 3)).2
    lost.puncher.halted = false ∧ lost.courier.parcels target.key = [parcel 3] ∧ lost.Awaits target.key ∧
      ∃ log, Run begun log lost ∧ log.flatMap (·.handed Except.toBool target.key) = [parcel 1] ∧
        log.flatMap (·.accepted Except.toBool target.key) = [parcel 1, parcel 3] ∧
        (log.flatMap (·.handed Except.toBool target.key)).Sublist (log.flatMap (·.accepted Except.toBool target.key)) := by
  intro c relay me target pong path parcel takes fails begun queued called answered verified heard broken lost
  have going : lost.puncher.halted = false := by decide +kernel
  have waiting : lost.courier.parcels target.key = [parcel 3] := by decide +kernel
  have run : Run begun _ lost :=
    .sends (.sends (.hears (.handles (.sorts (.handles (.sends .start target (parcel 1) takes _) rfl c queued.puncher.alarms)
      (.message pong target.address.socket me.address.socket) _) rfl c answered.puncher.alarms) rfl takes _)
      target (parcel 2) fails _) target (parcel 3) takes _
  obtain ⟨_, awaits, served⟩ := run.queues_served going target.key
  refine ⟨going, waiting, awaits (by rw [waiting]; simp), _, run, by decide +kernel, by decide +kernel, served (by decide +kernel) _ rfl⟩

end

end Tandem

end NatTraversal
