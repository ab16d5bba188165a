import NatTraversal.Proofs.Chance
import NatTraversal.Proofs.Courier.Tandem

namespace NatTraversal

/-- The path of a peer in a phase. -/
def PeerPhase.path? : PeerPhase → Option Path
  | .cached path => some path
  | _ => none

namespace PunchEvent

/-- What a courier that hears of something makes of the path that it has for a peer. -/
def follow (key : PeerKey) (path? : Option Path) : PunchEvent → Option Path
  | .verified own _ path => if own = key then some path else path?
  | .failed own _ _ => if own = key then none else path?
  | .pathClosed own path => if own = key ∧ path? = some path then none else path?
  | _ => path?

variable {key : PeerKey}

theorem follow_of_other {event : PunchEvent} (other : event.key? ≠ some key) (path? : Option Path) : event.follow key path? = path? := by
  cases event with
  | verified own target path => exact if_neg fun same => other (congrArg some same)
  | failed own target error => exact if_neg fun same => other (congrArg some same)
  | pathClosed own path => exact if_neg fun same => other (congrArg some same.1)
  | _ => rfl

/-- A path that a courier has lost is not missed: either it comes to the same, or there is none in the end. -/
theorem follow_none (event : PunchEvent) (path? : Option Path) :
    event.follow key none = event.follow key path? ∨ event.follow key none = none := by
  cases event with
  | verified own target path =>
    by_cases same : own = key
    · exact .inl (by simp [follow, same])
    · exact .inr (if_neg same)
  | failed own target error => exact .inr (ite_self none)
  | pathClosed own path => exact .inr (ite_self none)
  | _ => exact .inr rfl

theorem foldl_follow_none (key : PeerKey) (events : List PunchEvent) (path? : Option Path) :
    events.foldl (follow key) none = events.foldl (follow key) path? ∨ events.foldl (follow key) none = none := by
  induction events generalizing path? with
  | nil => exact .inr rfl
  | cons event events ih =>
    simp only [List.foldl_cons]
    rcases event.follow_none path? with same | none
    · exact .inl (by rw [same])
    · rw [none]
      exact ih _

end PunchEvent

/-- What is told of a peer leads a courier from one path to the next. -/
theorem PeerPhase.Step.follow {key : PeerKey} {input : PunchInput} {phase later : PeerPhase} {events : List PunchEvent}
    (step : PeerPhase.Step key input phase events later) : events.foldl (PunchEvent.follow key) phase.path? = later.path? := by
  cases step <;> simp [PunchEvent.follow, PeerPhase.path?]

namespace Puncher

/-- The path that a puncher has cached for a peer. -/
def path? (p : Puncher) (key : PeerKey) : Option Path := (p.paths.get? key).map (·.path)

variable {c : Surroundings} {input : PunchInput} {p : Puncher} {key : PeerKey}

theorem Apart.path?_phase (apart : p.Apart) (key : PeerKey) : (p.phase key).path? = p.path? key := by
  cases found : p.handshakes.get? key with
  | some hs =>
    rw [phase_of_handshake found, path?, apart key hs found]
    rfl
  | none =>
    cases known : p.paths.get? key with
    | some cached =>
      rw [phase_of_path found known, path?, known]
      rfl
    | none =>
      rw [phase_of_none found known, path?, known]
      rfl

/-- What is told of other peers says nothing of a path. -/
theorem foldl_reports (effects : List PunchEffect) (path? : Option Path) :
    (reports effects).foldl (PunchEvent.follow key) path? = (eventsOf key effects).foldl (PunchEvent.follow key) path? := by
  rw [eventsOf, List.foldl_filter]
  congr 1
  funext path? event
  split
  · rfl
  · rename_i other
    exact event.follow_of_other (by simpa using other) path?

/-- What a puncher tells leads a courier that knows its path to the path that it has now. -/
theorem react_follow (going : p.halted = false) (apart : p.Apart) (c : Surroundings) (input : PunchInput) (key : PeerKey) :
    (reports (p.react c input).2).foldl (PunchEvent.follow key) (p.path? key) = (p.react c input).1.path? key := by
  have after : (p.react c input).1.Apart := (react_moves input).apart apart
  rw [foldl_reports, ← apart.path?_phase, ← after.path?_phase]
  exact (react_step going apart c input key).follow

/-- A path that the courier has given up is gone. -/
theorem react_closePath (going : p.halted = false) (c : Surroundings) (key : PeerKey) :
    (p.react c (.command (.closePath key))).1.path? key = none := by
  simp only [react, handle, going, Bool.false_eq_true, if_false]
  rw [path?, p.paths_closePath key]
  rfl

end Puncher

namespace Courier

variable {accept : Message → Except LinkError Unit} {answer : Except Error Unit} {courier later : Courier} {dest : Contact}
  {effects : List CourierEffect} {key : PeerKey} {parcel : Parcel}

/-- A courier hears of a path as the event says. -/
theorem onPunch_paths (courier : Courier) (event : PunchEvent) (key : PeerKey) :
    (courier.onPunch event).1.paths.get? key = event.follow key (courier.paths.get? key) := by
  cases event with
  | verified own target path =>
    refine (Table.get?_insert ..).trans ?_
    simp only [PunchEvent.follow, eq_comm]
  | failed own target error =>
    refine (Table.get?_erase ..).trans ?_
    simp only [PunchEvent.follow, eq_comm]
  | pathClosed own path =>
    simp only [onPunch, PunchEvent.follow]
    by_cases held : courier.paths.get? own = some path
    · rw [if_pos held]
      refine (Table.get?_erase ..).trans ?_
      by_cases same : key = own
      · subst same
        simp [held]
      · simp [same, Ne.symm same]
    · rw [if_neg held]
      refine (if_neg ?_).symm
      rintro ⟨rfl, known⟩
      exact held known
  | _ => rfl

/-- A courier that gives up a path has the puncher give it up. -/
theorem Sending.paths (sending : courier.Sending accept dest parcel answer later effects) (key : PeerKey) :
    later.paths.get? key = courier.paths.get? key ∨ later.paths.get? key = none ∧ .closePath key ∈ effects := by
  cases sending with
  | breaks found lost =>
    by_cases same : key = dest.key
    · subst same
      exact .inr ⟨(Table.get?_erase ..).trans (if_pos rfl), by simp⟩
    · exact .inl ((Table.get?_erase ..).trans (if_neg same))
  | _ => exact .inl rfl

end Courier

namespace Tandem

/-- The path that the courier will have for a peer once it has heard all that is under way. -/
def foreseen (t : Tandem) (key : PeerKey) : Option Path := t.events.foldl (PunchEvent.follow key) (t.courier.paths.get? key)

/-- Whether the courier is to learn of the path that the puncher has for a peer, or has given it up and the puncher is to learn
of that. -/
def Follows (t : Tandem) (key : PeerKey) : Prop :=
  t.foreseen key = t.puncher.path? key ∨ t.foreseen key = none ∧ .command (.closePath key) ∈ t.mailbox

section

variable {c : Surroundings} {grant : Contact → Except LinkError (List UInt16)} {input : PunchInput} {key : PeerKey}
  {mailbox : List PunchInput} {step : CourierStep} {t : Tandem}

theorem Follows.more (follows : t.Follows key) (more : List PunchInput) : ({ t with mailbox := t.mailbox ++ more } : Tandem).Follows key :=
  follows.imp_right fun ⟨lost, closing⟩ => ⟨lost, List.mem_append_left more closing⟩

/-- A step of the courier that keeps its paths. -/
theorem Follows.carried (follows : t.Follows key) (same : step.1.paths.get? key = t.courier.paths.get? key) :
    (t.carried grant step).Follows key := by
  refine (follows.more (step.2.filterMap (·.letter? grant))).imp (fun same_path => ?_) fun ⟨lost, closing⟩ => ⟨?_, closing⟩
  · exact (congrArg (t.events.foldl _) same).trans same_path
  · exact (congrArg (t.events.foldl _) same).trans lost

theorem Follows.sends (follows : t.Follows key) (going : t.puncher.halted = false) (accept : Message → Except LinkError Unit)
    (dest : Contact) (parcel : Parcel) : (t.carried grant (t.sending accept dest parcel).2).Follows key := by
  rcases (sending_sending going accept dest parcel).paths key with same | ⟨gone, closing⟩
  · exact follows.carried same
  · -- The courier has just given up the path. What it has still to hear makes up for that or does not.
    have letter : .command (.closePath key) ∈ (t.carried grant (t.sending accept dest parcel).2).mailbox :=
      List.mem_append_right _ (List.mem_filterMap.mpr ⟨_, closing, rfl⟩)
    have ahead : (t.carried grant (t.sending accept dest parcel).2).foreseen key = t.events.foldl (PunchEvent.follow key) none :=
      congrArg (t.events.foldl _) gone
    rcases PunchEvent.foldl_follow_none key t.events (t.courier.paths.get? key) with same | lost
    · rcases follows with known | ⟨lost, _⟩
      · exact .inl ((ahead.trans same).trans known)
      · exact .inr ⟨(ahead.trans same).trans lost, letter⟩
    · exact .inr ⟨ahead.trans lost, letter⟩

theorem Follows.hears {event : PunchEvent} {later : List PunchEvent} (follows : t.Follows key) (next : t.events = event :: later) :
    (({ t with events := later }).carried grant (t.courier.onPunch event)).Follows key := by
  have same : (({ t with events := later }).carried grant (t.courier.onPunch event)).foreseen key = t.foreseen key := by
    rw [foreseen, foreseen, next, List.foldl_cons, ← t.courier.onPunch_paths]
    rfl
  refine (follows.more ((t.courier.onPunch event).2.filterMap (·.letter? grant))).imp ?_ ?_
  · exact same.trans
  · exact And.imp_left same.trans

theorem Follows.handles (follows : t.Follows key) (going : t.puncher.halted = false) (apart : t.puncher.Apart)
    (next : t.mailbox = input :: mailbox) (c : Surroundings) (alarms : Alarms PunchAlarm) :
    (({ t with mailbox }).punched (({ t.puncher with alarms }).react c input)).Follows key := by
  have led := Puncher.react_follow (p := { t.puncher with alarms }) going apart c input key
  have after : (({ t with mailbox }).punched (({ t.puncher with alarms }).react c input)).foreseen key =
      (Puncher.reports (({ t.puncher with alarms }).react c input).2).foldl (PunchEvent.follow key) (t.foreseen key) :=
    List.foldl_append ..
  rcases follows with known | ⟨lost, closing⟩
  · rw [known] at after
    exact .inl (after.trans led)
  · rw [lost] at after
    rcases PunchEvent.foldl_follow_none key (Puncher.reports (({ t.puncher with alarms }).react c input).2)
      (t.puncher.path? key) with same | still
    · exact .inl ((after.trans same).trans led)
    · rw [next] at closing
      rcases List.mem_cons.mp closing with rfl | waiting
      · -- The puncher has just learnt of it, and has no path left to miss.
        have gone := Puncher.react_closePath (p := { t.puncher with alarms }) going c key
        exact .inl ((after.trans still).trans gone.symm)
      · exact .inr ⟨after.trans still, waiting⟩

end

section

variable {config : Config} {key : PeerKey} {log : List CourierDeed} {me : Identity} {roster : Roster} {t : Tandem}

theorem Run.follows (run : Run (ofConfig config me roster) log t) (going : t.puncher.halted = false) (key : PeerKey) : t.Follows key := by
  induction run with
  | start => exact .inl rfl
  | sends before dest parcel verdicts grant ih => exact (ih going).sends going (verdicts 0) dest parcel
  | hears before next verdicts grant ih => exact (ih going).hears next
  | sorts before event grant ih => exact (ih going).carried rfl
  | classifies before nat grant ih => exact (ih going).carried rfl
  | told before input other ih => exact (ih going).more [input]
  | handles before next c alarms ih =>
    have earlier := going_of_handles going
    exact (ih earlier).handles earlier before.apart next c alarms

/-- As long as the puncher goes on: once no command of the courier and no event of the puncher is under way, both have the same
paths. -/
theorem Run.paths_agree (run : Run (ofConfig config me roster) log t) (going : t.puncher.halted = false)
    (idle : ∀ input ∈ t.mailbox, input.isFromCourier = false) (heard : t.events = []) (key : PeerKey) :
    t.courier.paths.get? key = (t.puncher.paths.get? key).map (·.path) := by
  have foreseen : t.foreseen key = t.courier.paths.get? key := by
    rw [Tandem.foreseen, heard]
    rfl
  rcases run.follows going key with known | ⟨_, closing⟩
  · rw [← foreseen]
    exact known
  · cases idle _ closing

/-- A parcel has waited for a path, and the courier has heard of the path. -/
theorem answered_paths_agree :
    let c : Surroundings := ⟨0, 0, (Roster.empty 3).enter 1 .unrestricted, .counting 0⟩
    let relay : Address := ⟨.ofOctets 10 0 0 9, 3478, 9⟩
    let me : Identity := ⟨⟨.ofOctets 10 0 0 1, 4000, 1⟩, 0, none⟩
    let target : Contact :=
      ⟨⟨.ofOctets 10 0 0 2, 4000, 2⟩, 0, .natted .endpointIndependent .portPreservation .endpointIndependent, [relay]⟩
    let pong : Message := ⟨target, me.address, c.chance.ticket 0, .udp, .punchPong⟩
    let call : PunchInput := .command (.connect target (.ok []))
    let answer : PunchInput := .command (.inbound pong target.address.socket me.address.socket)
    let path : Path := ⟨target.address.socket, 4000⟩
    let begun := ofConfig {} me c.roster
    let queued := begun.carried (fun _ => .ok []) (begun.sending (fun _ => .ok ()) target ⟨.connectionPing, .none⟩).2
    let called := ({ queued with mailbox := [] }).punched (queued.puncher.react c call)
    let answered := called.carried (fun _ => .ok [])
      (called.courier, called.courier.onEndpoint (.message pong target.address.socket me.address.socket))
    let verified := ({ answered with mailbox := [] }).punched (answered.puncher.react c answer)
    let heard := ({ verified with events := [] }).carried (fun _ => .ok []) (verified.courier.onPunch (.verified target.key target path))
    heard.puncher.halted = false ∧ (∀ input ∈ heard.mailbox, input.isFromCourier = false) ∧ heard.events = [] ∧
      heard.courier.paths.get? target.key = some path ∧
      heard.courier.paths.get? target.key = (heard.puncher.paths.get? target.key).map (·.path) := by
  intro c relay me target pong call answer path begun queued called answered verified heard
  have going : heard.puncher.halted = false := by decide +kernel
  have idle : ∀ input ∈ heard.mailbox, input.isFromCourier = false := by decide +kernel
  have run : Run begun _ heard :=
    .hears (.handles (.sorts (.handles (.sends .start target _ (fun _ _ => .ok ()) _) rfl c queued.puncher.alarms) _ _) rfl c answered.puncher.alarms)
      rfl (fun _ _ => .ok ()) _
  exact ⟨going, idle, rfl, by decide +kernel, run.paths_agree going idle rfl target.key⟩

end

end Tandem

end NatTraversal
