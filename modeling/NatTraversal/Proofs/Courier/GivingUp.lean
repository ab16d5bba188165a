import NatTraversal.Proofs.Courier.Liaison

namespace NatTraversal

namespace PunchEvent

/-- Whether a peer is told to have failed. -/
def fails (key : PeerKey) : PunchEvent → Bool
  | .failed own _ _ => own = key
  | _ => false

def verifies (key : PeerKey) : PunchEvent → Bool
  | .verified own _ _ => own = key
  | _ => false

/-- How many failures of a peer have been told since it was last verified. -/
def failuresSince (key : PeerKey) (events : List PunchEvent) : Nat :=
  (events.reverse.takeWhile fun event => !event.verifies key).countP (·.fails key)

theorem failuresSince_concat (key : PeerKey) (events : List PunchEvent) (last : PunchEvent) :
    failuresSince key (events ++ [last]) =
      if last.verifies key then 0 else failuresSince key events + if last.fails key then 1 else 0 := by
  rw [failuresSince, List.reverse_append, List.reverse_singleton, List.singleton_append, List.takeWhile_cons]
  cases last.verifies key with
  | true => rfl
  | false => rw [Bool.not_false, if_pos rfl, List.countP_cons]; rfl

theorem key?_of_fails {event : PunchEvent} {key : PeerKey} (fails : event.fails key = true) : event.key? = some key := by
  cases event with
  | failed own target error => exact congrArg some (of_decide_eq_true fails)
  | _ => cases fails

end PunchEvent

/-- Whether a puncher is told to connect to a peer. -/
def PunchInput.calls (key : PeerKey) : PunchInput → Bool
  | .command (.connect target _) => target.key = key
  | _ => false

theorem PunchInput.Calls.calls {input : PunchInput} {key : PeerKey} (called : input.Calls key) : input.calls key = true := by
  obtain ⟨target, grant, rfl, same⟩ := called
  exact decide_eq_true same

/-- A peer fails when its handshake does, or when none is begun. -/
theorem PeerPhase.Step.cause_of_fails {key : PeerKey} {input : PunchInput} {phase later : PeerPhase} {events : List PunchEvent}
    {event : PunchEvent} (step : PeerPhase.Step key input phase events later) (told : event ∈ events)
    (fails : event.fails key = true) :
    later = .idle ∧ (phase = .running ∨ phase = .idle ∧ input.Calls key) := by
  cases step with
  | refuses called => exact ⟨rfl, .inr ⟨rfl, called⟩⟩
  | fails ended => exact ⟨rfl, .inl rfl⟩
  | begins asked => cases told
  | stays => cases told
  | rests uncalled unasked => cases told
  | _ =>
    rw [List.mem_singleton.mp told] at fails
    cases fails

namespace Puncher

variable {c : Surroundings} {event : PunchEvent} {input : PunchInput} {key : PeerKey} {p : Puncher}

theorem contains_handshakes (p : Puncher) (key : PeerKey) : p.handshakes.contains key = decide (p.phase key = .running) := by
  cases found : p.handshakes.get? key with
  | some hs => rw [Table.contains_of_get? found, phase_of_handshake found, decide_eq_true rfl]
  | none =>
    rw [Table.not_contains_of_get?_eq_none found]
    refine (decide_eq_false fun running => ?_).symm
    have known := isSome_of_running running
    rw [found] at known
    cases known

/-- What fails for a peer is its handshake, or the attempt to begin one. -/
theorem fails_of_react (apart : p.Apart) (told : event ∈ reports (p.react c input).2) (fails : event.fails key = true) :
    (p.react c input).1.handshakes.contains key = false ∧ (p.handshakes.contains key = true ∨ input.calls key = true) := by
  cases going : p.halted with
  | true =>
    rw [react_halted going] at told
    cases told
  | false =>
    have own : event ∈ eventsOf key (p.react c input).2 :=
      List.mem_filter.mpr ⟨told, decide_eq_true (PunchEvent.key?_of_fails fails)⟩
    obtain ⟨later, cause⟩ := (react_step going apart c input key).cause_of_fails own fails
    refine ⟨?_, cause.imp (fun running => ?_) fun ⟨_, called⟩ => called.calls⟩
    · rw [contains_handshakes, later]
      rfl
    · rw [contains_handshakes, running, decide_eq_true rfl]

end Puncher

namespace Tiding

/-- Whether a handshake with a peer was pending, and has failed. -/
def failsHandshake (key : PeerKey) (tiding : Tiding) : Bool :=
  tiding.event.fails key && (tiding.before.handshakes.contains key && !tiding.after.handshakes.contains key)

/-- Whether a puncher was told to connect to a peer, and no handshake has been begun. -/
def refuses (key : PeerKey) (tiding : Tiding) : Bool :=
  tiding.event.fails key &&
    (!tiding.before.handshakes.contains key && tiding.input.calls key && !tiding.after.handshakes.contains key)

/-- What has been told since a peer was last verified. -/
def sinceVerified (key : PeerKey) (news : List Tiding) : List Tiding :=
  (news.reverse.takeWhile fun tiding => !tiding.event.verifies key).reverse

variable {key : PeerKey} {news : List Tiding} {tiding : Tiding}

theorem countP_sinceVerified (key : PeerKey) (news : List Tiding) :
    (sinceVerified key news).countP (·.event.fails key) = PunchEvent.failuresSince key (news.map (·.event)) := by
  rw [sinceVerified, PunchEvent.failuresSince, List.countP_reverse, ← List.map_reverse, List.takeWhile_map, List.countP_map]
  rfl

theorem mem_of_mem_sinceVerified (member : tiding ∈ sinceVerified key news) : tiding ∈ news :=
  List.mem_reverse.mp (List.takeWhile_subset _ (List.mem_reverse.mp member))

/-- Whether a tiding that a peer has failed has one of the two causes that there are. -/
def Caused (key : PeerKey) (tiding : Tiding) : Prop :=
  tiding.event.fails key = true →
    tiding.after.handshakes.contains key = false ∧ (tiding.before.handshakes.contains key = true ∨ tiding.input.calls key = true)

/-- Every failure is that of a handshake or a refusal to begin one, and only one of the two. -/
theorem countP_fails (caused : ∀ tiding ∈ news, tiding.Caused key) :
    news.countP (·.event.fails key) = news.countP (·.failsHandshake key) + news.countP (·.refuses key) := by
  induction news with
  | nil => rfl
  | cons tiding news ih =>
    rw [List.countP_cons, List.countP_cons, List.countP_cons, ih fun later member => caused later (List.mem_cons_of_mem _ member)]
    have cause := caused tiding (List.mem_cons_self ..)
    unfold failsHandshake refuses
    cases fails : tiding.event.fails key with
    | false => simp
    | true =>
      obtain ⟨gone, cause⟩ := cause fails
      -- Which of the two it is depends on whether a handshake was pending.
      cases pending : tiding.before.handshakes.contains key with
      | true =>
        simp [gone]
        omega
      | false =>
        have called := cause.resolve_left (by simp [pending])
        simp [gone, called]
        omega

end Tiding

namespace Courier

variable {c : CourierContext} {courier : Courier} {dest : Contact} {key : PeerKey} {node : UInt32} {parcel : Parcel} {reason : String}

/-- A courier counts the failures of a peer, and begins anew when it is verified. -/
theorem failureCount_onPunch (courier : Courier) (event : PunchEvent) (key : PeerKey) :
    (courier.onPunch event).1.failureCount key =
      if event.verifies key then 0 else courier.failureCount key + if event.fails key then 1 else 0 := by
  cases event with
  | verified own target path =>
    simp only [onPunch, failureCount, PunchEvent.verifies, PunchEvent.fails, Table.get?_erase, decide_eq_true_eq, eq_comm (a := key)]
    split <;> rfl
  | failed own target error =>
    simp only [onPunch, failureCount, PunchEvent.verifies, PunchEvent.fails, Table.get?_insert, decide_eq_true_eq, eq_comm (a := key)]
    by_cases same : own = key
    · subst same
      simp
    · simp [same]
  | pathClosed own path =>
    simp only [onPunch, PunchEvent.verifies, PunchEvent.fails]
    split <;> rfl
  | _ => rfl

theorem config_onPunch (courier : Courier) (event : PunchEvent) : (courier.onPunch event).1.config = courier.config := by
  cases event with
  | pathClosed own path =>
    simp only [onPunch]
    split <;> rfl
  | _ => rfl

/-- A destination is taken to be out of reach only for too many failures. -/
theorem failures_of_unreachable (refused : (courier.send c dest parcel).1 = .error (.unreachable node reason)) :
    courier.config.failureLimit.toNat ≤ courier.failureCount dest.key ∧ node = dest.node ∧
      reason = s!"{courier.failureCount dest.key} failed handshakes" := by
  unfold send at refused
  dsimp only at refused
  split at refused
  · cases taken : c.accept { Message.plain courier.contact dest.address parcel.body with ticket := parcel.ticket } <;>
      rw [taken] at refused <;> cases refused
  · split at refused
    · split at refused <;> cases refused
    · split at refused
      · cases refused
      · split at refused
        · rename_i many
          cases refused
          exact ⟨many, rfl, rfl⟩
        · unfold enqueue at refused
          dsimp only at refused
          split at refused
          · cases refused
          · split at refused <;> cases refused

theorem send_of_failures (natted : dest.isOpen = false) (gone : courier.paths.get? dest.key = none)
    (helped : dest.parents.isEmpty = false) (many : courier.config.failureLimit.toNat ≤ courier.failureCount dest.key) :
    (courier.send c dest parcel).1 = .error (.unreachable dest.node s!"{courier.failureCount dest.key} failed handshakes") := by
  unfold send
  simp only [natted, gone, helped, ge_iff_le, many, Bool.false_eq_true, if_false, if_true]
  rfl

end Courier

namespace Liaison

variable {c : CourierContext} {config : Config} {dest : Contact} {key : PeerKey} {l : Liaison} {log : List Happening} {me : Identity}
  {node : UInt32} {parcel : Parcel} {reason : String} {roster : Roster}

/-- A courier counts what it has heard, by its own settings. -/
theorem Run.failureCount (run : Run (ofConfig config me roster) log l) (key : PeerKey) :
    l.courier.config = config.courier ∧ l.courier.failureCount key = PunchEvent.failuresSince key (heard log) := by
  induction run with
  | start => exact ⟨rfl, rfl⟩
  | reacts before c alarms input ih =>
    rw [heard_silent _ rfl]
    exact ih
  | @hears log l event later before next ih =>
    rw [heard_concat, Happening.event?, Option.toList_some, PunchEvent.failuresSince_concat, ← ih.2]
    exact ⟨(l.courier.config_onPunch event).trans ih.1, l.courier.failureCount_onPunch event key⟩
  | @sends log l before c dest parcel ih =>
    obtain ⟨queued, paths, kept⟩ := l.courier.send_keeps c dest parcel
    rw [heard_silent _ rfl, carried, kept]
    exact ih
  | classifies before nat ih =>
    rw [heard_silent _ rfl]
    exact ih

theorem Run.caused (run : Run (ofConfig config me roster) log l) (key : PeerKey) : ∀ tiding ∈ told log, tiding.Caused key := by
  induction run with
  | start =>
    intro tiding member
    cases member
  | @reacts log l before c alarms input ih =>
    intro tiding member
    rw [told_concat, List.mem_append] at member
    rcases member with earlier | last
    · exact ih tiding earlier
    · obtain ⟨event, told, rfl⟩ := List.mem_map.mp last
      exact Puncher.fails_of_react (p := { l.puncher with alarms }) before.apart told
  | _ =>
    rw [told_silent _ rfl]
    assumption

/-- A node that gives a destination up names how often it has failed since it was last verified, and that is as often as it may
at least. It counts the handshakes that have failed together with those that could not be begun. -/
theorem Run.gives_up (run : Run (ofConfig config me roster) log l)
    (refused : (l.courier.send c dest parcel).1 = .error (.unreachable node reason)) :
    let since := Tiding.sinceVerified dest.key (news log)
    let failed := since.countP (·.failsHandshake dest.key)
    let unbegun := since.countP (·.refuses dest.key)
    config.courier.failureLimit.toNat ≤ failed + unbegun ∧ node = dest.node ∧ reason = s!"{failed + unbegun} failed handshakes" := by
  intro since failed unbegun
  obtain ⟨settings, counted⟩ := run.failureCount dest.key
  have total : l.courier.failureCount dest.key = failed + unbegun := by
    rw [counted, ← run.event_news rfl, ← Tiding.countP_sinceVerified]
    refine Tiding.countP_fails fun tiding member => run.caused dest.key tiding ?_
    exact List.mem_of_mem_take (Tiding.mem_of_mem_sinceVerified member)
  rw [← settings, ← total]
  exact Courier.failures_of_unreachable refused

/-- A handshake has timed out, and the courier has heard of it. -/
theorem timed_out_gives_up :
    let c : Surroundings := ⟨0, 0, (Roster.empty 3).enter 1 .unrestricted, .counting 0⟩
    let config : Config := { courier := { failureLimit := 1 } }
    let me : Identity := ⟨⟨.ofOctets 10 0 0 1, 4000, 1⟩, 0, none⟩
    let start := ofConfig config me c.roster
    let relay : Address := ⟨.ofOctets 10 0 0 9, 3478, 9⟩
    let target : Contact :=
      ⟨⟨.ofOctets 10 0 0 2, 4000, 2⟩, 0, .natted .endpointIndependent .portPreservation .endpointIndependent, [relay]⟩
    let willing : CourierContext := ⟨fun _ => .ok (), true⟩
    let parcel : Parcel := ⟨.connectionPing, .none⟩
    let call : PunchInput := .command (.connect target (.ok []))
    let expiry : PunchInput := .alarm (.deadline target.key (c.chance.ticket 2))
    let failure : PunchEvent := .failed target.key target (.handshakeTimeout 2)
    let asked := start.carried (start.courier.send willing target parcel).2
    let called := asked.punched (asked.puncher.react c call)
    let expired := called.punched (called.puncher.react c expiry)
    let failed := ({ expired with unheard := [] }).carried (expired.courier.onPunch failure)
    let log : List Happening := [.sent target parcel (start.courier.send willing target parcel).1,
      .reacted asked.puncher call (asked.puncher.react c call), .reacted called.puncher expiry (called.puncher.react c expiry),
      .heard failure]
    let since := Tiding.sinceVerified target.key (news log)
    Run start log failed ∧ (failed.courier.send willing target parcel).1 = .error (.unreachable 2 "1 failed handshakes") ∧
      since.countP (·.failsHandshake target.key) = 1 ∧
      1 ≤ since.countP (·.failsHandshake target.key) + since.countP (·.refuses target.key) := by
  intro c config me start relay target willing parcel call expiry failure asked called expired failed log since
  have run : Run start log failed :=
    .hears (.reacts (.reacts (.sends .start willing target parcel) c asked.puncher.alarms call) c called.puncher.alarms expiry)
      (by decide +kernel)
  have refused : (failed.courier.send willing target parcel).1 = .error (.unreachable 2 "1 failed handshakes") := by
    have counted : failed.courier.failureCount target.key = 1 := by decide +kernel
    refine (Courier.send_of_failures rfl (by decide +kernel) rfl (by decide +kernel)).trans ?_
    rw [counted]
    rfl
  exact ⟨run, refused, by decide +kernel, (run.gives_up refused).1⟩

/-- A node that has no parent yet sends to another, and then sends again. No handshake has ever been begun, but the other is given
up, and still is when the node has a parent. -/
theorem gives_up_without_handshakes :
    let c : Surroundings := ⟨0, 0, (Roster.empty 3).enter 1 (.natted .endpointIndependent .portPreservation .endpointIndependent), .counting 0⟩
    let server : Contact := ⟨⟨.ofOctets 10 0 0 9, 3478, 9⟩, 0, .unrestricted, []⟩
    let config : Config := { courier := { failureLimit := 1 }, enrollment := { servers := [server.address] } }
    let me : Identity := ⟨⟨.ofOctets 10 0 0 1, 4000, 1⟩, 0, none⟩
    let start := ofConfig config me c.roster
    let target : Contact :=
      ⟨⟨.ofOctets 10 0 0 2, 4000, 2⟩, 0, .natted .endpointIndependent .portPreservation .endpointIndependent, [server.address]⟩
    let willing : CourierContext := ⟨fun _ => .ok (), true⟩
    let parcel : Parcel := ⟨.connectionPing, .none⟩
    let call : PunchInput := .command (.connect target (.ok []))
    let failure : PunchEvent := .failed target.key target (.noParents 1)
    let accepts : PunchInput := .command (.inbound ⟨server, me.address, c.chance.ticket 2, .udp, .registerResponse .accepted⟩
      server.address.socket me.address.socket)
    let asked := start.carried (start.courier.send willing target parcel).2
    let called := asked.punched (asked.puncher.react c call)
    let failed := ({ called with unheard := [] }).carried (called.courier.onPunch failure)
    let enrolling := failed.punched (failed.puncher.react c (.command .startEnrollment))
    let enrolled := enrolling.punched (enrolling.puncher.react c accepts)
    let joined := ({ enrolled with unheard := [] }).carried (enrolled.courier.onPunch (.parentRegistered server.address))
    let early : List Happening := [.sent target parcel (start.courier.send willing target parcel).1,
      .reacted asked.puncher call (asked.puncher.react c call), .heard failure]
    let log := early ++ [.reacted failed.puncher (.command .startEnrollment) (failed.puncher.react c (.command .startEnrollment)),
      .reacted enrolling.puncher accepts (enrolling.puncher.react c accepts), .heard (.parentRegistered server.address)]
    Run start early failed ∧ (failed.courier.send willing target parcel).1 = .error (.unreachable 2 "1 failed handshakes") ∧
      Run start log joined ∧ me.parents joined.courier.roster = [server.address] ∧
      (joined.courier.send willing target parcel).1 = .error (.unreachable 2 "1 failed handshakes") ∧
      config.courier.failureLimit.toNat = 1 ∧
      (Tiding.sinceVerified target.key (news log)).countP (·.failsHandshake target.key) = 0 := by
  intro c server config me start target willing parcel call failure accepts asked called failed enrolling enrolled joined early log
  have run : Run start early failed :=
    .hears (.reacts (.sends .start willing target parcel) c asked.puncher.alarms call) (by decide +kernel)
  have longer : Run start log joined :=
    .hears (.reacts (.reacts run c failed.puncher.alarms (.command .startEnrollment)) c enrolling.puncher.alarms accepts)
      (by decide +kernel)
  have refuses : ∀ courier : Courier, courier.config = config.courier → courier.paths.get? target.key = none →
      courier.failureCount target.key = 1 →
      (courier.send willing target parcel).1 = .error (.unreachable 2 "1 failed handshakes") := by
    intro courier settings gone counted
    refine (Courier.send_of_failures rfl gone rfl ?_).trans ?_
    · rw [settings, counted]
      decide
    · rw [counted]
      rfl
  exact ⟨run, refuses failed.courier rfl (by decide +kernel) (by decide +kernel), longer, by decide +kernel,
    refuses joined.courier rfl (by decide +kernel) (by decide +kernel), rfl, by decide +kernel⟩

end Liaison

end NatTraversal
