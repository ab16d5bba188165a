import NatTraversal.Proofs.Courier.Queues
import NatTraversal.Proofs.Logs

namespace NatTraversal

/-- Whether an event about a handshake names a target that the handshake was with. -/
def PunchEvent.Names : PunchEvent → Prop
  | .verified key target _ => target.key = key
  | .failed key target _ => target.key = key
  | _ => True

namespace Puncher

/-- Whether every handshake is kept for the peer that it is with. -/
def Keyed (p : Puncher) : Prop := ∀ key hs, p.handshakes.get? key = some hs → hs.target.key = key

section

variable {c : Surroundings} {input : PunchInput} {p q : Puncher} {effects : List PunchEffect} {event : PunchEvent}

theorem Move.names (move : Move c input p q effects) (keyed : p.Keyed) (told : event ∈ reports effects) : event.Names := by
  cases move.reporter (mem_reports.mp told) with
  | aside aside =>
    cases event with
    | verified key target path => exact aside.elim
    | failed key target error => exact aside.elim
    | _ => trivial
  | recalls given found => exact rfl
  | refuses given cause => exact rfl
  | fails found cause => exact keyed _ _ found
  | verifies given answer owned found next => exact keyed _ _ found
  | closes found => trivial

theorem Moves.names (moves : Moves c input p q effects) (keyed : p.Keyed) :
    q.Keyed ∧ ∀ event ∈ reports effects, event.Names := by
  induction moves with
  | refl => exact ⟨keyed, fun _ told => nomatch told⟩
  | step before move ih =>
    obtain ⟨still, names⟩ := ih
    refine ⟨fun key hs => move.keyed still, fun event told => ?_⟩
    rw [reports_append] at told
    rcases List.mem_append.mp told with earlier | now
    · exact names event earlier
    · exact move.names still now

end

end Puncher

def CourierEffect.unreachable? : CourierEffect → Option Address
  | .report (.unreachable dest _) => some dest
  | _ => none

namespace CourierDeed

/-- Whether a deed lets out or drops what waits for a peer. -/
def settles (key : PeerKey) : CourierDeed → Bool
  | .heard event _ _ => event.settled? = some key
  | .sent .. => false

/-- What waits for a peer after a deed. A parcel waits that has been taken with at most a path asked for. -/
def wait (key : PeerKey) (waiting : List Parcel) : CourierDeed → List Parcel
  | .sent dest parcel _ _ effects => if dest.key = key ∧ (effects = [] ∨ effects = [.connect dest]) then waiting ++ [parcel] else waiting
  | .heard event _ _ => if event.settled? = some key then [] else waiting

/-- The addresses that a deed tells the application are out of reach. -/
def unreached : CourierDeed → List Address
  | .sent _ _ _ _ effects => effects.filterMap (·.unreachable?)
  | .heard _ _ effects => effects.filterMap (·.unreachable?)

/-- What waits for a peer as a log has it. -/
def waiting (key : PeerKey) (log : List CourierDeed) : List Parcel := log.foldl (wait key) []

theorem foldl_wait {key : PeerKey} {log : List CourierDeed} (quiet : ∀ deed ∈ log, deed.settles key = false) (queue : List Parcel) :
    ∃ more, log.foldl (wait key) queue = queue ++ more := by
  induction log generalizing queue with
  | nil => exact ⟨[], (List.append_nil queue).symm⟩
  | cons deed log ih =>
    have own := quiet deed List.mem_cons_self
    have rest : ∀ deed ∈ log, deed.settles key = false := fun deed member => quiet deed (List.mem_cons_of_mem _ member)
    cases deed with
    | heard event verdicts effects =>
      obtain ⟨more, eq⟩ := ih rest queue
      refine ⟨more, ?_⟩
      rw [List.foldl_cons, wait, if_neg (of_decide_eq_false own), eq]
    | sent dest parcel verdicts answer effects =>
      rw [List.foldl_cons, wait]
      split
      · obtain ⟨more, eq⟩ := ih rest (queue ++ [parcel])
        exact ⟨parcel :: more, by rw [eq, List.append_assoc, List.singleton_append]⟩
      · exact ih rest queue

end CourierDeed

namespace Courier

/-- What a courier can do with a parcel: hand it to the endpoint, which takes it or not, refuse it, or let it wait. -/
inductive Takes (courier : Courier) (accept : Message → Except LinkError Unit) (dest : Contact) (parcel : Parcel) :
    Except Error Unit → Courier → List CourierEffect → Prop where
  | hands {message : Message} (own : message.parcel = parcel) (taken : accept message = .ok ()) :
    Takes courier accept dest parcel (.ok ()) courier [.send message]
  | loses {message : Message} {later : Courier} {error : LinkError} {rest : List CourierEffect} (own : message.parcel = parcel)
    (lost : accept message = .error error) (same : later.queued = courier.queued) :
    Takes courier accept dest parcel (.error (.link error)) later (.send message :: rest)
  | refuses (error : Error) : Takes courier accept dest parcel (.error error) courier [.report (.unreachable dest.address error)]
  | queues {answer : Except Error Unit} {effects : List CourierEffect} (quiet : effects = [] ∨ effects = [.connect dest]) :
    Takes courier accept dest parcel answer
      { courier with queued := courier.queued.insert dest.key (courier.parcels dest.key ++ [parcel]) } effects

section

variable {accept : Message → Except LinkError Unit} {answer : Except Error Unit} {courier later : Courier} {dest : Contact}
  {effects : List CourierEffect} {parcel : Parcel}

theorem send_takes (courier : Courier) (c : CourierContext) (dest : Contact) (parcel : Parcel) :
    let step := courier.send c dest parcel
    courier.Takes c.accept dest parcel step.1 step.2.1 step.2.2 := by
  unfold send
  dsimp only
  split
  · cases verdict : c.accept { Message.plain courier.contact dest.address parcel.body with ticket := parcel.ticket } with
    | ok taken => exact .hands rfl verdict
    | error error => exact .loses rfl verdict rfl
  · split
    · rename_i path found
      split
      · rename_i taken
        exact .hands rfl taken
      · rename_i error lost
        refine .loses rfl lost ?_
        simp only [closePath]
        split <;> rfl
    · split
      · exact .refuses _
      · split
        · exact .refuses _
        · unfold enqueue
          dsimp only
          split
          · exact .queues (.inl rfl)
          · split
            · exact .queues (.inr rfl)
            · exact .queues (.inl rfl)

theorem Takes.parcels (takes : courier.Takes accept dest parcel answer later effects) (verdicts : Nat → Message → Except LinkError Unit)
    (key : PeerKey) :
    later.parcels key = (CourierDeed.sent dest parcel verdicts answer effects).wait key (courier.parcels key) := by
  cases takes with
  | hands own taken => simp [CourierDeed.wait]
  | loses own lost same =>
    rw [Courier.parcels, same]
    simp [CourierDeed.wait, Courier.parcels]
  | refuses error => simp [CourierDeed.wait]
  | queues quiet =>
    rw [parcels_insert, CourierDeed.wait]
    by_cases own : dest.key = key
    · subst own
      rw [if_pos rfl, if_pos ⟨rfl, quiet⟩]
    · rw [if_neg (Ne.symm own), if_neg (fun both => own both.1)]

end

end Courier

namespace Tandem

section

variable {config : Config} {key : PeerKey} {log : List CourierDeed} {me : Identity} {roster : Roster} {start t : Tandem}

theorem Run.waiting (run : Run (ofConfig config me roster) log t) (key : PeerKey) :
    t.courier.parcels key = CourierDeed.waiting key log := by
  induction run with
  | start => rfl
  | @sends log t before dest parcel verdicts grant ih =>
    have takes := t.courier.send_takes ⟨verdicts 0, !t.puncher.halted⟩ dest parcel
    rw [CourierDeed.waiting, List.foldl_append, ← CourierDeed.waiting, ← ih]
    exact takes.parcels verdicts key
  | @hears log t event later before next verdicts grant ih =>
    rw [CourierDeed.waiting, List.foldl_append, ← CourierDeed.waiting, ← ih]
    exact t.courier.onPunch_parcels event key
  | _ => assumption

theorem Run.names (run : Run (ofConfig config me roster) log t) : t.puncher.Keyed ∧ ∀ event ∈ t.events, event.Names := by
  induction run with
  | start => exact ⟨fun _ _ found => (nomatch found), fun _ member => (nomatch member)⟩
  | hears before next verdicts grant ih =>
    refine ⟨ih.1, fun event later => ih.2 event ?_⟩
    rw [next]
    exact List.mem_cons_of_mem _ later
  | @handles log t input later before next c alarms ih =>
    obtain ⟨keyed, names⟩ := (Puncher.react_moves (c := c) (p := { t.puncher with alarms }) input).names ih.1
    refine ⟨keyed, fun event member => ?_⟩
    rcases List.mem_append.mp member with earlier | now
    · exact ih.2 event earlier
    · exact names event now
  | _ => assumption

/-- Whether a deed is what a courier and a puncher can do next. -/
def Does (t : Tandem) : CourierDeed → Prop
  | .sent dest parcel verdicts answer effects => ∃ later, t.courier.Takes (verdicts 0) dest parcel answer later effects
  | .heard event _ effects => event ∈ t.events ∧ effects = (t.courier.onPunch event).2

/-- What a run has done at some point was done by the courier that it had come to. -/
theorem Run.does {first later : List CourierDeed} {deed : CourierDeed} (run : Run start (first ++ deed :: later) t) :
    ∃ before, Run start first before ∧ before.Does deed := by
  generalize eq : first ++ deed :: later = log at run
  induction run generalizing later with
  | start => simp at eq
  | @sends log t before dest parcel verdicts grant ih =>
    rcases append_cons_eq_concat eq with ⟨_, rfl, rfl⟩ | ⟨others, _, earlier⟩
    · exact ⟨t, before, _, t.courier.send_takes ⟨verdicts 0, !t.puncher.halted⟩ dest parcel⟩
    · exact ih earlier
  | @hears log t event events before next verdicts grant ih =>
    rcases append_cons_eq_concat eq with ⟨_, rfl, rfl⟩ | ⟨others, _, earlier⟩
    · exact ⟨t, before, by rw [next]; exact List.mem_cons_self, rfl⟩
    · exact ih earlier
  | sorts before event grant ih => exact ih eq
  | classifies before nat grant ih => exact ih eq
  | told before input other ih => exact ih eq
  | handles before next c alarms ih => exact ih eq

/-- What a courier has taken for a peer it has handed to the endpoint, which took it, or it waits behind what waited before. When
the wait ends, all that waits is handed to the endpoint along a new path, in the same order, or the application is told that a
target is unreachable which goes by the name of this peer. -/
theorem Run.accepted_accounted_for {before after : List CourierDeed} {dest : Contact} {parcel : Parcel}
    {verdicts : Nat → Message → Except LinkError Unit} {effects : List CourierEffect}
    (run : Run (ofConfig config me roster) (before ++ .sent dest parcel verdicts (.ok ()) effects :: after) t) :
    (∃ message, effects = [.send message] ∧ message.parcel = parcel ∧ verdicts 0 message = .ok ()) ∨
      (∀ deed ∈ after, deed.settles dest.key = false) ∧
        (∃ more, t.courier.parcels dest.key = CourierDeed.waiting dest.key before ++ parcel :: more) ∨
      ∃ between event verdicts' effects' rest, after = between ++ .heard event verdicts' effects' :: rest ∧
        (∀ deed ∈ between, deed.settles dest.key = false) ∧
        ((∃ target path source more, event = .verified dest.key target path ∧
          effects' = .report (.verified target path) :: (CourierDeed.waiting dest.key before ++ parcel :: more).map fun parcel =>
            .send ⟨source, .ofSocket path.remote dest.key.node, parcel.ticket, .udp, parcel.body⟩) ∨
        ∃ target error, event = .failed dest.key target error ∧ target.key = dest.key ∧
          effects' = [.report (.unreachable target.address error)]) := by
  obtain ⟨_, _, _, takes⟩ := run.does
  cases takes with
  | hands own taken => exact .inl ⟨_, rfl, own, taken⟩
  | queues quiet =>
    -- What waits later follows from the log, as long as nothing in it ends the wait.
    have waits {between : List CourierDeed} (still : ∀ deed ∈ between, deed.settles dest.key = false) :
        ∃ more, CourierDeed.waiting dest.key (before ++ .sent dest parcel verdicts (.ok ()) effects :: between) =
          CourierDeed.waiting dest.key before ++ parcel :: more := by
      obtain ⟨more, joined⟩ := CourierDeed.foldl_wait still (CourierDeed.waiting dest.key before ++ [parcel])
      refine ⟨more, ?_⟩
      rw [List.append_assoc, List.singleton_append] at joined
      rw [CourierDeed.waiting, List.foldl_append, List.foldl_cons, CourierDeed.wait, if_pos ⟨rfl, quiet⟩]
      exact joined
    right
    cases first : after.find? (·.settles dest.key) with
    | none =>
      have still : ∀ deed ∈ after, deed.settles dest.key = false := fun deed member => by
        simpa using List.find?_eq_none.mp first deed member
      rw [run.waiting]
      exact .inl ⟨still, waits still⟩
    | some deed =>
      obtain ⟨ends, between, rest, rfl, still⟩ := List.find?_eq_some_iff_append.mp first
      replace still : ∀ deed ∈ between, deed.settles dest.key = false := fun deed member => by simpa using still deed member
      obtain ⟨more, waiting⟩ := waits still
      rw [← List.cons_append, ← List.append_assoc] at run
      obtain ⟨s, earlier, does⟩ := run.does
      rw [← earlier.waiting] at waiting
      right
      cases deed with
      | sent => cases ends
      | heard event verdicts' effects' =>
        obtain ⟨told, rfl⟩ := does
        refine ⟨between, event, verdicts', _, rest, rfl, still, ?_⟩
        have settled : event.settled? = some dest.key := of_decide_eq_true ends
        cases event with
        | verified key target path =>
          cases settled
          refine .inl ⟨target, path, (s.courier.directMessage dest.key path parcel).source, more, rfl, ?_⟩
          rw [← waiting]
          rfl
        | failed key target error =>
          cases settled
          exact .inr ⟨target, error, rfl, earlier.names.2 _ told, rfl⟩
        | _ => cases settled

/-- Two parcels have waited for a path, and are handed over along it in turn. -/
theorem waiting_parcels_handed :
    let c : Surroundings := ⟨0, 0, (Roster.empty 3).enter 1 .unrestricted, .counting 0⟩
    let relay : Address := ⟨.ofOctets 10 0 0 9, 3478, 9⟩
    let me : Identity := ⟨⟨.ofOctets 10 0 0 1, 4000, 1⟩, 0, none⟩
    let target : Contact :=
      ⟨⟨.ofOctets 10 0 0 2, 4000, 2⟩, 0, .natted .endpointIndependent .portPreservation .endpointIndependent, [relay]⟩
    let pong : Message := ⟨target, me.address, c.chance.ticket 0, .udp, .punchPong⟩
    let path : Path := ⟨target.address.socket, 4000⟩
    let parcel (number : UInt8) : Parcel := ⟨.data [number], .none⟩
    let takes (_ : Nat) (_ : Message) : Except LinkError Unit := .ok ()
    let begun := ofConfig {} me c.roster
    let queued := begun.carried (fun _ => .ok []) (begun.sending (takes 0) target (parcel 1)).2
    let behind := queued.carried (fun _ => .ok []) (queued.sending (takes 0) target (parcel 2)).2
    let called := ({ behind with mailbox := [] }).punched (behind.puncher.react c (.command (.connect target (.ok []))))
    let answered := called.carried (fun _ => .ok [])
      (called.courier, called.courier.onEndpoint (.message pong target.address.socket me.address.socket))
    let verified := ({ answered with mailbox := [] }).punched
      (answered.puncher.react c (.command (.inbound pong target.address.socket me.address.socket)))
    let step := verified.courier.onPunch (.verified target.key target path)
    Run begun ([.sent target (parcel 1) takes (.ok ()) [.connect target]] ++ .sent target (parcel 2) takes (.ok ()) [] ::
        [.heard (.verified target.key target path) takes step.2]) (({ verified with events := [] }).carried (fun _ => .ok []) step) ∧
      ∃ source more, step.2 = .report (.verified target path) :: ([parcel 1] ++ parcel 2 :: more).map fun parcel =>
        .send ⟨source, .ofSocket path.remote target.key.node, parcel.ticket, .udp, parcel.body⟩ := by
  intro c relay me target pong path parcel takes begun queued behind called answered verified step
  have run : Run begun ([.sent target (parcel 1) takes (.ok ()) [.connect target]] ++ .sent target (parcel 2) takes (.ok ()) [] ::
      [.heard (.verified target.key target path) takes step.2]) (({ verified with events := [] }).carried (fun _ => .ok []) step) :=
    .hears (.handles (.sorts (.handles (.sends (.sends .start target (parcel 1) takes _) target (parcel 2) takes _) rfl c
      behind.puncher.alarms) (.message pong target.address.socket me.address.socket) _) rfl c answered.puncher.alarms) rfl takes _
  refine ⟨run, ?_⟩
  rcases run.accepted_accounted_for with ⟨_, handed, _⟩ | ⟨still, _⟩ | ⟨between, event, _, effects, rest, split, _, ends⟩
  · cases handed
  · cases still _ List.mem_cons_self
  · cases between with
    | nil =>
      cases split
      rcases ends with ⟨_, _, source, more, same, sends⟩ | ⟨_, _, failed, _⟩
      · cases same
        exact ⟨source, more, sends⟩
      · cases failed
    | cons deed between => simp at split

/-- A parcel that was taken is dropped, as the endpoint finds it too long, and nobody is told; another one is dropped, as its
handshake fails, and the address that is told of is not the one that it was for. -/
theorem taken_parcel_dropped :
    let c : Surroundings := ⟨0, 0, (Roster.empty 3).enter 1 .unrestricted, .counting 0⟩
    let relay : Address := ⟨.ofOctets 10 0 0 9, 3478, 9⟩
    let me : Identity := ⟨⟨.ofOctets 10 0 0 1, 4000, 1⟩, 0, none⟩
    let peer (last : Nat) : Contact :=
      ⟨⟨.ofOctets 10 0 0 last, 4000, 2⟩, 0, .natted .endpointIndependent .portPreservation .endpointIndependent, [relay]⟩
    let target := peer 2
    let parcel (length : Nat) : Parcel := ⟨.data (List.replicate length 0), .none⟩
    let endpoint := (({ config := { maxFrame := 128 } } : Endpoint).bind ⟨.v4 me.address.ip, 4000⟩ .udp (.bound 4000)).2.2
    let verdicts (_ : Nat) := endpoint.accept ⟨fun _ _ => .inUse, fun _ _ => .ok (), fun _ => .taken⟩
    let path : Path := ⟨target.address.socket, 4000⟩
    let begun := ofConfig {} me c.roster
    let deeds (parcel : Parcel) (event : PunchEvent) (effects : List CourierEffect) : List CourierDeed :=
      [.sent target parcel verdicts (.ok ()) [.connect target], .heard event verdicts effects]
    (∃ t effects, let log := deeds (parcel 100) (.verified target.key target path) effects
      Run begun log t ∧ t.courier.parcels target.key = [] ∧ log.flatMap (·.handed (fun _ => true) target.key) = [parcel 100] ∧
        log.flatMap (·.handed Except.toBool target.key) = [] ∧ log.flatMap (·.unreached) = []) ∧
      ∃ t effects, let log := deeds (parcel 1) (.failed target.key (peer 3) (.handshakeTimeout target.key.node)) effects
        Run begun log t ∧ t.courier.parcels target.key = [] ∧ log.flatMap (·.handed (fun _ => true) target.key) = [] ∧
          log.flatMap (·.unreached) = [(peer 3).address] ∧ (peer 3).address ≠ target.address := by
  intro c relay me peer target parcel endpoint verdicts path begun deeds
  constructor
  · let pong : Message := ⟨target, me.address, c.chance.ticket 0, .udp, .punchPong⟩
    let queued := begun.carried (fun _ => .ok []) (begun.sending (verdicts 0) target (parcel 100)).2
    let called := ({ queued with mailbox := [] }).punched (queued.puncher.react c (.command (.connect target (.ok []))))
    let answered := called.carried (fun _ => .ok [])
      (called.courier, called.courier.onEndpoint (.message pong target.address.socket me.address.socket))
    let verified := ({ answered with mailbox := [] }).punched
      (answered.puncher.react c (.command (.inbound pong target.address.socket me.address.socket)))
    let heard := ({ verified with events := [] }).carried (fun _ => .ok []) (verified.courier.onPunch (.verified target.key target path))
    have run : Run begun (deeds (parcel 100) (.verified target.key target path) _) heard :=
      .hears (.handles (.sorts (.handles (.sends .start target (parcel 100) verdicts _) rfl c queued.puncher.alarms)
        (.message pong target.address.socket me.address.socket) _) rfl c answered.puncher.alarms) rfl verdicts _
    exact ⟨heard, _, run, by decide +kernel, by decide +kernel, by decide +kernel, by decide +kernel⟩
  · let request : Message := ⟨⟨relay, 0, .unrestricted, []⟩, me.address, .none, .udp, .connectRequest (peer 3) true⟩
    let asked := begun.carried (fun _ => .ok [])
      (begun.courier, begun.courier.onEndpoint (.message request relay.socket me.address.socket))
    let responding := ({ asked with mailbox := [] }).punched
      (asked.puncher.react c (.command (.inbound request relay.socket me.address.socket)))
    let queued := responding.carried (fun _ => .ok []) (responding.sending (verdicts 0) target (parcel 1)).2
    let called := ({ queued with mailbox := [] }).punched (queued.puncher.react c (.command (.connect target (.ok []))))
    let late : Tandem := { called with mailbox := called.mailbox ++ [.alarm (.deadline target.key (c.chance.ticket 2))] }
    let failed := ({ late with mailbox := [] }).punched (late.puncher.react c (.alarm (.deadline target.key (c.chance.ticket 2))))
    let heard := ({ failed with events := [] }).carried (fun _ => .ok [])
      (failed.courier.onPunch (.failed target.key (peer 3) (.handshakeTimeout target.key.node)))
    have begins : Run begun [] responding :=
      .handles (.sorts .start (.message request relay.socket me.address.socket) _) rfl c asked.puncher.alarms
    have waits : Run begun [.sent target (parcel 1) verdicts (.ok ()) [.connect target]] called :=
      .handles (.sends begins target (parcel 1) verdicts _) rfl c queued.puncher.alarms
    have fails : Run begun [.sent target (parcel 1) verdicts (.ok ()) [.connect target]] failed :=
      .handles (.told waits (.alarm (.deadline target.key (c.chance.ticket 2))) rfl) rfl c late.puncher.alarms
    have run : Run begun (deeds (parcel 1) (.failed target.key (peer 3) (.handshakeTimeout target.key.node)) _) heard :=
      .hears fails rfl verdicts _
    exact ⟨heard, _, run, by decide +kernel, by decide +kernel, by decide +kernel, by decide +kernel⟩

end

end Tandem

end NatTraversal
