import NatTraversal.Courier.Sorting
import NatTraversal.Proofs.Punch.Peers

namespace NatTraversal

/-- A courier and a puncher, and what is under way between them, the oldest first: the commands and alarms that the puncher
has still to handle, and the events that the courier has still to hear. -/
structure Tandem where
  courier : Courier
  puncher : Puncher
  mailbox : List PunchInput
  events : List PunchEvent

/-- What a courier has been asked to send or has heard from the puncher, and what it did. `verdicts` is what the endpoint made
of the messages that the courier then handed to it, by their number. -/
inductive CourierDeed where
  | sent (dest : Contact) (parcel : Parcel) (verdicts : Nat → Message → Except LinkError Unit) (answer : Except Error Unit)
    (effects : List CourierEffect)
  | heard (event : PunchEvent) (verdicts : Nat → Message → Except LinkError Unit) (effects : List CourierEffect)

/-- Whether an input is one that a courier gives. -/
def PunchInput.isFromCourier : PunchInput → Bool
  | .command (.connect ..) => true
  | .command (.inbound ..) => true
  | .command .startEnrollment => true
  | .command (.closePath _) => true
  | _ => false

/-- What an effect of a courier leaves for the puncher. The port for a handshake may be refused. -/
def CourierEffect.letter? (grant : Contact → Except LinkError (List UInt16)) : CourierEffect → Option PunchInput
  | .connect target => some (.command (.connect target (grant target)))
  | .closePath key => some (.command (.closePath key))
  | .startEnrollment => some (.command .startEnrollment)
  | .punch message remote here => some (.command (.inbound message remote here))
  | _ => none

namespace Courier

/-- A courier as it is built: without paths and with nothing queued. -/
def ofConfig (config : Config) (me : Identity) (roster : Roster) : Courier where
  me := me
  config := config.courier
  responder := config.responder
  roster := roster

/-- What a courier can do with a parcel while the puncher takes commands: the answer, what becomes of the courier, and the
effects. -/
inductive Sending (courier : Courier) (accept : Message → Except LinkError Unit) (dest : Contact) (parcel : Parcel) :
    Except Error Unit → Courier → List CourierEffect → Prop where
  | direct {message : Message} (is_open : dest.isOpen = true)
    (same : message = { Message.plain courier.contact dest.address parcel.body with ticket := parcel.ticket }) :
    Sending courier accept dest parcel ((accept message).mapError .link) courier [.send message]
  | along {path : Path} (found : courier.paths.get? dest.key = some path)
    (taken : accept (courier.directMessage dest.key path parcel) = .ok ()) :
    Sending courier accept dest parcel (.ok ()) courier [.send (courier.directMessage dest.key path parcel)]
  | breaks {path : Path} {error : LinkError} (found : courier.paths.get? dest.key = some path)
    (lost : accept (courier.directMessage dest.key path parcel) = .error error) :
    Sending courier accept dest parcel (.error (.link error)) { courier with paths := courier.paths.erase dest.key }
      [.send (courier.directMessage dest.key path parcel), .closePath dest.key]
  | refuses {error : Error} (gone : courier.paths.get? dest.key = none) :
    Sending courier accept dest parcel (.error error) courier [.report (.unreachable dest.address error)]
  | asks (gone : courier.paths.get? dest.key = none) (first : courier.parcels dest.key = []) :
    Sending courier accept dest parcel (.ok ()) { courier with queued := courier.queued.insert dest.key [parcel] } [.connect dest]
  | waits (gone : courier.paths.get? dest.key = none) (behind : courier.parcels dest.key ≠ []) :
    Sending courier accept dest parcel (.ok ())
      { courier with queued := courier.queued.insert dest.key (courier.parcels dest.key ++ [parcel]) } []

variable {accept : Message → Except LinkError Unit} {courier : Courier}

theorem enqueue_sending {dest : Contact} (gone : courier.paths.get? dest.key = none) (parcel : Parcel) :
    let step := courier.enqueue ⟨accept, true⟩ dest parcel
    courier.Sending accept dest parcel step.1 step.2.1 step.2.2 := by
  unfold enqueue
  dsimp only
  rw [if_pos rfl]
  by_cases first : courier.parcels dest.key = []
  · simp only [first, List.nil_append, List.length_singleton, ne_eq, not_true_eq_false, if_false]
    exact .asks gone first
  · have longer : (courier.parcels dest.key ++ [parcel]).length ≠ 1 := by
      rw [List.length_append, List.length_singleton]
      have := List.length_pos_iff.mpr first
      omega
    rw [if_pos longer]
    exact .waits gone first

/-- What becomes of a parcel while the puncher takes commands. -/
theorem send_sending (courier : Courier) (accept : Message → Except LinkError Unit) (dest : Contact) (parcel : Parcel) :
    let step := courier.send ⟨accept, true⟩ dest parcel
    courier.Sending accept dest parcel step.1 step.2.1 step.2.2 := by
  unfold send
  dsimp only
  split
  · rename_i is_open
    exact .direct is_open rfl
  · split
    · rename_i path found
      split
      · rename_i taken
        exact .along found taken
      · rename_i error lost
        have held : courier.paths.contains dest.key = true := by
          rw [Table.contains_eq_isSome, found, Option.isSome_some]
        simp only [closePath, held, if_true]
        exact .breaks found lost
    · rename_i gone
      split
      · exact .refuses gone
      · split
        · exact .refuses gone
        · exact enqueue_sending gone parcel

end Courier

namespace Tandem

def ofConfig (config : Config) (me : Identity) (roster : Roster) : Tandem :=
  ⟨.ofConfig config me roster, .ofConfig config me, [], []⟩

/-- The courier has taken a step. What it leaves for the puncher is under way. -/
def carried (t : Tandem) (grant : Contact → Except LinkError (List UInt16)) (step : CourierStep) : Tandem :=
  { t with courier := step.1, mailbox := t.mailbox ++ step.2.filterMap (·.letter? grant) }

/-- The puncher has taken a step. What it tells is under way. -/
def punched (t : Tandem) (step : PunchStep) : Tandem :=
  { t with puncher := step.1, events := t.events ++ Puncher.reports step.2 }

/-- The courier answers a request to send. -/
def sending (t : Tandem) (accept : Message → Except LinkError Unit) (dest : Contact) (parcel : Parcel) :
    Except Error Unit × CourierStep :=
  t.courier.send ⟨accept, !t.puncher.halted⟩ dest parcel

/-- Whatever may happen between a courier and a puncher that keep what they are told in order. The application sends, the
endpoint takes messages or not and brings others, the surroundings of the puncher change, and alarms ring at any time. -/
inductive Run (start : Tandem) : List CourierDeed → Tandem → Prop where
  | start : Run start [] start
  | sends {log : List CourierDeed} {t : Tandem} (before : Run start log t) (dest : Contact) (parcel : Parcel)
    (verdicts : Nat → Message → Except LinkError Unit) (grant : Contact → Except LinkError (List UInt16)) :
    Run start
      (log ++ [.sent dest parcel verdicts (t.sending (verdicts 0) dest parcel).1 (t.sending (verdicts 0) dest parcel).2.2])
      (t.carried grant (t.sending (verdicts 0) dest parcel).2)
  | hears {log : List CourierDeed} {t : Tandem} {event : PunchEvent} {later : List PunchEvent} (before : Run start log t)
    (next : t.events = event :: later) (verdicts : Nat → Message → Except LinkError Unit)
    (grant : Contact → Except LinkError (List UInt16)) :
    Run start (log ++ [.heard event verdicts (t.courier.onPunch event).2])
      (({ t with events := later }).carried grant (t.courier.onPunch event))
  | sorts {log : List CourierDeed} {t : Tandem} (before : Run start log t) (event : EndpointEvent)
    (grant : Contact → Except LinkError (List UInt16)) : Run start log (t.carried grant (t.courier, t.courier.onEndpoint event))
  | classifies {log : List CourierDeed} {t : Tandem} (before : Run start log t) (nat : NatType)
    (grant : Contact → Except LinkError (List UInt16)) : Run start log (t.carried grant (t.courier.onClassified nat))
  | told {log : List CourierDeed} {t : Tandem} (before : Run start log t) (input : PunchInput) (other : input.isFromCourier = false) :
    Run start log { t with mailbox := t.mailbox ++ [input] }
  | handles {log : List CourierDeed} {t : Tandem} {input : PunchInput} {later : List PunchInput} (before : Run start log t)
    (next : t.mailbox = input :: later) (c : Surroundings) (alarms : Alarms PunchAlarm) :
    Run start log (({ t with mailbox := later }).punched (({ t.puncher with alarms }).react c input))

section

variable {log : List CourierDeed} {start t : Tandem}

/-- What becomes of a parcel while the puncher lives. -/
theorem sending_sending (going : t.puncher.halted = false) (accept : Message → Except LinkError Unit) (dest : Contact) (parcel : Parcel) :
    let step := t.sending accept dest parcel
    t.courier.Sending accept dest parcel step.1 step.2.1 step.2.2 := by
  unfold sending
  rw [going]
  exact t.courier.send_sending accept dest parcel

theorem going_of_handles {c : Surroundings} {alarms : Alarms PunchAlarm} {input : PunchInput} {later : List PunchInput}
    (going : (({ t with mailbox := later }).punched (({ t.puncher with alarms }).react c input)).puncher.halted = false) :
    t.puncher.halted = false :=
  Puncher.going_of_react (p := { t.puncher with alarms }) going

theorem Run.apart {config : Config} {me : Identity} {roster : Roster} (run : Run (ofConfig config me roster) log t) : t.puncher.Apart := by
  induction run with
  | start =>
    intro key hs known
    cases known
  | @handles log t input later before next c alarms ih =>
    exact (Puncher.react_moves (p := { t.puncher with alarms }) input).apart ih
  | _ => assumption

end

end Tandem

end NatTraversal
