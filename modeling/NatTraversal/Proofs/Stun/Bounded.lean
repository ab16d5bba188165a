import NatTraversal.Proofs.Stun.Exchanges
import NatTraversal.Simulation.Machine

namespace NatTraversal

namespace SurveyMoment

/-- A moment after something has been sent. -/
def sending (m : SurveyMoment) (effects : List EndpointEffect) : SurveyMoment := { m with sent := m.sent ++ effects }

theorem sending_after (m : SurveyMoment) (effects : List EndpointEffect) (now : Nat) (outcome : Surveyor.Outcome) :
    (m.sending effects).after now outcome = m.after now (outcome.1, effects ++ outcome.2.1, outcome.2.2) := by
  simp only [sending, after, List.append_assoc]

end SurveyMoment

namespace SurveyRun

section

variable {run : SurveyRun} {heard : List Message} {sent : List EndpointEffect} {exchanges : List Exchange}
  {request : Message} {transmissions : List (List EndpointEffect)} {effects : List EndpointEffect} {answer : Option Message}

theorem Sound.hears {x : Exchange} (sound : run.Sound heard x) (reply : Message) : run.Sound (heard ++ [reply]) x :=
  { sound with own := fun reply brought => (sound.own reply brought).imp_left (List.mem_append_left _) }

theorem allowance_append (run : SurveyRun) (exchanges : List Exchange) (x : Exchange) : run.allowance (exchanges ++ [x]) =
    run.allowance exchanges + run.config.backoff.span run.lag x.transmissions.length := by
  induction exchanges with
  | nil => exact Nat.add_comm ..
  | cons first rest ih => rw [List.cons_append, allowance, allowance, ih, Nat.add_assoc]

/-- What an account says of its exchanges alone. -/
structure Books (run : SurveyRun) (heard : List Message) (sent : List EndpointEffect) (exchanges : List Exchange) : Prop where
  sound : ∀ x ∈ exchanges, run.Sound heard x
  tickets : exchanges.map (·.request.ticket) = (List.range exchanges.length).map run.chance.ticket
  sent : sent = exchanges.flatMap fun x => x.transmissions.flatten

theorem books_append {x : Exchange} : run.Books heard sent (exchanges ++ [x]) ↔
    (∃ before, run.Books heard before exchanges ∧ sent = before ++ x.transmissions.flatten) ∧ run.Sound heard x ∧
      x.request.ticket = run.chance.ticket exchanges.length := by
  constructor
  · rintro ⟨sound, tickets, sent⟩
    simp only [List.map_append, List.map_cons, List.map_nil, List.length_append, List.length_singleton, List.range_succ] at tickets
    obtain ⟨old, new⟩ := List.append_inj' tickets rfl
    rw [List.forall_mem_append] at sound
    refine ⟨⟨_, ⟨sound.1, old, rfl⟩, ?_⟩, sound.2 x (List.mem_singleton_self x), List.singleton_inj.mp new⟩
    rw [sent, List.flatMap_append, List.flatMap_singleton]
  · rintro ⟨⟨before, books, rfl⟩, sound, ticket⟩
    refine ⟨?_, ?_, ?_⟩
    · rw [List.forall_mem_append]
      exact ⟨books.sound, List.forall_mem_singleton.mpr sound⟩
    · simp only [List.map_append, List.map_cons, List.map_nil, List.length_append, List.length_singleton, List.range_succ,
        books.tickets, ticket]
    · rw [List.flatMap_append, List.flatMap_singleton, books.sent]

namespace Books

theorem hears (books : run.Books heard sent exchanges) (reply : Message) : run.Books (heard ++ [reply]) sent exchanges :=
  { books with sound := fun x member => (books.sound x member).hears reply }

/-- A request is sent for the first time. -/
theorem begins (books : run.Books heard sent exchanges) (some_attempt : 1 ≤ run.config.backoff.attempts.toNat)
    (ticket : request.ticket = run.chance.ticket exchanges.length)
    (sends : ∃ e outside, effects = (Endpoint.send e outside request).1) :
    run.Books heard (sent ++ effects) (exchanges ++ [⟨request, [effects], none⟩]) := by
  refine books_append.mpr ⟨⟨sent, books, ?_⟩, ⟨List.cons_ne_nil _ _, some_attempt, ?_, ?_⟩, ticket⟩
  · rw [List.flatten_singleton]
  · exact List.forall_mem_singleton.mpr sends
  · rintro _ ⟨⟩

/-- A request is sent again. -/
theorem repeats (books : run.Books heard sent (exchanges ++ [⟨request, transmissions, none⟩]))
    (few : transmissions.length < run.config.backoff.attempts.toNat)
    (sends : ∃ e outside, effects = (Endpoint.send e outside request).1) :
    run.Books heard (sent ++ effects) (exchanges ++ [⟨request, transmissions ++ [effects], none⟩]) := by
  obtain ⟨⟨before, older, rfl⟩, sound, ticket⟩ := books_append.mp books
  refine books_append.mpr ⟨⟨before, older, ?_⟩, ⟨?_, ?_, ?_, ?_⟩, ticket⟩
  · rw [List.flatten_append, List.flatten_singleton, List.append_assoc]
  · exact List.append_ne_nil_of_right_ne_nil _ (List.cons_ne_nil _ _)
  · rw [List.length_append, List.length_singleton]
    exact few
  · rw [List.forall_mem_append]
    exact ⟨sound.sends, List.forall_mem_singleton.mpr sends⟩
  · rintro _ ⟨⟩

/-- A reply to a request has come. -/
theorem answered (books : run.Books heard sent (exchanges ++ [⟨request, transmissions, none⟩])) {reply : Message}
    (come : reply ∈ heard) (own : reply.ticket = request.ticket) :
    run.Books heard sent (exchanges ++ [⟨request, transmissions, some reply⟩]) := by
  obtain ⟨before, sound, ticket⟩ := books_append.mp books
  refine books_append.mpr ⟨before, { sound with own := ?_ }, ticket⟩
  rintro _ ⟨⟩
  exact ⟨come, own⟩

end Books

end

section

variable {run : SurveyRun} {now asks : Nat} {heard : List Message} {sent : List EndpointEffect} {exchanges : List Exchange}
  {transmissions : List (List EndpointEffect)} {e : Endpoint} {survey : Survey (Except Error NatType)} {transaction : Transaction}
  {next : Option Message → Survey (Except Error NatType)} {m later : SurveyMoment}

/-- Where a survey can go on: it has been led here by its exchanges, and has so many asks left at most. -/
structure Ready (run : SurveyRun) (now : Nat) (heard : List Message) (sent : List EndpointEffect) (exchanges : List Exchange)
    (asks : Nat) (e : Endpoint) (survey : Survey (Except Error NatType)) : Prop where
  books : run.Books heard sent exchanges
  leads : (Survey.ofConfig run.config run.me.address).Leads run.gateway exchanges survey
  tidy : ∃ held, survey.Tidy [] asks held ∧ e.udp.without held = run.endpoint.udp
  few : exchanges.length + asks ≤ 8
  mapped : e.Mapped
  timely : now ≤ run.begun + run.allowance exchanges

/-- Where a survey waits for an answer. Its request has been sent some times, and waits as long as is its turn. -/
structure Awaiting (run : SurveyRun) (now : Nat) (heard : List Message) (sent : List EndpointEffect) (exchanges : List Exchange)
    (transmissions : List (List EndpointEffect)) (asks : Nat) (e : Endpoint) (transaction : Transaction)
    (next : Option Message → Survey (Except Error NatType)) : Prop where
  books : run.Books heard sent (exchanges ++ [⟨transaction.request, transmissions, none⟩])
  leads : ∀ x : Exchange, x.request = transaction.request →
    (Survey.ofConfig run.config run.me.address).Leads run.gateway (exchanges ++ [x]) (next x.answer)
  tidy : ∃ held, (∀ answer, (next answer).Tidy [] asks held) ∧ e.udp.without held = run.endpoint.udp
  few : exchanges.length + 1 + asks ≤ 8
  mapped : e.Mapped
  left : transmissions.length + transaction.retriesLeft = run.config.backoff.attempts.toNat
  timeout : ∃ count, transmissions.length = count + 1 ∧ run.config.backoff.timeout? count = some transaction.rto
  due : transaction.deadline + run.lag ≤
    run.begun + (run.allowance exchanges + run.config.backoff.span run.lag transmissions.length)
  early : now ≤ transaction.deadline + run.lag

def surveyor (run : SurveyRun) (state : SurveyState) (drawn : Nat) : Surveyor :=
  ⟨run.me, run.config.backoff, run.gateway, state, drawn⟩

/-- How a survey stands that has fewer than so many timeouts and answers to come. -/
inductive Stands (run : SurveyRun) (rank : Nat) : SurveyMoment → Prop
  | finished {result : Except Error NatType} {now asks drawn : Nat} {heard : List Message} {sent : List EndpointEffect}
      {exchanges : List Exchange} {e : Endpoint} (ready : run.Ready now heard sent exchanges asks e (.done result)) :
      Stands run rank ⟨now, run.surveyor (.finished result) drawn, e, sent, heard⟩
  | halted {now drawn : Nat} {heard : List Message} {sent : List EndpointEffect} {exchanges : List Exchange} {e : Endpoint}
      (books : run.Books heard sent exchanges) (few : exchanges.length ≤ 8) (timely : now ≤ run.begun + run.allowance exchanges)
      (unmeasured : ∃ count ≤ run.config.backoff.attempts.toNat, run.config.backoff.timeout? count = none) :
      Stands run rank ⟨now, run.surveyor .halted drawn, e, sent, heard⟩
  | waiting {now asks : Nat} {heard : List Message} {sent : List EndpointEffect} {exchanges : List Exchange}
      {transmissions : List (List EndpointEffect)} {e : Endpoint} {transaction : Transaction}
      {next : Option Message → Survey (Except Error NatType)}
      (awaiting : run.Awaiting now heard sent exchanges transmissions asks e transaction next)
      (fewer : asks * run.config.backoff.attempts.toNat + transaction.retriesLeft < rank) :
      Stands run rank ⟨now, run.surveyor (.waiting transaction next) (exchanges.length + 1), e, sent, heard⟩

theorem Stands.mono {rank more : Nat} (stands : run.Stands rank m) (le : rank ≤ more) : run.Stands more m := by
  cases stands with
  | finished ready => exact .finished ready
  | halted books few timely unmeasured => exact .halted books few timely unmeasured
  | waiting awaiting fewer => exact .waiting awaiting (Nat.lt_of_lt_of_le fewer le)

/-- Once a wait has ended the survey goes on from its answer. -/
theorem Awaiting.settled {later : List Message} {more : List EndpointEffect} {all : List (List EndpointEffect)} {answer : Option Message}
    {time : Nat} (awaiting : run.Awaiting now heard sent exchanges transmissions asks e transaction next)
    (books : run.Books later more (exchanges ++ [⟨transaction.request, all, answer⟩]))
    (timely : time ≤ run.begun + (run.allowance exchanges + run.config.backoff.span run.lag all.length)) :
    run.Ready time later more (exchanges ++ [⟨transaction.request, all, answer⟩]) asks e (next answer) where
  books := books
  leads := awaiting.leads ⟨transaction.request, all, answer⟩ rfl
  tidy := by
    obtain ⟨held, tidy, rest⟩ := awaiting.tidy
    exact ⟨held, tidy answer, rest⟩
  few := by
    rw [List.length_append, List.length_singleton]
    exact awaiting.few
  mapped := awaiting.mapped
  timely := by
    rw [allowance_append]
    exact timely

/-- A request of the survey. -/
def request (run : SurveyRun) (roster : Roster) (drawn : Nat) (port : UInt16) (server : Address) (body : Body) : Message :=
  let contact := run.me.contact roster
  { Message.plain { contact with address := { contact.address with port } } server body with ticket := run.chance.ticket drawn }

theorem proceed_ask (some_attempt : 1 ≤ run.config.backoff.attempts.toNat) (state : SurveyState) (drawn clock : Nat) (roster : Roster)
    (outside : Outside) (e : Endpoint) (port : UInt16) (server : Address) (body : Body)
    (next : Option Message → Survey (Except Error NatType)) :
    let request := run.request roster drawn port server body
    (run.surveyor state drawn).proceed (run.around now clock roster) outside e (.ask port server body next) =
      match e.accept outside request with
      | .ok () =>
        (run.surveyor (.waiting ⟨request, run.config.backoff.attempts.toNat - 1, run.config.backoff.first,
          now + run.config.backoff.first⟩ next) (drawn + 1), e.send outside request)
      | .error _ =>
        let outcome := (run.surveyor state (drawn + 1)).proceed (run.around now clock roster) outside (e.send outside request).2
          (next none)
        (outcome.1, (e.send outside request).1 ++ outcome.2.1, outcome.2.2) := by
  have attempts : run.config.backoff.attempts ≠ 0 := by
    intro none
    rw [none] at some_attempt
    cases some_attempt
  rw [Surveyor.proceed]
  exact if_neg attempts

/-- A request that a survey asks next waits for its answer once it has been sent. -/
theorem Ready.asked {port : UInt16} {server : Address} {body : Body}
    (ready : run.Ready now heard sent exchanges (asks + 1) e (.ask port server body next))
    (some_attempt : 1 ≤ run.config.backoff.attempts.toNat) (roster : Roster) (outside : Outside) :
    let request := run.request roster exchanges.length port server body
    run.Awaiting now heard (sent ++ (e.send outside request).1) exchanges [(e.send outside request).1] asks (e.send outside request).2
      ⟨request, run.config.backoff.attempts.toNat - 1, run.config.backoff.first, now + run.config.backoff.first⟩ next := by
  intro request
  obtain ⟨held, tidy, rest⟩ := ready.tidy
  cases tidy with
  | ask tidy =>
    have few := ready.few
    have timely := ready.timely
    have first : run.config.backoff.span run.lag 1 = run.config.backoff.first + run.lag := Nat.zero_add _
    exact {
      books := ready.books.begins some_attempt rfl ⟨e, outside, rfl⟩
      leads := fun x own => .ask ready.leads (by rw [own]; rfl) (by rw [own]; rfl) (by rw [own]; rfl)
      tidy := ⟨held, tidy, by rw [← rest, Endpoint.send_udp]⟩
      few := by omega
      mapped := ready.mapped.happens (.send outside request)
      left := by
        dsimp only [List.length_singleton]
        omega
      timeout := ⟨0, rfl, rfl⟩
      due := by
        dsimp only [List.length_singleton]
        rw [first]
        omega
      early := by
        dsimp only
        omega }

/-- A survey that can go on does so until it is done or has to wait. -/
theorem Ready.proceeds (some_attempt : 1 ≤ run.config.backoff.attempts.toNat)
    (ready : run.Ready now heard sent exchanges asks e survey) (m : SurveyMoment) (same : m.heard = heard) (also : m.sent = sent)
    {drawn : Nat} (all : exchanges.length = drawn) (state : SurveyState) (clock : Nat) (roster : Roster) (outside : Outside) :
    run.Stands (asks * run.config.backoff.attempts.toNat) (m.after now
      ((run.surveyor state drawn).proceed (run.around now clock roster) outside e survey)) := by
  subst same also all
  induction survey generalizing m exchanges asks e with
  | done result =>
    rw [Surveyor.proceed, SurveyMoment.after, List.append_nil]
    exact .finished ready
  | ask port server body next ih =>
    obtain ⟨held, tidy, rest⟩ := ready.tidy
    cases tidy with
    | @ask fewer _ _ _ _ _ tidy =>
      have awaiting := ready.asked some_attempt roster outside
      have less : fewer * run.config.backoff.attempts.toNat < (fewer + 1) * run.config.backoff.attempts.toNat :=
        Nat.mul_lt_mul_of_pos_right (Nat.lt_succ_self _) some_attempt
      rw [proceed_ask some_attempt]
      dsimp only
      split
      · refine .waiting awaiting ?_
        rw [Nat.add_one_mul]
        dsimp only
        omega
      · -- The endpoint has refused the request, which goes without an answer then.
        have rest := ih none (m.sending (e.send outside (run.request roster exchanges.length port server body)).1)
          (awaiting.settled awaiting.books (Nat.le_trans awaiting.early awaiting.due))
        rw [List.length_append, SurveyMoment.sending_after] at rest
        exact rest.mono (Nat.le_of_lt less)
  | allocate count next ih =>
    obtain ⟨held, tidy, rest⟩ := ready.tidy
    cases tidy with
    | allocate tidy =>
      obtain ⟨few, back⟩ := ready.mapped.alloc_without run.chance (outside.bind .udp) (.v4 run.me.address.ip) count .udp
      have unheld : e.udp = run.endpoint.udp := by
        rw [← rest]
        exact (ready.mapped.bijective .udp).without_nil.symm
      rw [Surveyor.proceed]
      exact ih _ m { ready with
        leads := ready.leads.allocate _
        tidy := ⟨_, tidy _ few, back.trans unheld⟩
        mapped := ready.mapped.alloc _ _ _ _ _ }
  | release ports next ih =>
    obtain ⟨held, tidy, rest⟩ := ready.tidy
    cases tidy with
    | release tidy =>
      have mapped := ready.mapped.released ports .udp
      have back : (e.release ports .udp).2.udp = run.endpoint.udp := by
        rw [(ready.mapped.release ports .udp).1]
        exact rest
      rw [Surveyor.proceed]
      exact ih _ m { ready with
        leads := ready.leads.release
        tidy := ⟨[], tidy, (mapped.bijective .udp).without_nil.trans back⟩
        mapped := mapped }
  | mapPort socket next ih =>
    obtain ⟨held, tidy, rest⟩ := ready.tidy
    cases tidy with
    | mapPort tidy => exact ih run.gateway m { ready with leads := ready.leads.mapPort, tidy := ⟨held, tidy _, rest⟩ }

namespace Awaiting

theorem hears (awaiting : run.Awaiting now heard sent exchanges transmissions asks e transaction next) (reply : Message) :
    run.Awaiting now (heard ++ [reply]) sent exchanges transmissions asks e transaction next :=
  { awaiting with books := awaiting.books.hears reply }

theorem lasts {time : Nat} (awaiting : run.Awaiting now heard sent exchanges transmissions asks e transaction next)
    (early : time ≤ transaction.deadline + run.lag) :
    run.Awaiting time heard sent exchanges transmissions asks e transaction next :=
  { awaiting with early }

/-- A wait that ends without another transmission. -/
theorem goes_on (some_attempt : 1 ≤ run.config.backoff.attempts.toNat)
    (awaiting : run.Awaiting now heard sent exchanges transmissions asks e transaction next) (answer : Option Message)
    (books : run.Books m.heard m.sent (exchanges ++ [⟨transaction.request, transmissions, answer⟩]))
    (state : SurveyState) (clock : Nat) (roster : Roster) (outside : Outside) {rank : Nat}
    (fewer : asks * run.config.backoff.attempts.toNat + transaction.retriesLeft < rank) :
    ∃ less < rank, run.Stands less (m.after now
      ((run.surveyor state (exchanges.length + 1)).proceed (run.around now clock roster) outside e (next answer))) := by
  have ready := awaiting.settled books (Nat.le_trans awaiting.early awaiting.due)
  have all : (exchanges ++ [Exchange.mk transaction.request transmissions answer]).length = exchanges.length + 1 := by
    rw [List.length_append, List.length_singleton]
  exact ⟨_, Nat.lt_of_le_of_lt (Nat.le_add_right ..) fewer, ready.proceeds some_attempt m rfl rfl all state clock roster outside⟩

/-- The request is sent once more, and waits as long as is its turn then. -/
theorem resent (awaiting : run.Awaiting now heard sent exchanges transmissions asks e transaction next) (outside : Outside) {rto : Nat}
    (some_left : transaction.retriesLeft ≠ 0) (turn : run.config.backoff.next? transaction.rto = some rto) :
    run.Awaiting now heard (sent ++ (e.send outside transaction.request).1) exchanges
      (transmissions ++ [(e.send outside transaction.request).1]) asks (e.send outside transaction.request).2
      { transaction with retriesLeft := transaction.retriesLeft - 1, rto, deadline := now + rto } next := by
  obtain ⟨count, length, timeout⟩ := awaiting.timeout
  have more : (transmissions ++ [(e.send outside transaction.request).1]).length = transmissions.length + 1 := by
    rw [List.length_append, List.length_singleton]
  have later : run.config.backoff.timeout? transmissions.length = some rto := by
    rw [length, Backoff.timeout?, timeout, Option.bind_some, turn]
  have span : run.config.backoff.span run.lag (transmissions.length + 1) =
      run.config.backoff.span run.lag transmissions.length + (rto + run.lag) := by
    rw [Backoff.span, later, Option.getD_some]
  have left := awaiting.left
  have early := awaiting.early
  have due := awaiting.due
  exact { awaiting with
    books := awaiting.books.repeats (by omega) ⟨e, outside, rfl⟩
    tidy := by
      rw [Endpoint.send_udp]
      exact awaiting.tidy
    mapped := awaiting.mapped.happens (.send outside transaction.request)
    left := by
      rw [more]
      dsimp only
      omega
    timeout := ⟨transmissions.length, more, later⟩
    due := by
      rw [more, span]
      dsimp only
      omega
    early := by
      dsimp only
      omega }

/-- The alarm of a request that waits ends this wait, unless it begins another. -/
theorem times_out (some_attempt : 1 ≤ run.config.backoff.attempts.toNat)
    (awaiting : run.Awaiting now heard sent exchanges transmissions asks e transaction next) (m : SurveyMoment)
    (same : m.heard = heard) (also : m.sent = sent) (clock : Nat) (roster : Roster) (outside : Outside) {rank : Nat}
    (fewer : asks * run.config.backoff.attempts.toNat + transaction.retriesLeft < rank) :
    ∃ less < rank, run.Stands less (m.after now
      ((run.surveyor (.waiting transaction next) (exchanges.length + 1)).onTimeout (run.around now clock roster) outside e)) := by
  subst same also
  obtain ⟨count, length, timeout⟩ := awaiting.timeout
  have left := awaiting.left
  simp only [surveyor, Surveyor.onTimeout]
  split
  · rename_i endless
    have unmeasured : run.config.backoff.timeout? (count + 1) = none := by
      rw [Backoff.timeout?, timeout, Option.bind_some, endless]
    have ready := awaiting.settled awaiting.books (Nat.le_trans awaiting.early awaiting.due)
    rw [SurveyMoment.after, List.append_nil]
    exact ⟨_, fewer, .halted ready.books (Nat.le_of_add_right_le ready.few) ready.timely ⟨count + 1, by omega, unmeasured⟩⟩
  · rename_i rto turn
    split
    · exact awaiting.goes_on some_attempt none awaiting.books _ clock roster outside fewer
    · rename_i some_left
      have resent := awaiting.resent outside some_left turn
      have fewer_left : asks * run.config.backoff.attempts.toNat + (transaction.retriesLeft - 1) <
        asks * run.config.backoff.attempts.toNat + transaction.retriesLeft := by omega
      split
      · exact ⟨_, fewer, .waiting resent fewer_left⟩
      · rw [← SurveyMoment.sending_after]
        exact resent.goes_on some_attempt none resent.books _ clock roster outside (Nat.lt_trans fewer_left fewer)

end Awaiting

theorem Settles.waits (settles : run.Settles m later) : ∃ transaction, m.surveyor.transaction? = some transaction := by
  cases settles with
  | answer _ _ _ _ waits => exact ⟨_, waits.waiting⟩
  | timeout _ _ _ waits => exact ⟨_, waits.waiting⟩
  | closed _ _ _ waits => exact ⟨_, waits.waiting⟩

theorem Passes.waits (passes : run.Passes m later) : ∃ transaction, m.surveyor.transaction? = some transaction := by
  cases passes with
  | foreign _ _ _ _ waits => exact ⟨_, waits.waiting⟩
  | elsewhere _ waits => exact ⟨_, waits.waiting⟩
  | loses _ _ waits => exact ⟨_, waits.waiting⟩

/-- The end of a wait leaves fewer timeouts and answers to come. -/
theorem Stands.settles (some_attempt : 1 ≤ run.config.backoff.attempts.toNat) {rank : Nat} (stands : run.Stands rank m)
    (settles : run.Settles m later) : ∃ less < rank, run.Stands less later := by
  cases stands with
  | finished | halted => obtain ⟨_, ⟨⟩⟩ := settles.waits
  | @waiting _ asks heard sent exchanges transmissions e transaction next awaiting fewer =>
    cases settles with
    | answer clock roster outside reply waits own =>
      obtain ⟨⟨⟩, _, early⟩ := waits
      have books := (awaiting.books.hears reply).answered (List.mem_append_right _ (List.mem_singleton_self reply)) own
      simp only [hear, surveyor, Surveyor.onReply, if_pos own]
      exact ((awaiting.lasts early).hears reply).goes_on some_attempt (some reply) books _ clock roster outside fewer
    | timeout clock roster outside waits due =>
      obtain ⟨⟨⟩, _, early⟩ := waits
      exact (awaiting.lasts early).times_out some_attempt ⟨_, _, e, sent, heard⟩ rfl rfl clock roster outside fewer
    | closed clock roster outside waits =>
      obtain ⟨⟨⟩, _, early⟩ := waits
      exact (awaiting.lasts early).goes_on some_attempt none awaiting.books _ clock roster outside fewer

theorem Stands.passes {rank : Nat} (reached : run.endpoint.Mapped) (stands : run.Stands rank m) (passes : run.Passes m later) :
    run.Stands rank later := by
  cases stands with
  | finished | halted => obtain ⟨_, ⟨⟩⟩ := passes.waits
  | @waiting _ asks heard sent exchanges transmissions e transaction next awaiting fewer =>
    cases passes with
    | foreign clock roster outside reply waits other =>
      obtain ⟨⟨⟩, _, early⟩ := waits
      simp only [hear, surveyor, Surveyor.onReply, if_neg other, SurveyMoment.after, List.append_nil]
      exact .waiting ((awaiting.lasts early).hears reply) fewer
    | elsewhere next waits happens same =>
      obtain ⟨⟨⟩, _, early⟩ := waits
      have lasts := awaiting.lasts early
      exact .waiting { lasts with
        tidy := by rw [same]; exact lasts.tidy
        mapped := lasts.mapped.happens happens } fewer
    | loses port kind waits fresh =>
      obtain ⟨⟨⟩, _, early⟩ := waits
      have lasts := awaiting.lasts early
      obtain ⟨held, tidy, rest⟩ := lasts.tidy
      have left : (e.socketLost .udp port kind).2.udp = e.udp.without [port] :=
        congrArg Endpoint.udp (lasts.mapped.release [port] .udp).1
      refine .waiting { lasts with
        tidy := ⟨held, tidy, ?_⟩
        mapped := lasts.mapped.happens (.lose .udp port kind) } fewer
      rw [left, PortTable.without_comm, rest]
      refine (reached.bijective .udp).without_eq_self fun other member => ?_
      rwa [List.mem_singleton.mp member]

theorem Stands.account {rank : Nat} (stands : run.Stands rank m) : ∃ exchanges, run.Accounts m exchanges := by
  cases stands with
  | @finished result now asks drawn heard sent exchanges e ready =>
    obtain ⟨held, tidy, rest⟩ := ready.tidy
    cases tidy with
    | done result =>
      have same : e.udp = run.endpoint.udp := (ready.mapped.bijective .udp).without_nil.symm.trans rest
      refine ⟨exchanges, Nat.le_of_add_right_le ready.few, ready.books.sound, ready.books.tickets, ready.books.sent, ready.timely,
        ?_, ?_⟩
      · rintro _ ⟨⟩
      · rintro _ ⟨⟩
        exact ⟨ready.leads, same⟩
  | @halted _ _ _ _ exchanges _ books few timely unmeasured =>
    refine ⟨exchanges, few, books.sound, books.tickets, books.sent, timely, ?_, ?_⟩
    · rintro _ ⟨⟩
    · rintro _ ⟨⟩
  | @waiting now asks heard sent exchanges transmissions e transaction next awaiting fewer =>
    have books := awaiting.books
    have due := awaiting.due
    refine ⟨exchanges ++ [⟨transaction.request, transmissions, none⟩], ?_, books.sound, books.tickets, books.sent, ?_, ?_, ?_⟩
    · rw [List.length_append, List.length_singleton]
      exact Nat.le_of_add_right_le awaiting.few
    · rw [allowance_append]
      exact Nat.le_trans awaiting.early due
    · rintro _ ⟨⟩
      rw [allowance_append]
      exact due
    · rintro _ ⟨⟩

theorem Stands.passes_all {rank : Nat} (reached : run.endpoint.Mapped) (stands : run.Stands rank m)
    (passes : Relation.ReflTransGen run.Passes m later) : run.Stands rank later := by
  induction passes with
  | refl => exact stands
  | tail _ last ih => exact ih.passes reached last

theorem Stands.inevitable (some_attempt : 1 ≤ run.config.backoff.attempts.toNat) (reached : run.endpoint.Mapped) {rank : Nat}
    (stands : run.Stands rank m) (clock : Nat) (roster : Roster) (outside : Outside) : Inevitable run.Wait run.Over m := by
  induction rank using Nat.strongRecOn generalizing m with
  | ind rank ih =>
    have over_or_waiting : run.Over m ∨ ∃ transaction, m.surveyor.transaction? = some transaction ∧
        m.now ≤ transaction.deadline + run.lag := by
      cases stands with
      | finished => exact .inl ⟨rfl, nofun⟩
      | halted _ _ _ unmeasured => exact .inl ⟨rfl, fun _ => unmeasured⟩
      | waiting awaiting => exact .inr ⟨_, rfl, awaiting.early⟩
    rcases over_or_waiting with ended | ⟨transaction, waiting, early⟩
    · exact .now ended
    · refine .later ?_ ?_
      · have waits : run.Waits m transaction (max m.now transaction.deadline) :=
          ⟨waiting, Nat.le_max_left .., by omega⟩
        exact ⟨_, m, .refl, .timeout clock roster outside waits (Nat.le_max_right ..)⟩
      · rintro later ⟨between, passes, settles⟩
        obtain ⟨less, fewer, stands⟩ := (stands.passes_all reached passes).settles some_attempt settles
        exact ih less fewer stands

/-- Whatever replies come, late, twice, to other requests or not at all, and until whenever they do, a survey that may send
a request at least once ends, unless a timeout is too long to measure. Up to any moment it has made no more than eight
requests, each under the next ticket that was drawn and sent no more often than is allowed; a request has been answered by
nothing but a reply to it that has come, and all that the survey goes on from are these answers. The time has been that of
the timeouts of its transmissions, if alarms ring at once, and whoever waits has an alarm within that time. With its result,
whichever it is, the survey leaves the UDP ports of the endpoint as they were. -/
theorem ends_accounted (run : SurveyRun) (some_attempt : 1 ≤ run.config.backoff.attempts.toNat) (reached : run.endpoint.Reached)
    (clock : Nat) (roster : Roster) (outside : Outside) :
    Inevitable run.Wait run.Over (run.start clock roster outside) ∧
      ∀ m, Relation.ReflTransGen run.Step (run.start clock roster outside) m → ∃ exchanges, run.Accounts m exchanges := by
  have start : run.Stands (8 * run.config.backoff.attempts.toNat) (run.start clock roster outside) := by
    have ready : run.Ready run.begun [] [] [] 8 run.endpoint (.ofConfig run.config run.me.address) := {
      books := ⟨List.forall_mem_nil _, rfl, rfl⟩
      leads := .start
      tidy := ⟨[], Survey.ofConfig_tidy .., (reached.mapped.bijective .udp).without_nil⟩
      few := Nat.le_refl _
      mapped := reached.mapped
      timely := Nat.le_add_right .. }
    exact ready.proceeds some_attempt ⟨0, run.surveyor .halted 0, run.endpoint, [], []⟩ rfl rfl rfl .halted clock roster outside
  refine ⟨start.inevitable some_attempt reached.mapped clock roster outside, fun m reach => ?_⟩
  have stands : run.Stands (8 * run.config.backoff.attempts.toNat) m := by
    induction reach with
    | refl => exact start
    | tail _ last ih =>
      rcases last with passes | settles
      · exact ih.passes reached.mapped passes
      · obtain ⟨less, fewer, stands⟩ := ih.settles some_attempt settles
        exact stands.mono (Nat.le_of_lt fewer)
  exact stands.account

end

/-- A node behind a translator that asks one server, once at a time. -/
def rehearsal : SurveyRun where
  me := ⟨⟨.ofOctets 192 168 0 2, 4000, 9⟩, 0, none⟩
  config := { servers := [⟨.ofOctets 80 0 0 1, 3478, 1⟩], backoff := ⟨500, .finite false 6755399441055744 (-52), 1⟩ }
  gateway := none
  chance := Simulation.chance
  endpoint := (({ config := {} } : Endpoint).bind ⟨.v4 (.ofOctets 192 168 0 2), 4000⟩ .udp (.bound 4000)).2.2
  begun := 0
  lag := 0

/-- A survey of which only the first echo is answered tries the one fresh port that the system grants, and gives it back. -/
theorem ends_accounted_rehearsal :
    let run := rehearsal
    let roster := Roster.empty 3
    let outside : Outside :=
      ⟨fun _ socket => if socket.port = 50000 then .bound 50000 else .inUse, fun _ _ => .ok (), fun _ => .taken⟩
    let reply : Message := { Message.plain ⟨⟨.ofOctets 80 0 0 1, 3478, 1⟩, 0, .unrestricted, []⟩ run.me.address
      (.echoResponse ⟨.ofOctets 80 0 0 9, 61000, 9⟩ .plain 0) with ticket := run.chance.ticket 0 }
    let timeout (m : SurveyMoment) : SurveyMoment :=
      m.after (m.now + 500000000) (m.surveyor.onTimeout (run.around (m.now + 500000000) 0 roster) outside m.endpoint)
    let answered := run.hear (run.start 0 roster outside) 0 0 roster outside reply
    let probing := timeout (timeout answered)
    let m := timeout (timeout probing)
    probing.endpoint.udp.contains 50000 = true ∧ m.surveyor.result?.isSome = true ∧ m.endpoint.udp = run.endpoint.udp ∧
      Inevitable run.Wait run.Over (run.start 0 roster outside) := by
  intro run roster outside reply timeout answered probing m
  have reached : run.endpoint.Reached := .step (.start {}) (.bind ⟨.v4 (.ofOctets 192 168 0 2), 4000⟩ .udp (.bound 4000))
  obtain ⟨ends, accounts⟩ := run.ends_accounted (by decide) reached 0 roster outside
  have answers : run.Step (run.start 0 roster outside) answered := by
    have waits : ((run.start 0 roster outside).surveyor.transaction?.any fun t => reply.ticket = t.request.ticket) = true := by
      decide +kernel
    obtain ⟨transaction, waiting, own⟩ := (Option.any_eq_true ..).mp waits
    exact .inr (.answer 0 roster outside reply ⟨waiting, Nat.le_refl _, Nat.zero_le _⟩ (of_decide_eq_true own))
  have times (m : SurveyMoment) (waits : (m.surveyor.transaction?.any fun t => t.deadline = m.now + 500000000) = true) :
      run.Step m (timeout m) := by
    obtain ⟨transaction, waiting, rings⟩ := (Option.any_eq_true ..).mp waits
    have due : transaction.deadline = m.now + 500000000 := of_decide_eq_true rings
    exact .inr (.timeout 0 roster outside ⟨waiting, Nat.le_add_right .., Nat.le_of_eq due.symm⟩ (Nat.le_of_eq due))
  have reach : Relation.ReflTransGen run.Step (run.start 0 roster outside) m :=
    .tail (.tail (.tail (.tail (.single answers) (times _ (by decide +kernel))) (times _ (by decide +kernel)))
      (times _ (by decide +kernel))) (times _ (by decide +kernel))
  have some_result : m.surveyor.result?.isSome = true := by decide +kernel
  obtain ⟨result, ended⟩ := Option.isSome_iff_exists.mp some_result
  obtain ⟨exchanges, account⟩ := accounts m reach
  exact ⟨by decide +kernel, some_result, (account.ended result ended).2, ends⟩

end SurveyRun

end NatTraversal
