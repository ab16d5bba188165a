import NatTraversal.Proofs.Punch.Identity
import NatTraversal.Proofs.Punch.Leaving
import NatTraversal.Proofs.Punch.Peers

namespace NatTraversal

/-- Where the messages of one kind are sent, in order. -/
def destsOf (kind : Message → Bool) (effects : List PunchEffect) : List Address :=
  effects.filterMap fun
    | .send message => if kind message then some message.dest else none
    | _ => none

/-- The parents that are asked under a ticket to pass a request on. -/
def consulted (id : Ticket) : List PunchEffect → List Address :=
  destsOf fun message => message.ticket = id ∧ message.body.opcode = .connectRequest

/-- The parents that are told to pass nothing on to a node any more. -/
def dismissed (node : UInt32) : List PunchEffect → List Address := destsOf fun message => message.body = .deleteConnection node

section

variable {kind : Message → Bool} {effects : List PunchEffect}

theorem destsOf_append (kind : Message → Bool) (first second : List PunchEffect) :
    destsOf kind (first ++ second) = destsOf kind first ++ destsOf kind second := List.filterMap_append

theorem mem_destsOf {parent : Address} : parent ∈ destsOf kind effects ↔
    ∃ message, .send message ∈ effects ∧ kind message = true ∧ message.dest = parent := by
  rw [destsOf, List.mem_filterMap]
  constructor
  · rintro ⟨effect, member, sent⟩
    cases effect with
    | send message =>
      simp only [Option.ite_none_right_eq_some, Option.some.injEq] at sent
      exact ⟨message, member, sent⟩
    | release ports => cases sent
    | report event => cases sent
  · rintro ⟨message, member, right, rfl⟩
    exact ⟨.send message, member, if_pos right⟩

theorem destsOf_eq_nil (other : ∀ message, .send message ∈ effects → kind message = false) : destsOf kind effects = [] := by
  refine List.eq_nil_iff_forall_not_mem.mpr fun parent member => ?_
  obtain ⟨message, sent, right, _⟩ := mem_destsOf.mp member
  cases right.symm.trans (other message sent)

/-- Messages that are all of one kind. -/
theorem destsOf_sends (message : Address → Message) (parents : List Address) (right : ∀ parent, kind (message parent) = true)
    (dest : ∀ parent, (message parent).dest = parent) : destsOf kind (parents.map fun parent => .send (message parent)) = parents := by
  induction parents with
  | nil => rfl
  | cons parent parents ih =>
    rw [List.map_cons, destsOf, List.filterMap_cons]
    simp only [right, if_true, dest]
    exact congrArg (parent :: ·) ih

end

namespace Puncher

section

variable {c : Surroundings} {input : PunchInput} {p q : Puncher} {effects sent : List PunchEffect} {key : PeerKey}
  {hs later : Handshake}

theorem consulted_append (id : Ticket) (first second : List PunchEffect) :
    consulted id (first ++ second) = consulted id first ++ consulted id second := destsOf_append _ _ _

theorem consulted_attempt (p : Puncher) (c : Surroundings) (hs : Handshake) :
    consulted hs.pingId (p.attempt c hs) = (nextParent? hs).toList := by
  have ping : consulted hs.pingId
      [.send { Message.plain (p.contactAt c hs.punchPort) (.ofSocket hs.remote hs.target.node) .punchPing with ticket := hs.pingId }] =
        [] := by
    refine destsOf_eq_nil fun message member => ?_
    cases List.mem_singleton.mp member
    simp [Message.plain, Body.opcode]
  let request (parent : Address) :=
    { Message.plain (p.contactAt c hs.punchPort) parent (.connectRequest hs.target false) with ticket := hs.pingId }
  have requests : consulted hs.pingId ((nextParent? hs).toList.map fun parent => .send (request parent)) = (nextParent? hs).toList :=
    destsOf_sends request _ (fun _ => decide_eq_true ⟨rfl, rfl⟩) fun _ => rfl
  rw [attempt, consulted_append, ping, List.append_nil]
  exact requests

theorem consulted_pongs (id : Ticket) {pongs : List Message} (answers : ∀ pong ∈ pongs, pong.body = .punchPong) :
    consulted id (pongs.map .send) = [] := by
  refine destsOf_eq_nil fun message member => ?_
  obtain ⟨_, known, same⟩ := List.mem_map.mp member
  cases same
  simp [answers message known, Body.opcode]

/-- Where an attempt asks nobody, the parent is who it was. -/
theorem parent_attempted_of_unasked (hs : Handshake) (unasked : consulted hs.pingId (p.attempt c hs) = []) : (attempted hs).parent = hs.parent := by
  rw [consulted_attempt, Option.toList_eq_nil_iff] at unasked
  rw [attempted, unasked, Option.none_or]

/-- Parents are asked for a handshake by an attempt of it. -/
theorem Move.consulted_cases (move : Move c input p q effects) (ticketed : p.Ticketed c.chance) (distinct : c.chance.Distinct q.drawn)
    (found : q.handshakes.get? key = some later) :
    consulted later.pingId effects = [] ∨ ∃ parent, consulted later.pingId effects = [parent] ∧ later.parent = some parent := by
  by_cases unasked : consulted later.pingId effects = []
  · exact .inl unasked
  obtain ⟨parent, member⟩ := List.exists_mem_of_ne_nil _ unasked
  obtain ⟨message, sent, right, _⟩ := mem_destsOf.mp member
  obtain ⟨named, request⟩ := of_decide_eq_true right
  cases move.sender sent with
  | aside fresh same =>
    obtain ⟨n, first, last, ticket⟩ := fresh
    have worn : p.Wears (.ping key) (c.chance.ticket n) := ⟨later, same ▸ found, named.symm.trans ticket⟩
    exact absurd worn (ticketed.unworn distinct first last _)
  | pong answers =>
    rw [answers] at request
    cases request
  | unnamed none deletes =>
    obtain ⟨node, body⟩ := deletes
    rw [body] at request
    cases request
  | @handshake own hs there tried whole =>
    have ticket := (owns_of_mem_attempt tried).1.symm.trans named
    have mine : q.Wears (.ping own) later.pingId := ⟨attempted hs, there, ticket⟩
    cases (ticketed.move move distinct).single (.ping own) (.ping key) later.pingId mine ⟨later, found, rfl⟩
    cases there.symm.trans found
    obtain ⟨pongs, rfl, answers⟩ := whole
    have parents : consulted (attempted hs).pingId (pongs.map .send ++ p.attempt c hs) = (nextParent? hs).toList := by
      rw [consulted_append, consulted_pongs _ answers, List.nil_append]
      exact consulted_attempt p c hs
    rw [parents] at unasked ⊢
    cases next : nextParent? hs with
    | none => exact absurd (by rw [next]; rfl) unasked
    | some parent => exact .inr ⟨parent, rfl, by rw [attempted, next]; rfl⟩

/-- A parent that a handshake has gone through is forgotten only for another that is asked. -/
theorem Move.parent_of_unasked (move : Move c input p q effects) (known : p.handshakes.get? key = some hs)
    (found : q.handshakes.get? key = some later) (unasked : consulted later.pingId effects = []) {parent : Address}
    (through : hs.parent = some parent) : later.parent = some parent := by
  have stays (same : q.handshakes = p.handshakes) : later.parent = some parent := by
    rw [same, known] at found
    exact Option.some.inj found ▸ through
  -- Whoever is handled is left as `kept`, and nobody else is touched.
  have keeps {own : PeerKey} {kept : Handshake} (handshakes : q.handshakes = p.handshakes.insert own kept)
      (mine : key = own → consulted kept.pingId effects = [] → kept.parent = some parent) : later.parent = some parent := by
    rw [handshakes, Table.get?_insert] at found
    split at found
    · rename_i same
      cases found
      exact mine same unasked
    · exact Option.some.inj (known.symm.trans found) ▸ through
  have erases {own : PeerKey} (handshakes : q.handshakes = p.handshakes.erase own) : later.parent = some parent := by
    rw [handshakes, Table.get?_erase] at found
    split at found
    · cases found
    · exact Option.some.inj (known.symm.trans found) ▸ through
  have begins {new : Handshake} (idle : p.handshakes.get? new.target.key = none) (own : key = new.target.key)
      (_ : consulted (attempted new).pingId effects = []) : (attempted new).parent = some parent := by
    cases idle.symm.trans (own ▸ known)
  cases move with
  | aside aside asleep => exact stays (by rw [aside.frame])
  | answers given asks idle => exact stays rfl
  | hears given asks there aimed =>
    refine keeps rfl fun same _ => ?_
    cases (same ▸ known).symm.trans there
    exact through
  | @follows ping remote here old moved given asks there elsewhere same =>
    refine keeps rfl fun own silent => ?_
    cases (own ▸ known).symm.trans there
    rw [← List.singleton_append, consulted_append, List.append_eq_nil_iff] at silent
    refine (parent_attempted_of_unasked moved silent.2).trans ?_
    rw [same]
    exact through
  | @crosses request remote here initiator old moved given asks there same =>
    refine keeps rfl fun own silent => ?_
    cases (own ▸ known).symm.trans there
    refine (parent_attempted_of_unasked moved silent).trans ?_
    simp only [same, through, Option.some_or]
  | responds given asks idle apart same => exact keeps rfl (begins (by rw [same]; exact idle))
  | recalls given there => exact stays rfl
  | refuses given error => exact stays rfl
  | calls given idle apart allowed granted same => exact keeps rfl (begins (by rw [same]; exact idle))
  | notes given there refused =>
    refine keeps rfl fun own _ => ?_
    cases (own ▸ known).symm.trans there
    exact through
  | fails there own error => exact erases rfl
  | verifies given answer owned there => exact erases rfl
  | @retries own old rto given there some_left early next =>
    refine keeps rfl fun own silent => ?_
    cases (own ▸ known).symm.trans there
    exact (parent_attempted_of_unasked (p.retried c hs rto) silent).trans through
  | closes there asleep => exact stays rfl
  | stalls frame spares stuck => exact stays (by rw [frame])

/-- Whether each pending handshake has as its parent the one that it has asked last, if it has asked any. -/
def Mindful (p : Puncher) (sent : List PunchEffect) : Prop :=
  ∀ key hs parent, p.handshakes.get? key = some hs → (consulted hs.pingId sent).getLast? = some parent → hs.parent = some parent

theorem Move.mindful (move : Move c input p q effects) (mindful : p.Mindful sent) (accounted : p.Accounted c.chance sent)
    (distinct : c.chance.Distinct q.drawn) : q.Mindful (sent ++ effects) := by
  intro key later parent found last
  rw [consulted_append] at last
  rcases move.consulted_cases accounted.ticketed distinct found with unasked | ⟨now, named, through⟩
  · rw [unasked, List.append_nil] at last
    have before {old : Handshake} (known : p.handshakes.get? key = some old) (same : later.pingId = old.pingId) :
        later.parent = some parent :=
      move.parent_of_unasked known found unasked (mindful key old parent known (same ▸ last))
    cases move.origin found with
    | edited known edited asleep => exact before known edited.pingId
    | retried known given some_left early next drawn alarms => exact before known rfl
    | opened idle own same next =>
      -- What has not been drawn before, nobody has been asked under.
      subst same next
      have new : ∀ message, .send message ∈ sent → decide (message.ticket = c.chance.ticket p.drawn ∧
          message.body.opcode = .connectRequest) = false := by
        intro message before
        rw [decide_eq_false_iff_not]
        rintro ⟨ticket, request⟩
        rw [accounted.pong_of_undrawn distinct (Nat.lt_add_of_pos_right (by decide)) before ticket] at request
        cases request
      have nobody : consulted (c.chance.ticket p.drawn) sent = [] := destsOf_eq_nil new
      cases (congrArg List.getLast? nobody).symm.trans last
  · rw [named, List.getLast?_concat] at last
    exact through.trans last

theorem Moves.mindful (moves : Moves c input p q effects) (mindful : p.Mindful sent) (accounted : p.Accounted c.chance sent)
    (distinct : c.chance.Distinct q.drawn) : q.Mindful (sent ++ effects) := by
  induction moves with
  | refl => rwa [List.append_nil]
  | step before move ih =>
    have earlier := distinct.mono move.drawn_le
    rw [← List.append_assoc]
    exact move.mindful (ih earlier) (before.accounted accounted earlier) distinct

theorem dismissed_settled (p : Puncher) (c : Surroundings) (key : PeerKey) (hs : Handshake) (remote : Socket) :
    dismissed hs.target.node (p.leftover key ++ p.tidings c key hs remote) = hs.parent.toList := by
  have released : dismissed hs.target.node (p.leftover key) = [] := by
    refine destsOf_eq_nil fun message member => ?_
    cases eq_release_of_mem_releasing member
  let farewell (parent : Address) := Message.plain (p.contactAt c p.mainPort) parent (.deleteConnection hs.target.node)
  have told : dismissed hs.target.node (hs.parent.toList.map fun parent => .send (farewell parent)) = hs.parent.toList :=
    destsOf_sends farewell _ (fun _ => decide_eq_true rfl) fun _ => rfl
  have report : dismissed hs.target.node [.report (.verified key hs.target ⟨remote, hs.punchPort⟩)] = [] := rfl
  rw [tidings, dismissed, destsOf_append, destsOf_append, ← dismissed, released, report, List.nil_append, List.append_nil]
  exact told

/-- A handshake that leads to a path tells its parent, and nobody else. -/
theorem dismissed_of_verified {target : Contact} {path : Path} (apart : p.Apart) (pending : p.handshakes.get? key = some hs)
    (reported : .report (.verified key target path) ∈ (p.react c input).2) :
    dismissed target.node (p.react c input).2 = hs.parent.toList := by
  rcases (react_reports_verified reported).reports_verified reported with ⟨_, cached, _, recalled, _⟩ |
    ⟨pong, remote, here, other, given, answer, owned, found, named, _, _⟩
  · cases (apart key hs pending).symm.trans recalled
  · cases pending.symm.trans found
    by_cases halted : p.halted = true
    · simp [given, react, handle, halted] at reported
    · have effects : (p.react c input).2 = p.leftover key ++ p.tidings c key hs remote := by
        simp only [given, react, handle, if_neg halted, inbound, answer, onPong, owned]
        rw [verify_eq found]
      rw [effects, ← named, dismissed_settled]

end

section

variable {chance : Chance} {config : Config} {me : Identity} {p : Puncher} {log : List Deed} {c : Surroundings}
  {alarms : Alarms PunchAlarm} {input : PunchInput} {key : PeerKey} {hs : Handshake} {target : Contact} {path : Path}

theorem Run.mindful (run : Run chance (ofConfig config me) log p) (distinct : chance.Distinct p.drawn) : p.Mindful (done log) := by
  induction run with
  | start =>
    intro key hs parent found
    cases found
  | @step p log c before same alarms input ih =>
    subst same
    have moves := react_moves (c := c) (p := { p with alarms }) input
    have earlier := distinct.mono moves.drawn_le
    have mindful := moves.mindful (p := { p with alarms }) (ih earlier) ((before.accounted earlier).with_alarms alarms) distinct
    simpa [done] using mindful

/-- A handshake that leads to a path tells the parent that it has asked last to stop forwarding, and no other that it has
asked: all of them are told if they are all the same one, and only then. -/
theorem last_asked_dismissed (run : Run chance (ofConfig config me) log p) (distinct : chance.Distinct p.drawn)
    (pending : p.handshakes.get? key = some hs)
    (reported : .report (.verified key target path) ∈ (({ p with alarms }).react c input).2) :
    let parents := consulted hs.pingId (done log)
    let told := dismissed target.node (({ p with alarms }).react c input).2
    (parents ≠ [] → told = parents.getLast?.toList) ∧
      ((∀ parent ∈ parents, parent ∈ told) ↔ ∀ one ∈ parents, ∀ other ∈ parents, one = other) := by
  intro parents told
  have known : told = hs.parent.toList := dismissed_of_verified (p := { p with alarms }) run.apart pending reported
  have last {parent : Address} (ends : parents.getLast? = some parent) : told = [parent] := by
    rw [known, run.mindful distinct key hs parent pending ends]
    rfl
  constructor
  · intro some
    have ends := List.getLast?_eq_some_getLast some
    rw [last ends, ends]
    rfl
  constructor
  · intro all one there other also
    have ends := List.getLast?_eq_some_getLast (List.ne_nil_of_mem there)
    rw [last ends] at all
    exact (List.mem_singleton.mp (all one there)).trans (List.mem_singleton.mp (all other also)).symm
  · intro same parent there
    have ends := List.getLast?_eq_some_getLast (List.ne_nil_of_mem there)
    rw [last ends, List.mem_singleton]
    exact same parent there _ (List.getLast_mem _)

/-- A handshake has asked both parents of its target, each at one attempt. The pong that settles it has only the second told. -/
theorem second_of_two_dismissed :
    let c : Surroundings := ⟨0, 0, (Roster.empty 3).enter 1 .unrestricted, .counting 0⟩
    let caller := ofConfig {} ⟨⟨.ofOctets 10 0 0 1, 4000, 1⟩, 0, none⟩
    let first : Address := ⟨.ofOctets 10 0 0 91, 3478, 91⟩
    let second : Address := ⟨.ofOctets 10 0 0 92, 3478, 92⟩
    let target : Contact :=
      ⟨⟨.ofOctets 10 0 0 2, 5000, 2⟩, 0, .natted .endpointIndependent .portPreservation .endpointIndependent, [first, second]⟩
    let called := caller.react c (.command (.connect target (.ok [])))
    let again := called.1.react c (.alarm (.retry target.key ((Chance.counting 0).ticket 1)))
    let log : List Deed :=
      [⟨.command (.connect target (.ok [])), called.2⟩, ⟨.alarm (.retry target.key ((Chance.counting 0).ticket 1)), again.2⟩]
    let pong : Message := ⟨target, caller.me.address, (Chance.counting 0).ticket 0, .udp, .punchPong⟩
    let settled := again.1.react c (.command (.inbound pong target.address.socket caller.me.address.socket))
    ∃ hs, again.1.handshakes.get? target.key = some hs ∧ consulted hs.pingId (done log) = [first, second] ∧
      .report (.verified target.key target ⟨target.address.socket, 4000⟩) ∈ settled.2 ∧ dismissed 2 settled.2 = [second] := by
  intro c caller first second target called again log pong settled
  have run : Run (.counting 0) caller log again.1 := (run_react caller c _).trans (run_react called.1 c _)
  have distinct : (Chance.counting 0).Distinct again.1.drawn := Chance.counting_distinct (by decide +kernel)
  have reported : .report (.verified target.key target ⟨target.address.socket, 4000⟩) ∈ settled.2 := by decide +kernel
  have both : (again.1.handshakes.get? target.key).map (fun hs => consulted hs.pingId (done log)) = some [first, second] := by
    decide +kernel
  obtain ⟨hs, pending, parents⟩ := Option.map_eq_some_iff.mp both
  obtain ⟨last, _⟩ := last_asked_dismissed run distinct pending reported
  have told : dismissed 2 settled.2 = (consulted hs.pingId (done log)).getLast?.toList := last (by rw [parents]; exact List.cons_ne_nil _ _)
  refine ⟨hs, pending, parents, reported, ?_⟩
  rw [told, parents]
  rfl

/-- What has asked two parents leaves the first of them without word, then or before. -/
theorem not_always_dismissed :
    ¬ ∀ (chance : Chance) (config : Config) (me : Identity) (log : List Deed) (p : Puncher) (c : Surroundings)
      (input : PunchInput) (key : PeerKey) (hs : Handshake) (target : Contact) (path : Path),
      Run chance (ofConfig config me) log p → c.chance = chance → chance.Distinct p.drawn →
      p.handshakes.get? key = some hs → hs.responder = false →
      .report (.verified key target path) ∈ (p.react c input).2 →
      ∀ parent ∈ consulted hs.pingId (done log), parent ∈ dismissed target.node (done log ++ (p.react c input).2) := by
  intro always
  let c : Surroundings := ⟨0, 0, (Roster.empty 3).enter 1 .unrestricted, .counting 0⟩
  let me : Identity := ⟨⟨.ofOctets 10 0 0 1, 4000, 1⟩, 0, none⟩
  let first : Address := ⟨.ofOctets 10 0 0 91, 3478, 91⟩
  let target : Contact := ⟨⟨.ofOctets 10 0 0 2, 5000, 2⟩, 0, .natted .endpointIndependent .portPreservation .endpointIndependent,
    [first, ⟨.ofOctets 10 0 0 92, 3478, 92⟩]⟩
  let pong : Message := ⟨target, me.address, (Chance.counting 0).ticket 0, .udp, .punchPong⟩
  let called := (ofConfig {} me).react c (.command (.connect target (.ok [])))
  let again := called.1.react c (.alarm (.retry target.key ((Chance.counting 0).ticket 1)))
  let log : List Deed :=
    [⟨.command (.connect target (.ok [])), called.2⟩, ⟨.alarm (.retry target.key ((Chance.counting 0).ticket 1)), again.2⟩]
  let answer : PunchInput := .command (.inbound pong target.address.socket me.address.socket)
  have run : Run (.counting 0) (ofConfig {} me) log again.1 := (run_react _ c _).trans (run_react called.1 c _)
  have calls : (again.1.handshakes.get? target.key).map (fun hs => (hs.responder, consulted hs.pingId (done log))) =
      some (false, target.parents) := by
    decide +kernel
  obtain ⟨hs, pending, parents⟩ := Option.map_eq_some_iff.mp calls
  obtain ⟨initiator, parents⟩ := Prod.mk.inj parents
  have told := always _ _ _ log again.1 c answer target.key hs target ⟨target.address.socket, 4000⟩ run rfl
    (Chance.counting_distinct (by decide +kernel)) pending initiator (by decide +kernel) first
    (by rw [parents]; exact List.mem_cons_self)
  exact absurd told (by decide +kernel)

end

end Puncher

end NatTraversal
