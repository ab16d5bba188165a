import NatTraversal.Proofs.Courier.Liaison
import NatTraversal.Proofs.Punch.Bookkeeping

namespace NatTraversal

/-- The parent of a slot, if it is registered. -/
def Slot.parent? (slot : Slot) : Option Address := if slot.registered then some slot.address else none

namespace PunchEvent

/-- The parent that an event is about. -/
def parent? : PunchEvent → Option Address
  | .parentRegistered parent => some parent
  | .parentLost parent => some parent
  | _ => none

/-- What the parents of a natted node become upon what it hears, where it may have so many at most. -/
def amend (limit : Nat) (parents : List Address) : PunchEvent → List Address
  | .parentRegistered parent => if limit ≤ parents.length ∨ parent ∈ parents then parents else parents ++ [parent]
  | .parentLost parent => parents.filter (· != parent)
  | _ => parents

variable {limit : Nat} {parents : List Address}

theorem amend_of_other {event : PunchEvent} (other : event.parent? = none) : amend limit parents event = parents := by
  cases event with
  | parentRegistered parent => cases other
  | parentLost parent => cases other
  | _ => rfl

theorem foldl_amend_of_others {events : List PunchEvent} (others : ∀ event ∈ events, event.parent? = none) :
    events.foldl (amend limit) parents = parents := by
  induction events with
  | nil => rfl
  | cons event events ih =>
    rw [List.forall_mem_cons] at others
    rw [List.foldl_cons, amend_of_other others.1]
    exact ih others.2

end PunchEvent

namespace Identity

variable {me : Identity} {roster : Roster} {standing : Standing}

theorem nat_of_standing (found : roster.nodes.get? me.node = some standing) : me.nat roster = standing.nat := by
  rw [nat, Roster.nat?, found]
  rfl

theorem parents_of_standing (found : roster.nodes.get? me.node = some standing) : me.parents roster = standing.parents := by
  rw [parents, Roster.parents, found]
  rfl

/-- A node that is behind a translator stands in the roster. -/
theorem standing_of_natted (natted : (me.nat roster).isOpen = false) :
    ∃ standing, roster.nodes.get? me.node = some standing ∧ standing.nat.isOpen = false := by
  cases known : roster.nodes.get? me.node with
  | none =>
    rw [nat, Roster.nat?, known] at natted
    cases natted
  | some standing => exact ⟨standing, rfl, nat_of_standing known ▸ natted⟩

end Identity

namespace Courier

/-- Whether a courier is still behind a translator, and what its parents are now. -/
structure Amends (courier later : Courier) (parents : List Address) : Prop where
  me : later.me = courier.me
  limit : later.roster.maxParents = courier.roster.maxParents
  natted : (later.me.nat later.roster).isOpen = false
  parents : later.me.parents later.roster = parents

variable {courier : Courier}

/-- The roster has another standing of the node. -/
theorem Amends.of_standing {later : Courier} {standing : Standing} (me : later.me = courier.me)
    (roster : later.roster = { courier.roster with nodes := courier.roster.nodes.insert courier.me.node standing })
    (natted : standing.nat.isOpen = false) : courier.Amends later standing.parents := by
  have found : later.roster.nodes.get? later.me.node = some standing := by
    rw [roster, me, Table.get?_insert, if_pos rfl]
  exact ⟨me, by rw [roster], Identity.nat_of_standing found ▸ natted, Identity.parents_of_standing found⟩

theorem Amends.of_same {later : Courier} (me : later.me = courier.me) (roster : later.roster = courier.roster)
    (natted : (courier.me.nat courier.roster).isOpen = false) : courier.Amends later (courier.me.parents courier.roster) := by
  refine ⟨me, by rw [roster], ?_, ?_⟩
  · rw [me, roster]
    exact natted
  · rw [me, roster]

theorem onPunch_amends (natted : (courier.me.nat courier.roster).isOpen = false) (event : PunchEvent) :
    courier.Amends (courier.onPunch event).1 (event.amend courier.roster.maxParents (courier.me.parents courier.roster)) := by
  obtain ⟨standing, found, closed⟩ := Identity.standing_of_natted natted
  have parents := Identity.parents_of_standing found
  cases event with
  | parentRegistered parent =>
    rw [PunchEvent.amend]
    by_cases refused : courier.roster.maxParents ≤ standing.parents.length ∨ parent ∈ standing.parents
    · have same : courier.roster.addParent courier.me.node parent = (false, courier.roster) := by
        simp only [Roster.addParent, found, closed, Bool.false_or]
        refine if_pos ?_
        simpa using refused
      rw [parents, if_pos refused, ← parents]
      simp only [onPunch, same]
      exact .of_same rfl rfl natted
    · have added : courier.roster.addParent courier.me.node parent = (true, { courier.roster with
          nodes := courier.roster.nodes.insert courier.me.node { standing with parents := standing.parents ++ [parent] } }) := by
        simp only [Roster.addParent, found, closed, Bool.false_or]
        refine if_neg ?_
        simpa using refused
      rw [parents, if_neg refused]
      simp only [onPunch, added]
      exact @Amends.of_standing courier _ { standing with parents := standing.parents ++ [parent] } rfl rfl closed
  | parentLost parent =>
    rw [PunchEvent.amend, parents]
    simp only [onPunch, Roster.removeParent, found]
    exact @Amends.of_standing courier _ { standing with parents := standing.parents.filter (· != parent) } rfl rfl closed
  | pathClosed key path =>
    simp only [onPunch]
    split <;> exact .of_same rfl rfl natted
  | _ => exact .of_same rfl rfl natted

theorem onClassified_amends (natted : (courier.me.nat courier.roster).isOpen = false) {nat : NatType} (still : nat.isOpen = false) :
    courier.Amends (courier.onClassified nat).1 (courier.me.parents courier.roster) := by
  obtain ⟨standing, found, _⟩ := Identity.standing_of_natted natted
  rw [Identity.parents_of_standing found]
  refine @Amends.of_standing courier _ ⟨nat, standing.parents⟩ rfl ?_ still
  simp only [onClassified, Roster.setNat, found, still, Bool.false_eq_true, if_false]

theorem send_amends (natted : (courier.me.nat courier.roster).isOpen = false) (c : CourierContext) (dest : Contact) (parcel : Parcel) :
    courier.Amends (courier.send c dest parcel).2.1 (courier.me.parents courier.roster) := by
  obtain ⟨queued, paths, kept⟩ := courier.send_keeps c dest parcel
  rw [kept]
  exact .of_same rfl rfl natted

end Courier

namespace Puncher

/-- The addresses of the registered slots. -/
def parentAddresses (p : Puncher) : List Address := p.slots.values.filterMap (·.parent?)

/-- Whether a list names the address of every registered slot once, and nothing else. -/
structure Agrees (p : Puncher) (parents : List Address) : Prop where
  nodup : parents.Nodup
  perm : parents.Perm p.parentAddresses

/-- Whether whoever accepts is where the parent has been if the slot is registered already, and where no parent is if it is not. -/
def Faithful (p : Puncher) (input : PunchInput) : Prop :=
  ∀ answer remote here key, input = .command (.inbound answer remote here) → answer.body = .registerResponse .accepted →
    p.requests.get? answer.ticket = some key →
      ∀ other slot, p.slots.get? other = some slot → slot.registered = true → (slot.address = answer.source.address ↔ other = key)

section

variable {c : Surroundings} {effects : List PunchEffect} {input : PunchInput} {key : Socket} {later slot : Slot} {limit : Nat}
  {p q : Puncher} {parents : List Address}

theorem mem_parentAddresses {address : Address} :
    address ∈ p.parentAddresses ↔ ∃ key slot, p.slots.get? key = some slot ∧ slot.registered = true ∧ slot.address = address := by
  simp only [parentAddresses, List.mem_filterMap, Table.mem_values_iff, Slot.parent?, Option.ite_none_right_eq_some, Option.some.injEq]
  constructor
  · rintro ⟨slot, ⟨key, known⟩, registered⟩
    exact ⟨key, slot, known, registered⟩
  · rintro ⟨key, slot, known, registered⟩
    exact ⟨slot, ⟨key, known⟩, registered⟩

theorem length_parentAddresses_le (p : Puncher) : p.parentAddresses.length ≤ p.busyCount := by
  rw [parentAddresses, List.length_filterMap_eq_countP, busyCount, ← List.countP_eq_length_filter]
  refine List.countP_mono_left fun slot _ named => ?_
  cases registered : slot.registered with
  | true => rfl
  | false =>
    rw [Slot.parent?, registered] at named
    cases named

theorem parentAddresses_insert_of_known (known : p.slots.get? key = some slot) :
    ∃ before after, p.parentAddresses = before ++ (slot.parent?.toList ++ after) ∧
      ∀ (q : Puncher) (later : Slot), q.slots = p.slots.insert key later →
        q.parentAddresses = before ++ (later.parent?.toList ++ after) := by
  obtain ⟨before, after, values, inserted⟩ := Table.values_insert_of_known known
  have split : ∀ slot : Slot, (before ++ slot :: after).filterMap (·.parent?) =
      before.filterMap (·.parent?) ++ (slot.parent?.toList ++ after.filterMap (·.parent?)) := by
    intro slot
    rw [List.filterMap_append, List.filterMap_cons]
    cases slot.parent? <;> rfl
  refine ⟨before.filterMap (·.parent?), after.filterMap (·.parent?), ?_, fun q later same => ?_⟩
  · rw [parentAddresses, values, split]
  · rw [parentAddresses, same, inserted, split]

theorem parentAddresses_insert_same (same : q.slots = p.slots.insert key later)
    (kept : later.parent? = (p.slots.get? key).bind (·.parent?)) : q.parentAddresses = p.parentAddresses := by
  cases known : p.slots.get? key with
  | none =>
    rw [known, Option.bind_none] at kept
    rw [parentAddresses, same, Table.values_insert_of_new known, List.filterMap_append, List.filterMap_cons_none kept,
      List.filterMap_nil, List.append_nil]
    rfl
  | some slot =>
    rw [known, Option.bind_some] at kept
    obtain ⟨before, after, now, inserted⟩ := parentAddresses_insert_of_known known
    rw [inserted q later same, now, kept]

theorem Agrees.of_same (agrees : p.Agrees parents) (same : q.parentAddresses = p.parentAddresses) : q.Agrees parents :=
  ⟨agrees.nodup, same ▸ agrees.perm⟩

theorem Agrees.enters {parent : Address} {before after : List Address} (agrees : p.Agrees parents)
    (earlier : p.parentAddresses = before ++ after) (now : q.parentAddresses = before ++ parent :: after) (new : parent ∉ parents)
    (room : q.busyCount ≤ limit) : q.Agrees (PunchEvent.amend limit parents (.parentRegistered parent)) := by
  -- The new parent counts among the busy slots already, so there is room for it.
  have free : ¬ (limit ≤ parents.length ∨ parent ∈ parents) := by
    refine not_or.mpr ⟨?_, new⟩
    have most := Nat.le_trans q.length_parentAddresses_le room
    rw [now, List.length_append, List.length_cons] at most
    rw [agrees.perm.length_eq, earlier, List.length_append]
    omega
  have last := List.perm_append_singleton parent parents
  rw [PunchEvent.amend, if_neg free]
  refine ⟨last.nodup_iff.mpr (List.nodup_cons.mpr ⟨new, agrees.nodup⟩), last.trans ?_⟩
  rw [now]
  refine .trans ?_ List.perm_middle.symm
  rw [← earlier]
  exact agrees.perm.cons _

theorem Agrees.drops {parent : Address} {before after : List Address} (agrees : p.Agrees parents)
    (earlier : p.parentAddresses = before ++ parent :: after) (now : q.parentAddresses = before ++ after) (limit : Nat) :
    q.Agrees (PunchEvent.amend limit parents (.parentLost parent)) := by
  have first : parents.Perm (parent :: (before ++ after)) := by
    refine agrees.perm.trans ?_
    rw [earlier]
    exact List.perm_middle
  rw [PunchEvent.amend]
  refine ⟨agrees.nodup.filter _, ?_⟩
  rw [← agrees.nodup.erase_eq_filter, now]
  have gone := first.erase parent
  rwa [List.erase_cons_head] at gone

/-- What a parent answers, and what its silence leads to. Where there is room for another parent, it is entered. -/
theorem Opening.amends (opening : Opening c input p q effects) (agrees : p.Agrees parents) (faithful : p.Faithful input)
    (room : q.busyCount ≤ limit) : q.Agrees ((reports effects).foldl (PunchEvent.amend limit) parents) := by
  cases opening with
  | @settles id key alarms halted mapped =>
    refine agrees.of_same ?_
    cases known : p.slots.get? key with
    | none =>
      rw [Table.modify_eq_self known]
      rfl
    | some slot =>
      have slots := Table.modify_eq_insert known fun slot => { slot with pending := none }
      refine parentAddresses_insert_same slots ?_
      rw [known]
      rfl
  | @accepts answer remote here key slot alarms given accepted mapped known =>
    have honest := faithful answer remote here key given accepted mapped
    obtain ⟨before, after, earlier, inserted⟩ := parentAddresses_insert_of_known known
    have now := inserted { p with
      requests := p.requests.erase answer.ticket, slots := p.slots.insert key ⟨answer.source.address, true, none⟩, alarms } _ rfl
    -- Nothing is told of a slot that is registered already, so its address must not change.
    cases registered : slot.registered with
    | true =>
      refine agrees.of_same (now.trans ?_)
      have stays : slot.address = answer.source.address := (honest key slot known registered).mpr rfl
      rw [earlier, Slot.parent?, Slot.parent?, registered, stays]
    | false =>
      rw [Slot.parent?, registered] at earlier
      refine agrees.enters earlier now ?_ room
      rw [agrees.perm.mem_iff, mem_parentAddresses]
      rintro ⟨other, taken, found, entered, same⟩
      rw [(honest other taken found entered).mp same] at found
      cases known.symm.trans found
      cases registered.symm.trans entered
  | @resends id key slot request rto alarms given mapped known waits some_left =>
    refine agrees.of_same (parentAddresses_insert_same rfl ?_)
    change _ = (p.slots.get? key).bind (·.parent?)
    rw [known]
    rfl

theorem Rests.no_news (rests : p.Rests q effects) : ∀ event ∈ reports effects, event.parent? = none := by
  intro event member
  obtain ⟨effect, done, told⟩ := List.mem_filterMap.mp member
  have silent := List.filter_eq_nil_iff.mp rests.silent effect done
  cases effect with
  | report other =>
    cases told
    cases event with
    | parentRegistered parent => exact absurd rfl silent
    | parentLost parent => exact absurd rfl silent
    | _ => rfl
  | _ => cases told

/-- A parent that is lost is taken out, and nothing else changes the parents. -/
theorem ParentMove.amends (move : ParentMove c input p q effects) (agrees : p.Agrees parents) :
    q.Agrees ((reports effects).foldl (PunchEvent.amend limit) parents) := by
  cases move with
  | rests rests =>
    rw [PunchEvent.foldl_amend_of_others rests.no_news]
    refine agrees.of_same ?_
    rw [parentAddresses, rests.slots]
    rfl
  | @enrolls key slot body alarms unhurried same free idle room asks =>
    refine agrees.of_same (parentAddresses_insert_same rfl ?_)
    have unlisted : slot.parent? = none := if_neg (by simp [free])
    cases known : p.slots.get? key with
    | none => exact unlisted
    | some old =>
      rw [same old known]
      rfl
  | renews unhurried known registered idle =>
    refine agrees.of_same (parentAddresses_insert_same rfl ?_)
    rw [known]
    rfl
  | @loses key slot known registered =>
    obtain ⟨before, after, earlier, inserted⟩ := parentAddresses_insert_of_known known
    have now := inserted { p with slots := p.slots.insert key { slot with registered := false } } _ rfl
    have listed : slot.parent? = some slot.address := if_pos registered
    rw [listed] at earlier
    exact agrees.drops earlier now limit

theorem ParentMoves.amends (moves : ParentMoves c input p q effects) (agrees : p.Agrees parents) :
    q.Agrees ((reports effects).foldl (PunchEvent.amend limit) parents) := by
  induction moves with
  | refl => exact agrees
  | step _ move ih =>
    rw [reports_append, List.foldl_append]
    exact move.amends ih

theorem Opening.enrollment (opening : Opening c input p q effects) : q.enrollment = p.enrollment := by
  cases opening <;> rfl

/-- What a puncher tells leads a node that knows its parents to the parents that there are now. -/
theorem ParentCourse.amends (course : ParentCourse c input p q effects) (agrees : p.Agrees parents) (booked : p.Booked)
    (faithful : p.Faithful input) (room : p.enrollment.maxParents.toNat ≤ limit) :
    q.Agrees ((reports effects).foldl (PunchEvent.amend limit) parents) := by
  cases course with
  | plain moves => exact moves.amends agrees
  | opened opening moves =>
    rw [reports_append, List.foldl_append]
    have few := (opening.booked booked).room
    rw [opening.enrollment] at few
    exact moves.amends (opening.amends agrees faithful (Nat.le_trans few room))

end

end Puncher

/-- Whether a node is classified as behind a translator, and whoever accepts does so from where a parent should. -/
def Happening.Regular : Happening → Prop
  | .reacted before input _ => before.Faithful input
  | .classified nat => nat.isOpen = false
  | _ => True

namespace Liaison

/-- The parents that the courier will have once it has heard all that is under way. -/
def foreseen (l : Liaison) : List Address :=
  l.unheard.foldl (PunchEvent.amend l.courier.roster.maxParents) (l.courier.me.parents l.courier.roster)

/-- Whether a node is behind a translator and may have the parents that it looks for, but has not looked for any yet. -/
structure Parentless (l : Liaison) : Prop where
  natted : (l.courier.me.nat l.courier.roster).isOpen = false
  alone : l.courier.me.parents l.courier.roster = []
  room : l.puncher.enrollment.maxParents.toNat ≤ l.courier.roster.maxParents
  slots : l.puncher.slots = .empty
  requests : l.puncher.requests = .empty
  silent : ∀ event ∈ l.unheard, event.parent? = none

/-- Whether the courier is to learn of the parents that the puncher has. -/
structure Concord (l : Liaison) : Prop where
  natted : (l.courier.me.nat l.courier.roster).isOpen = false
  room : l.puncher.enrollment.maxParents.toNat ≤ l.courier.roster.maxParents
  booked : l.puncher.Booked
  parents : l.puncher.Agrees l.foreseen

variable {config : Config} {l start : Liaison} {log : List Happening} {me : Identity} {nat : NatType}

/-- A node that is known to be behind a translator is built so. -/
theorem parentless_ofConfig (natted : nat.isOpen = false) :
    (ofConfig config me ((Roster.empty config.enrollment.maxParents.toNat).enter me.node nat)).Parentless := by
  have found : ((Roster.empty config.enrollment.maxParents.toNat).enter me.node nat).nodes.get? me.node = some ⟨nat, []⟩ :=
    (Table.get?_insert ..).trans (if_pos rfl)
  constructor
  · exact Identity.nat_of_standing found ▸ natted
  · exact Identity.parents_of_standing found
  · exact Nat.le_refl _
  · rfl
  · rfl
  · exact fun _ member => nomatch member

theorem Parentless.concord (parentless : l.Parentless) : l.Concord where
  natted := parentless.natted
  room := parentless.room
  booked := by
    refine ⟨fun id key known => ?_, ?_⟩
    · rw [parentless.requests] at known
      cases known
    · rw [Puncher.busyCount, parentless.slots]
      exact Nat.zero_le _
  parents := by
    rw [foreseen, PunchEvent.foldl_amend_of_others parentless.silent, parentless.alone]
    refine ⟨List.nodup_nil, ?_⟩
    rw [Puncher.parentAddresses, parentless.slots]
    exact .refl _

/-- A step of the courier that leaves what it is to learn as it was. -/
theorem Concord.amended (concord : l.Concord) {later : Courier} {unheard : List PunchEvent} {parents : List Address}
    (amends : l.courier.Amends later parents)
    (same : unheard.foldl (PunchEvent.amend l.courier.roster.maxParents) parents = l.foreseen) :
    ({ l with courier := later, unheard } : Liaison).Concord where
  natted := amends.natted
  room := amends.limit ▸ concord.room
  booked := concord.booked
  parents := by
    have ahead : ({ l with courier := later, unheard } : Liaison).foreseen = l.foreseen := by
      rw [← same, foreseen, amends.limit, amends.parents]
    rw [ahead]
    exact concord.parents

theorem Concord.reacts (concord : l.Concord) (c : Surroundings) (alarms : Alarms PunchAlarm) {input : PunchInput}
    (faithful : l.puncher.Faithful input) : (l.punched (({ l.puncher with alarms } : Puncher).react c input)).Concord := by
  have booked : ({ l.puncher with alarms } : Puncher).Booked := ⟨concord.booked.mapped, concord.booked.room⟩
  have agrees : ({ l.puncher with alarms } : Puncher).Agrees l.foreseen := ⟨concord.parents.nodup, concord.parents.perm⟩
  have course := Puncher.react_course (c := c) (p := { l.puncher with alarms }) input
  refine ⟨concord.natted, ?_, course.booked booked, ?_⟩
  · have kept := (Puncher.react_moves (c := c) (p := { l.puncher with alarms }) input).constant.2.2.2
    exact kept ▸ concord.room
  · rw [foreseen, punched, List.foldl_append]
    exact course.amends agrees booked faithful concord.room

theorem Run.concord (run : Run start log l) (parentless : start.Parentless) (regular : ∀ happening ∈ log, happening.Regular) :
    l.Concord := by
  induction run with
  | start => exact parentless.concord
  | reacts before c alarms input ih =>
    rw [List.forall_mem_append] at regular
    exact (ih regular.1).reacts c alarms (regular.2 _ (List.mem_singleton_self _))
  | @hears log l event later before next ih =>
    rw [List.forall_mem_append] at regular
    have concord := ih regular.1
    refine concord.amended (Courier.onPunch_amends concord.natted event) ?_
    rw [foreseen, next, List.foldl_cons]
  | sends before c dest parcel ih =>
    rw [List.forall_mem_append] at regular
    have concord := ih regular.1
    exact concord.amended (Courier.send_amends concord.natted c dest parcel) rfl
  | classifies before nat ih =>
    rw [List.forall_mem_append] at regular
    have concord := ih regular.1
    exact concord.amended (Courier.onClassified_amends concord.natted (regular.2 _ (List.mem_singleton_self _))) rfl

/-- As long as nobody accepts from another address than before, or from that of another parent: once no news of a parent is under
way, the parents of a node behind a translator are those that it is registered with. -/
theorem Run.parents_agree (run : Run start log l) (parentless : start.Parentless) (regular : ∀ happening ∈ log, happening.Regular)
    (heard : ∀ event ∈ l.unheard, event.parent? = none) (parent : Address) :
    parent ∈ l.courier.me.parents l.courier.roster ↔
      ∃ key slot, l.puncher.slots.get? key = some slot ∧ slot.registered = true ∧ slot.address = parent := by
  have agrees := (run.concord parentless regular).parents
  rw [foreseen, PunchEvent.foldl_amend_of_others heard] at agrees
  rw [agrees.perm.mem_iff, Puncher.mem_parentAddresses]

/-- A node has registered with a server, and has heard of it. -/
theorem registered_parents_agree :
    let nat : NatType := .natted .endpointIndependent .portPreservation .endpointIndependent
    let server : Contact := ⟨⟨.ofOctets 10 0 0 9, 3478, 9⟩, 0, .unrestricted, []⟩
    let config : Config := { enrollment := { servers := [server.address] } }
    let me : Identity := ⟨⟨.ofOctets 10 0 0 1, 4000, 1⟩, 0, none⟩
    let c : Surroundings := ⟨0, 0, (Roster.empty config.enrollment.maxParents.toNat).enter me.node nat, .counting 0⟩
    let start := ofConfig config me c.roster
    let enroll : PunchInput := .command .startEnrollment
    let accepts : PunchInput := .command (.inbound ⟨server, me.address, c.chance.ticket 2, .udp, .registerResponse .accepted⟩
      server.address.socket me.address.socket)
    let asked := start.punched (start.puncher.react c enroll)
    let registered := asked.punched (asked.puncher.react c accepts)
    let joined := ({ registered with unheard := [] }).carried (registered.courier.onPunch (.parentRegistered server.address))
    let log : List Happening := [.reacted start.puncher enroll (start.puncher.react c enroll),
      .reacted asked.puncher accepts (asked.puncher.react c accepts), .heard (.parentRegistered server.address)]
    Run start log joined ∧ start.Parentless ∧ (∀ happening ∈ log, happening.Regular) ∧ joined.unheard = [] ∧
      joined.courier.me.parents joined.courier.roster = [server.address] ∧
      (server.address ∈ joined.courier.me.parents joined.courier.roster ↔
        ∃ key slot, joined.puncher.slots.get? key = some slot ∧ slot.registered = true ∧ slot.address = server.address) := by
  intro nat server config me c start enroll accepts asked registered joined log
  have run : Run start log joined :=
    .hears (.reacts (.reacts .start c start.puncher.alarms enroll) c asked.puncher.alarms accepts) (by decide +kernel)
  have parentless : start.Parentless := parentless_ofConfig rfl
  have free : ∀ slot ∈ asked.puncher.slots.values, slot.registered = false := by decide +kernel
  have regular : ∀ happening ∈ log, happening.Regular := by
    simp only [log, List.forall_mem_cons]
    refine ⟨fun answer remote here key given => by simp [enroll] at given, ?_, trivial, by simp⟩
    · rintro answer remote here key - - - other slot found entered
      cases (free slot (Table.mem_values_iff.mpr ⟨other, found⟩)).symm.trans entered
  exact ⟨run, parentless, regular, rfl, by decide +kernel, run.parents_agree parentless regular (by simp [joined, carried]) server.address⟩

/-- Two candidates accept as the same server, and then one of the sessions ends: the node is still registered with the server, but
no longer counts it among its parents. Or the first of them is asked to keep the session, and another server accepts: the node is
registered with that one from then on, but still counts the first among its parents, and not the other. -/
theorem parents_may_disagree :
    let nat : NatType := .natted .endpointIndependent .portPreservation .endpointIndependent
    let server : Contact := ⟨⟨.ofOctets 10 0 0 9, 3478, 9⟩, 0, .unrestricted, []⟩
    let mirror : Contact := ⟨⟨.ofOctets 10 0 0 6, 3478, 6⟩, 0, .unrestricted, []⟩
    let east : Address := ⟨.ofOctets 10 0 0 7, 3478, 9⟩
    let west : Address := ⟨.ofOctets 10 0 0 8, 3478, 9⟩
    let config : Config := { enrollment := { servers := [east, west] } }
    let me : Identity := ⟨⟨.ofOctets 10 0 0 1, 4000, 1⟩, 0, none⟩
    let c : Surroundings := ⟨0, 0, (Roster.empty config.enrollment.maxParents.toNat).enter me.node nat, .counting 0⟩
    let start := ofConfig config me c.roster
    let enroll : PunchInput := .command .startEnrollment
    let accepts (source : Contact) (number : Nat) : PunchInput :=
      .command (.inbound ⟨source, me.address, c.chance.ticket number, .udp, .registerResponse .accepted⟩
        source.address.socket me.address.socket)
    let ends : PunchInput := .command (.inbound (Message.plain server me.address .expire) east.socket me.address.socket)
    let hearing (l : Liaison) (event : PunchEvent) : Liaison := ({ l with unheard := [] }).carried (l.courier.onPunch event)
    let asked := start.punched (start.puncher.react c enroll)
    let first := asked.punched (asked.puncher.react c (accepts server 2))
    let once := hearing first (.parentRegistered server.address)
    let second := once.punched (once.puncher.react c (accepts server 3))
    let twice := hearing second (.parentRegistered server.address)
    let ended := twice.punched (twice.puncher.react c ends)
    let bereft := hearing ended (.parentLost server.address)
    let refreshed := once.punched (once.puncher.react c (.alarm .refresh))
    let moved := refreshed.punched (refreshed.puncher.react c (accepts mirror 4))
    start.Parentless ∧
      ((∃ log, Run start log bereft) ∧ bereft.unheard = [] ∧
        bereft.puncher.slots.get? west.socket = some ⟨server.address, true, none⟩ ∧
        bereft.courier.me.parents bereft.courier.roster = []) ∧
      (∃ log, Run start log moved) ∧ moved.unheard = [] ∧
        moved.puncher.slots.get? east.socket = some ⟨mirror.address, true, none⟩ ∧
        moved.courier.me.parents moved.courier.roster = [server.address] := by
  intro nat server mirror east west config me c start enroll accepts ends hearing asked first once second twice ended bereft refreshed moved
  have told_first : first.unheard = [.parentRegistered server.address] := by decide +kernel
  have told_second : second.unheard = [.parentRegistered server.address] := by decide +kernel
  have told_ended : ended.unheard = [.parentLost server.address] := by decide +kernel
  have run_once := ((Run.reacting (l := start) .start c enroll).reacting c (accepts server 2)).hears told_first
  have run_twice := (Run.reacting (l := once) run_once c (accepts server 3)).hears told_second
  have run_bereft := (Run.reacting (l := twice) run_twice c ends).hears told_ended
  have run_moved := (Run.reacting (l := once) run_once c (.alarm .refresh)).reacting c (accepts mirror 4)
  refine ⟨parentless_ofConfig rfl, ⟨⟨_, run_bereft⟩, rfl, ?_, ?_⟩, ⟨_, run_moved⟩, ?_, ?_, ?_⟩ <;> decide +kernel

end Liaison

end NatTraversal
