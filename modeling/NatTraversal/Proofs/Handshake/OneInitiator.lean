import NatTraversal.Proofs.Handshake.Advance
import NatTraversal.Proofs.Network.Rehearsal

namespace NatTraversal

/-- How far the way of one node to its path has come: a responder's begins with the request that is passed on to it, an
initiator's with its ping. -/
inductive Course where
  | request
  | forward
  | ping
  | pong
  | delete
  | done
deriving DecidableEq, Repr

namespace Course

def advance : Course → Advance
  | request | forward => .idle
  | ping | pong => .waiting
  | delete | done => .verified

/-- What is under way for a course. -/
def signals (parties : Parties) (side : Side) (attempt : Attempt) : Course → List Signal
  | request => [.request side.other attempt.remote.port]
  | forward => [.forward side.other attempt.remote.port]
  | ping => [.ping side attempt.port attempt.remote attempt.id]
  | pong => [.pong attempt.remote (parties.socket side attempt.port) attempt.id]
  | delete => [.delete side]
  | done => []

end Course

namespace World

/-- A world in which one node is to connect to the other, and nothing has passed between the two. The target is natted,
its only parent is the server, and the initiator is open or has a parent of its own. -/
structure OneCall (w : World) (side : Side) (horizon : Nat) : Prop where
  stands : w.Stands w.parties
  lists : w.Lists w.parties horizon side.other
  natted : (w.parties.contact side.other).isOpen = false
  parents : (w.parties.contact side.other).parents = [w.server.me.address]
  askable : ((w.parties.me side).nat (w.parties.roster side)).isOpen = true ∨
    (w.parties.me side).parents (w.parties.roster side) ≠ []
  idle : ∀ one, (w.view one).handshake (w.parties.key one.other) = none
  apart : ∀ one, (w.view one).path (w.parties.key one.other) = none
  silent : ∀ one, (w.peer one).log = []
  calls : w.calls side = [w.parties.contact side.other]
  answers : w.calls side.other = []
  flight : w.flight = []

/-- Each node has one path to the other, from and to sockets that are bound, and was told so once and of nothing else; no
handshake is left, and the server forwards between the two no longer. -/
structure Agrees (parties : Parties) (side : Side) (w : World) : Prop where
  paths : ∃ port, w.holds side (parties.socket side port) = true ∧
    ((w.view side).path (parties.key side.other)).map (·.path) = some ⟨parties.main side.other, port⟩ ∧
    ((w.view side.other).path (parties.key side)).map (·.path) =
      some ⟨parties.socket side port, parties.mainPort side.other⟩
  idle : ∀ one, (w.view one).handshake (parties.key one.other) = none
  told : ∀ one, ∃ target path, (w.peer one).log = [.verified (parties.key one.other) target path]
  parted : ∀ one, w.server.sessions.isForwarding (parties.me one).node (parties.me one.other).node = false

/-- Both nodes on their courses, with attempts that aim at each other. -/
structure Meeting (parties : Parties) (horizon : Nat) (side : Side) (attempt : Side → Attempt) (course : Side → Course)
    (w : World) : Prop where
  stands : w.Stands parties
  lists : w.Lists parties horizon side.other
  calls : ∀ one, w.calls one = []
  holds : ∀ one, w.holds one (parties.socket one (attempt one).port) = true
  aims : ∀ one, (attempt one).remote = parties.socket one.other (attempt one.other).port
  shows : ∀ one, parties.Shows one (attempt one) (w.view one) (w.peer one).log (course one).advance
  main : (attempt side.other).port = parties.mainPort side.other
  begun : (course side).advance ≠ .idle
  settled : course side.other = .done → ∀ one,
    ((parties.me one).node, (parties.me one.other).node) ∉ w.server.sessions.forwarding

variable {parties : Parties} {horizon now clock : Nat} {side one : Side} {attempt : Side → Attempt} {course next : Side → Course}
  {w later : World}

/-- What is under way: for one node, for the other, and answers of the server. -/
def underWay (parties : Parties) (attempt : Side → Attempt) (course : Side → Course) (answers : List Signal) (one : Side) :
    List Signal :=
  (course one).signals parties one (attempt one) ++
    ((course one.other).signals parties one.other (attempt one.other) ++ answers)

theorem underWay_perm (parties : Parties) (attempt : Side → Attempt) (course : Side → Course) (answers : List Signal)
    (one another : Side) :
    (underWay parties attempt course answers one).Perm (underWay parties attempt course answers another) := by
  rcases one.eq_or_eq_other another with rfl | rfl
  · exact .refl _
  · unfold underWay
    rw [Side.other_other, ← List.append_assoc, ← List.append_assoc]
    exact List.perm_append_comm.append_right answers

/-- A node that has taken in a packet is as far as the next courses say. -/
theorem Meeting.take {view : PunchView} {events : List PunchEvent} {sent : List Signal} {result : Peer × List Packet}
    (meeting : w.Meeting parties horizon side attempt course)
    (outcome : Peer.Outcome parties one (w.peer one) view (fun socket => (w.peer one).holds socket = true) events sent result)
    (shows : parties.Shows one (attempt one) view ((w.peer one).log ++ events) (next one).advance)
    (still : (next one.other).advance = (course one.other).advance) (begun : (next side).advance ≠ .idle)
    (undone : next side.other = .done → course side.other = .done) :
    (w.take one result).Meeting parties horizon side attempt next := by
  refine ⟨?_, meeting.lists, meeting.calls, ?_, meeting.aims, ?_, meeting.main, begun, fun done => meeting.settled (undone done)⟩
  · exact meeting.stands.take_of_le outcome (meeting.stands.main one) fun _ held => held
  · intro another
    rcases one.eq_or_eq_other another with rfl | rfl
    · rw [take_holds outcome]
      exact meeting.holds another
    · rw [take_holds_other]
      exact meeting.holds _
  · intro another
    rcases one.eq_or_eq_other another with rfl | rfl
    · rw [take_view outcome, take_log outcome]
      exact shows
    · rw [take_view_other, take_peer_other, still]
      exact meeting.shows _

theorem Meeting.opens {signals rest : List Signal} {packet : Packet} {signal : Signal} {opened : World}
    (meeting : w.Meeting parties horizon side attempt course) (opens : w.Opens parties signals packet signal rest opened) :
    opened.Meeting parties horizon side attempt course := by
  obtain ⟨_, _, _, stands, peer, server, calls⟩ := opens
  have same : opened = { w with flight := opened.flight, serverRoster := opened.serverRoster, serverChance := opened.serverChance } := by
    cases opened
    cases peer
    cases server
    cases calls
    rfl
  rw [same]
  exact ⟨same ▸ stands, meeting.lists, meeting.calls, meeting.holds, meeting.aims, meeting.shows, meeting.main, meeting.begun,
    meeting.settled⟩

theorem Meeting.relaying {forwarding : List (UInt32 × UInt32)} {packets : List Packet}
    (meeting : w.Meeting parties horizon side attempt course) (still : ∀ one, (next one).advance = (course one).advance)
    (settled : next side.other = .done → ∀ one, ((parties.me one).node, (parties.me one.other).node) ∉ forwarding) :
    (w.relaying forwarding packets).Meeting parties horizon side attempt next where
  stands := meeting.stands.relaying forwarding packets
  lists := meeting.lists
  calls := meeting.calls
  holds := meeting.holds
  aims := meeting.aims
  shows one := by
    rw [still]
    exact meeting.shows one
  main := meeting.main
  begun := by
    rw [still]
    exact meeting.begun
  settled := settled

theorem advance_update {moved : Course} (same : moved.advance = (course one).advance) (another : Side) :
    (Function.update course one moved another).advance = (course another).advance := by
  by_cases own : another = one
  · rw [own, Function.update_self, same]
  · rw [Function.update_of_ne own]

theorem update_ne_done {moved : Course} (undone : moved ≠ .done) (another : Side)
    (done : Function.update course one moved another = .done) : course another = .done := by
  by_cases own : another = one
  · rw [own, Function.update_self] at done
    exact absurd done undone
  · rwa [Function.update_of_ne own] at done

theorem Meeting.begun_update {moved : Course} (meeting : w.Meeting parties horizon side attempt course)
    (begun : moved.advance ≠ .idle) : (Function.update course one moved side).advance ≠ .idle := by
  by_cases own : side = one
  · rwa [own, Function.update_self]
  · rw [Function.update_of_ne own]
    exact meeting.begun

theorem Meeting.take_own {moved : Course} {view : PunchView} {events : List PunchEvent} {sent : List Signal}
    {result : Peer × List Packet} (meeting : w.Meeting parties horizon side attempt course)
    (outcome : Peer.Outcome parties one (w.peer one) view (fun socket => (w.peer one).holds socket = true) events sent result)
    (shows : parties.Shows one (attempt one) view ((w.peer one).log ++ events) moved.advance) (begun : moved.advance ≠ .idle)
    (undone : moved ≠ .done) : (w.take one result).Meeting parties horizon side attempt (Function.update course one moved) := by
  refine meeting.take outcome ?_ ?_ (meeting.begun_update begun) (update_ne_done undone side.other)
  · rwa [Function.update_self]
  · rw [Function.update_of_ne one.other_ne]

/-- One course has moved on, and all the other signals are under way as before. -/
def Moves (parties : Parties) (horizon : Nat) (side : Side) (attempt : Side → Attempt) (course : Side → Course) (one : Side)
    (rest : List Signal) (w : World) : Prop :=
  ∃ next answers, w.Meeting parties horizon side attempt (Function.update course one next) ∧
    w.Flies parties (rest ++ (next.signals parties one (attempt one) ++ answers)) ∧
    ∀ answer ∈ answers, ∃ another, answer = .answer (parties.socket another (attempt another).port)

section

variable {packet : Packet} {rest : List Signal}

/-- Only the target's course begins with a request. -/
theorem Meeting.eq_other_of_idle (meeting : w.Meeting parties horizon side attempt course) (idle : (course one).advance = .idle) :
    one = side.other := by
  rcases side.eq_or_eq_other one with rfl | same
  · exact absurd idle meeting.begun
  · exact same

theorem Meeting.on_request (meeting : w.Meeting parties horizon side attempt course) (now : Nat) (flies : w.Flies parties rest)
    (here : course side.other = .request) (carries : parties.Carries packet (.request side (attempt side.other).remote.port))
    (early : clock ≤ horizon) : (w.deliver now clock packet).Moves parties horizon side attempt course side.other rest := by
  have aimed := meeting.aims side.other
  rw [Side.other_other] at aimed
  obtain ⟨forwarding, packets, served, carried⟩ := serve_request now meeting.stands meeting.lists early carries
  have delivers : w.deliver now clock packet = w.relaying forwarding packets :=
    (deliver_to_hub meeting.stands carries.2.1).trans served
  rw [delivers]
  refine ⟨.forward, [.answer (parties.socket side (attempt side.other).remote.port)], ?_, ?_, ?_⟩
  · refine meeting.relaying (advance_update (congrArg Course.advance here).symm) ?_
    intro done
    rw [Function.update_self] at done
    cases done
  · rw [Course.signals, Side.other_other]
    exact flies.relaying forwarding carried
  · intro answer member
    rw [List.mem_singleton.mp member, aimed]
    exact ⟨side, rfl⟩

theorem Meeting.on_forward (meeting : w.Meeting parties horizon side attempt course) (now clock : Nat) (flies : w.Flies parties rest)
    (here : course side.other = .forward) (carries : parties.Carries packet (.forward side.other.other (attempt side.other).remote.port)) :
    (w.deliver now clock packet).Moves parties horizon side attempt course side.other rest := by
  have held : w.holds side.other packet.dest = true := by
    rw [carries.1, Side.other_other]
    exact meeting.stands.main side.other
  have shown := meeting.shows side.other
  have aimed := meeting.aims side.other
  have port : (attempt side.other).remote.port = (attempt side.other.other).port := congrArg Socket.port aimed
  rw [here] at shown
  obtain ⟨view, shows, outcome⟩ := Peer.on_forward_shows now (meeting.stands.plays side.other) shown carries
    (meeting.stands.main side.other) meeting.main (port ▸ aimed)
  rw [deliver_to_holder meeting.stands held]
  refine ⟨.ping, [], meeting.take_own outcome ?_ (by simp [Course.advance]) (by simp), flies.take outcome, by simp⟩
  rw [List.append_nil]
  exact shows

theorem Meeting.on_ping (meeting : w.Meeting parties horizon side attempt course) (now clock : Nat) (flies : w.Flies parties rest)
    {receiver : Side} (here : course receiver.other = .ping)
    (carries : parties.Carries packet (.ping receiver.other (attempt receiver.other).port (attempt receiver.other).remote
      (attempt receiver.other).id)) :
    (w.deliver now clock packet).Moves parties horizon side attempt course receiver.other rest := by
  have aimed := meeting.aims receiver.other
  rw [Side.other_other] at aimed
  have held : w.holds receiver packet.dest = true := by
    rw [carries.2.1, aimed]
    exact meeting.holds receiver
  obtain ⟨view, shows, outcome⟩ := Peer.on_ping_shows now (meeting.stands.plays receiver) (meeting.shows receiver) carries
    aimed (carries.2.1 ▸ held) (meeting.aims receiver)
  rw [deliver_to_holder meeting.stands held]
  refine ⟨.pong, [], meeting.take outcome ?_ ?_ (meeting.begun_update (by simp [Course.advance])) (update_ne_done (by simp) side.other),
    flies.take outcome, by simp⟩
  · rw [List.append_nil, Function.update_of_ne receiver.ne_other]
    exact shows
  · rw [Function.update_self, here]
    rfl

theorem Meeting.on_pong (meeting : w.Meeting parties horizon side attempt course) (now clock : Nat) (flies : w.Flies parties rest)
    (here : course one = .pong)
    (carries : parties.Carries packet (.pong (attempt one).remote (parties.socket one (attempt one).port) (attempt one).id)) :
    (w.deliver now clock packet).Moves parties horizon side attempt course one rest := by
  have held : w.holds one packet.dest = true := by
    rw [carries.2.1]
    exact meeting.holds one
  have shown := meeting.shows one
  rw [here] at shown
  obtain ⟨view, events, shows, outcome⟩ := Peer.on_pong_shows now (meeting.stands.plays one) shown carries
    (meeting.stands.main one)
  rw [deliver_to_holder meeting.stands held]
  exact ⟨.delete, [], meeting.take_own outcome shows (by simp [Course.advance]) (by simp), flies.take outcome, by simp⟩

theorem Meeting.on_delete (meeting : w.Meeting parties horizon side attempt course) (now clock : Nat) (flies : w.Flies parties rest)
    (here : course one = .delete) (carries : parties.Carries packet (.delete one)) :
    (w.deliver now clock packet).Moves parties horizon side attempt course one rest := by
  obtain ⟨forwarding, served, own, opposite⟩ := serve_delete w now clock carries
  have delivers : w.deliver now clock packet = w.relaying forwarding [] :=
    (deliver_to_hub meeting.stands carries.1).trans served
  rw [delivers]
  refine ⟨.done, [], meeting.relaying (advance_update (congrArg Course.advance here).symm) ?_, flies.relaying forwarding .nil, by simp⟩
  intro _ another
  rcases one.eq_or_eq_other another with rfl | rfl
  · exact own
  · rw [Side.other_other]
    exact opposite

/-- What arrives of a course moves it on by one. -/
theorem Meeting.advances {signal : Signal} (meeting : w.Meeting parties horizon side attempt course) (now : Nat)
    (flies : w.Flies parties rest) (carries : parties.Carries packet signal) (early : clock ≤ horizon)
    (member : signal ∈ (course one).signals parties one (attempt one)) :
    (w.deliver now clock packet).Moves parties horizon side attempt course one rest := by
  cases here : course one with
  | request =>
    rw [here, Course.signals, List.mem_singleton] at member
    obtain rfl := meeting.eq_other_of_idle (congrArg Course.advance here)
    rw [member, Side.other_other] at carries
    exact meeting.on_request now flies here carries early
  | forward =>
    rw [here, Course.signals, List.mem_singleton] at member
    obtain rfl := meeting.eq_other_of_idle (congrArg Course.advance here)
    exact meeting.on_forward now clock flies here (member ▸ carries)
  | ping =>
    rw [here, Course.signals, List.mem_singleton] at member
    obtain ⟨receiver, rfl⟩ : ∃ receiver, one = receiver.other := ⟨one.other, (Side.other_other one).symm⟩
    exact meeting.on_ping now clock flies here (member ▸ carries)
  | pong =>
    rw [here, Course.signals, List.mem_singleton] at member
    exact meeting.on_pong now clock flies here (member ▸ carries)
  | delete =>
    rw [here, Course.signals, List.mem_singleton] at member
    exact meeting.on_delete now clock flies here (member ▸ carries)
  | done =>
    rw [here] at member
    cases member

end

theorem Course.signals_eq_singleton {signal : Signal} {course : Course} {attempt : Attempt}
    (member : signal ∈ course.signals parties one attempt) : course.signals parties one attempt = [signal] := by
  cases course with
  | done => cases member
  | _ =>
    simp only [Course.signals, List.mem_singleton] at member
    simp only [Course.signals, member]

/-- The two nodes meet: some courses account for what is under way, apart from answers of the server. -/
def Meets (parties : Parties) (horizon : Nat) (side : Side) (attempt : Side → Attempt) (w : World) : Prop :=
  ∃ course answers signals, w.Meeting parties horizon side attempt course ∧ w.Flies parties signals ∧
    signals.Perm (underWay parties attempt course answers side) ∧
    ∀ answer ∈ answers, ∃ one, answer = .answer (parties.socket one (attempt one).port)

theorem Moves.meets {signal : Signal} {rest answers : List Signal} (moves : w.Moves parties horizon side attempt course one rest)
    (member : signal ∈ (course one).signals parties one (attempt one))
    (total : (signal :: rest).Perm (underWay parties attempt course answers one))
    (answered : ∀ answer ∈ answers, ∃ another, answer = .answer (parties.socket another (attempt another).port)) :
    w.Meets parties horizon side attempt := by
  obtain ⟨next, more, meeting, flies, answeredMore⟩ := moves
  refine ⟨_, answers ++ more, _, meeting, flies, .trans ?_ (underWay_perm parties attempt _ _ one side), ?_⟩
  · let moved := next.signals parties one (attempt one)
    let theirs := (course one.other).signals parties one.other (attempt one.other)
    have others : rest.Perm (theirs ++ answers) := by
      rw [underWay, Course.signals_eq_singleton member] at total
      exact total.cons_inv
    have swapped : (rest ++ moved).Perm (moved ++ (theirs ++ answers)) := List.perm_append_comm.trans (others.append_left moved)
    calc rest ++ (moved ++ more)
        = rest ++ moved ++ more := (List.append_assoc ..).symm
      List.Perm _ (moved ++ (theirs ++ answers) ++ more) := swapped.append_right more
      _ = underWay parties attempt (Function.update course one next) (answers ++ more) one := by
        rw [underWay, Function.update_self, Function.update_of_ne one.other_ne, List.append_assoc, List.append_assoc]
  · intro answer member
    exact (List.mem_append.mp member).elim (answered answer) (answeredMore answer)

/-- An answer of the server moves no course on. -/
theorem Meeting.on_answer {packet : Packet} {rest : List Signal} (meeting : w.Meeting parties horizon side attempt course)
    (now clock : Nat) (flies : w.Flies parties rest)
    (carries : parties.Carries packet (.answer (parties.socket one (attempt one).port))) :
    (w.deliver now clock packet).Meeting parties horizon side attempt course ∧
      (w.deliver now clock packet).Flies parties rest := by
  have held : w.holds one packet.dest = true := by
    rw [carries.1]
    exact meeting.holds one
  have outcome := Peer.on_answer now (meeting.stands.plays one) carries
  have shows := meeting.shows one
  rw [deliver_to_holder meeting.stands held]
  refine ⟨meeting.take outcome ?_ rfl meeting.begun id, ?_⟩
  · rw [List.append_nil]
    exact shows
  · have still := flies.take outcome
    rwa [List.append_nil] at still

theorem underWay_answer_perm (parties : Parties) (attempt : Side → Attempt) (course : Side → Course) (before after : List Signal)
    (answer : Signal) (one : Side) :
    (underWay parties attempt course (before ++ answer :: after) one).Perm
      (answer :: underWay parties attempt course (before ++ after) one) := by
  unfold underWay
  rw [← List.append_assoc, ← List.append_assoc, ← List.append_assoc, ← List.append_assoc]
  exact List.perm_middle

/-- Whatever arrives, the nodes go on to meet. -/
theorem Meets.deliver {index : Nat} (meets : w.Meets parties horizon side attempt) (early : clock ≤ horizon)
    (step : w.step? now clock (.deliver index) = some later) : later.Meets parties horizon side attempt := by
  -- The courses say what is under way up to its order, so any of it may be the next to arrive.
  obtain ⟨course, answers, signals, meeting, flies, perm, answered⟩ := meets
  obtain ⟨packet, signal, rest, opened, opens, rfl⟩ := step?_deliver meeting.stands flies step
  have still := meeting.opens opens
  have total : (signal :: rest).Perm (underWay parties attempt course answers side) := opens.perm.symm.trans perm
  have advances (one : Side) (member : signal ∈ (course one).signals parties one (attempt one)) :
      (opened.deliver now clock packet).Meets parties horizon side attempt :=
    (still.advances now opens.flies opens.carries early member).meets member
      (total.trans (underWay_perm parties attempt course answers side one)) answered
  have member : signal ∈ underWay parties attempt course answers side := total.mem_iff.mp List.mem_cons_self
  rcases List.mem_append.mp member with own | elsewhere
  · exact advances side own
  · rcases List.mem_append.mp elsewhere with others | answer
    · exact advances side.other others
    · obtain ⟨one, same⟩ := answered signal answer
      obtain ⟨before, after, rfl⟩ := List.append_of_mem answer
      have carries := opens.carries
      rw [same] at carries
      obtain ⟨meeting, flies⟩ := still.on_answer now clock opens.flies carries
      have others := total.trans (underWay_answer_perm parties attempt course before after signal side)
      refine ⟨course, before ++ after, rest, meeting, flies, others.cons_inv, ?_⟩
      intro other member
      refine answered other ?_
      rcases List.mem_append.mp member with early | late
      · exact List.mem_append_left _ early
      · exact List.mem_append_right _ (List.mem_cons_of_mem _ late)

/-- The initiator begins, and from then on the two nodes meet. -/
theorem OneCall.begins {initial : World} {system : Socket → BindAnswer} (start : initial.OneCall side horizon)
    (honest : initial.Honest (.call side system)) (step : initial.step? now clock (.call side system) = some later) :
    ∃ attempt, later.Meets initial.parties horizon side attempt := by
  have allowed := Peer.may_connect now (start.stands.plays side) (by rw [start.parents]; simp) start.askable
  obtain ⟨punchPort, allocated, hs, result, rfl, given, outcome, rfl, stands⟩ := step?_call start.stands start.natted start.parents
    (start.idle side) (start.apart side) allowed start.calls honest step
  let hs := Peer.calling initial.parties side (initial.peer side) now (punchPort, allocated)
  let first : Attempt := ⟨punchPort, initial.parties.main side.other, hs.pingId⟩
  let second : Attempt := ⟨initial.parties.mainPort side.other, initial.parties.socket side punchPort,
    (initial.parties.chance side.other).ticket (initial.view side.other).drawn⟩
  let attempt : Side → Attempt := Function.update (fun _ => second) side first
  let course : Side → Course := Function.update (fun _ => .request) side .ping
  have mine : attempt side = first := Function.update_self ..
  have theirs : attempt side.other = second := Function.update_of_ne side.other_ne ..
  have ownCourse : course side = .ping := Function.update_self ..
  have otherCourse : course side.other = .request := Function.update_of_ne side.other_ne ..
  have punch : initial.held side (initial.parties.socket side punchPort) ∨
      ∃ port ∈ allocated, initial.parties.socket side punchPort = initial.parties.socket side port := by
    rcases given with ⟨_, main⟩ | ⟨granted, _⟩
    · rw [main]
      exact .inl (start.stands.main side)
    · exact .inr ⟨punchPort, by rw [granted]; exact List.mem_singleton_self _, rfl⟩
  have shakes : initial.parties.Shakes side (Puncher.attempted hs) :=
    Peer.calling_shakes _ now _ start.natted start.parents
  refine ⟨attempt, course, [], [] ++ Parties.attempt side hs, ⟨stands, start.lists, ?_, ?_, ?_, ?_,
    ?_, ?_, ?_⟩, ?_, ?_, by simp⟩
  · intro one
    rcases side.eq_or_eq_other one with rfl | rfl
    · exact Function.update_self ..
    · exact (Function.update_of_ne side.other_ne ..).trans start.answers
  · intro one
    rcases side.eq_or_eq_other one with rfl | rfl
    · rw [take_holds outcome, mine]
      exact punch
    · rw [take_holds_other, theirs]
      exact start.stands.main _
  · intro one
    rcases side.eq_or_eq_other one with rfl | rfl
    · rw [mine, theirs]
      rfl
    · rw [theirs, Side.other_other, mine]
  · intro one
    rcases side.eq_or_eq_other one with rfl | rfl
    · have silent : ((initial.telling one []).peer one).log = [] := start.silent one
      rw [take_view outcome, take_log outcome, mine, ownCourse, silent]
      exact ⟨Puncher.attempted hs, Function.update_self .., shakes, rfl, rfl, rfl, Function.update_self .., start.apart _, rfl⟩
    · rw [take_view_other, take_peer_other, theirs, otherCourse]
      exact ⟨start.idle side.other, start.apart side.other, start.silent side.other, rfl⟩
  · rw [theirs]
  · rw [ownCourse]
    simp [Course.advance]
  · intro done
    rw [otherCourse] at done
    cases done
  · have flies : (initial.telling side []).Flies initial.parties [] := .of_nil start.flight
    exact flies.take outcome
  · rw [underWay, ownCourse, otherCourse, theirs, mine, Course.signals, Course.signals, Side.other_other]
    exact .swap ..

/-- Either nothing has happened yet, or the nodes meet. -/
theorem OneCall.reaches {initial : World} (start : initial.OneCall side horizon) (reach : Reach horizon initial w) :
    w = initial ∨ ∃ attempt, w.Meets initial.parties horizon side attempt := by
  induction reach with
  | start => exact .inl rfl
  | next _ early honest step ih =>
    rename_i now clock move _
    refine .inr ?_
    rcases ih with rfl | ⟨attempt, meets⟩
    · cases move with
      | call one system =>
        rcases side.eq_or_eq_other one with rfl | rfl
        · exact start.begins honest step
        · simp [step?, start.answers] at step
      | deliver index => simp [step?, start.flight] at step
    · cases move with
      | call one system =>
        obtain ⟨_, _, _, meeting, _⟩ := meets
        simp [step?, meeting.calls] at step
      | deliver index => exact ⟨attempt, meets.deliver early step⟩

/-- Once one node has connected to the other and nothing is under way any more, the two agree on their paths. -/
theorem OneCall.agrees {initial : World} (start : initial.OneCall side horizon) (reach : Reach horizon initial w)
    (quiet : w.IsQuiet) : w.Agrees initial.parties side := by
  rcases start.reaches reach with rfl | ⟨attempt, course, answers, signals, meeting, flies, perm, _⟩
  · have called := quiet.2 side
    rw [start.calls] at called
    cases called
  · have nothing := List.nil_perm.mp (flies.eq_nil quiet.1 ▸ perm)
    have done : ∀ one, course one = .done := by
      intro one
      have own := List.perm_nil.mp (nothing ▸ underWay_perm initial.parties attempt course answers one side)
      have finished := (List.append_eq_nil_iff.mp own).1
      cases here : course one with
      | done => rfl
      | _ =>
        rw [here] at finished
        cases finished
    have verified (one : Side) := done one ▸ meeting.shows one
    obtain ⟨_, ⟨_, _, ownPath⟩, _⟩ := verified side
    obtain ⟨_, ⟨_, _, otherPath⟩, _⟩ := verified side.other
    rw [Side.other_other] at otherPath
    refine ⟨⟨(attempt side).port, meeting.holds side, ?_, ?_⟩, ?_, ?_, ?_⟩
    · rw [ownPath, meeting.aims, meeting.main]
      rfl
    · rw [otherPath, meeting.aims, meeting.main, Side.other_other]
      rfl
    · exact fun one => (verified one).1
    · intro one
      obtain ⟨_, _, target, log⟩ := verified one
      exact ⟨target, _, log⟩
    · intro one
      exact decide_eq_false (meeting.settled (done side.other) one)

/-- Only the left one of two nodes calls, from a port of its own. -/
def leftCalls : World :=
  .fresh (.alike .addressDependent) fun side => if side = .left then [(Parties.alike .addressDependent).contact .right] else []

theorem leftCalls_oneCall : leftCalls.OneCall .left 0 where
  stands := fresh_stands (by decide) (by decide)
  lists := fresh_lists (by decide) (Nat.zero_le _) .right
  natted := by decide
  parents := by decide
  askable := .inr (by decide)
  idle _ := rfl
  apart _ := rfl
  silent _ := rfl
  calls := rfl
  answers := rfl
  flight := rfl

theorem leftCalls_agrees : leftCalls.OneCall .left 0 ∧ ∃ w, Reach 0 leftCalls w ∧ w.IsQuiet ∧
    w.Agrees leftCalls.parties .left := by
  let turns : List Turn := .call .left (leftCalls.parties.socket .left firstEphemeralPort) :: List.replicate 9 (.deliver 0)
  have ends : (leftCalls.after? turns).any (fun w => decide w.IsQuiet) = true := by decide +kernel
  obtain ⟨w, reach, quiet⟩ := exists_reach_of_after? ends
  have still := of_decide_eq_true quiet
  exact ⟨leftCalls_oneCall, w, reach, still, OneCall.agrees leftCalls_oneCall reach still⟩

end World

end NatTraversal
