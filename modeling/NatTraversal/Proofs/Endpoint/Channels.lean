import NatTraversal.Proofs.Endpoint.Metering
import NatTraversal.Proofs.Endpoint.Rivals

namespace NatTraversal

def EndpointEffect.reported? : EndpointEffect → Option EndpointEvent
  | report event => some event
  | _ => none

def EndpointEvent.isSessionClosed : EndpointEvent → Bool
  | sessionClosed .. => true
  | _ => false

namespace Endpoint

/-- Whether an endpoint has the streams of another, and as many numbers have been drawn for them. -/
structure SameStreams (e next : Endpoint) : Prop where
  streams : next.streams = e.streams
  drawn : next.nextStream = e.nextStream

theorem SameStreams.refl (e : Endpoint) : e.SameStreams e := ⟨rfl, rfl⟩

theorem SameStreams.trans {e middle next : Endpoint} (first : e.SameStreams middle) (second : middle.SameStreams next) :
    e.SameStreams next :=
  ⟨second.streams.trans first.streams, second.drawn.trans first.drawn⟩

/-- A message begins a stream or leaves the streams as they are. -/
theorem send_streams (e : Endpoint) (outside : Outside) (message : Message) : e.SameStreams (e.send outside message).2 ∨
    ∃ key, (e.send outside message).2.streams = e.streams.insert key e.nextStream ∧
      (e.send outside message).2.nextStream = e.nextStream + 1 := by
  unfold send
  split
  · exact .inl ⟨rfl, rfl⟩
  · split
    · split
      · exact .inl ⟨rfl, rfl⟩
      · split
        · exact .inl ⟨rfl, rfl⟩
        · exact .inl ⟨rfl, rfl⟩
    · split
      · exact .inr ⟨_, rfl, rfl⟩
      · split
        · exact .inl ⟨rfl, rfl⟩
        · exact .inl ⟨rfl, rfl⟩
        · exact .inr ⟨_, rfl, rfl⟩

/-- What a message leads to is never the end of a stream. -/
theorem send_reports {e : Endpoint} {outside : Outside} {message : Message} {event : EndpointEvent}
    (told : .report event ∈ (e.send outside message).1) : event.isSessionClosed = false := by
  have opens : .report event ∉ (e.openStream message).1 := by simp [openStream]
  unfold send at told
  split at told
  · cases List.mem_singleton.mp told
    rfl
  · split at told
    · split at told
      · cases told
      · split at told
        · cases List.mem_singleton.mp told
        · cases List.mem_singleton.mp told
          rfl
    · split at told
      · exact absurd told opens
      · split at told
        · cases List.mem_singleton.mp told
        · cases told
        · exact absurd told opens

theorem bind_reports {e : Endpoint} {socket : Socket} {transport : Transport} {answer : BindAnswer} {event : EndpointEvent}
    (told : event ∈ (e.bind socket transport answer).2.1) : event.isSessionClosed = false := by
  unfold bind at told
  split at told
  · cases told
  · cases List.mem_singleton.mp told
    rfl

theorem sameStreams_withTable (e : Endpoint) (transport : Transport) (table : PortTable Unit) :
    e.SameStreams (e.withTable transport table) := by
  cases transport <;> exact ⟨rfl, rfl⟩

theorem SameStreams.tryBind {e before bound : Endpoint} {socket : Socket} {transport : Transport} {answer : BindAnswer}
    {port : UInt16} (same : before.SameStreams e) (success : e.tryBind socket transport answer = .ok (port, bound)) :
    before.SameStreams bound := by
  rcases tryBind_cases success with rfl | ⟨_, ⟨table, _, rfl⟩, _⟩
  · exact same
  · exact same.trans (sameStreams_withTable ..)

theorem bind_sameStreams (e : Endpoint) (socket : Socket) (transport : Transport) (answer : BindAnswer) :
    e.SameStreams (e.bind socket transport answer).2.2 := by
  unfold bind
  split
  · rename_i success
    exact (SameStreams.refl e).tryBind success
  · exact .refl e

theorem alloc_sameStreams (e : Endpoint) (chance : Chance) (system : Socket → BindAnswer) (ip : Ip) (count : Nat)
    (transport : Transport) : e.SameStreams (e.alloc chance system ip count transport).2 :=
  alloc_induct e.SameStreams (fun _ same => ⟨same.streams, same.drawn⟩) (fun _ _ _ _ same success => same.tryBind success) count
    (.refl e)

theorem release_sameStreams (e : Endpoint) (ports : List UInt16) (transport : Transport) :
    e.SameStreams (e.release ports transport).2 := by
  refine release_induct e.SameStreams (fun now closed port same => ?_) (.refl e) ports
  rcases releaseOne_cases now transport closed port with kept | removed
  · rwa [kept]
  · rw [removed]
    exact same.trans (sameStreams_withTable ..)

end Endpoint

/-- What reaches an endpoint or happens beside it. -/
inductive ChannelDeed where
  | send (outside : Outside) (message : Message)
  /-- A remote begins a stream, which is given a number. -/
  | accept (transport : Transport) (remote : Socket)
  /-- The endpoint is told of one of the streams that remotes have begun. -/
  | attached (stream : Nat)
  /-- The notice that a stream has ended, however often and early it comes. -/
  | inactive (transport : Transport) (remote : Socket) (stream : Nat)
  | bind (socket : Socket) (transport : Transport) (answer : BindAnswer)
  | alloc (chance : Chance) (system : Socket → BindAnswer) (ip : Ip) (count : Nat) (transport : Transport)
  | release (ports : List UInt16) (transport : Transport)
  | lose (transport : Transport) (port : UInt16) (kind : IoKind)
  /-- The tasks that read and write count bytes. -/
  | count (traffic : Traffic)

/-- An endpoint, the streams that it has yet to be told of, and what it has told, for a notice with the stream of it. -/
structure Switchboard where
  endpoint : Endpoint
  /-- The numbers of the streams, with the remotes that have begun them. -/
  begun : List (Nat × Transport × Socket) := []
  told : List (Option Nat × EndpointEvent) := []

namespace Switchboard

/-- What an endpoint tells on a deed, and what becomes of it. -/
def handle (board : Switchboard) : ChannelDeed → Switchboard
  | .send outside message =>
    let sent := board.endpoint.send outside message
    { board with endpoint := sent.2, told := board.told ++ (sent.1.filterMap (·.reported?)).map (none, ·) }
  | .accept transport remote =>
    let drawn := board.endpoint.drawStream
    { board with endpoint := drawn.2, begun := board.begun ++ [(drawn.1, transport, remote)] }
  | .attached stream =>
    match board.begun.find? (·.1 = stream) with
    | none => board
    | some (_, transport, remote) =>
      { board with endpoint := board.endpoint.enterStream transport remote stream, begun := board.begun.filter (·.1 ≠ stream) }
  | .inactive transport remote stream =>
    let ended := board.endpoint.streamEnded transport remote stream
    { board with endpoint := ended.2, told := board.told ++ ended.1.map (some stream, ·) }
  | .bind socket transport answer =>
    let bound := (board.endpoint.bind socket transport answer).2
    { board with endpoint := bound.2, told := board.told ++ bound.1.map (none, ·) }
  | .alloc chance system ip count transport =>
    { board with endpoint := (board.endpoint.alloc chance system ip count transport).2 }
  | .release ports transport => { board with endpoint := (board.endpoint.release ports transport).2 }
  | .lose transport port kind =>
    let lost := board.endpoint.socketLost transport port kind
    { board with endpoint := lost.2, told := board.told ++ lost.1.map (none, ·) }
  | .count traffic => { board with endpoint := board.endpoint.metered traffic }

/-- The streams whose end has been reported, as often as it has. -/
def closings (board : Switchboard) : List (Option Nat) := (board.told.filter (·.2.isSessionClosed)).map (·.1)

def play (board : Switchboard) (deeds : List ChannelDeed) : Switchboard := deeds.foldl handle board

variable {board : Switchboard} {stream other : Nat} {key : Transport × Socket}

/-- What an endpoint keeps to with its streams: all numbers have been drawn, and none stands for two streams. -/
structure Numbered (board : Switchboard) : Prop where
  drawn : ∀ key stream, board.endpoint.streams.get? key = some stream → stream < board.endpoint.nextStream
  apart : ∀ key other stream, board.endpoint.streams.get? key = some stream → board.endpoint.streams.get? other = some stream →
    key = other
  begun_drawn : ∀ entry ∈ board.begun, entry.1 < board.endpoint.nextStream
  begun_apart : ∀ entry ∈ board.begun, ∀ key, board.endpoint.streams.get? key ≠ some entry.1

/-- A stream that is over: its number has been drawn, and it is neither in use nor to be. -/
structure Over (stream : Nat) (board : Switchboard) : Prop where
  drawn : stream < board.endpoint.nextStream
  unused : ∀ key, board.endpoint.streams.get? key ≠ some stream
  not_begun : ∀ entry ∈ board.begun, entry.1 ≠ stream

/-- What a deed does to the streams of an endpoint. -/
inductive Turn (board next : Switchboard) : Prop
  | still (streams : next.endpoint.streams = board.endpoint.streams) (drawn : next.endpoint.nextStream = board.endpoint.nextStream)
    (begun : next.begun = board.begun)
  | opens (key : Transport × Socket)
    (streams : next.endpoint.streams = board.endpoint.streams.insert key board.endpoint.nextStream)
    (drawn : next.endpoint.nextStream = board.endpoint.nextStream + 1) (begun : next.begun = board.begun)
  | begins (key : Transport × Socket) (streams : next.endpoint.streams = board.endpoint.streams)
    (drawn : next.endpoint.nextStream = board.endpoint.nextStream + 1)
    (begun : next.begun = board.begun ++ [(board.endpoint.nextStream, key)])
  | enters (key : Transport × Socket) (stream : Nat) (known : (stream, key) ∈ board.begun)
    (streams : next.endpoint.streams = board.endpoint.streams.insert key stream)
    (drawn : next.endpoint.nextStream = board.endpoint.nextStream) (begun : next.begun = board.begun.filter (·.1 ≠ stream))
  | ends (key : Transport × Socket) (stream : Nat) (known : board.endpoint.streams.get? key = some stream)
    (streams : next.endpoint.streams = board.endpoint.streams.erase key)
    (drawn : next.endpoint.nextStream = board.endpoint.nextStream) (begun : next.begun = board.begun)

theorem get?_insert_cases {streams : Table (Transport × Socket) Nat} {one : Transport × Socket}
    (used : (streams.insert key stream).get? one = some other) : one = key ∧ other = stream ∨ streams.get? one = some other := by
  rw [Table.get?_insert] at used
  split at used
  · rename_i same
    exact .inl ⟨same, (Option.some.inj used).symm⟩
  · exact .inr used

/-- With a new number there are still no two streams of one. -/
theorem insert_apart {streams : Table (Transport × Socket) Nat}
    (apart : ∀ one other number, streams.get? one = some number → streams.get? other = some number → one = other)
    (fresh : ∀ key, streams.get? key ≠ some stream) (one other : Transport × Socket) (number : Nat)
    (first : (streams.insert key stream).get? one = some number) (second : (streams.insert key stream).get? other = some number) :
    one = other := by
  rcases get?_insert_cases first with ⟨rfl, rfl⟩ | old
  · rcases get?_insert_cases second with ⟨rfl, _⟩ | old
    · rfl
    · exact absurd old (fresh other)
  · rcases get?_insert_cases second with ⟨rfl, rfl⟩ | also
    · exact absurd old (fresh one)
    · exact apart one other number old also

/-- A number is new when it is drawn, and is used up when the stream that waits for it is put in place. -/
theorem Numbered.turn {next : Switchboard} (numbered : board.Numbered) (turn : Turn board next) : next.Numbered := by
  cases turn with
  | still streams drawn begun =>
    refine ⟨?_, ?_, ?_, ?_⟩
    · rw [streams, drawn]
      exact numbered.drawn
    · rw [streams]
      exact numbered.apart
    · rw [begun, drawn]
      exact numbered.begun_drawn
    · rw [begun, streams]
      exact numbered.begun_apart
  | opens key streams drawn begun =>
    have fresh : ∀ key, board.endpoint.streams.get? key ≠ some board.endpoint.nextStream :=
      fun key used => Nat.lt_irrefl _ (numbered.drawn key _ used)
    refine ⟨fun other stream used => ?_, ?_, fun entry member => ?_, fun entry member other used => ?_⟩
    · rw [drawn]
      rcases get?_insert_cases (streams ▸ used) with ⟨_, rfl⟩ | old
      · exact Nat.lt_succ_self _
      · exact Nat.lt_succ_of_lt (numbered.drawn other stream old)
    · rw [streams]
      exact insert_apart numbered.apart fresh
    · rw [drawn]
      exact Nat.lt_succ_of_lt (numbered.begun_drawn entry (begun ▸ member))
    · rcases get?_insert_cases (streams ▸ used) with ⟨_, same⟩ | old
      · exact Nat.ne_of_lt (numbered.begun_drawn entry (begun ▸ member)) same
      · exact numbered.begun_apart entry (begun ▸ member) other old
  | begins key streams drawn begun =>
    have known : ∀ entry ∈ next.begun, entry ∈ board.begun ∨ entry.1 = board.endpoint.nextStream := by
      intro entry member
      rw [begun] at member
      rcases List.mem_append.mp member with old | new
      · exact .inl old
      · exact .inr (congrArg Prod.fst (List.mem_singleton.mp new))
    refine ⟨fun other stream used => ?_, ?_, fun entry member => ?_, fun entry member other used => ?_⟩
    · rw [drawn]
      exact Nat.lt_succ_of_lt (numbered.drawn other stream (streams ▸ used))
    · rw [streams]
      exact numbered.apart
    · rw [drawn]
      rcases known entry member with old | new
      · exact Nat.lt_succ_of_lt (numbered.begun_drawn entry old)
      · exact new ▸ Nat.lt_succ_self _
    · rw [streams] at used
      rcases known entry member with old | new
      · exact numbered.begun_apart entry old other used
      · exact Nat.lt_irrefl _ (numbered.drawn other _ (new ▸ used))
  | enters key stream known streams drawn begun =>
    refine ⟨fun other stream used => ?_, ?_, fun entry member => ?_, fun entry member other used => ?_⟩
    · rw [drawn]
      rcases get?_insert_cases (streams ▸ used) with ⟨_, rfl⟩ | old
      · exact numbered.begun_drawn _ known
      · exact numbered.drawn other stream old
    · rw [streams]
      exact insert_apart numbered.apart (numbered.begun_apart _ known)
    · rw [drawn]
      rw [begun] at member
      exact numbered.begun_drawn entry (List.mem_filter.mp member).1
    · rw [begun, List.mem_filter, decide_eq_true_eq] at member
      rcases get?_insert_cases (streams ▸ used) with ⟨_, same⟩ | old
      · exact member.2 same
      · exact numbered.begun_apart entry member.1 other old
  | ends key stream known streams drawn begun =>
    refine ⟨fun other stream used => ?_, fun one other stream first second => ?_, fun entry member => ?_,
      fun entry member other used => ?_⟩
    · rw [drawn]
      exact numbered.drawn other stream (Table.get?_of_erase (streams ▸ used))
    · exact numbered.apart one other stream (Table.get?_of_erase (streams ▸ first)) (Table.get?_of_erase (streams ▸ second))
    · rw [drawn]
      exact numbered.begun_drawn entry (begun ▸ member)
    · exact numbered.begun_apart entry (begun ▸ member) other (Table.get?_of_erase (streams ▸ used))

/-- A stream whose place is taken or empty is over. -/
theorem Numbered.superseded {next : Switchboard} (numbered : board.Numbered) (used : board.endpoint.streams.get? key = some stream)
    {instead : Option Nat} (other : instead ≠ some stream)
    (streams : ∀ one, next.endpoint.streams.get? one = if one = key then instead else board.endpoint.streams.get? one)
    (drawn : board.endpoint.nextStream ≤ next.endpoint.nextStream) (begun : ∀ entry ∈ next.begun, entry ∈ board.begun) :
    Over stream next where
  drawn := Nat.lt_of_lt_of_le (numbered.drawn key stream used) drawn
  unused one still := by
    rw [streams] at still
    split at still
    · exact other still
    · rename_i apart
      exact apart (numbered.apart one key stream still used)
  not_begun entry member same := numbered.begun_apart entry (begun entry member) key (same ▸ used)

/-- A stream that is in use stays so under the same transport and remote, or is over. -/
theorem Turn.used_or_over {next : Switchboard} (turn : Turn board next) (numbered : board.Numbered)
    (used : board.endpoint.streams.get? key = some stream) :
    next.endpoint.streams.get? key = some stream ∨ Over stream next := by
  cases turn with
  | still streams _ _ => exact .inl (streams ▸ used)
  | begins _ streams _ _ => exact .inl (streams ▸ used)
  | opens place streams drawn begun =>
    by_cases same : key = place
    · subst same
      have fresh : some board.endpoint.nextStream ≠ some stream := fun equal =>
        Nat.ne_of_lt (numbered.drawn key stream used) (Option.some.inj equal).symm
      refine .inr (numbered.superseded used fresh (fun one => ?_) (drawn ▸ Nat.le_succ _) fun entry member => begun ▸ member)
      rw [streams, Table.get?_insert]
    · rw [streams, Table.get?_insert, if_neg same]
      exact .inl used
  | enters place entered known streams drawn begun =>
    by_cases same : key = place
    · subst same
      have fresh : some entered ≠ some stream := fun equal => numbered.begun_apart _ known key (used.trans equal.symm)
      refine .inr (numbered.superseded used fresh (fun one => ?_) (Nat.le_of_eq drawn.symm) fun entry member => ?_)
      · rw [streams, Table.get?_insert]
      · rw [begun] at member
        exact (List.mem_filter.mp member).1
    · rw [streams, Table.get?_insert, if_neg same]
      exact .inl used
  | ends place ended known streams drawn begun =>
    by_cases same : key = place
    · subst same
      have gone : (none : Option Nat) ≠ some stream := nofun
      refine .inr (numbered.superseded used gone (fun one => ?_) (Nat.le_of_eq drawn.symm) fun entry member => begun ▸ member)
      rw [streams, Table.get?_erase]
    · rw [streams, Table.get?_erase, if_neg same]
      exact .inl used

theorem Over.turn {next : Switchboard} (past : Over stream board) (turn : Turn board next) : Over stream next := by
  cases turn with
  | still streams drawn begun =>
    refine ⟨?_, ?_, ?_⟩
    · rw [drawn]
      exact past.drawn
    · rw [streams]
      exact past.unused
    · rw [begun]
      exact past.not_begun
  | opens key streams drawn begun =>
    refine ⟨?_, fun other used => ?_, ?_⟩
    · rw [drawn]
      exact Nat.lt_succ_of_lt past.drawn
    · rw [streams, Table.get?_insert] at used
      split at used
      · exact Nat.ne_of_lt past.drawn (Option.some.inj used).symm
      · exact past.unused other used
    · rw [begun]
      exact past.not_begun
  | begins key streams drawn begun =>
    refine ⟨?_, ?_, fun entry member => ?_⟩
    · rw [drawn]
      exact Nat.lt_succ_of_lt past.drawn
    · rw [streams]
      exact past.unused
    · rw [begun] at member
      rcases List.mem_append.mp member with old | new
      · exact past.not_begun entry old
      · cases List.mem_singleton.mp new
        exact (Nat.ne_of_lt past.drawn).symm
  | enters key entered known streams drawn begun =>
    refine ⟨?_, fun other used => ?_, fun entry member => ?_⟩
    · rw [drawn]
      exact past.drawn
    · rw [streams, Table.get?_insert] at used
      split at used
      · exact past.not_begun _ known (Option.some.inj used)
      · exact past.unused other used
    · rw [begun] at member
      exact past.not_begun entry (List.mem_filter.mp member).1
  | ends key ended known streams drawn begun =>
    refine ⟨?_, fun other used => ?_, ?_⟩
    · rw [drawn]
      exact past.drawn
    · rw [streams] at used
      exact past.unused other (Table.get?_of_erase used)
    · rw [begun]
      exact past.not_begun

theorem handle_inactive_of_used {transport : Transport} {remote : Socket}
    (used : board.endpoint.streams.get? (transport, remote) = some stream) :
    board.handle (.inactive transport remote stream) = { board with
      endpoint := { board.endpoint with streams := board.endpoint.streams.erase (transport, remote) }
      told := board.told ++ [(some stream, .sessionClosed remote transport)] } := by
  rw [handle, Endpoint.streamEnded, if_pos used]
  rfl

theorem handle_inactive_of_unused {transport : Transport} {remote : Socket}
    (unused : board.endpoint.streams.get? (transport, remote) ≠ some stream) :
    board.handle (.inactive transport remote stream) = board := by
  rw [handle, Endpoint.streamEnded, if_neg unused]
  simp

theorem handle_turn (board : Switchboard) (deed : ChannelDeed) : Turn board (board.handle deed) := by
  cases deed with
  | send outside message =>
    rcases board.endpoint.send_streams outside message with ⟨streams, drawn⟩ | ⟨key, streams, drawn⟩
    · exact .still streams drawn rfl
    · exact .opens key streams drawn rfl
  | accept transport remote => exact .begins (transport, remote) rfl rfl rfl
  | attached stream =>
    cases found : board.begun.find? (·.1 = stream) with
    | none =>
      have same : board.handle (.attached stream) = board := by rw [handle, found]
      rw [same]
      exact .still rfl rfl rfl
    | some entry =>
      have picked := List.find?_some found
      have same : entry.1 = stream := of_decide_eq_true picked
      have entered : board.handle (.attached stream) = { board with
          endpoint := board.endpoint.enterStream entry.2.1 entry.2.2 stream, begun := board.begun.filter (·.1 ≠ stream) } := by
        rw [handle, found]
      rw [entered]
      exact .enters entry.2 stream (same ▸ List.mem_of_find?_eq_some found) rfl rfl rfl
  | inactive transport remote stream =>
    by_cases used : board.endpoint.streams.get? (transport, remote) = some stream
    · rw [handle_inactive_of_used used]
      exact .ends _ stream used rfl rfl rfl
    · rw [handle_inactive_of_unused used]
      exact .still rfl rfl rfl
  | bind socket transport answer =>
    have same := board.endpoint.bind_sameStreams socket transport answer
    exact .still same.streams same.drawn rfl
  | alloc chance system ip count transport =>
    have same := board.endpoint.alloc_sameStreams chance system ip count transport
    exact .still same.streams same.drawn rfl
  | release ports transport =>
    have same := board.endpoint.release_sameStreams ports transport
    exact .still same.streams same.drawn rfl
  | lose transport port kind =>
    have same := board.endpoint.release_sameStreams [port] transport
    exact .still same.streams same.drawn rfl
  | count traffic => exact .still rfl rfl rfl

/-- The end of a stream is reported on a notice of it only, and only while the stream is in use. -/
theorem handle_closings (board : Switchboard) (deed : ChannelDeed) : (board.handle deed).closings = board.closings ∨
    ∃ transport remote stream, deed = .inactive transport remote stream ∧
      board.endpoint.streams.get? (transport, remote) = some stream ∧
      (board.handle deed).closings = board.closings ++ [some stream] := by
  have others : ∀ (cause : Option Nat) (events : List EndpointEvent), (∀ event ∈ events, event.isSessionClosed = false) →
      ((board.told ++ events.map (cause, ·)).filter (·.2.isSessionClosed)).map (·.1) = board.closings := by
    intro cause events silent
    have none_closes : (events.map (cause, ·)).filter (·.2.isSessionClosed) = [] := by
      refine List.filter_eq_nil_iff.mpr fun entry member => ?_
      obtain ⟨event, told, rfl⟩ := List.mem_map.mp member
      rw [silent event told]
      exact Bool.false_ne_true
    rw [List.filter_append, none_closes, List.append_nil, closings]
  cases deed with
  | send outside message =>
    refine .inl (others none _ fun event reported => ?_)
    obtain ⟨effect, caused, told⟩ := List.mem_filterMap.mp reported
    cases effect with
    | report =>
      cases told
      exact Endpoint.send_reports caused
    | transmit | connect | enqueue => cases told
  | accept | alloc | release | count => exact .inl rfl
  | attached stream =>
    refine .inl ?_
    unfold handle closings
    dsimp only
    split <;> rfl
  | inactive transport remote stream =>
    by_cases used : board.endpoint.streams.get? (transport, remote) = some stream
    · refine .inr ⟨transport, remote, stream, rfl, used, ?_⟩
      rw [handle_inactive_of_used used, closings, List.filter_append, List.map_append]
      rfl
    · rw [handle_inactive_of_unused used]
      exact .inl rfl
  | bind socket transport answer => exact .inl (others none _ fun event told => Endpoint.bind_reports told)
  | lose transport port kind =>
    refine .inl (others none _ fun event member => ?_)
    rw [List.mem_singleton.mp member]
    rfl

/-- What a switchboard keeps to: the streams that have been reported closed are over, and each has been reported once. -/
structure Sound (board : Switchboard) : Prop where
  numbered : board.Numbered
  once : board.closings.Nodup
  past : ∀ cause ∈ board.closings, ∃ stream, cause = some stream ∧ Over stream board

theorem Sound.handle (sound : board.Sound) (deed : ChannelDeed) : (board.handle deed).Sound := by
  have turn := handle_turn board deed
  have still_over : ∀ cause ∈ board.closings, ∃ stream, cause = some stream ∧ Over stream (board.handle deed) := by
    intro cause known
    obtain ⟨stream, same, past⟩ := sound.past cause known
    exact ⟨stream, same, past.turn turn⟩
  refine ⟨sound.numbered.turn turn, ?_, ?_⟩
  · rcases handle_closings board deed with same | ⟨transport, remote, stream, rfl, used, same⟩
    · rw [same]
      exact sound.once
    · rw [same, List.nodup_append]
      refine ⟨sound.once, List.pairwise_singleton .., fun cause known new member => ?_⟩
      obtain ⟨other, rfl, past⟩ := sound.past cause known
      rw [List.mem_singleton.mp member]
      rintro equal
      cases equal
      exact past.unused _ used
  · rcases handle_closings board deed with same | ⟨transport, remote, stream, rfl, used, same⟩
    · rw [same]
      exact still_over
    · rw [same]
      intro cause member
      rcases List.mem_append.mp member with known | new
      · exact still_over cause known
      · refine ⟨stream, List.mem_singleton.mp new, (turn.used_or_over sound.numbered used).resolve_left fun left => ?_⟩
        rw [handle_inactive_of_used used] at left
        cases ((Table.get?_erase ..).trans (if_pos rfl)).symm.trans left

theorem Sound.play (sound : board.Sound) (deeds : List ChannelDeed) : (board.play deeds).Sound := by
  induction deeds generalizing board with
  | nil => exact sound
  | cons deed later ih => exact ih (sound.handle deed)

theorem Over.play (past : Over stream board) (deeds : List ChannelDeed) : Over stream (board.play deeds) := by
  induction deeds generalizing board with
  | nil => exact past
  | cons deed later ih => exact ih (past.turn (handle_turn board deed))

/-- Whatever comes, a stream in use stays so in its place or is over. -/
theorem Sound.play_used (sound : board.Sound) (used : board.endpoint.streams.get? key = some stream) (deeds : List ChannelDeed) :
    (board.play deeds).endpoint.streams.get? key = some stream ∨ Over stream (board.play deeds) := by
  induction deeds generalizing board with
  | nil => exact .inl used
  | cons deed later ih =>
    rcases (handle_turn board deed).used_or_over sound.numbered used with still | past
    · exact ih (sound.handle deed) still
    · exact .inr (past.play later)

theorem sound_init (config : EndpointConfig) : Sound { endpoint := { config } } where
  numbered := ⟨nofun, nofun, nofun, nofun⟩
  once := .nil
  past := nofun

theorem play_append (board : Switchboard) (deeds later : List ChannelDeed) :
    board.play (deeds ++ later) = (board.play deeds).play later :=
  List.foldl_append ..

/-- Whatever reaches an endpoint, in whatever order: there is at most one stream to a remote by a transport, and no stream to
two. The notice of a stream that is not the one in use there changes and tells nothing, so that it never hurts a newer one. A
stream that has lost its place never gets one again, so that its notices never count any more. The end of a stream is told at
most once, on a notice that comes while the stream is in use, and the stream is then no longer in use. -/
theorem stale_notices_ignored (config : EndpointConfig) (deeds : List ChannelDeed) :
    let start : Switchboard := { endpoint := { config } }
    let board := start.play deeds
    let streams := board.endpoint.streams
    (streams.keys.Nodup ∧ ∀ key other stream, streams.get? key = some stream → streams.get? other = some stream → key = other) ∧
    (∀ transport remote stream, streams.get? (transport, remote) ≠ some stream →
      board.handle (.inactive transport remote stream) = board) ∧
    (∀ earlier later key stream, deeds = earlier ++ later → (start.play earlier).endpoint.streams.get? key = some stream →
      streams.get? key ≠ some stream → ∀ more transport remote,
        (board.play more).handle (.inactive transport remote stream) = board.play more) ∧
    board.closings.Nodup ∧
    ∀ deed, (board.handle deed).closings = board.closings ∨ ∃ transport remote stream,
      deed = .inactive transport remote stream ∧ streams.get? (transport, remote) = some stream ∧
      (board.handle deed).told = board.told ++ [(some stream, .sessionClosed remote transport)] ∧
      (board.handle deed).endpoint.streams = streams.erase (transport, remote) := by
  intro start board streams
  have sound : board.Sound := (sound_init config).play deeds
  refine ⟨⟨streams.nodup, sound.numbered.apart⟩, fun transport remote stream => handle_inactive_of_unused, ?_, sound.once,
    fun deed => ?_⟩
  · intro earlier later key stream same used lost more transport remote
    have split : board = (start.play earlier).play later := by rw [← play_append, ← same]
    have past : Over stream board := by
      rw [split]
      refine (((sound_init config).play earlier).play_used used later).resolve_left fun still => lost ?_
      rw [← split] at still
      exact still
    exact handle_inactive_of_unused ((past.play more).unused _)
  · rcases handle_closings board deed with same | ⟨transport, remote, stream, rfl, used, _⟩
    · exact .inl same
    · refine .inr ⟨transport, remote, stream, rfl, used, ?_⟩
      rw [handle_inactive_of_used used]
      exact ⟨rfl, rfl⟩

/-- A remote begins stream 1 while a message begins stream 2 to it; stream 1 then takes the place of the other. The notice of
stream 2 is ignored, and of two of stream 1 the first counts. -/
theorem stale_notices_ignored_crossed :
    let start : Switchboard := { endpoint := { config := {} } }
    let remote := Message.unmapped.destSocket
    let outside : Outside := ⟨fun _ socket => .bound socket.port, fun _ _ => .ok (), fun _ => .taken⟩
    let crossed := start.play [.accept .tcp remote, .send outside Message.unmapped, .attached 1]
    let closed := crossed.play [.inactive .tcp remote 1]
    crossed.endpoint.streams.get? (.tcp, remote) = some 1 ∧ crossed.handle (.inactive .tcp remote 2) = crossed ∧
      closed.told = [(some 1, .sessionClosed remote .tcp)] ∧ closed.handle (.inactive .tcp remote 1) = closed := by
  intro start remote outside crossed closed
  obtain ⟨_, ignored, _⟩ :=
    stale_notices_ignored {} [.accept .tcp remote, .send outside Message.unmapped, .attached 1]
  obtain ⟨_, _, past, _⟩ := stale_notices_ignored {}
    [.accept .tcp remote, .send outside Message.unmapped, .attached 1, .inactive .tcp remote 1]
  refine ⟨rfl, ignored .tcp remote 2 (by decide), rfl, ?_⟩
  exact past [.accept .tcp remote, .send outside Message.unmapped, .attached 1] [.inactive .tcp remote 1] (.tcp, remote) 1 rfl rfl
    (by decide) [] .tcp remote

end Switchboard

end NatTraversal
