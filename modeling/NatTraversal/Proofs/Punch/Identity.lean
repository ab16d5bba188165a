import NatTraversal.Proofs.Punch.Sent

namespace NatTraversal

namespace Puncher

section

variable {c : Surroundings} {input : PunchInput} {p q : Puncher} {effects : List PunchEffect} {key : PeerKey} {target : Contact}
  {path : Path}

/-- A path is reported when it is asked for again, and when a pong has settled a handshake. -/
theorem Move.reports_verified (move : Move c input p q effects) (reported : .report (.verified key target path) ∈ effects) :
    (∃ grant cached, input = .command (.connect target grant) ∧ p.paths.get? key = some cached ∧ cached.path = path) ∨
      ∃ pong remote here hs, input = .command (.inbound pong remote here) ∧ pong.body = .punchPong ∧
        p.byPing.get? pong.ticket = some key ∧ p.handshakes.get? key = some hs ∧ hs.target = target ∧
        path = ⟨remote, hs.punchPort⟩ ∧ q = p.settled c key hs remote := by
  cases move.reporter reported with
  | aside aside => exact aside.elim
  | recalls given found => exact .inl ⟨_, _, given, found, rfl⟩
  | verifies given answer owned found next => exact .inr ⟨_, _, _, _, given, answer, owned, found, rfl, rfl, next⟩

/-- Nothing but a call and a pong has a path reported. -/
theorem Moves.reports_verified (moves : Moves c input p q effects) (reported : .report (.verified key target path) ∈ effects) :
    (∃ grant, input = .command (.connect target grant)) ∨
      ∃ pong remote here, input = .command (.inbound pong remote here) ∧ pong.body = .punchPong := by
  induction moves with
  | refl => cases reported
  | step before move ih =>
    rcases List.mem_append.mp reported with earlier | now
    · exact ih earlier
    · rcases move.reports_verified now with ⟨grant, _, given, _⟩ | ⟨pong, remote, here, _, given, answer, _⟩
      · exact .inl ⟨grant, given⟩
      · exact .inr ⟨pong, remote, here, given, answer⟩

/-- A call and a pong are done with in one move. -/
theorem react_reports_verified (reported : .report (.verified key target path) ∈ (p.react c input).2) :
    Move c input p (p.react c input).1 (p.react c input).2 := by
  rcases (react_moves input).reports_verified reported with ⟨grant, rfl⟩ | ⟨pong, remote, here, rfl, answer⟩
  · by_cases halted : p.halted = true
    · simp [react, handle, halted] at reported
    · simp only [react, handle, halted, Bool.false_eq_true, if_false]
      exact connect_move target grant
  · by_cases halted : p.halted = true
    · simp [react, handle, halted] at reported
    · simp only [react, handle, halted, Bool.false_eq_true, if_false, inbound, answer]
      exact onPong_move answer

end

section

variable {chance : Chance} {config : Config} {me : Identity} {p : Puncher} {log : List Deed} {c : Surroundings}
  {alarms : Alarms PunchAlarm} {input : PunchInput} {key : PeerKey} {target : Contact} {path : Path}

/-- A reported path is one that is called for again, or a pong with the ticket of the pending handshake's pings proves it.
It leads to where the pong has come from. Whoever sent the pong knew a ticket that has gone out with nothing but pings to
the target's node, requests that name the target, and answers to pings. -/
theorem verified_by_ticket (run : Run chance (ofConfig config me) log p) (distinct : chance.Distinct p.drawn)
    (reported : .report (.verified key target path) ∈ (({ p with alarms }).react c input).2) :
    (∃ grant cached, input = .command (.connect target grant) ∧ p.paths.get? key = some cached ∧ cached.path = path) ∨
    ∃ pong remote here hs, input = .command (.inbound pong remote here) ∧ pong.body = .punchPong ∧
      p.handshakes.get? key = some hs ∧ hs.target = target ∧ target.key = key ∧ pong.ticket = hs.pingId ∧
      path = ⟨remote, hs.punchPort⟩ ∧
      (∃ cached, (({ p with alarms }).react c input).1.paths.get? key = some cached ∧ cached.path = path) ∧
      ∀ message, .send message ∈ done log → message.ticket = pong.ticket →
        message.body = .punchPing ∧ message.dest.node = key.node ∨ message.body = .connectRequest target false ∨
          message.body = .punchPong := by
  have accounted := run.accounted distinct
  rcases (react_reports_verified reported).reports_verified reported with recalled |
    ⟨pong, remote, here, hs, given, answer, owned, found, named, leads, next⟩
  · exact .inl recalled
  · obtain ⟨other, there, ticket⟩ := accounted.owned pong.ticket key owned
    cases found.symm.trans there
    have own := accounted.keyed key hs found
    refine .inr ⟨pong, remote, here, hs, given, answer, found, named, named ▸ own, ticket.symm, leads, ?_, ?_⟩
    · rw [next, leads]
      exact ⟨_, (Table.get?_insert ..).trans (if_pos rfl), rfl⟩
    · intro message sent same
      have owns := accounted.own key hs found message sent (same.trans ticket.symm)
      rw [← own, ← named]
      exact owns

/-- An open node calls another at an address, and has a pong from there. -/
theorem verified_by_pong_of_called :
    let c : Surroundings := ⟨0, 0, (Roster.empty 3).enter 1 .unrestricted, .counting 0⟩
    let caller := ofConfig {} ⟨⟨.ofOctets 10 0 0 1, 4000, 1⟩, 0, none⟩
    let target : Contact := ⟨⟨.ofOctets 10 0 0 2, 4000, 2⟩, 0, .unrestricted, []⟩
    let step := caller.react c (.command (.connect target (.ok [])))
    let pong : Message := ⟨target, caller.me.address, (Chance.counting 0).ticket 0, .udp, .punchPong⟩
    let last := step.1.react c (.command (.inbound pong target.address.socket caller.me.address.socket))
    .report (.verified target.key target ⟨target.address.socket, 4000⟩) ∈ last.2 ∧
      ∃ cached, last.1.paths.get? target.key = some cached ∧ cached.path = ⟨target.address.socket, 4000⟩ := by
  intro c caller target step pong last
  have run : Run (.counting 0) caller [⟨.command (.connect target (.ok [])), step.2⟩] step.1 :=
    .step (c := c) .start rfl {} (.command (.connect target (.ok [])))
  have distinct : (Chance.counting 0).Distinct step.1.drawn := Chance.counting_distinct (by decide +kernel)
  have reported : .report (.verified target.key target ⟨target.address.socket, 4000⟩) ∈ last.2 := by decide +kernel
  rcases verified_by_ticket run distinct reported with ⟨_, _, given, _⟩ | ⟨_, _, _, _, _, _, _, _, _, _, _, cached, _⟩
  · cases given
  · exact ⟨reported, cached⟩

/-- The node of a pong is not looked at: whoever calls another node at its own address answers itself. -/
theorem not_always_verified_by_target :
    ¬ ∀ (chance : Chance) (config : Config) (me : Identity) (log : List Deed) (p : Puncher) (c : Surroundings)
      (pong : Message) (remote here : Socket) (key : PeerKey) (target : Contact) (path : Path),
      Run chance (ofConfig config me) log p → c.chance = chance → chance.Distinct p.drawn → p.paths.get? key = none →
      .send pong ∈ done log →
      .report (.verified key target path) ∈ (p.react c (.command (.inbound pong remote here))).2 →
      pong.source.address.node = key.node := by
  intro always
  let c : Surroundings := ⟨0, 0, (Roster.empty 3).enter 1 .unrestricted, .counting 0⟩
  let me : Identity := ⟨⟨.ofOctets 10 0 0 1, 4000, 1⟩, 0, none⟩
  let target : Contact := ⟨⟨.ofOctets 10 0 0 1, 4000, 2⟩, 0, .unrestricted, []⟩
  let here := me.address.socket
  let ping : Message := ⟨me.contact c.roster, target.address, (Chance.counting 0).ticket 0, .udp, .punchPing⟩
  let pong : Message := ⟨me.contact c.roster, me.address, (Chance.counting 0).ticket 0, .udp, .punchPong⟩
  have run : Run (.counting 0) (ofConfig {} me) _ _ :=
    .step (c := c) (.step (c := c) .start rfl {} (.command (.connect target (.ok [])))) rfl {}
      (.command (.inbound ping here here))
  have named := always _ _ _ _ _ c pong here here target.key target ⟨here, 4000⟩ run rfl
    (Chance.counting_distinct (by decide +kernel)) (by decide +kernel) (by decide +kernel) (by decide +kernel)
  exact absurd named (by decide)

end

end Puncher

end NatTraversal
