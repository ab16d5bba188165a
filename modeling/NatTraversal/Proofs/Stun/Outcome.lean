import NatTraversal.Proofs.Stun.Echoes
import NatTraversal.Simulation.Machine

namespace NatTraversal

/-- What is made of three answers. -/
theorem Observations.mapping_of_answers {seen : Observations} (public1 : Socket) {public2 alternate : Socket}
    (server2 : seen.server2 = some public2) (server1Alt : seen.server1Alt = some alternate) :
    seen.mapping public1 =
      if public2 = public1 then if alternate = public1 then .endpointIndependent else .addressAndPortDependent
      else if alternate = public1 then .addressDependent else .addressAndPortDependent := by
  simp only [mapping, mapping.byPort, server2, server1Alt, ne_eq, Option.some.injEq, ite_not]

namespace SurveySite

section

variable {site : SurveySite} {place : SurveyPlace} {main server1 : Address}

theorem echo_drawn (site : SurveySite) (place : SurveyPlace) (port : UInt16) (server : Address) (kind : EchoKind) :
    (site.evaluate place (.echo port server kind)).2.drawn = place.drawn + 1 :=
  site.ask_drawn place _

theorem samplePorts_drawn (server : Address) (ports : List UInt16) (place : SurveyPlace) :
    (site.evaluate place (.samplePorts server ports)).2.drawn = place.drawn + ports.length := by
  induction ports generalizing place with
  | nil => rfl
  | cons port ports ih =>
    simp only [Survey.samplePorts, evaluate_bind, evaluate_pure]
    rw [ih, echo_drawn, List.length_cons]
    omega

theorem sampleAllocation_drawn_le (server : Address) (place : SurveyPlace) :
    (site.evaluate place (.sampleAllocation server)).2.drawn ≤ place.drawn + 2 := by
  simp only [Survey.sampleAllocation, evaluate, evaluate_bind]
  rw [samplePorts_drawn]
  exact Nat.add_le_add_left (Endpoint.alloc_nodup ..).2 _

theorem observeMain_drawn_le (main server1 : Address) (server2 : Option Address) (public1 : Socket) (altPort : UInt16)
    (place : SurveyPlace) : (site.evaluate place (.observeMain main server1 server2 public1 altPort)).2.drawn ≤ place.drawn + 4 := by
  have echo := site.echo_drawn
  unfold Survey.observeMain
  cases server2 <;> by_cases none : altPort = 0 <;> simp only [none, if_true, if_false, evaluate_bind, evaluate_pure]
  all_goals
    split
    all_goals simp only [evaluate_bind, evaluate_pure, echo]
    all_goals omega

theorem report_drawn (main server : Address) (nat : NatType) (place : SurveyPlace) :
    (site.evaluate place (.report main server nat)).2.drawn = place.drawn + 1 :=
  site.ask_drawn place _

theorem gatewayPort_drawn (config : SurveyConfig) (main : Address) (place : SurveyPlace) :
    (site.evaluate place (.gatewayPort config main)).2 = place := by
  unfold Survey.gatewayPort
  split <;> rfl

/-- A survey asks no more than eight times. -/
theorem outcome_drawn_le (site : SurveySite) : site.outcome.2.drawn ≤ 8 := by
  unfold outcome Survey.ofConfig
  split
  · exact Nat.zero_le _
  · rename_i server1 others _
    simp only [evaluate_bind]
    have first := site.echo_drawn site.ground site.me.address.port server1 .plain
    rw [show site.ground.drawn = 0 from rfl] at first
    split
    · simp only [evaluate_pure, first]
      omega
    · rename_i public1 altPort _
      split
      · rw [report_drawn, first]
        omega
      · simp only [evaluate_bind]
        have seen := site.observeMain_drawn_le site.me.address server1 others.head? public1 altPort
          (site.evaluate site.ground (.echo site.me.address.port server1 .plain)).2
        have sampled := site.sampleAllocation_drawn_le server1
          (site.evaluate (site.evaluate site.ground (.echo site.me.address.port server1 .plain)).2
            (.observeMain site.me.address server1 others.head? public1 altPort)).2
        split
        · simp only [evaluate_pure]
          omega
        · split
          · simp only [evaluate_pure]
            omega
          · rw [evaluate_bind, report_drawn, gatewayPort_drawn]
            omega

end

section

variable {site : SurveySite} {place : SurveyPlace} {listed : Bool}

/-- Where the first server sees the main port. -/
def outward (site : SurveySite) : Socket := site.seen site.ground site.me.address.port site.first.main

/-- The place after the first server has answered, and after the second one has if it is listed. -/
def compared (site : SurveySite) (listed : Bool) : SurveyPlace :=
  let greeted := site.sent site.ground site.me.address.port site.first.main
  if listed then site.sent greeted site.me.address.port site.second.main else greeted

/-- The place after the alternate port of the first server has answered as well. -/
def toured (site : SurveySite) (listed : Bool) : SurveyPlace :=
  site.sent (site.compared listed) site.me.address.port site.first.alternate

/-- Whether the second server is listed behind the first one. -/
def Lists (site : SurveySite) (listed : Bool) : Prop :=
  ∃ others, site.config.servers = site.first.address :: others ∧
    others.head? = if listed then some site.second.address else none

/-- What is seen from the main port, and where that leaves off. -/
structure Observed (site : SurveySite) (listed : Bool) (seen : Observations) (place : SurveyPlace) : Prop where
  ours : seen.ours = some site.me.address.socket
  server1 : seen.server1 = some site.outward
  server2 : seen.server2 =
    if listed then some (site.seen (site.compared false) site.me.address.port site.second.main) else none
  server1Alt : seen.server1Alt = some (site.seen (site.compared listed) site.me.address.port site.first.alternate)
  changeServer : site.first.config.partner = some site.second.address →
    seen.changeServer = site.lets (site.toured listed).translations site.endpoint.udp site.second.main site.outward
  changePort : seen.changeServer = false →
    seen.changePort = site.lets (site.toured listed).translations site.endpoint.udp site.first.alternate site.outward
  samples : seen.samples = [(site.me.address.port, site.outward.port)]
  endpoint : place.endpoint = site.endpoint
  translations : place.translations = (site.toured listed).translations

theorem compared_endpoint (site : SurveySite) (listed : Bool) : (site.compared listed).endpoint = site.endpoint := by
  cases listed <;> rfl

theorem toured_endpoint (site : SurveySite) (listed : Bool) : (site.toured listed).endpoint = site.endpoint :=
  site.compared_endpoint listed

/-- What the main port has sent to the first server stays known. -/
theorem toured_knows (site : SurveySite) (listed : Bool) :
    site.translator.Knows (site.toured listed).translations (site.flow site.me.address.port site.first.main) ∧
      site.seen (site.toured listed) site.me.address.port site.first.main = site.outward := by
  have first := site.translator.knows_send site.ground.translations (site.flow site.me.address.port site.first.main)
  have seen := site.translator.outer_send site.ground.translations (site.flow site.me.address.port site.first.main)
  cases listed with
  | false => exact ⟨first.send _, (first.outer_send _).trans seen⟩
  | true => exact ⟨(first.send _).send _, ((first.send _).outer_send _).trans ((first.outer_send _).trans seen)⟩

theorem server?_alternate (alternate : site.first.config.altPort ≠ 0) :
    site.server? site.first.alternate = some site.first :=
  server?_first (by simp [EchoServer.hears, alternate])

theorem server?_main (site : SurveySite) : site.server? site.first.main = some site.first :=
  server?_first (by simp [EchoServer.hears])

/-- The ports that samples are taken from. -/
def granted (site : SurveySite) (e : Endpoint) : List UInt16 × Endpoint :=
  e.alloc site.chance site.system (.v4 site.me.address.ip) Survey.allocationProbes .udp

theorem evaluate_sampleAllocation (site : SurveySite) (place : SurveyPlace) (server : Address) :
    (site.evaluate place (.sampleAllocation server)).1 = .ok (site.evaluate { place with endpoint := (site.granted place.endpoint).2 }
      (.samplePorts server (site.granted place.endpoint).1)).1 := by
  simp only [Survey.sampleAllocation, evaluate, evaluate_bind, granted]

namespace Sound

theorem ready_compared (sound : site.Sound) (listed : Bool) : site.Ready (site.compared listed) := by
  have greeted := sound.ready_sent sound.ready site.me.address.port site.first.main
  cases listed with
  | false => exact greeted
  | true => exact sound.ready_sent greeted _ _

theorem ready_toured (sound : site.Sound) (listed : Bool) : site.Ready (site.toured listed) :=
  sound.ready_sent (sound.ready_compared listed) _ _

theorem evaluate_greeting (sound : site.Sound) :
    site.evaluate site.ground (.echo site.me.address.port site.first.address .plain) =
      (some (site.outward, site.first.config.altPort), site.compared false) :=
  sound.evaluate_plain sound.ready sound.bound site.server?_main rfl sound.away.1

theorem evaluate_comparison (sound : site.Sound) :
    site.evaluate (site.compared false) (.echo site.me.address.port site.second.address .plain) =
      (some (site.seen (site.compared false) site.me.address.port site.second.main, site.second.config.altPort),
        site.compared true) :=
  sound.evaluate_plain (sound.ready_compared false) sound.bound sound.server?_second rfl sound.away.2

theorem evaluate_tour (sound : site.Sound) (alternate : site.first.config.altPort ≠ 0) (listed : Bool) :
    site.evaluate (site.compared listed)
        (.echo site.me.address.port { site.first.address with port := site.first.config.altPort } .plain) =
      (some (site.seen (site.compared listed) site.me.address.port site.first.alternate, site.first.config.altPort),
        site.toured listed) :=
  sound.evaluate_plain (sound.ready_compared listed) (by rw [compared_endpoint]; exact sound.bound)
    (server?_alternate alternate) rfl sound.away.1

/-- All that is seen from the main port. -/
theorem observed (sound : site.Sound) (alternate : site.first.config.altPort ≠ 0) (listed : Bool) :
    ∃ seen place, site.evaluate (site.compared false) (.observeMain site.me.address site.first.address
        (if listed then some site.second.address else none) site.outward site.first.config.altPort) = (seen, place) ∧
      site.Observed listed seen place := by
  have bound : (site.toured listed).endpoint.udp.contains site.me.address.port = true := by
    rw [toured_endpoint]
    exact sound.bound
  have ready := sound.ready_toured listed
  obtain ⟨knows, seen⟩ := site.toured_knows listed
  -- The requests that the filter is found out by go where one has gone before, so the translator stays as it is.
  have still : (site.sent (site.toured listed) site.me.address.port site.first.main).translations = (site.toured listed).translations :=
    knows.send_eq
  let again := site.sent (site.toured listed) site.me.address.port site.first.main
  have againReady : site.Ready again := sound.ready_sent ready _ _
  have againSeen : site.seen again site.me.address.port site.first.main = site.outward := by
    rw [← seen]
    exact congrArg (site.translator.outer · _) still
  have againStill : (site.sent again site.me.address.port site.first.main).translations = (site.toured listed).translations := by
    refine Eq.trans ?_ still
    exact congrArg (site.translator.send · _) still
  let result (byServer byPort : Bool) : Observations :=
    { ours := some site.me.address.socket, server1 := some site.outward
      server2 := if listed then some (site.seen (site.compared false) site.me.address.port site.second.main) else none
      server1Alt := some (site.seen (site.compared listed) site.me.address.port site.first.alternate)
      changeServer := byServer, changePort := byPort, samples := [(site.me.address.port, site.outward.port)] }
  have server := sound.isSome_changeServer ready bound
  have serverPlace := sound.evaluate_echo_place ready bound .changeServer sound.away.1
  have port := sound.isSome_changePort againReady bound alternate
  have portPlace := sound.evaluate_echo_place againReady bound .changePort sound.away.1
  rw [still, seen, toured_endpoint] at server
  rw [againStill, againSeen, show again.endpoint = site.endpoint from site.toured_endpoint listed] at port
  cases filtered : (site.evaluate (site.toured listed) (.echo site.me.address.port site.first.address .changeServer)).1.isSome with
  | true =>
    rw [filtered] at server
    refine ⟨result true false, again, ?_, ⟨rfl, rfl, rfl, rfl, server, (fun refused => nomatch refused), rfl, ?_, still⟩⟩
    · cases listed
      all_goals simp only [Survey.observeMain, Bool.false_eq_true, if_true, if_false, if_neg alternate, evaluate_bind, evaluate_pure,
        sound.evaluate_comparison, sound.evaluate_tour alternate, serverPlace, filtered]
      all_goals rfl
    · exact site.toured_endpoint listed
  | false =>
    rw [filtered] at server
    refine ⟨result false _, _, ?_, ⟨rfl, rfl, rfl, rfl, server, fun _ => port, rfl, ?_, againStill⟩⟩
    · cases listed
      all_goals simp only [Survey.observeMain, Bool.false_eq_true, if_true, if_false, if_neg alternate, evaluate_bind, evaluate_pure,
        sound.evaluate_comparison, sound.evaluate_tour alternate, serverPlace, filtered]
      all_goals exact congrArg _ portPlace
    · exact site.toured_endpoint listed

/-- A node that the first server sees as it sees itself is open. -/
theorem outcome_open (sound : site.Sound) (lists : site.Lists listed) (plain : site.outward = site.me.address.socket) :
    site.outcome.1 = .ok .unrestricted := by
  obtain ⟨others, servers, _⟩ := lists
  unfold outcome Survey.ofConfig
  rw [servers]
  simp only [evaluate_bind, sound.evaluate_greeting, if_pos plain]
  rfl

/-- Any other node is told what the observations say. -/
theorem outcome_natted (sound : site.Sound) (alternate : site.first.config.altPort ≠ 0) (lists : site.Lists listed)
    (hidden : site.outward ≠ site.me.address.socket) : ∃ seen place samples nat, site.Observed listed seen place ∧
      (site.evaluate place (.sampleAllocation site.first.address)).1 = .ok samples ∧ site.outcome.1 = .ok nat ∧
      nat.isOpen = false ∧ nat.mapping = seen.mapping site.outward ∧ nat.filtering = seen.filtering ∧
      (nat.allocation, nat.delta) = Observations.allocation (seen.samples ++ samples) site.config.deltaWindow ∧
      nat.technique = .forMapping nat.mapping nat.allocation := by
  obtain ⟨others, servers, next⟩ := lists
  obtain ⟨seen, place, evaluated, observed⟩ := sound.observed alternate listed
  obtain ⟨samples, sampled⟩ : ∃ samples, (site.evaluate place (.sampleAllocation site.first.address)).1 = .ok samples :=
    ⟨_, evaluate_sampleAllocation ..⟩
  refine ⟨seen, place, samples, ?_⟩
  have classified : { seen with samples := seen.samples ++ samples }.classify site.config.deltaWindow = .ok
      { NatType.natted (seen.mapping site.outward) (Observations.allocation (seen.samples ++ samples) site.config.deltaWindow).1
          seen.filtering with delta := (Observations.allocation (seen.samples ++ samples) site.config.deltaWindow).2 } := by
    simp only [Observations.classify, observed.ours, observed.server1, if_neg hidden]
    rfl
  have outcome : site.outcome.1 = .ok
      { NatType.natted (seen.mapping site.outward) (Observations.allocation (seen.samples ++ samples) site.config.deltaWindow).1
          seen.filtering with
        delta := (Observations.allocation (seen.samples ++ samples) site.config.deltaWindow).2
        bindingTimeout := site.config.bindingTimeout
        upnpPort := (site.evaluate (site.evaluate place (.sampleAllocation site.first.address)).2
          (.gatewayPort site.config site.me.address)).1 } := by
    unfold SurveySite.outcome Survey.ofConfig
    rw [servers]
    simp only [evaluate_bind, sound.evaluate_greeting, if_neg hidden, next, evaluated, sampled, classified]
    rfl
  exact ⟨_, observed, sampled, outcome, rfl, rfl, rfl, rfl, rfl⟩

/-- The survey ends with the outcome of its site. -/
theorem finds (sound : site.Sound) {nat : NatType} {found : NatType → Prop} (outcome : site.outcome.1 = .ok nat) (holds : found nat) :
    site.Finds found :=
  (inevitable_start sound.backoff (sound.tickets.mono site.outcome_drawn_le)).mono fun _ ended => ⟨nat, outcome ▸ ended, holds⟩

/-- And with nothing else. -/
theorem of_finds (sound : site.Sound) {nat : NatType} {found : NatType → Prop} (outcome : site.outcome.1 = .ok nat)
    (finds : site.Finds found) : found nat := by
  have ends := inevitable_start sound.backoff (sound.tickets.mono site.outcome_drawn_le)
  obtain ⟨w, ended, other, also, holds⟩ := ends.both_reached finds (fun _ _ ended step => result?_of_step step ended)
    fun _ _ ⟨nat, ended, holds⟩ step => ⟨nat, result?_of_step step ended, holds⟩
  obtain rfl : nat = other := Except.ok.inj (Option.some.inj (outcome ▸ ended.symm.trans also))
  exact holds

end Sound

end

/-- Draws in a row come to the same ticket again only after all others. -/
theorem distinct_chance {count : Nat} (few : count ≤ 4294967296) : Simulation.chance.Distinct count := by
  intro m n first second same
  have numbers := congrArg (fun id : Ticket => id.value.toNat) same
  simp only [Simulation.chance, UInt64.toNat_ofNat'] at numbers
  omega

/-- A node with a private address behind a translator, and two servers of which the first passes requests on to the second. -/
def rehearsal (translator : Translator) (listed : Bool) (altPort : UInt16) : SurveySite where
  me := ⟨⟨.ofOctets 192 168 0 2, 4000, 9⟩, 0, none⟩
  roster := .empty 3
  chance := Simulation.chance
  system socket := .bound socket.port
  gateway := none
  config := { servers := ⟨.ofOctets 80 0 0 1, 3478, 1⟩ :: if listed then [⟨.ofOctets 80 0 0 2, 3478, 2⟩] else [] }
  endpoint :=
    { config := {}
      udp := ⟨.ofList [(4000, .v4 (.ofOctets 192 168 0 2) 4000)], .ofList [(.v4 (.ofOctets 192 168 0 2) 4000, ())]⟩ }
  begun := 0
  translator
  first := ⟨⟨⟨.ofOctets 80 0 0 1, 3478, 1⟩, 0, .unrestricted, []⟩, ⟨altPort, some ⟨.ofOctets 80 0 0 2, 3478, 2⟩⟩⟩
  second := ⟨⟨⟨.ofOctets 80 0 0 2, 3478, 2⟩, 0, .unrestricted, []⟩, ⟨0, none⟩⟩

theorem rehearsal_sound {translator : Translator} (listed : Bool) (altPort : UInt16)
    (elsewhere : ∀ mappings key, (translator.pick mappings key).1 ≠ .ofOctets 80 0 0 1 ∧
      (translator.pick mappings key).1 ≠ .ofOctets 80 0 0 2)
    (contacted : ∀ flows flow, flow ∈ flows → translator.admits flows (translator.mapping.key flow) flow.dest = true) :
    (rehearsal translator listed altPort).Sound where
  backoff := show ({} : SurveyConfig).backoff.MeasuredPast from
    ⟨by decide, show ∀ count ≤ 4, (Backoff.timeout? ({} : SurveyConfig).backoff count).isSome = true by decide +kernel⟩
  tickets := distinct_chance (by decide)
  table := by
    have inserted : PortTable.insert .empty (.v4 (.ofOctets 192 168 0 2) 4000) () =
      .ok (rehearsal translator listed altPort).endpoint.udp := rfl
    exact (PortTable.insert_contains inserted).2.2 PortTable.sound_empty
  bound := rfl
  parents := by
    show (Identity.contact ⟨⟨.ofOctets 192 168 0 2, 4000, 9⟩, 0, none⟩ (.empty 3)).parents.length ≤ 255
    decide
  frames := by
    show 52 + 10 * (Identity.contact ⟨⟨.ofOctets 192 168 0 2, 4000, 9⟩, 0, none⟩ (.empty 3)).parents.length ≤ 65535
    decide
  apart := show Ipv4.ofOctets 80 0 0 1 ≠ .ofOctets 80 0 0 2 by decide
  away := show Ipv4.ofOctets 192 168 0 2 ≠ .ofOctets 80 0 0 1 ∧ Ipv4.ofOctets 192 168 0 2 ≠ .ofOctets 80 0 0 2 by decide
  picked := elsewhere
  contacted := contacted

end SurveySite

end NatTraversal
