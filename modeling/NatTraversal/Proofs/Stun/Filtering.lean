import NatTraversal.Proofs.Stun.Outcome

namespace NatTraversal

namespace SurveySite

section

variable {site : SurveySite} {listed : Bool} {filtering : Dependence}

/-- The main port has sent to every socket of the servers that is listed or told. -/
theorem mem_contacts_toured (site : SurveySite) (listed : Bool) {dest : Socket} :
    dest ∈ Translator.contacts (site.toured listed).translations.flows site.me.address.socket ↔
      dest = site.first.main ∨ (listed = true ∧ dest = site.second.main) ∨ dest = site.first.alternate := by
  have own (other : Socket) : (⟨site.me.address.socket, dest⟩ : Flow) = site.flow site.me.address.port other ↔ dest = other := by
    rw [Flow.mk.injEq]
    exact and_iff_right rfl
  have none : (⟨site.me.address.socket, dest⟩ : Flow) ∉ site.ground.translations.flows := List.not_mem_nil
  rw [Translator.mem_contacts, toured, sent, Translator.mem_flows_send, own]
  cases listed with
  | false => simp [compared, sent, Translator.mem_flows_send, own, none]
  | true => simp [compared, sent, Translator.mem_flows_send, own, none, or_assoc]

/-- All that the main port sends goes out through one mapping where the destination does not count. -/
theorem entries_toured (independent : site.translator.mapping = .endpointIndependent) (listed : Bool) :
    (site.toured listed).translations.mappings.entries = [(⟨site.me.address.socket, none, none⟩, site.outward)] := by
  let main (dest : Socket) := site.flow site.me.address.port dest
  have key := site.key_of_independent independent site.me.address.port
  have made : (site.compared false).translations.mappings.entries = [(⟨site.me.address.socket, none, none⟩, site.outward)] := by
    show Table.entries (Table.insert .empty (site.translator.mapping.key (main site.first.main)) site.outward) = _
    rw [key]
    rfl
  have kept {t : Translations} (dest : Socket) (one : t.mappings.entries = [(⟨site.me.address.socket, none, none⟩, site.outward)]) :
      (site.translator.send t (main dest)).mappings.entries = [(⟨site.me.address.socket, none, none⟩, site.outward)] := by
    have known : t.mappings.get? (site.translator.mapping.key (main dest)) = some site.outward := by
      rw [Table.get?_eq_some_iff, key, one]
      exact List.mem_singleton.mpr rfl
    rw [Translator.send_mappings_of_known known, one]
  cases listed with
  | false => exact kept _ made
  | true => exact kept _ (kept _ made)

/-- What comes from a socket gets in to the main port if the filter passes it. -/
theorem lets_toured (sound : site.Sound) (independent : site.translator.mapping = .endpointIndependent)
    (filters : site.translator.FiltersBy filtering) (listed : Bool) (source : Socket) :
    site.lets (site.toured listed).translations site.endpoint.udp source site.outward =
      filtering.passes (Translator.contacts (site.toured listed).translations.flows site.me.address.socket) source := by
  have bound : site.endpoint.udp.contains site.me.address.socket.port = true := sound.bound
  simp only [lets, Translator.lets, entries_toured independent listed, List.any_cons, List.any_nil, Bool.or_false, decide_true,
    Bool.true_and, bound, filters _ _ source]

/-- An answer from a server that the main port has sent to gets in whatever the filter is. So does one from the alternate
port of the first server, and only a server that is not listed tells the filter. -/
theorem Sound.outcome_filtering (sound : site.Sound) (alternate : site.first.config.altPort ≠ 0)
    (partner : site.first.config.partner = some site.second.address) (lists : site.Lists listed)
    (independent : site.translator.mapping = .endpointIndependent) (filters : site.translator.FiltersBy filtering)
    (hidden : site.outward ≠ site.me.address.socket) : ∃ nat, site.outcome.1 = .ok nat ∧ nat.isOpen = false ∧
      nat.filtering = if filtering = .endpointIndependent ∨ listed = true then .endpointIndependent else .addressDependent := by
  obtain ⟨seen, place, samples, nat, observed, _, outcome, isOpen, _, found, _⟩ := sound.outcome_natted alternate lists hidden
  refine ⟨nat, outcome, isOpen, ?_⟩
  have server := observed.changeServer partner
  rw [lets_toured sound independent filters] at server
  have port : seen.changeServer = false → seen.changePort = true := by
    intro refused
    rw [observed.changePort refused, lets_toured sound independent filters]
    exact Dependence.passes_of_mem ((site.mem_contacts_toured listed).mpr (.inr (.inr rfl)))
  -- The second server has been sent nothing yet exactly if it is not listed.
  have passes : seen.changeServer = decide (filtering = .endpointIndependent ∨ listed = true) := by
    rw [server]
    cases listed with
    | true =>
      rw [Dependence.passes_of_mem ((site.mem_contacts_toured true).mpr (.inr (.inl ⟨rfl, rfl⟩)))]
      simp
    | false =>
      rw [Dependence.passes_of_stranger]
      · simp
      · intro contact member
        have first : contact.ip = .v4 site.first.address.ip := by
          rcases (site.mem_contacts_toured false).mp member with rfl | ⟨absurd, _⟩ | rfl
          · rfl
          · cases absurd
          · rfl
        rw [first]
        exact fun same => sound.apart (Ip.v4.inj same)
  rw [found, Observations.filtering]
  by_cases through : filtering = .endpointIndependent ∨ listed = true
  · rw [passes, if_pos through, if_pos (decide_eq_true through)]
  · have refused : seen.changeServer = false := by rw [passes, decide_eq_false through]
    rw [if_neg through, refused, port refused]
    rfl

/-- The survey tells a filter from an open one by the answer of a server that is not listed, and no more. -/
theorem Sound.finds_filtering (sound : site.Sound) (alternate : site.first.config.altPort ≠ 0)
    (partner : site.first.config.partner = some site.second.address) (lists : site.Lists listed)
    (independent : site.translator.mapping = .endpointIndependent) (filters : site.translator.FiltersBy filtering)
    (hidden : site.outward ≠ site.me.address.socket) : site.Finds fun nat => nat.isOpen = false ∧
      nat.filtering = if filtering = .endpointIndependent ∨ listed = true then .endpointIndependent else .addressDependent := by
  obtain ⟨nat, outcome, found⟩ := sound.outcome_filtering alternate partner lists independent filters hidden
  exact sound.finds outcome found

end

/-- A translator with this filter that makes one mapping for each port of the node. -/
def screen (filtering : Dependence) : Translator where
  mapping := .endpointIndependent
  pick mappings _ := (.ofOctets 90 0 0 1, 7000 + .ofNat mappings.size)
  admits flows key source := filtering.passes (Translator.contacts flows key.inner) source

theorem screen_filters (filtering : Dependence) : (screen filtering).FiltersBy filtering := fun _ _ _ => rfl

theorem screened_sound (filtering : Dependence) (listed : Bool) : (rehearsal (screen filtering) listed 3479).Sound :=
  rehearsal_sound listed 3479 (fun _ _ => show Ipv4.ofOctets 90 0 0 1 ≠ _ ∧ Ipv4.ofOctets 90 0 0 1 ≠ _ by decide)
    (screen_filters filtering).contacted

theorem screened_hidden (filtering : Dependence) (listed : Bool) :
    (rehearsal (screen filtering) listed 3479).outward ≠ (rehearsal (screen filtering) listed 3479).me.address.socket :=
  show Socket.v4 (.ofOctets 90 0 0 1) 7000 ≠ .v4 (.ofOctets 192 168 0 2) 4000 by decide

/-- A filter by address is found if the partner of the only server is a stranger. -/
theorem address_filter_found : (rehearsal (screen .addressDependent) false 3479).Finds fun nat =>
    nat.isOpen = false ∧ nat.filtering = .addressDependent := by
  have lists : (rehearsal (screen .addressDependent) false 3479).Lists false := ⟨[], rfl, rfl⟩
  exact (screened_sound .addressDependent false).finds_filtering (show (3479 : UInt16) ≠ 0 by decide) rfl lists rfl
    (screen_filters .addressDependent) (screened_hidden .addressDependent false)

/-- A filter by address and port is taken for one by address, and with both servers listed every filter for an open one. -/
theorem strict_filters_missed :
    (¬ (rehearsal (screen .addressAndPortDependent) false 3479).Finds fun nat => nat.filtering = .addressAndPortDependent) ∧
      (¬ (rehearsal (screen .addressDependent) true 3479).Finds fun nat => nat.filtering = .addressDependent) ∧
      ¬ (rehearsal (screen .addressAndPortDependent) true 3479).Finds fun nat => nat.filtering = .addressAndPortDependent := by
  have missed (filtering : Dependence) (listed : Bool) (lists : (rehearsal (screen filtering) listed 3479).Lists listed)
      (other : filtering ≠ if filtering = .endpointIndependent ∨ listed = true then .endpointIndependent else .addressDependent) :
      ¬ (rehearsal (screen filtering) listed 3479).Finds fun nat => nat.filtering = filtering := by
    intro finds
    have sound := screened_sound filtering listed
    obtain ⟨nat, outcome, _, found⟩ := sound.outcome_filtering (show (3479 : UInt16) ≠ 0 by decide) rfl lists rfl
      (screen_filters filtering) (screened_hidden filtering listed)
    exact other ((sound.of_finds outcome finds).symm.trans found)
  exact ⟨missed _ false ⟨[], rfl, rfl⟩ (by decide), missed _ true ⟨[_], rfl, rfl⟩ (by decide),
    missed _ true ⟨[_], rfl, rfl⟩ (by decide)⟩

end SurveySite

end NatTraversal
