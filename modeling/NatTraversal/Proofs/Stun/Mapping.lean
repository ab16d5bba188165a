import Mathlib.Data.Set.Function
import NatTraversal.Proofs.Stun.Outcome

namespace NatTraversal

namespace SurveySite

/-- What the translator tells apart of all that the node may send to the servers. -/
def keys (site : SurveySite) : Set MappingKey :=
  { key | ∃ port dest, (site.server? dest).isSome = true ∧ key = site.translator.mapping.key (site.flow port dest) }

/-- The public socket that an assignment gives a port towards a destination. -/
def given (site : SurveySite) (assign : MappingKey → Ipv4 × UInt16) (port : UInt16) (dest : Socket) : Socket :=
  let key := site.translator.mapping.key (site.flow port dest)
  .v4 (assign key).1 (assign key).2

section

variable {site : SurveySite} {assign : MappingKey → Ipv4 × UInt16}

/-- A port is seen where the assignment says. -/
theorem seen_eq_given (assigned : ∀ mappings key, site.translator.pick mappings key = assign key) {place : SurveyPlace}
    (made : ∀ key socket, place.translations.mappings.get? key = some socket → socket = .v4 (assign key).1 (assign key).2)
    (port : UInt16) (dest : Socket) : site.seen place port dest = site.given assign port dest ∧
      ∀ key socket, (site.sent place port dest).translations.mappings.get? key = some socket →
        socket = .v4 (assign key).1 (assign key).2 := by
  have seen : site.seen place port dest = site.given assign port dest := by
    unfold SurveySite.seen Translator.outer
    cases known : place.translations.mappings.get? (site.translator.mapping.key (site.flow port dest)) with
    | some socket => exact made _ socket known
    | none =>
      rw [Option.getD_none, assigned]
      rfl
  refine ⟨seen, fun key socket known => ?_⟩
  rw [sent, Translator.get?_send] at known
  split at known
  · rename_i own
    rw [own, ← Option.some.inj known]
    exact seen
  · exact made key socket known

theorem Observed.of_assigned {seen : Observations} {place : SurveyPlace} (observed : site.Observed true seen place)
    (assigned : ∀ mappings key, site.translator.pick mappings key = assign key) :
    site.outward = site.given assign site.me.address.port site.first.main ∧
      seen.server2 = some (site.given assign site.me.address.port site.second.main) ∧
      seen.server1Alt = some (site.given assign site.me.address.port site.first.alternate) := by
  have start : ∀ key socket, site.ground.translations.mappings.get? key = some socket → socket = .v4 (assign key).1 (assign key).2 :=
    fun _ _ known => nomatch known
  obtain ⟨first, made⟩ := seen_eq_given assigned start site.me.address.port site.first.main
  obtain ⟨second, made⟩ := seen_eq_given assigned made site.me.address.port site.second.main
  obtain ⟨alternate, _⟩ := seen_eq_given assigned made site.me.address.port site.first.alternate
  exact ⟨first, observed.server2.trans (congrArg some second), observed.server1Alt.trans (congrArg some alternate)⟩

/-- Two sockets of the servers see a port alike exactly if the mapping does not tell them apart. -/
theorem given_eq_iff (injective : Set.InjOn assign site.keys) (port : UInt16) {dest other : Socket}
    (heard : (site.server? dest).isSome = true) (also : (site.server? other).isSome = true) :
    site.given assign port dest = site.given assign port other ↔
      site.translator.mapping.key (site.flow port dest) = site.translator.mapping.key (site.flow port other) := by
  rw [given, given, Socket.v4_inj, ← Prod.ext_iff]
  exact ⟨fun same => injective ⟨_, _, heard, rfl⟩ ⟨_, _, also, rfl⟩ same, congrArg assign⟩

/-- The mapping is found as far as it shows: one that looks at ports does so only between two ports. -/
theorem Sound.outcome_mapping (sound : site.Sound) (alternate : site.first.config.altPort ≠ 0) (lists : site.Lists true)
    (assigned : ∀ mappings key, site.translator.pick mappings key = assign key) (injective : Set.InjOn assign site.keys)
    (hidden : site.outward ≠ site.me.address.socket) : ∃ nat, site.outcome.1 = .ok nat ∧ nat.isOpen = false ∧ nat.mapping =
      if site.translator.mapping = .addressAndPortDependent ∧ site.first.config.altPort = site.first.address.port
        then .addressDependent else site.translator.mapping := by
  obtain ⟨seen, place, samples, nat, observed, _, outcome, isOpen, found, _⟩ := sound.outcome_natted alternate lists hidden
  refine ⟨nat, outcome, isOpen, found.trans ?_⟩
  obtain ⟨outward, server2, server1Alt⟩ := observed.of_assigned assigned
  have main : (site.server? site.first.main).isSome = true := by rw [site.server?_main, Option.isSome_some]
  have second : (site.server? site.second.main).isSome = true := by rw [sound.server?_second, Option.isSome_some]
  have alt : (site.server? site.first.alternate).isSome = true := by rw [server?_alternate alternate, Option.isSome_some]
  have servers : site.given assign site.me.address.port site.second.main = site.outward ↔
      site.translator.mapping = .endpointIndependent := by
    rw [outward, given_eq_iff injective _ second main, sound.key_second_iff]
  have ports : site.given assign site.me.address.port site.first.alternate = site.outward ↔
      (site.translator.mapping = .addressAndPortDependent → site.first.config.altPort = site.first.address.port) := by
    rw [outward, given_eq_iff injective _ alt main, key_alternate_iff]
  rw [Observations.mapping_of_answers _ server2 server1Alt]
  simp only [servers, ports]
  cases site.translator.mapping <;> simp

/-- A translator that has a public socket of its own for each of its keys is found to have the mapping that it has, given two
ports of the first server to tell ports apart by. Without a translator the node is found to be open. -/
theorem Sound.finds_mapping (sound : site.Sound) (alternate : site.first.config.altPort ≠ 0) (lists : site.Lists true)
    (assigned : ∀ mappings key, site.translator.pick mappings key = assign key) (injective : Set.InjOn assign site.keys) :
    (site.outward ≠ site.me.address.socket →
      (site.translator.mapping = .addressAndPortDependent → site.first.config.altPort ≠ site.first.address.port) →
      site.Finds fun nat => nat.isOpen = false ∧ nat.mapping = site.translator.mapping) ∧
    (site.outward = site.me.address.socket → site.Finds fun nat => nat = .unrestricted) := by
  constructor
  · intro hidden ports
    obtain ⟨nat, outcome, isOpen, found⟩ := sound.outcome_mapping alternate lists assigned injective hidden
    refine sound.finds outcome ⟨isOpen, found.trans (if_neg ?_)⟩
    exact fun ⟨both, same⟩ => ports both same
  · exact fun plain => sound.finds (sound.outcome_open lists plain) rfl

end

/-- A translator that has one public address for each socket of the servers. -/
def spread : Translator where
  mapping := .addressAndPortDependent
  pick _ key := (publicIp key, key.inner.port)
  admits _ _ _ := true
where
  publicIp (key : MappingKey) : Ipv4 :=
    if key.ip = some (.v4 (.ofOctets 80 0 0 2)) then .ofOctets 90 0 0 3
    else if key.port = some 3478 then .ofOctets 90 0 0 1 else .ofOctets 90 0 0 2

theorem spread_injective {altPort : UInt16} (near : altPort = 3478 ∨ altPort = 3479) :
    Set.InjOn (fun key => (spread.publicIp key, key.inner.port)) (rehearsal spread true altPort).keys := by
  have sockets {dest : Socket} (heard : ((rehearsal spread true altPort).server? dest).isSome = true) :
      dest = .v4 (.ofOctets 80 0 0 1) 3478 ∨ dest = .v4 (.ofOctets 80 0 0 1) altPort ∨ dest = .v4 (.ofOctets 80 0 0 2) 3478 := by
    have first : (rehearsal spread true altPort).first.hears dest = true →
        dest = .v4 (.ofOctets 80 0 0 1) 3478 ∨ dest = .v4 (.ofOctets 80 0 0 1) altPort := by
      simp only [EchoServer.hears, Bool.or_eq_true, Bool.and_eq_true, decide_eq_true_eq]
      exact fun heard => heard.imp_right And.right
    have second : (rehearsal spread true altPort).second.hears dest = true → dest = .v4 (.ofOctets 80 0 0 2) 3478 := by
      simp only [EchoServer.hears, Bool.or_eq_true, Bool.and_eq_true, decide_eq_true_eq]
      exact fun heard => heard.resolve_right fun alternate => alternate.1 rfl
    unfold server? at heard
    split at heard
    · rename_i own
      exact (first own).imp_right .inl
    · split at heard
      · rename_i own
        exact .inr (.inr (second own))
      · cases heard
  have tag (inner : Socket) (port : UInt16) : spread.publicIp ⟨inner, some (.v4 (.ofOctets 80 0 0 1)), some port⟩ =
      if port = 3478 then .ofOctets 90 0 0 1 else .ofOctets 90 0 0 2 := by
    have first : (some (.v4 (.ofOctets 80 0 0 1)) : Option Ip) ≠ some (.v4 (.ofOctets 80 0 0 2)) := by decide
    rw [spread.publicIp, if_neg first]
    simp only [Option.some.injEq]
  have other (inner : Socket) : spread.publicIp ⟨inner, some (.v4 (.ofOctets 80 0 0 2)), some 3478⟩ = .ofOctets 90 0 0 3 := rfl
  rintro _ ⟨port, dest, heard, rfl⟩ _ ⟨last, also, heardAlso, rfl⟩ same
  obtain ⟨ips, ports⟩ := Prod.mk.inj same
  obtain rfl : port = last := ports
  change spread.publicIp ⟨_, some dest.ip, some dest.port⟩ = spread.publicIp ⟨_, some also.ip, some also.port⟩ at ips
  suffices dest = also by rw [this]
  rcases near with rfl | rfl
  all_goals
    rcases sockets heard with rfl | rfl | rfl <;> rcases sockets heardAlso with rfl | rfl | rfl
    all_goals first | rfl | exact absurd ips (by simp only [Socket.v4, tag, other]; decide)

theorem spread_sound (altPort : UInt16) : (rehearsal spread true altPort).Sound := by
  refine rehearsal_sound true altPort (fun mappings key => ?_) fun _ _ _ => rfl
  show spread.publicIp key ≠ _ ∧ spread.publicIp key ≠ _
  unfold spread.publicIp
  split
  · decide
  · split <;> decide

theorem spread_hidden (altPort : UInt16) :
    (rehearsal spread true altPort).outward ≠ (rehearsal spread true altPort).me.address.socket :=
  show Socket.v4 (.ofOctets 90 0 0 1) 4000 ≠ .v4 (.ofOctets 192 168 0 2) 4000 by decide

/-- A node whose addresses are left as they are. -/
def transparent : Translator where
  mapping := .endpointIndependent
  pick _ key := (.ofOctets 192 168 0 2, key.inner.port)
  admits _ _ _ := true

theorem transparent_injective :
    Set.InjOn (fun key => (Ipv4.ofOctets 192 168 0 2, key.inner.port)) (rehearsal transparent true 3479).keys := by
  rintro _ ⟨port, dest, _, rfl⟩ _ ⟨other, last, _, rfl⟩ same
  obtain rfl : port = other := (Prod.mk.inj same).2
  rfl

/-- A translator that tells everything apart, and none at all. -/
theorem spread_and_transparent_found :
    ((rehearsal spread true 3479).Finds fun nat => nat.isOpen = false ∧ nat.mapping = .addressAndPortDependent) ∧
      (rehearsal transparent true 3479).Finds fun nat => nat = .unrestricted := by
  constructor
  · exact ((spread_sound 3479).finds_mapping (show (3479 : UInt16) ≠ 0 by decide) ⟨[_], rfl, rfl⟩ (fun _ _ => rfl)
      (spread_injective (.inr rfl))).1 (spread_hidden 3479) fun _ => show (3479 : UInt16) ≠ 3478 by decide
  · have sound : (rehearsal transparent true 3479).Sound := by
      refine rehearsal_sound true 3479 (fun mappings key => ?_) fun _ _ _ => rfl
      exact show Ipv4.ofOctets 192 168 0 2 ≠ _ ∧ Ipv4.ofOctets 192 168 0 2 ≠ _ by decide
    exact (sound.finds_mapping (show (3479 : UInt16) ≠ 0 by decide) ⟨[_], rfl, rfl⟩ (fun _ _ => rfl)
      transparent_injective).2 rfl

/-- Where the alternate port is the main one, a translator that tells ports apart does not show it. -/
theorem spread_missed_at_one_port :
    ¬ (rehearsal spread true 3478).Finds fun nat => nat.isOpen = false ∧ nat.mapping = .addressAndPortDependent := by
  intro finds
  obtain ⟨nat, outcome, _, found⟩ := (spread_sound 3478).outcome_mapping (show (3478 : UInt16) ≠ 0 by decide) ⟨[_], rfl, rfl⟩
    (fun _ _ => rfl) (spread_injective (.inl rfl)) (spread_hidden 3478)
  cases found.symm.trans ((spread_sound 3478).of_finds outcome finds).2

end SurveySite

end NatTraversal
