import Mathlib.Tactic.Ring
import NatTraversal.Proofs.Stun.Outcome

namespace NatTraversal

/-- Three samples, the last two a step apart, and so many steps between the first two. -/
theorem Observations.allocation_of_spaced {a b c : UInt16 × UInt16} {window : UInt16} {base step count : Nat} (moved : a.1 ≠ a.2)
    (first : a.2.toNat = base) (second : b.2.toNat = base + count * step) (third : c.2.toNat = base + (count + 1) * step)
    (positive : 1 ≤ step) (below : step ≤ min window.toNat 255) (some_made : 1 ≤ count) :
    allocation [a, b, c] window = if count = 1 then (.portContiguity, .ofNat step) else (.random, 0) := by
  have unlike : ¬ ([a, b, c].all fun sample => sample.1 == sample.2) = true := by simp [moved]
  have far : (b.2.toNat : Int) - a.2.toNat = (count * step : Nat) := by omega
  have near : (c.2.toNat : Int) - b.2.toNat = step := by
    have : (count + 1) * step = count * step + step := by ring
    omega
  rw [allocation, if_neg unlike]
  simp only [List.map_cons, List.map_nil, steps, far, near, List.all_cons, List.all_nil, Bool.and_true, beq_iff_eq, Nat.cast_inj]
  by_cases one : count = 1
  · subst one
    have fits : (0 : Int) < (1 * step : Nat) ∧ ((1 * step : Nat) : Int) ≤ window.toNat ∧ ((1 * step : Nat) : Int) ≤ 255 ∧
        step = 1 * step := by omega
    rw [if_pos fits, if_pos rfl, Nat.one_mul, Int.toNat_natCast]
  · have twice : 2 * step ≤ count * step := Nat.mul_le_mul_right step (by omega)
    rw [if_neg (by omega), if_neg one]

namespace Translator

/-- Whether every mapping but the first gets the public port that comes so far behind that of the mapping before. -/
def Steps (x : Translator) (step : Nat) : Prop :=
  ∀ (mappings : Table MappingKey Socket) key last, mappings.values.getLast? = some last → (x.pick mappings key).2 = last.port + .ofNat step

end Translator

/-- Whether so many mappings have been made after the first one, each a step further on. -/
structure Translations.Reached (t : Translations) (base step made : Nat) : Prop where
  size : t.mappings.size = made + 1
  last : ∃ socket, t.mappings.values.getLast? = some socket ∧ socket.port.toNat = base + made * step

namespace Translations.Reached

variable {x : Translator} {t : Translations} {flow : Flow} {base step made : Nat}

theorem send_known (reached : t.Reached base step made) (known : t.mappings.contains (x.mapping.key flow) = true) :
    (x.send t flow).Reached base step made := by
  rw [Table.contains_eq_isSome] at known
  obtain ⟨socket, found⟩ := Option.isSome_iff_exists.mp known
  have same := Translator.send_mappings_of_known found
  exact ⟨same ▸ reached.size, same ▸ reached.last⟩

/-- A new mapping is the next one. -/
theorem send_new (reached : t.Reached base step made) (steps : x.Steps step) (new : t.mappings.contains (x.mapping.key flow) = false)
    (room : base + (made + 1) * step < 65536) :
    (x.outer t flow).port.toNat = base + (made + 1) * step ∧ (x.send t flow).Reached base step (made + 1) := by
  obtain ⟨last, found, port⟩ := reached.last
  have absent : t.mappings.get? (x.mapping.key flow) = none := Table.get?_eq_none (by simp [new])
  have next : (x.outer t flow).port.toNat = base + (made + 1) * step := by
    have more : (made + 1) * step = made * step + step := by ring
    have picked : (x.outer t flow).port = last.port + .ofNat step := by
      rw [Translator.outer, absent, Option.getD_none]
      exact steps _ _ last found
    rw [picked, UInt16.toNat_add, port, UInt16.toNat_ofNat']
    omega
  have entries : (x.send t flow).mappings.entries = t.mappings.entries ++ [(x.mapping.key flow, x.outer t flow)] := by
    have sent : (x.send t flow).mappings = t.mappings.insert (x.mapping.key flow) (x.outer t flow) := if_neg (by simp [new])
    rw [sent, Table.entries_insert_of_new new]
  refine ⟨next, ?_, x.outer t flow, ?_, next⟩
  · rw [Table.size, entries, List.length_append, List.length_singleton]
    exact congrArg (· + 1) reached.size
  · rw [Table.values, entries, List.map_append, List.map_singleton, List.getLast?_append, List.getLast?_singleton, Option.some_or]

end Translations.Reached

namespace SurveySite

/-- Whether all mappings are for these ports of the node. -/
def MadeFor (site : SurveySite) (t : Translations) (ports : List UInt16) : Prop :=
  ∀ key, t.mappings.contains key = true → ∃ port ∈ ports, key.inner = .v4 site.me.address.ip port

section

variable {site : SurveySite} {place : SurveyPlace} {base step made : Nat}

namespace MadeFor

variable {t : Translations} {ports : List UInt16} {port : UInt16} {dest : Socket}

theorem send (made : site.MadeFor t ports) (port : UInt16) (dest : Socket) :
    site.MadeFor (site.translator.send t (site.flow port dest)) (port :: ports) := by
  intro key known
  rw [Table.contains_eq_isSome, Translator.get?_send] at known
  split at known
  · rename_i own
    refine ⟨port, List.mem_cons_self, ?_⟩
    rw [own, Dependence.key_inner]
    rfl
  · rw [← Table.contains_eq_isSome] at known
    obtain ⟨other, member, inner⟩ := made key known
    exact ⟨other, List.mem_cons_of_mem _ member, inner⟩

theorem mono {more : List UInt16} (made : site.MadeFor t ports) (less : ∀ port ∈ ports, port ∈ more) : site.MadeFor t more :=
  fun key known => (made key known).imp fun port ⟨member, inner⟩ => ⟨less port member, inner⟩

/-- A port that has sent nothing has no mapping. -/
theorem new (made : site.MadeFor t ports) (fresh : port ∉ ports) (dest : Socket) :
    t.mappings.contains (site.translator.mapping.key (site.flow port dest)) = false := by
  rw [← Bool.not_eq_true]
  intro known
  obtain ⟨other, member, inner⟩ := made _ known
  rw [Dependence.key_inner] at inner
  rw [(Socket.v4_inj.mp inner).2] at fresh
  exact fresh member

end MadeFor

/-- The first server sees fresh ports at the next public ports, one after the other. -/
theorem Sound.samples_spaced (sound : site.Sound) (steps : site.translator.Steps step) {ports used : List UInt16}
    (ready : site.Ready place) (reached : place.translations.Reached base step made) (madeFor : site.MadeFor place.translations used)
    (bound : ∀ port ∈ ports, place.endpoint.udp.contains port = true) (fresh : ∀ port ∈ ports, port ∉ used)
    (nodup : ports.Nodup) (room : base + (made + ports.length) * step < 65536) :
    (site.evaluate place (.samplePorts site.first.address ports)).1.map (fun sample => sample.2.toNat) =
      ports.mapIdx fun i _ => base + (made + 1 + i) * step := by
  induction ports generalizing place made used with
  | nil => rfl
  | cons port ports ih =>
    have plain := sound.evaluate_plain ready (bound port List.mem_cons_self) site.server?_main rfl sound.away.1
    have new := madeFor.new (fresh port List.mem_cons_self) site.first.main
    have enough : base + (made + 1) * step < 65536 := by
      refine Nat.lt_of_le_of_lt (Nat.add_le_add_left (Nat.mul_le_mul_right step ?_) base) room
      rw [List.length_cons]
      omega
    obtain ⟨next, further⟩ := reached.send_new steps new enough
    obtain ⟨apart, nodup⟩ := List.nodup_cons.mp nodup
    have fresh_later : ∀ other ∈ ports, other ∉ port :: used := by
      intro other member
      rw [List.mem_cons, not_or]
      exact ⟨fun same => apart (same ▸ member), fresh other (List.mem_cons_of_mem _ member)⟩
    have room_later : base + (made + 1 + ports.length) * step < 65536 := by
      rwa [List.length_cons, Nat.add_comm ports.length, ← Nat.add_assoc] at room
    have later := ih (sound.ready_sent ready port site.first.main) further (madeFor.send port site.first.main)
      (fun other member => bound other (List.mem_cons_of_mem _ member)) fresh_later nodup room_later
    simp only [Survey.samplePorts, evaluate_bind, plain, evaluate_pure, List.map_cons, List.mapIdx_cons]
    rw [List.cons.injEq]
    refine ⟨next, later.trans ?_⟩
    simp only [Nat.add_assoc, Nat.add_comm 1]

theorem madeFor_toured (site : SurveySite) (listed : Bool) : site.MadeFor (site.toured listed).translations [site.me.address.port] := by
  have none : site.MadeFor site.ground.translations [] := fun key known => nomatch known
  have all : ∀ port ∈ [site.me.address.port, site.me.address.port, site.me.address.port], port ∈ [site.me.address.port] := by simp
  cases listed with
  | false => exact ((none.send _ _).send _ _).mono fun port member => all port (List.mem_cons_of_mem _ member)
  | true => exact (((none.send _ _).send _ _).send _ _).mono all

/-- Where the destination does not count the main port is seen as one socket. -/
theorem seen_of_independent (independent : site.translator.mapping = .endpointIndependent) (dest : Socket) :
    site.seen (site.compared false) site.me.address.port dest = site.outward ∧
      site.seen (site.compared true) site.me.address.port dest = site.outward := by
  have key : site.translator.mapping.key (site.flow site.me.address.port dest) =
      site.translator.mapping.key (site.flow site.me.address.port site.first.main) := by
    rw [key_of_independent independent, key_of_independent independent]
  have first := site.translator.knows_send site.ground.translations (site.flow site.me.address.port site.first.main)
  have seen := site.translator.outer_send site.ground.translations (site.flow site.me.address.port site.first.main)
  exact ⟨(Translator.outer_congr key).trans seen, (Translator.outer_congr key).trans ((first.outer_send _).trans seen)⟩

/-- Once the first server has answered, the main port has the mapping towards it and no other. -/
theorem contains_compared_iff (site : SurveySite) (dest : Socket) :
    (site.compared false).translations.mappings.contains
        (site.translator.mapping.key (site.flow site.me.address.port dest)) = true ↔
      site.translator.mapping.key (site.flow site.me.address.port dest) =
        site.translator.mapping.key (site.flow site.me.address.port site.first.main) := by
  show Table.contains (site.translator.send site.ground.translations _).mappings _ = true ↔ _
  rw [Table.contains_eq_isSome, Translator.get?_send]
  split
  · rename_i same
    exact iff_of_true rfl same
  · rename_i other
    exact iff_of_false Bool.false_ne_true other

/-- The mappings that are made before the fresh ports are tried. -/
theorem Sound.toured_reached (sound : site.Sound) (steps : site.translator.Steps step) (positive : 1 ≤ step)
    (room : site.outward.port.toNat + 4 * step < 65536) :
    ∃ made, (site.toured true).translations.Reached site.outward.port.toNat step made ∧ made ≤ 2 ∧
      (made = 0 ↔ site.translator.mapping = .endpointIndependent) ∧
      (site.seen (site.compared false) site.me.address.port site.second.main = site.outward ↔
        site.translator.mapping = .endpointIndependent) := by
  have start : (site.compared false).translations.Reached site.outward.port.toNat step 0 :=
    ⟨rfl, site.outward, rfl, by rw [Nat.zero_mul, Nat.add_zero]⟩
  by_cases independent : site.translator.mapping = .endpointIndependent
  · have known (dest : Socket) : (site.compared false).translations.mappings.contains
        (site.translator.mapping.key (site.flow site.me.address.port dest)) = true := by
      rw [contains_compared_iff, key_of_independent independent, key_of_independent independent]
    refine ⟨0, ?_, Nat.zero_le _, iff_of_true rfl independent, iff_of_true (seen_of_independent independent _).1 independent⟩
    have compared : (site.compared true).translations.Reached site.outward.port.toNat step 0 := start.send_known (known _)
    exact compared.send_known (Translator.contains_send_of_contains (known _))
  · have new : (site.compared false).translations.mappings.contains
        (site.translator.mapping.key (site.flow site.me.address.port site.second.main)) = false := by
      rw [← Bool.not_eq_true, contains_compared_iff, sound.key_second_iff]
      exact independent
    obtain ⟨port, compared⟩ := start.send_new steps new (by omega)
    have elsewhere : site.seen (site.compared false) site.me.address.port site.second.main ≠ site.outward := by
      intro same
      have ports : (site.seen (site.compared false) site.me.address.port site.second.main).port.toNat =
        site.outward.port.toNat + (0 + 1) * step := port
      rw [same] at ports
      omega
    have moves (made : Nat) (some_made : made ≠ 0) : made = 0 ↔ site.translator.mapping = .endpointIndependent :=
      iff_of_false some_made independent
    -- The alternate port takes another mapping only if the translator tells it from the main port.
    cases alternate : (site.compared true).translations.mappings.contains
        (site.translator.mapping.key (site.flow site.me.address.port site.first.alternate)) with
    | true => exact ⟨1, compared.send_known alternate, by decide, moves 1 (by decide), iff_of_false elsewhere independent⟩
    | false =>
      have toured := (compared.send_new steps alternate (by omega)).2
      exact ⟨2, toured, by decide, moves 2 (by decide), iff_of_false elsewhere independent⟩

section

variable {e : Endpoint} {port : UInt16}

theorem granted_bound (site : SurveySite) (member : port ∈ (site.granted e).1) : (site.granted e).2.udp.contains port = true :=
  ((e.alloc_contains site.chance site.system _ Survey.allocationProbes .udp).2.1 port).mpr (.inr member)

theorem granted_fresh (bound : e.udp.contains site.me.address.port = true) (member : port ∈ (site.granted e).1) :
    port ∉ [site.me.address.port] := by
  intro main
  have free : e.udp.contains port = false := (e.alloc_contains site.chance site.system _ Survey.allocationProbes .udp).1 port member
  rw [List.mem_singleton.mp main, bound] at free
  cases free

theorem Ready.granted (ready : site.Ready place) : site.Ready { place with endpoint := (site.granted place.endpoint).2 } where
  config := (place.endpoint.alloc_config site.chance site.system _ Survey.allocationProbes .udp).trans ready.config
  table := (place.endpoint.alloc_contains site.chance site.system _ Survey.allocationProbes .udp).2.2 ready.table
  outward := ready.outward

end

/-- The samples that are taken behind what the main port has sent. -/
theorem Sound.sampled_spaced (sound : site.Sound) (steps : site.translator.Steps step) {seen : Observations}
    (observed : site.Observed true seen place) (reached : (site.toured true).translations.Reached base step made)
    (room : base + (made + (site.granted site.endpoint).1.length) * step < 65536) {samples : List (UInt16 × UInt16)}
    (sampled : (site.evaluate place (.sampleAllocation site.first.address)).1 = .ok samples) :
    samples.map (fun sample => sample.2.toNat) = (site.granted site.endpoint).1.mapIdx fun i _ => base + (made + 1 + i) * step := by
  have ready : site.Ready place := by
    have toured := sound.ready_toured true
    exact ⟨congrArg Endpoint.config observed.endpoint, observed.endpoint ▸ sound.table, observed.translations ▸ toured.outward⟩
  have madeFor : site.MadeFor place.translations [site.me.address.port] := observed.translations ▸ site.madeFor_toured true
  have main : place.endpoint.udp.contains site.me.address.port = true := observed.endpoint ▸ sound.bound
  rw [evaluate_sampleAllocation] at sampled
  rw [← Except.ok.inj sampled, ← observed.endpoint]
  exact sound.samples_spaced steps ready.granted (observed.translations ▸ reached) madeFor (fun _ => site.granted_bound)
    (fun _ => granted_fresh main) (Endpoint.alloc_nodup ..).1 (observed.endpoint ▸ room)

/-- Fresh ports come one step apart. They come one step behind the main port as well if no other mapping has been made for
it, as there is for every server that the mapping tells from the first one. -/
theorem Sound.outcome_allocation (sound : site.Sound) (alternate : site.first.config.altPort ≠ 0) (lists : site.Lists true)
    (steps : site.translator.Steps step) (positive : 1 ≤ step) (below : step ≤ min site.config.deltaWindow.toNat 255)
    (room : site.outward.port.toNat + 4 * step < 65536) (moved : site.outward.port ≠ site.me.address.port)
    (granted : (site.granted site.endpoint).1.length = Survey.allocationProbes) :
    ∃ nat, site.outcome.1 = .ok nat ∧ nat.isOpen = false ∧ if site.translator.mapping = .endpointIndependent
      then nat.allocation = .portContiguity ∧ nat.delta = .ofNat step ∧ nat.technique = .simple
      else nat.allocation = .random ∧ nat.delta = 0 ∧ nat.technique = .impossible := by
  have hidden : site.outward ≠ site.me.address.socket := fun same => moved (congrArg Socket.port same)
  obtain ⟨seen, place, samples, nat, observed, sampled, outcome, isOpen, mapping, _, allocation, technique⟩ :=
    sound.outcome_natted alternate lists hidden
  refine ⟨nat, outcome, isOpen, ?_⟩
  obtain ⟨made, reached, few, independent, second⟩ := sound.toured_reached steps positive room
  have enough : site.outward.port.toNat + (made + (site.granted site.endpoint).1.length) * step < 65536 := by
    have most : (made + (site.granted site.endpoint).1.length) * step ≤ 4 * step :=
      Nat.mul_le_mul_right step (by rw [granted, Survey.allocationProbes]; omega)
    omega
  have spaced := sound.sampled_spaced steps observed reached enough sampled
  obtain ⟨port, last, two⟩ := List.length_eq_two.mp granted
  simp only [two, List.mapIdx_cons, List.mapIdx_nil] at spaced
  obtain ⟨b, rest, rfl, first_port, spaced⟩ := List.map_eq_cons_iff.mp spaced
  obtain ⟨c, rest, rfl, last_port, spaced⟩ := List.map_eq_cons_iff.mp spaced
  obtain rfl := List.map_eq_nil_iff.mp spaced
  rw [observed.samples, List.singleton_append,
    Observations.allocation_of_spaced (Ne.symm moved) rfl first_port last_port positive below (Nat.le_add_left ..)] at allocation
  have classified := Observations.mapping_of_answers site.outward observed.server2 observed.server1Alt
  by_cases whole : site.translator.mapping = .endpointIndependent
  · rw [if_pos whole]
    rw [if_pos (by rw [independent.mpr whole])] at allocation
    rw [if_pos (second.mpr whole), if_pos (seen_of_independent whole _).2] at classified
    obtain ⟨kind, delta⟩ := Prod.mk.inj allocation
    exact ⟨kind, delta, by rw [technique, mapping, classified, Technique.forMapping]⟩
  · rw [if_neg whole]
    rw [if_neg (by simpa using fun none => whole (independent.mp none))] at allocation
    rw [if_neg (fun same => whole (second.mp same))] at classified
    obtain ⟨kind, delta⟩ := Prod.mk.inj allocation
    refine ⟨kind, delta, ?_⟩
    rw [technique, mapping, classified, kind]
    split <;> rfl

/-- Evenly spaced public ports are found to be so if no mapping depends on the destination. Otherwise the mappings that the
survey has made for the main port stand between the samples, and the allocation is taken for a random one. -/
theorem Sound.finds_allocation (sound : site.Sound) (alternate : site.first.config.altPort ≠ 0) (lists : site.Lists true)
    (steps : site.translator.Steps step) (positive : 1 ≤ step) (below : step ≤ min site.config.deltaWindow.toNat 255)
    (room : site.outward.port.toNat + 4 * step < 65536) (moved : site.outward.port ≠ site.me.address.port)
    (granted : (site.granted site.endpoint).1.length = Survey.allocationProbes) :
    site.Finds fun nat => nat.isOpen = false ∧ if site.translator.mapping = .endpointIndependent
      then nat.allocation = .portContiguity ∧ nat.delta = .ofNat step ∧ nat.technique = .simple
      else nat.allocation = .random ∧ nat.delta = 0 ∧ nat.technique = .impossible := by
  obtain ⟨nat, outcome, found⟩ := sound.outcome_allocation alternate lists steps positive below room moved granted
  exact sound.finds outcome found

end

/-- A translator with evenly spaced ports. -/
def ladder (mapping : Dependence) (step : UInt16) : Translator where
  mapping
  pick mappings _ := (.ofOctets 90 0 0 1, (mappings.values.getLast?.map fun last => last.port + step).getD 7000)
  admits _ _ _ := true

theorem ladder_steps (mapping : Dependence) (step : Nat) : (ladder mapping (.ofNat step)).Steps step := by
  intro mappings key last found
  simp only [ladder, found, Option.map_some, Option.getD_some]

theorem ladder_sound (mapping : Dependence) (step : UInt16) : (rehearsal (ladder mapping step) true 3479).Sound :=
  rehearsal_sound true 3479 (fun _ _ => show Ipv4.ofOctets 90 0 0 1 ≠ _ ∧ Ipv4.ofOctets 90 0 0 1 ≠ _ by decide) fun _ _ _ => rfl

/-- The node of a rehearsal gets all the ports that it asks for. -/
theorem rehearsal_granted (translator : Translator) (listed : Bool) (altPort : UInt16) :
    ((rehearsal translator listed altPort).granted (rehearsal translator listed altPort).endpoint).1.length =
      Survey.allocationProbes := by
  rw [granted, Endpoint.alloc, Endpoint.allocEach, List.length_mergeSort]
  rfl

theorem ladder_found :
    (rehearsal (ladder .endpointIndependent 2) true 3479).Finds fun nat => nat.isOpen = false ∧ nat.allocation = .portContiguity ∧
      nat.delta = 2 ∧ nat.technique = .simple :=
  (ladder_sound .endpointIndependent 2).finds_allocation (show (3479 : UInt16) ≠ 0 by decide) ⟨[_], rfl, rfl⟩
    (ladder_steps .endpointIndependent 2) (by decide) (show 2 ≤ min (10 : UInt16).toNat 255 by decide)
    (show (7000 : UInt16).toNat + 4 * 2 < 65536 by decide) (show (7000 : UInt16) ≠ 4000 by decide) (rehearsal_granted ..)

/-- With a mapping for each address or each port the step is not found, and nothing is left to predict ports by. -/
theorem ladders_missed :
    (¬ (rehearsal (ladder .addressDependent 2) true 3479).Finds fun nat => nat.allocation = .portContiguity ∧ nat.delta = 2) ∧
      (¬ (rehearsal (ladder .addressAndPortDependent 2) true 3479).Finds fun nat =>
        nat.allocation = .portContiguity ∧ nat.delta = 2) ∧
      ¬ (rehearsal (ladder .addressDependent 2) true 3479).Finds fun nat => nat.technique = .prediction := by
  have random (mapping : Dependence) (dependent : mapping ≠ .endpointIndependent) : ∃ nat,
      (rehearsal (ladder mapping 2) true 3479).outcome.1 = .ok nat ∧ nat.allocation = .random ∧ nat.technique = .impossible := by
    obtain ⟨nat, outcome, _, found⟩ := (ladder_sound mapping 2).outcome_allocation (show (3479 : UInt16) ≠ 0 by decide)
      ⟨[_], rfl, rfl⟩ (ladder_steps mapping 2) (by decide) (show 2 ≤ min (10 : UInt16).toNat 255 by decide)
      (show (7000 : UInt16).toNat + 4 * 2 < 65536 by decide) (show (7000 : UInt16) ≠ 4000 by decide) (rehearsal_granted ..)
    have tells : (rehearsal (ladder mapping 2) true 3479).translator.mapping ≠ .endpointIndependent := dependent
    rw [if_neg tells] at found
    exact ⟨nat, outcome, found.1, found.2.2⟩
  obtain ⟨nat, outcome, allocation, technique⟩ := random .addressDependent (by decide)
  obtain ⟨other, result, kind, _⟩ := random .addressAndPortDependent (by decide)
  refine ⟨fun finds => ?_, fun finds => ?_, fun finds => ?_⟩
  · cases allocation.symm.trans ((ladder_sound .addressDependent 2).of_finds outcome finds).1
  · cases kind.symm.trans ((ladder_sound .addressAndPortDependent 2).of_finds result finds).1
  · cases technique.symm.trans ((ladder_sound .addressDependent 2).of_finds outcome finds)

end SurveySite

end NatTraversal
