import NatTraversal.Address.Socket
import NatTraversal.NatType
import NatTraversal.Table

namespace NatTraversal

/-- What a local socket sends to one destination. -/
structure Flow where
  inner : Socket
  dest : Socket
deriving DecidableEq, Repr

/-- What a translator tells flows apart by. The parts of a destination stand in it as far as they count. -/
structure MappingKey where
  inner : Socket
  ip : Option Ip
  port : Option UInt16
deriving DecidableEq, Repr

namespace Dependence

def key (mapping : Dependence) (flow : Flow) : MappingKey :=
  match mapping with
  | endpointIndependent => ⟨flow.inner, none, none⟩
  | addressDependent => ⟨flow.inner, some flow.dest.ip, none⟩
  | addressAndPortDependent => ⟨flow.inner, some flow.dest.ip, some flow.dest.port⟩

/-- Whether a packet gets in to a socket that has sent to these destinations. -/
def passes (filtering : Dependence) (contacts : List Socket) (source : Socket) : Bool :=
  match filtering with
  | endpointIndependent => true
  | addressDependent => contacts.any fun contact => contact.ip = source.ip
  | addressAndPortDependent => contacts.contains source

/-- A destination may always answer. -/
theorem passes_of_mem {filtering : Dependence} {contacts : List Socket} {source : Socket} (contacted : source ∈ contacts) :
    filtering.passes contacts source = true := by
  cases filtering with
  | endpointIndependent => rfl
  | addressDependent => exact List.any_eq_true.mpr ⟨source, contacted, by simp⟩
  | addressAndPortDependent => exact List.contains_iff_mem.mpr contacted

/-- Nothing gets in from an address that has been sent nothing, unless everything does. -/
theorem passes_of_stranger {filtering : Dependence} {contacts : List Socket} {source : Socket}
    (stranger : ∀ contact ∈ contacts, contact.ip ≠ source.ip) :
    filtering.passes contacts source = decide (filtering = .endpointIndependent) := by
  cases filtering with
  | endpointIndependent => rfl
  | addressDependent => simpa [passes] using stranger
  | addressAndPortDependent =>
    have absent : source ∉ contacts := fun member => stranger source member rfl
    simpa [passes] using absent

@[simp] theorem key_inner (mapping : Dependence) (flow : Flow) : (mapping.key flow).inner = flow.inner := by
  cases mapping <;> rfl

/-- The keys of two flows from one socket differ where the mapping looks at what they differ in. -/
theorem key_eq_iff {mapping : Dependence} {inner dest other : Socket} :
    mapping.key ⟨inner, dest⟩ = mapping.key ⟨inner, other⟩ ↔ match mapping with
      | endpointIndependent => True
      | addressDependent => dest.ip = other.ip
      | addressAndPortDependent => dest = other := by
  cases mapping with
  | endpointIndependent => simp [key]
  | addressDependent => simp [key]
  | addressAndPortDependent =>
    obtain ⟨ip, port⟩ := dest
    obtain ⟨otherIp, otherPort⟩ := other
    simp [key]

end Dependence

/-- A translator in front of a node. The public socket of a new mapping may depend on the mappings made before, and what
gets in to a mapping on all that has been sent out. -/
structure Translator where
  mapping : Dependence
  pick : Table MappingKey Socket → MappingKey → Ipv4 × UInt16
  admits : List Flow → MappingKey → Socket → Bool

/-- What a translator has seen go out, and the mappings that it has made, in order. -/
structure Translations where
  flows : List Flow := []
  mappings : Table MappingKey Socket := .empty

namespace Translator

/-- The public socket of a flow, which is a new one if the flow has no mapping. -/
def outer (x : Translator) (t : Translations) (flow : Flow) : Socket :=
  (t.mappings.get? (x.mapping.key flow)).getD
    (.v4 (x.pick t.mappings (x.mapping.key flow)).1 (x.pick t.mappings (x.mapping.key flow)).2)

/-- Makes a mapping only for a flow that has none. -/
def send (x : Translator) (t : Translations) (flow : Flow) : Translations where
  flows := if flow ∈ t.flows then t.flows else t.flows ++ [flow]
  mappings :=
    if t.mappings.contains (x.mapping.key flow) then t.mappings
    else t.mappings.insert (x.mapping.key flow) (x.outer t flow)

/-- Whether a packet to a public socket gets in to one that listens. -/
def lets (x : Translator) (t : Translations) (listens : Socket → Bool) (source dest : Socket) : Bool :=
  t.mappings.entries.any fun e => e.2 = dest && listens e.1.inner && x.admits t.flows e.1 source

/-- Where a local socket has sent to. -/
def contacts (flows : List Flow) (inner : Socket) : List Socket := (flows.filter fun flow => flow.inner = inner).map (·.dest)

/-- Whether a mapping lets in what a filter passes to its local socket. -/
def FiltersBy (x : Translator) (filtering : Dependence) : Prop :=
  ∀ flows key source, x.admits flows key source = filtering.passes (contacts flows key.inner) source

theorem mem_contacts {flows : List Flow} {inner dest : Socket} : dest ∈ contacts flows inner ↔ ⟨inner, dest⟩ ∈ flows := by
  simp only [contacts, List.mem_map, List.mem_filter, decide_eq_true_eq]
  constructor
  · rintro ⟨flow, ⟨member, rfl⟩, rfl⟩
    exact member
  · exact fun member => ⟨_, ⟨member, rfl⟩, rfl⟩

/-- A destination may answer whatever the filter is. -/
theorem FiltersBy.contacted {x : Translator} {filtering : Dependence} (filters : x.FiltersBy filtering) (flows : List Flow)
    (flow : Flow) (member : flow ∈ flows) : x.admits flows (x.mapping.key flow) flow.dest = true := by
  rw [filters, Dependence.key_inner]
  exact Dependence.passes_of_mem (mem_contacts.mpr member)

variable {x : Translator} {t : Translations} {flow other : Flow}

theorem get?_send (x : Translator) (t : Translations) (flow : Flow) (key : MappingKey) :
    (x.send t flow).mappings.get? key =
      if key = x.mapping.key flow then some (x.outer t flow) else t.mappings.get? key := by
  show Table.get? (if t.mappings.contains (x.mapping.key flow) then t.mappings
    else t.mappings.insert (x.mapping.key flow) (x.outer t flow)) key = _
  split
  · rename_i known
    split
    · rename_i own
      rw [Table.contains_eq_isSome] at known
      obtain ⟨socket, found⟩ := Option.isSome_iff_exists.mp known
      rw [own, outer, found, Option.getD_some]
    · rfl
  · exact Table.get?_insert ..

/-- Only the key of a flow counts. -/
theorem outer_congr (same : x.mapping.key flow = x.mapping.key other) : x.outer t flow = x.outer t other := by
  rw [outer, outer, same]

theorem outer_send (x : Translator) (t : Translations) (flow : Flow) : x.outer (x.send t flow) flow = x.outer t flow := by
  rw [outer, get?_send, if_pos rfl, Option.getD_some]

theorem mem_flows_send : other ∈ (x.send t flow).flows ↔ other ∈ t.flows ∨ other = flow := by
  show other ∈ (if flow ∈ t.flows then t.flows else t.flows ++ [flow]) ↔ _
  split
  · rename_i known
    constructor
    · exact .inl
    · rintro (old | rfl)
      · exact old
      · exact known
  · rw [List.mem_append, List.mem_singleton]

/-- Whether a flow has been sent, and has its mapping. -/
def Knows (x : Translator) (t : Translations) (flow : Flow) : Prop :=
  flow ∈ t.flows ∧ ∃ socket, t.mappings.get? (x.mapping.key flow) = some socket

theorem knows_send (x : Translator) (t : Translations) (flow : Flow) : x.Knows (x.send t flow) flow :=
  ⟨mem_flows_send.mpr (.inr rfl), _, (get?_send ..).trans (if_pos rfl)⟩

/-- A mapping stays as it is. -/
theorem get?_send_of_known {key : MappingKey} {socket : Socket} (known : t.mappings.get? key = some socket) :
    (x.send t other).mappings.get? key = some socket := by
  rw [get?_send]
  split
  · rename_i own
    subst own
    rw [outer, known, Option.getD_some]
  · exact known

theorem contains_send_of_contains {key : MappingKey} (known : t.mappings.contains key = true) :
    (x.send t other).mappings.contains key = true := by
  rw [Table.contains_eq_isSome] at known ⊢
  obtain ⟨socket, found⟩ := Option.isSome_iff_exists.mp known
  rw [get?_send_of_known found, Option.isSome_some]

theorem Knows.send (knows : x.Knows t flow) (other : Flow) : x.Knows (x.send t other) flow :=
  ⟨mem_flows_send.mpr (.inl knows.1), knows.2.imp fun _ => get?_send_of_known⟩

theorem send_mappings_of_known {socket : Socket} (known : t.mappings.get? (x.mapping.key flow) = some socket) :
    (x.send t flow).mappings = t.mappings := by
  have mapped : t.mappings.contains (x.mapping.key flow) = true := by
    rw [Table.contains_eq_isSome, known, Option.isSome_some]
  exact if_pos mapped

theorem Knows.outer_send (knows : x.Knows t flow) (other : Flow) : x.outer (x.send t other) flow = x.outer t flow := by
  obtain ⟨socket, known⟩ := knows.2
  rw [outer, outer, known, get?_send_of_known known, Option.getD_some, Option.getD_some]

/-- What is sent again changes nothing. -/
theorem Knows.send_eq (knows : x.Knows t flow) : x.send t flow = t := by
  obtain ⟨socket, known⟩ := knows.2
  have mappings := send_mappings_of_known known
  have flows : (x.send t flow).flows = t.flows := if_pos knows.1
  show Translations.mk (x.send t flow).flows (x.send t flow).mappings = t
  rw [flows, mappings]

end Translator

end NatTraversal
