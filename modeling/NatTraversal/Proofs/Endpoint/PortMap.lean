import NatTraversal.Proofs.Endpoint.Binding

namespace NatTraversal

namespace Table

variable {κ ν μ : Type}

theorem size_eq_keys (t : Table κ ν) : t.size = t.keys.length := (List.length_map _).symm

theorem isEmpty_eq_size (t : Table κ ν) : t.isEmpty = (t.size == 0) := by
  rw [isEmpty, size]
  cases t.entries <;> rfl

variable [DecidableEq κ]

theorem mem_keys_iff {t : Table κ ν} {k : κ} : k ∈ t.keys ↔ (t.get? k).isSome = true := by
  rw [Option.isSome_iff_exists]
  simp only [keys, List.mem_map, get?_eq_some_iff]
  constructor
  · rintro ⟨e, member, rfl⟩
    exact ⟨e.2, member⟩
  · rintro ⟨v, member⟩
    exact ⟨(k, v), member, rfl⟩

theorem keys_perm {t : Table κ ν} {u : Table κ μ} (same : ∀ k, (t.get? k).isSome = (u.get? k).isSome) : t.keys.Perm u.keys := by
  refine (List.perm_ext_iff_of_nodup t.nodup u.nodup).mpr fun k => ?_
  change k ∈ t.keys ↔ k ∈ u.keys
  rw [mem_keys_iff, mem_keys_iff, same]

end Table

namespace PortTable

variable {χ : Type}

/-- Every socket is entered under its own port, and every channel at a socket that is entered: the two tables are inverse to
each other. -/
structure Bijective (table : PortTable χ) : Prop extends table.Sound where
  own : ∀ socket, table.channels.contains socket = true → table.socket? socket.port = some socket

/-- What is asked of a port table. -/
inductive Request (χ : Type) where
  | insert (socket : Socket) (channel : χ)
  | remove (port : UInt16)
  | clear
  | channel (port : UInt16)
  | channelAt (socket : Socket)
  | socket (port : UInt16)
  | contains (port : UInt16)
  | ports
  | size
  | isEmpty

inductive Answer (χ : Type) where
  | done
  | refused (channel : χ)
  | removed (entry : Option (Socket × χ))
  | channel (channel : Option χ)
  | socket (socket : Option Socket)
  | whether (yes : Bool)
  | ports (ports : List UInt16)
  | size (size : Nat)

def answer (table : PortTable χ) : Request χ → Answer χ × PortTable χ
  | .insert socket channel =>
    match table.insert socket channel with
    | .ok grown => (.done, grown)
    | .error channel => (.refused channel, table)
  | .remove port => (.removed (table.remove port).1, (table.remove port).2)
  | .clear => (.done, .empty)
  | .channel port => (.channel (table.get? port), table)
  | .channelAt socket => (.channel (table.getAt? socket), table)
  | .socket port => (.socket (table.socket? port), table)
  | .contains port => (.whether (table.contains port), table)
  | .ports => (.ports table.ports, table)
  | .size => (.size table.size, table)
  | .isEmpty => (.whether table.isEmpty, table)

end PortTable

/-- One map from ports to their sockets and channels. -/
abbrev PortMap (χ : Type) := Table UInt16 (Socket × χ)

namespace PortMap

variable {χ : Type}

def answer (map : PortMap χ) : PortTable.Request χ → PortTable.Answer χ × PortMap χ
  | .insert socket channel =>
    if map.contains socket.port then (.refused channel, map) else (.done, map.insert socket.port (socket, channel))
  | .remove port => (.removed (map.get? port), map.erase port)
  | .clear => (.done, .empty)
  | .channel port => (.channel ((map.get? port).map (·.2)), map)
  | .channelAt socket => (.channel (((map.get? socket.port).filter (·.1 = socket)).map (·.2)), map)
  | .socket port => (.socket ((map.get? port).map (·.1)), map)
  | .contains port => (.whether (map.contains port), map)
  | .ports => (.ports (map.keys.mergeSort (· ≤ ·)), map)
  | .size => (.size map.size, map)
  | .isEmpty => (.whether map.isEmpty, map)

end PortMap

namespace PortTable

variable {χ : Type} {table : PortTable χ} {map : PortMap χ}

/-- The two tables of sockets and channels together hold what the map does. -/
structure Refines (table : PortTable χ) (map : PortMap χ) : Prop where
  sockets : ∀ port, table.socket? port = (map.get? port).map (·.1)
  channels : ∀ socket, table.channels.get? socket = ((map.get? socket.port).filter (·.1 = socket)).map (·.2)
  filed : ∀ port entry, map.get? port = some entry → entry.1.port = port

theorem pairwise_sorted (ports : List UInt16) : (ports.mergeSort (· ≤ ·)).Pairwise (· ≤ ·) := by
  have sorted := @List.pairwise_mergeSort UInt16 (fun a b => decide (a ≤ b)) (by simpa using fun a b c => UInt16.le_trans)
    (by simpa using UInt16.le_total) ports
  simpa using sorted

theorem refines_empty : Refines (.empty : PortTable χ) .empty := ⟨fun _ => rfl, fun _ => rfl, by simp⟩

namespace Refines

theorem bijective (refines : Refines table map) : table.Bijective where
  filed port socket found := by
    rw [refines.sockets] at found
    obtain ⟨entry, known, rfl⟩ := Option.map_eq_some_iff.mp found
    exact refines.filed port entry known
  connected port socket found := by
    rw [refines.sockets] at found
    obtain ⟨entry, known, rfl⟩ := Option.map_eq_some_iff.mp found
    rw [Table.contains_eq_isSome, refines.channels, refines.filed port entry known, known]
    simp
  own socket held := by
    rw [Table.contains_eq_isSome, refines.channels, Option.isSome_map] at held
    obtain ⟨entry, known⟩ := Option.isSome_iff_exists.mp held
    rw [Option.filter_eq_some_iff, decide_eq_true_eq] at known
    rw [refines.sockets, known.1, Option.map_some, known.2]

theorem contains (refines : Refines table map) (port : UInt16) : table.contains port = map.contains port := by
  rw [contains_eq_isSome, refines.sockets, Option.isSome_map, Table.contains_eq_isSome]

theorem get? (refines : Refines table map) (port : UInt16) : table.get? port = (map.get? port).map (·.2) := by
  rw [PortTable.get?, refines.sockets]
  cases known : map.get? port with
  | none => rfl
  | some entry =>
    rw [Option.map_some, Option.bind_some, refines.channels, refines.filed port entry known, known]
    simp

theorem keys (refines : Refines table map) : table.sockets.keys.Perm map.keys :=
  Table.keys_perm fun port => by
    change (table.socket? port).isSome = _
    rw [refines.sockets, Option.isSome_map]

theorem ports (refines : Refines table map) : table.ports = map.keys.mergeSort (· ≤ ·) := by
  refine List.Perm.eq_of_pairwise (fun _ _ _ _ => UInt16.le_antisymm) (pairwise_sorted _) (pairwise_sorted _) ?_
  exact (List.mergeSort_perm _ _).trans (refines.keys.trans (List.mergeSort_perm _ _).symm)

theorem size (refines : Refines table map) : table.size = map.size := by
  rw [PortTable.size, Table.size_eq_keys, Table.size_eq_keys, refines.keys.length_eq]

theorem isEmpty (refines : Refines table map) : table.isEmpty = map.isEmpty := by
  have same := refines.size
  rw [PortTable.size] at same
  rw [PortTable.isEmpty, Table.isEmpty_eq_size, Table.isEmpty_eq_size, same]

/-- A port that is taken is the only reason to refuse a socket: its channel cannot be there without the port. -/
theorem insert (refines : Refines table map) (socket : Socket) (channel : χ) :
    (map.contains socket.port = true ∧ table.insert socket channel = .error channel) ∨
      map.contains socket.port = false ∧ ∃ grown, table.insert socket channel = .ok grown ∧
        Refines grown (map.insert socket.port (socket, channel)) := by
  cases taken : map.contains socket.port with
  | true =>
    refine .inl ⟨rfl, if_pos ?_⟩
    rw [← PortTable.contains, refines.contains, taken, Bool.true_or]
  | false =>
    have absent : map.get? socket.port = none := Table.get?_eq_none (by simp [taken])
    have free : table.channels.contains socket = false := by
      rw [Table.contains_eq_isSome, refines.channels, absent]
      rfl
    refine .inr ⟨rfl, _, if_neg ?_, ?_, ?_, ?_⟩
    · rw [← PortTable.contains, refines.contains, taken, free]
      exact Bool.false_ne_true
    · intro port
      rw [Table.get?_insert, socket?, Table.get?_insert, ← socket?, refines.sockets]
      split <;> rfl
    · intro other
      rw [Table.get?_insert, Table.get?_insert, refines.channels]
      by_cases same : other = socket
      · simp [same, Option.filter_some]
      · by_cases port : other.port = socket.port
        · have apart : socket ≠ other := Ne.symm same
          simp [same, port, absent, apart, Option.filter_some]
        · simp [same, port]
    · intro port entry known
      rw [Table.get?_insert] at known
      split at known
      · rename_i own
        cases known
        exact own.symm
      · exact refines.filed port entry known

theorem remove (refines : Refines table map) (port : UInt16) :
    (table.remove port).1 = map.get? port ∧ Refines (table.remove port).2 (map.erase port) := by
  have sockets := refines.sockets port
  cases known : map.get? port with
  | none =>
    rw [known, Option.map_none] at sockets
    rw [PortTable.remove, sockets, Table.erase_eq_self known]
    exact ⟨rfl, refines⟩
  | some entry =>
    obtain ⟨socket, channel⟩ := entry
    obtain rfl := refines.filed port _ known
    rw [known, Option.map_some] at sockets
    rw [PortTable.remove, sockets]
    refine ⟨?_, ?_, ?_, ?_⟩
    · simp [refines.channels, known, Option.filter_some]
    · intro other
      rw [socket?, Table.get?_erase, Table.get?_erase, ← socket?, refines.sockets]
      split <;> rfl
    · intro other
      rw [Table.get?_erase, Table.get?_erase, refines.channels]
      by_cases same : other = socket
      · simp [same]
      · by_cases port : other.port = socket.port
        · have apart : socket ≠ other := Ne.symm same
          simp [same, port, known, apart, Option.filter_some]
        · simp [same, port]
    · intro other entry known
      exact refines.filed other entry (Table.get?_of_erase known)

/-- Every answer is the one that the map gives, and what is left is what the map has left. -/
theorem answer (refines : Refines table map) (request : Request χ) :
    (table.answer request).1 = (map.answer request).1 ∧ Refines (table.answer request).2 (map.answer request).2 := by
  cases request with
  | insert socket channel =>
    rcases refines.insert socket channel with ⟨taken, refused⟩ | ⟨free, grown, inserted, later⟩
    · simp only [PortTable.answer, refused, PortMap.answer, taken, if_true]
      exact ⟨trivial, refines⟩
    · simp only [PortTable.answer, inserted, PortMap.answer, free, Bool.false_eq_true, if_false]
      exact ⟨trivial, later⟩
  | remove port => exact ⟨congrArg Answer.removed (refines.remove port).1, (refines.remove port).2⟩
  | clear => exact ⟨rfl, refines_empty⟩
  | channel port => exact ⟨congrArg Answer.channel (refines.get? port), refines⟩
  | channelAt socket => exact ⟨congrArg Answer.channel (refines.channels socket), refines⟩
  | socket port => exact ⟨congrArg Answer.socket (refines.sockets port), refines⟩
  | contains port => exact ⟨congrArg Answer.whether (refines.contains port), refines⟩
  | ports => exact ⟨congrArg Answer.ports refines.ports, refines⟩
  | size => exact ⟨congrArg Answer.size refines.size, refines⟩
  | isEmpty => exact ⟨congrArg Answer.whether refines.isEmpty, refines⟩

end Refines

/-- The answers to requests made one after the other, and what is left after the last. -/
def answers {σ : Type} (answer : σ → Request χ → Answer χ × σ) : List (Request χ) → σ → List (Answer χ) × σ
  | [], state => ([], state)
  | request :: requests, state =>
    let (first, next) := answer state request
    let (later, last) := answers answer requests next
    (first :: later, last)

theorem Refines.answers (refines : Refines table map) (requests : List (Request χ)) :
    (answers PortTable.answer requests table).1 = (answers PortMap.answer requests map).1 ∧
      Refines (answers PortTable.answer requests table).2 (answers PortMap.answer requests map).2 := by
  induction requests generalizing table map with
  | nil => exact ⟨rfl, refines⟩
  | cons request requests ih =>
    obtain ⟨first, next⟩ := refines.answer request
    obtain ⟨later, last⟩ := ih next
    exact ⟨congrArg₂ List.cons first later, last⟩

/-- Whatever is asked of a port table, its two tables stay inverse to each other, and it answers as one map from ports does.
The map refuses a socket if its port is taken, hands the channel back and stays as it is. -/
theorem answers_as_map (requests : List (Request χ)) :
    (answers PortTable.answer requests .empty).2.Bijective ∧
      (answers PortTable.answer requests .empty).1 = (answers PortMap.answer requests .empty).1 := by
  obtain ⟨same, refines⟩ := refines_empty.answers requests
  exact ⟨refines.bijective, same⟩

end PortTable

end NatTraversal
