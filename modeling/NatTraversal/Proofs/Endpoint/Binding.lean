import NatTraversal.Proofs.Endpoint.Sockets

namespace NatTraversal

namespace PortTable

variable {χ : Type}

/-- Every socket is entered under its own port and has a channel. -/
structure Sound (table : PortTable χ) : Prop where
  filed : table.Filed
  connected : ∀ port socket, table.socket? port = some socket → table.channels.contains socket = true

theorem contains_eq_isSome (table : PortTable χ) (port : UInt16) : table.contains port = (table.socket? port).isSome :=
  Table.contains_eq_isSome ..

theorem sound_empty : (empty : PortTable χ).Sound := ⟨by simp [Filed, empty, socket?], by simp [empty, socket?]⟩

theorem insert_contains {table grown : PortTable χ} {socket : Socket} {channel : χ}
    (success : table.insert socket channel = .ok grown) :
    table.contains socket.port = false ∧
      (∀ port, grown.contains port = true ↔ table.contains port = true ∨ port = socket.port) ∧ (table.Sound → grown.Sound) := by
  have filed := (insert_spec success).2
  unfold insert at success
  split at success
  · cases success
  · rename_i free
    cases success
    refine ⟨?_, ?_, ?_⟩
    · simp only [Bool.or_eq_true, not_or, Bool.not_eq_true] at free
      exact free.1
    · intro port
      simp only [contains, Table.contains_eq_isSome, Table.get?_insert]
      by_cases own : port = socket.port <;> simp [own]
    · intro sound
      refine ⟨filed sound.filed, ?_⟩
      intro port other found
      simp only [socket?, Table.get?_insert] at found
      simp only [Table.contains_eq_isSome, Table.get?_insert]
      by_cases same : other = socket
      · rw [if_pos same, Option.isSome_some]
      · rw [if_neg same, ← Table.contains_eq_isSome]
        split at found
        · cases found
          exact absurd rfl same
        · exact sound.connected port other found

theorem remove_contains {table : PortTable χ} (sound : table.Sound) (port : UInt16) :
    (∀ other, (table.remove port).2.contains other = true ↔ table.contains other = true ∧ other ≠ port) ∧
      (table.remove port).2.Sound ∧ ((table.remove port).1 = none → table.contains port = false) := by
  have filed := (remove_holds sound.filed port).2
  unfold remove at filed ⊢
  cases bound : table.socket? port with
  | none =>
    have free : table.contains port = false := by rw [contains_eq_isSome, bound, Option.isSome_none]
    refine ⟨?_, sound, fun _ => free⟩
    intro other
    constructor
    · intro held
      refine ⟨held, ?_⟩
      rintro rfl
      rw [free] at held
      cases held
    · exact And.left
  | some socket =>
    simp only [bound] at filed
    refine ⟨?_, ⟨filed, ?_⟩, ?_⟩
    · intro other
      simp only [contains, Table.contains_eq_isSome, Table.get?_erase]
      by_cases same : other = port <;> simp [same]
    · intro other found socketed
      simp only [socket?, Table.get?_erase] at socketed
      split at socketed
      · cases socketed
      · rename_i apart
        have still := sound.connected other found socketed
        have ne : found ≠ socket := by
          rintro rfl
          exact apart ((sound.filed other found socketed).symm.trans (sound.filed port found bound))
        rw [Table.contains_eq_isSome] at still ⊢
        rw [Table.get?_erase, if_neg ne]
        exact still
    · intro nothing
      have connected := sound.connected port socket bound
      rw [Table.contains_eq_isSome] at connected
      rw [Option.map_eq_none_iff] at nothing
      rw [nothing] at connected
      cases connected

end PortTable

namespace Endpoint

variable {transport : Transport}

/-- A request for a port either finds it bound or binds one that was not. -/
theorem tryBind_contains {e bound : Endpoint} {socket : Socket} {answer : BindAnswer} {port : UInt16}
    (success : e.tryBind socket transport answer = .ok (port, bound)) :
    (port = socket.port ∧ (e.table transport).contains port = true ∧ bound = e) ∨
      (e.table transport).contains port = false ∧
        (∀ other, (bound.table transport).contains other = true ↔ (e.table transport).contains other = true ∨ other = port) ∧
        ((e.table transport).Sound → (bound.table transport).Sound) := by
  unfold tryBind at success
  split at success
  · rename_i held
    cases success
    exact .inl ⟨rfl, held.2, rfl⟩
  · split at success
    · cases success
    · split at success
      · cases success
      · cases success
      · split at success
        · rename_i table inserted
          cases success
          rw [table_withTable]
          exact .inr (PortTable.insert_contains inserted)
        · cases success

theorem tryBind_config {e bound : Endpoint} {socket : Socket} {answer : BindAnswer} {port : UInt16}
    (success : e.tryBind socket transport answer = .ok (port, bound)) : bound.config = e.config := by
  unfold tryBind at success
  split at success
  · cases success
    rfl
  · split at success
    · cases success
    · split at success
      · cases success
      · cases success
      · split at success
        · cases success
          cases transport <;> rfl
        · cases success

/-- Whatever is granted was free, and nothing else changes. -/
theorem allocFrom_contains (chance : Chance) (ip : Ip) (count : Nat) (transport : Transport)
    (systems : List (Socket → BindAnswer)) (bound : List UInt16) (e : Endpoint) :
    ∃ fresh, (allocFrom chance ip count transport systems bound e).1 = bound ++ fresh ∧
      (∀ port ∈ fresh, (e.table transport).contains port = false) ∧
      (∀ port, ((allocFrom chance ip count transport systems bound e).2.table transport).contains port = true ↔
        (e.table transport).contains port = true ∨ port ∈ fresh) ∧
      ((e.table transport).Sound → ((allocFrom chance ip count transport systems bound e).2.table transport).Sound) := by
  induction systems generalizing bound e with
  | nil => exact ⟨[], by simp [allocFrom]⟩
  | cons system systems ih =>
    rcases allocFrom_cases chance ip count transport system systems bound e with
      same | same | ⟨_, _, port, table, _, inserted, _, same⟩ <;> rw [same]
    · exact ⟨[], by simp⟩
    · have later := ih bound e.redrawn
      rwa [table_redrawn] at later
    · obtain ⟨unbound, held, kept⟩ := PortTable.insert_contains inserted
      obtain ⟨fresh, list, each, all, sound⟩ := ih (bound ++ [port]) (e.redrawn.withTable transport table)
      rw [table_withTable] at each all sound
      refine ⟨port :: fresh, ?_, ?_, ?_, fun old => sound (kept old)⟩
      · rw [list, List.append_assoc, List.singleton_append]
      · intro other member
        rcases List.mem_cons.mp member with rfl | later
        · exact unbound
        · have apart := each other later
          rw [← Bool.not_eq_true] at apart ⊢
          exact fun already => apart ((held other).mpr (.inl already))
      · intro other
        rw [all, held, List.mem_cons, or_assoc]

/-- What is bound after an allocation: what was bound before, and the ports that it gives, which were free. -/
theorem alloc_contains (e : Endpoint) (chance : Chance) (system : Socket → BindAnswer) (ip : Ip) (count : Nat)
    (transport : Transport) :
    (∀ port ∈ (e.alloc chance system ip count transport).1, (e.table transport).contains port = false) ∧
      (∀ port, ((e.alloc chance system ip count transport).2.table transport).contains port = true ↔
        (e.table transport).contains port = true ∨ port ∈ (e.alloc chance system ip count transport).1) ∧
      ((e.table transport).Sound → ((e.alloc chance system ip count transport).2.table transport).Sound) := by
  obtain ⟨fresh, list, each, all, sound⟩ :=
    allocFrom_contains chance ip count transport (List.replicate (count * 8) system) [] e
  have ports : (e.alloc chance system ip count transport).1 = fresh.mergeSort (· ≤ ·) := by
    show (allocFrom chance ip count transport (List.replicate (count * 8) system) [] e).1.mergeSort (· ≤ ·) = _
    rw [list, List.nil_append]
  simp only [ports, List.mem_mergeSort]
  exact ⟨each, all, sound⟩

/-- No port is granted twice, and no more of them than are asked for. -/
theorem allocFrom_nodup (chance : Chance) (ip : Ip) (count : Nat) (transport : Transport) (systems : List (Socket → BindAnswer))
    (bound : List UInt16) (e : Endpoint) (held : ∀ port ∈ bound, (e.table transport).contains port = true) (nodup : bound.Nodup)
    (few : bound.length ≤ count) :
    (allocFrom chance ip count transport systems bound e).1.Nodup ∧
      (allocFrom chance ip count transport systems bound e).1.length ≤ count := by
  induction systems generalizing bound e with
  | nil => exact ⟨nodup, few⟩
  | cons system systems ih =>
    rcases allocFrom_cases chance ip count transport system systems bound e with
      same | same | ⟨room, _, port, table, _, inserted, _, same⟩ <;> rw [same]
    · exact ⟨nodup, few⟩
    · exact ih bound e.redrawn (by rwa [table_redrawn]) nodup few
    · obtain ⟨unbound, grows, _⟩ := PortTable.insert_contains inserted
      refine ih (bound ++ [port]) (e.redrawn.withTable transport table) ?_ ?_ ?_
      · intro other member
        rw [table_withTable]
        rcases List.mem_append.mp member with old | new
        · exact (grows other).mpr (.inl (held other old))
        · exact (grows other).mpr (.inr (List.mem_singleton.mp new))
      · refine List.nodup_append.mpr ⟨nodup, by simp, ?_⟩
        rintro other old _ new rfl
        have already := held other old
        rw [List.mem_singleton.mp new, unbound] at already
        cases already
      · rw [List.length_append, List.length_singleton]
        omega

theorem alloc_nodup (e : Endpoint) (chance : Chance) (system : Socket → BindAnswer) (ip : Ip) (count : Nat) (transport : Transport) :
    (e.alloc chance system ip count transport).1.Nodup ∧ (e.alloc chance system ip count transport).1.length ≤ count := by
  obtain ⟨nodup, few⟩ := allocFrom_nodup chance ip count transport (List.replicate (count * 8) system) [] e (by simp)
    List.nodup_nil (Nat.zero_le _)
  have ports : (e.alloc chance system ip count transport).1 =
      (allocFrom chance ip count transport (List.replicate (count * 8) system) [] e).1.mergeSort (· ≤ ·) := rfl
  rw [ports, (List.mergeSort_perm _ _).nodup_iff, List.length_mergeSort]
  exact ⟨nodup, few⟩

theorem allocFrom_config (chance : Chance) (ip : Ip) (count : Nat) (transport : Transport) (systems : List (Socket → BindAnswer))
    (bound : List UInt16) (e : Endpoint) : (allocFrom chance ip count transport systems bound e).2.config = e.config := by
  induction systems generalizing bound e with
  | nil => rfl
  | cons system systems ih =>
    rcases allocFrom_cases chance ip count transport system systems bound e with
      same | same | ⟨_, _, port, table, _, _, success, same⟩ <;> rw [same]
    · exact ih _ _
    · rw [ih, tryBind_config success]
      rfl

theorem alloc_config (e : Endpoint) (chance : Chance) (system : Socket → BindAnswer) (ip : Ip) (count : Nat) (transport : Transport) :
    (e.alloc chance system ip count transport).2.config = e.config :=
  allocFrom_config chance ip count transport (List.replicate (count * 8) system) [] e

theorem releaseOne_contains {e : Endpoint} (sound : (e.table transport).Sound) (port : UInt16) (closed : List UInt16) :
    (∀ other, ((releaseOne transport (closed, e) port).2.table transport).contains other = true ↔
      (e.table transport).contains other = true ∧ other ≠ port) ∧
    ((releaseOne transport (closed, e) port).2.table transport).Sound := by
  obtain ⟨held, kept, free⟩ := PortTable.remove_contains sound port
  unfold releaseOne
  split
  · rename_i table taken
    rw [taken] at held kept
    simpa using And.intro held kept
  · rename_i table nothing
    refine ⟨?_, sound⟩
    intro other
    constructor
    · intro already
      refine ⟨already, ?_⟩
      rintro rfl
      rw [free (by rw [nothing])] at already
      cases already
    · exact And.left

/-- Releasing closes the ports, and no other. -/
theorem release_contains {e : Endpoint} (sound : (e.table transport).Sound) (ports : List UInt16) :
    (∀ other, ((e.release ports transport).2.table transport).contains other = true ↔
      (e.table transport).contains other = true ∧ other ∉ ports) ∧
    ((e.release ports transport).2.table transport).Sound :=
  release_of_releaseOne (fun e port => (e.table transport).contains port = true)
    (fun _ port closed sound => releaseOne_contains sound port closed) sound ports

/-- Sending leaves the sockets as they are. -/
theorem send_udp (e : Endpoint) (outside : Outside) (message : Message) : (e.send outside message).2.udp = e.udp := by
  unfold send
  split
  · rfl
  · split
    · split
      · rfl
      · split <;> rfl
    · split
      · rfl
      · split <;> rfl

end Endpoint

end NatTraversal
