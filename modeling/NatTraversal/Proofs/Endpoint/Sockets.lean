import NatTraversal.Endpoint.Delivery
import NatTraversal.Proofs.Message.RoundTrip

namespace NatTraversal

namespace PortTable

variable {χ : Type}

/-- Every socket is entered under its own port. -/
def Filed (table : PortTable χ) : Prop := ∀ port socket, table.socket? port = some socket → socket.port = port

/-- Whether a socket is bound: it is found by its port and has a channel. -/
def holds (table : PortTable χ) (socket : Socket) : Bool :=
  table.socket? socket.port = some socket && table.channels.contains socket

theorem holds_iff {table : PortTable χ} {socket : Socket} :
    table.holds socket = true ↔ table.socket? socket.port = some socket ∧ table.channels.contains socket = true := by
  simp [holds]

theorem holds_of_not_contains {table : PortTable χ} {socket : Socket} (free : table.contains socket.port = false) :
    table.holds socket = false := by
  rw [contains, Table.contains_eq_isSome, Option.isSome_eq_false_iff, Option.isNone_iff_eq_none] at free
  simp [holds, socket?, free]

theorem insert_spec {table grown : PortTable χ} {socket : Socket} {channel : χ}
    (success : table.insert socket channel = .ok grown) :
    (∀ s, grown.holds s = true ↔ table.holds s = true ∨ s = socket) ∧ (table.Filed → grown.Filed) := by
  unfold insert at success
  split at success
  · cases success
  · rename_i free
    simp only [Bool.or_eq_true, not_or, Bool.not_eq_true, Table.contains_eq_isSome, Option.isSome_eq_false_iff,
      Option.isNone_iff_eq_none] at free
    cases success
    obtain ⟨portFree, socketFree⟩ := free
    constructor
    · intro s
      simp only [holds_iff, socket?, Table.contains_eq_isSome, Table.get?_insert]
      by_cases same : s = socket
      · subst same
        simp
      · by_cases port : s.port = socket.port
        · have other : socket ≠ s := Ne.symm same
          simp [same, other, port, portFree]
        · simp [same, port]
    · intro filed port s found
      simp only [socket?, Table.get?_insert] at found
      split at found
      · rename_i own
        cases found
        exact own.symm
      · exact filed port s found

theorem remove_holds {table : PortTable χ} (filed : table.Filed) (port : UInt16) :
    (∀ s, (table.remove port).2.holds s = true ↔ table.holds s = true ∧ s.port ≠ port) ∧ (table.remove port).2.Filed := by
  unfold remove
  cases bound : table.socket? port with
  | none =>
    refine ⟨?_, filed⟩
    intro s
    constructor
    · intro held
      refine ⟨held, ?_⟩
      rintro rfl
      rw [holds_iff, bound] at held
      cases held.1
    · exact And.left
  | some socket =>
    have own := filed port socket bound
    constructor
    · intro s
      simp only [holds_iff, socket?, Table.contains_eq_isSome, Table.get?_erase]
      by_cases same : s.port = port
      · simp [same]
      · have other : s ≠ socket := by
          rintro rfl
          exact same own
        simp [same, other]
    · intro q s found
      simp only [socket?, Table.get?_erase] at found
      split at found
      · cases found
      · exact filed q s found

end PortTable

namespace Endpoint

variable {transport : Transport}

@[simp] theorem table_withTable (e : Endpoint) (transport : Transport) (table : PortTable Unit) :
    (e.withTable transport table).table transport = table := by
  cases transport <;> rfl

/-- A port that is not bound yet is bound only if the system says so. -/
theorem tryBind_ok {e bound : Endpoint} {socket : Socket} {answer : BindAnswer} {port : UInt16}
    (free : (e.table transport).contains socket.port = false) (success : e.tryBind socket transport answer = .ok (port, bound)) :
    answer = .bound port ∧ ∃ table, (e.table transport).insert ⟨socket.ip, port⟩ () = .ok table ∧
      bound = e.withTable transport table := by
  unfold tryBind at success
  rw [if_neg (by simp [free])] at success
  split at success
  · cases success
  · split at success
    · cases success
    · cases success
    · split at success
      · rename_i grown inserted
        cases success
        exact ⟨rfl, grown, inserted, rfl⟩
      · cases success

theorem contains_of_not_isHeld {e : Endpoint} {port : UInt16} (free : e.isHeld port = false) (transport : Transport) :
    (e.table transport).contains port = false := by
  simp only [isHeld, Bool.or_eq_false_iff] at free
  cases transport
  · exact free.1.1
  · exact free.2
  · exact free.1.2

@[simp] theorem table_redrawn (e : Endpoint) (transport : Transport) : e.redrawn.table transport = e.table transport := by
  cases transport <;> rfl

theorem allocFrom_cons (chance : Chance) (ip : Ip) (count : Nat) (transport : Transport) (system : Socket → BindAnswer)
    (systems : List (Socket → BindAnswer)) (bound : List UInt16) (e : Endpoint) :
    allocFrom chance ip count transport (system :: systems) bound e =
      if bound.length ≥ count then (bound, e)
      else if e.redrawn.isHeld (chance.port e.drawn) then allocFrom chance ip count transport systems bound e.redrawn
      else match e.redrawn.tryBind ⟨ip, chance.port e.drawn⟩ transport (system ⟨ip, chance.port e.drawn⟩) with
        | .ok (port, e) => allocFrom chance ip count transport systems (bound ++ [port]) e
        | .error _ => allocFrom chance ip count transport systems bound e.redrawn := rfl

/-- What an allocation comes to at a draw: it is over, or it goes on without a port, or with one that the system grants where
the drawn one was free. -/
theorem allocFrom_cases (chance : Chance) (ip : Ip) (count : Nat) (transport : Transport) (system : Socket → BindAnswer)
    (systems : List (Socket → BindAnswer)) (bound : List UInt16) (e : Endpoint) :
    allocFrom chance ip count transport (system :: systems) bound e = (bound, e) ∨
      allocFrom chance ip count transport (system :: systems) bound e =
        allocFrom chance ip count transport systems bound e.redrawn ∨
      bound.length < count ∧ e.isHeld (chance.port e.drawn) = false ∧ ∃ port table,
        system ⟨ip, chance.port e.drawn⟩ = .bound port ∧ (e.table transport).insert ⟨ip, port⟩ () = .ok table ∧
        e.redrawn.tryBind ⟨ip, chance.port e.drawn⟩ transport (system ⟨ip, chance.port e.drawn⟩) =
          .ok (port, e.redrawn.withTable transport table) ∧
        allocFrom chance ip count transport (system :: systems) bound e =
          allocFrom chance ip count transport systems (bound ++ [port]) (e.redrawn.withTable transport table) := by
  rw [allocFrom_cons]
  split
  · exact .inl rfl
  · rename_i room
    split
    · exact .inr (.inl rfl)
    · rename_i held
      have free : e.redrawn.isHeld (chance.port e.drawn) = false := Bool.not_eq_true _ ▸ held
      split
      · rename_i port grown success
        obtain ⟨answer, table, inserted, rfl⟩ := tryBind_ok (contains_of_not_isHeld free transport) success
        rw [table_redrawn] at inserted
        exact .inr (.inr ⟨Nat.not_le.mp room, free, port, table, answer, inserted, success, rfl⟩)
      · exact .inr (.inl rfl)

/-- Drawn ports come on top of what is bound, each of them granted by a system and none bound before. -/
theorem allocFrom_spec (chance : Chance) (ip : Ip) (count : Nat) (transport : Transport) {systems : List (Socket → BindAnswer)}
    (asked : ∀ system ∈ systems, ∀ socket port, system socket = .bound port → port = socket.port) (bound : List UInt16)
    (e : Endpoint) :
    ∃ fresh, (allocFrom chance ip count transport systems bound e).1 = bound ++ fresh ∧
      (∀ port ∈ fresh, (∃ system ∈ systems, system ⟨ip, port⟩ = .bound port) ∧ (e.table transport).holds ⟨ip, port⟩ = false) ∧
      (∀ s, ((allocFrom chance ip count transport systems bound e).2.table transport).holds s = true ↔
        (e.table transport).holds s = true ∨ ∃ port ∈ fresh, s = ⟨ip, port⟩) ∧
      ((e.table transport).Filed → ((allocFrom chance ip count transport systems bound e).2.table transport).Filed) ∧
      (bound.length ≤ count → (bound ++ fresh).length ≤ count) := by
  induction systems generalizing bound e with
  | nil => exact ⟨[], by simp [allocFrom]⟩
  | cons system systems ih =>
    rw [List.forall_mem_cons] at asked
    rcases allocFrom_cases chance ip count transport system systems bound e with
      same | same | ⟨room, free, port, table, granted, inserted, _, same⟩ <;> rw [same]
    · exact ⟨[], by simp⟩
    · obtain ⟨fresh, list, each, rest⟩ := ih asked.2 bound e.redrawn
      rw [table_redrawn] at each rest
      refine ⟨fresh, list, fun port member => ?_, rest⟩
      obtain ⟨⟨other, later, answer⟩, unheld⟩ := each port member
      exact ⟨⟨other, List.mem_cons_of_mem _ later, answer⟩, unheld⟩
    · obtain rfl := asked.1 _ _ granted
      obtain ⟨held, filed⟩ := PortTable.insert_spec inserted
      have before : (e.table transport).holds ⟨ip, chance.port e.drawn⟩ = false :=
        PortTable.holds_of_not_contains (contains_of_not_isHeld free transport)
      obtain ⟨fresh, list, each, all, kept, few⟩ := ih asked.2 (bound ++ [chance.port e.drawn]) (e.redrawn.withTable transport table)
      rw [table_withTable] at each all kept
      refine ⟨chance.port e.drawn :: fresh, ?_, ?_, ?_, fun old => kept (filed old), ?_⟩
      · rw [list, List.append_assoc, List.singleton_append]
      · intro port member
        rcases List.mem_cons.mp member with rfl | later
        · exact ⟨⟨system, List.mem_cons_self, granted⟩, before⟩
        · obtain ⟨⟨other, behind, answer⟩, unheld⟩ := each port later
          refine ⟨⟨other, List.mem_cons_of_mem _ behind, answer⟩, ?_⟩
          rw [← Bool.not_eq_true] at unheld ⊢
          exact fun already => unheld ((held _).mpr (.inl already))
      · intro s
        rw [all, held]
        simp only [List.mem_cons, exists_eq_or_imp, or_assoc]
      · intro _
        have short : (bound ++ [chance.port e.drawn]).length ≤ count := by
          rw [List.length_append, List.length_singleton]
          omega
        have total := few short
        simpa [Nat.add_assoc, Nat.add_comm 1] using total

/-- What releasing does at each port. -/
def releaseOne (transport : Transport) (state : List UInt16 × Endpoint) (port : UInt16) : List UInt16 × Endpoint :=
  match (state.2.table transport).remove port with
  | (some _, table) => (state.1 ++ [port], state.2.withTable transport table)
  | (none, _) => state

theorem release_eq (e : Endpoint) (ports : List UInt16) (transport : Transport) :
    e.release ports transport = (ports.mergeSort (· ≤ ·)).foldl (releaseOne transport) ([], e) := rfl

theorem releaseOne_spec {e : Endpoint} (filed : (e.table transport).Filed) (port : UInt16) (closed : List UInt16) :
    (∀ s, ((releaseOne transport (closed, e) port).2.table transport).holds s = true ↔
      (e.table transport).holds s = true ∧ s.port ≠ port) ∧
    ((releaseOne transport (closed, e) port).2.table transport).Filed := by
  have removed := PortTable.remove_holds filed port
  unfold releaseOne
  split
  · rename_i table taken
    rw [taken] at removed
    simpa using removed
  · rename_i table nothing
    refine ⟨?_, filed⟩
    intro s
    constructor
    · intro held
      refine ⟨held, ?_⟩
      rintro rfl
      rw [PortTable.holds_iff, Table.contains_eq_isSome] at held
      obtain ⟨channel, found⟩ := Option.isSome_iff_exists.mp held.2
      simp [PortTable.remove, held.1, found] at nothing
    · exact And.left

/-- What is bound after an allocation: what was bound before, and the ports that it gives. -/
theorem alloc_spec {system : Socket → BindAnswer} (asked : ∀ socket port, system socket = .bound port → port = socket.port)
    (chance : Chance) (ip : Ip) (count : Nat) (transport : Transport) (e : Endpoint) :
    (∀ port ∈ (e.alloc chance system ip count transport).1,
      system ⟨ip, port⟩ = .bound port ∧ (e.table transport).holds ⟨ip, port⟩ = false) ∧
    (∀ s, ((e.alloc chance system ip count transport).2.table transport).holds s = true ↔
      (e.table transport).holds s = true ∨ ∃ port ∈ (e.alloc chance system ip count transport).1, s = ⟨ip, port⟩) ∧
    ((e.table transport).Filed → ((e.alloc chance system ip count transport).2.table transport).Filed) ∧
    (e.alloc chance system ip count transport).1.length ≤ count := by
  have each_asked : ∀ same ∈ List.replicate (count * 8) system, ∀ socket port, same socket = .bound port → port = socket.port := by
    intro same member
    rw [(List.mem_replicate.mp member).2]
    exact asked
  obtain ⟨fresh, list, each, all, filed, few⟩ := allocFrom_spec chance ip count transport each_asked [] e
  have ports : (e.alloc chance system ip count transport).1 = fresh.mergeSort (· ≤ ·) := by
    show (allocFrom chance ip count transport (List.replicate (count * 8) system) [] e).1.mergeSort (· ≤ ·) = _
    rw [list, List.nil_append]
  simp only [ports, List.mem_mergeSort, List.length_mergeSort]
  refine ⟨fun port member => ?_, all, filed, few (Nat.zero_le _)⟩
  obtain ⟨⟨same, member, answer⟩, unheld⟩ := each port member
  rw [(List.mem_replicate.mp member).2] at answer
  exact ⟨answer, unheld⟩

/-- What holds on of whatever is at other ports when one port is released holds on when several are. -/
theorem release_of_releaseOne {α : Type} {port : α → UInt16} {good : Endpoint → Prop} (has : Endpoint → α → Prop)
    (one : ∀ (e : Endpoint) (released : UInt16) (closed : List UInt16), good e →
      (∀ a, has (releaseOne transport (closed, e) released).2 a ↔ has e a ∧ port a ≠ released) ∧
        good (releaseOne transport (closed, e) released).2)
    {e : Endpoint} (start : good e) (ports : List UInt16) :
    (∀ a, has (e.release ports transport).2 a ↔ has e a ∧ port a ∉ ports) ∧ good (e.release ports transport).2 := by
  have each : ∀ (closing closed : List UInt16) (e : Endpoint), good e →
      (∀ a, has (closing.foldl (releaseOne transport) (closed, e)).2 a ↔ has e a ∧ port a ∉ closing) ∧
        good (closing.foldl (releaseOne transport) (closed, e)).2 := by
    intro closing
    induction closing with
    | nil =>
      intro closed e start
      exact ⟨fun a => by simp, start⟩
    | cons released closing ih =>
      intro closed e start
      obtain ⟨has_first, still⟩ := one e released closed start
      obtain ⟨has_later, kept⟩ := ih (releaseOne transport (closed, e) released).1 (releaseOne transport (closed, e) released).2 still
      refine ⟨?_, kept⟩
      intro a
      rw [List.foldl_cons, has_later, has_first]
      simp only [List.mem_cons, not_or, and_assoc]
  obtain ⟨left, still⟩ := each (ports.mergeSort (· ≤ ·)) [] e start
  exact ⟨fun a => by rw [release_eq, left, List.mem_mergeSort], still⟩

/-- Releasing closes the sockets at the ports, and no other. -/
theorem release_spec {e : Endpoint} (filed : (e.table transport).Filed) (ports : List UInt16) :
    (∀ s, ((e.release ports transport).2.table transport).holds s = true ↔
      (e.table transport).holds s = true ∧ s.port ∉ ports) ∧
    ((e.release ports transport).2.table transport).Filed :=
  release_of_releaseOne (fun e s => (e.table transport).holds s = true)
    (fun _ port closed filed => releaseOne_spec filed port closed) filed ports

theorem datagram_eq_ok {e : Endpoint} {message : Message} {frame : Bytes} (sent : e.datagram message = .ok frame) :
    (e.udp.get? message.sourceSocket.port).isSome = true ∧ message.encode = .ok frame := by
  unfold datagram at sent
  split at sent
  · cases sent
  · rename_i bound
    unfold encode at sent
    split at sent
    · cases sent
    · rename_i encoded
      split at sent
      · cases sent
      · cases sent
        exact ⟨Option.isSome_iff_ne_none.mpr (by simpa using bound), encoded⟩

/-- A datagram carries its message unchanged to any receiver whose buffer it fits. -/
theorem receive_of_send {e receiver : Endpoint} {outside : Outside} {message : Message} {source dest : Socket} {frame : Bytes}
    (sent : .transmit source dest frame ∈ (e.send outside message).1) (fits : frame.length ≤ receiver.config.receiveBuffer.toNat)
    (remote here : Socket) :
    (e.udp.get? message.sourceSocket.port).isSome = true ∧ dest = message.destSocket ∧
      (receiver.receive frame remote here).1 = [.message message remote here] := by
  unfold send at sent
  split at sent
  · simp at sent
  · split at sent
    · rename_i transport
      split at sent
      · cases sent
      · rename_i written datagram
        split at sent
        · simp only [List.mem_singleton, EndpointEffect.transmit.injEq] at sent
          obtain ⟨_, rfl, rfl⟩ := sent
          obtain ⟨bound, encoded⟩ := datagram_eq_ok datagram
          have decoded := Message.decode_eq_ok_iff.mpr ⟨transport, frame, encoded, SameBut.refl _ _⟩
          refine ⟨bound, rfl, ?_⟩
          simp only [receive, List.take_of_length_le fits, decoded]
        · simp at sent
    · split at sent
      · simp [openStream] at sent
      · split at sent
        · simp at sent
        · simp at sent
        · simp [openStream] at sent

end Endpoint

end NatTraversal
