import NatTraversal.Proofs.Endpoint.Metering
import NatTraversal.Proofs.Endpoint.PortMap
import NatTraversal.Proofs.Endpoint.Rivals

namespace NatTraversal

namespace Table

variable {κ ν : Type} [DecidableEq κ]

/-- An entry that a filter takes away leaves nothing of the value that it was given. -/
theorem filter_insert (t : Table κ ν) {k : κ} {keep : κ → Bool} (gone : keep k = false) (v : ν) :
    ((t.insert k v).filter fun key _ => keep key) = t.filter fun key _ => keep key := by
  apply eq_of_entries
  simp only [filter]
  cases known : t.contains k with
  | false => simp [entries_insert_of_new known, gone]
  | true =>
    rw [entries_insert_of_known known, List.filter_map]
    have apart : ∀ e ∈ t.entries.filter (fun e => keep e.1), (e.1, if e.1 = k then v else e.2) = e := by
      intro e member
      have other : e.1 ≠ k := by
        rintro rfl
        cases gone.symm.trans (List.mem_filter.mp member).2
      rw [if_neg other]
    exact (List.map_congr_left apart).trans (List.map_id _)

end Table

namespace PortTable

variable {χ : Type} {table : PortTable χ} {map : PortMap χ}

/-- A table with a socket entered in both directions. -/
def enter (table : PortTable χ) (socket : Socket) (channel : χ) : PortTable χ :=
  ⟨table.sockets.insert socket.port socket, table.channels.insert socket channel⟩

theorem insert_eq_enter {grown : PortTable χ} {socket : Socket} {channel : χ} (success : table.insert socket channel = .ok grown) :
    grown = table.enter socket channel := by
  unfold insert at success
  split at success
  · cases success
  · cases success
    rfl

theorem socket?_enter (table : PortTable χ) (socket : Socket) (channel : χ) (port : UInt16) :
    (table.enter socket channel).socket? port = if port = socket.port then some socket else table.socket? port :=
  Table.get?_insert ..

/-- A table without some ports. -/
def without (table : PortTable χ) (ports : List UInt16) : PortTable χ :=
  ⟨table.sockets.filter fun port _ => port ∉ ports, table.channels.filter fun socket _ => socket.port ∉ ports⟩

theorem without_congr (table : PortTable χ) {ports others : List UInt16} (same : ∀ port, port ∈ ports ↔ port ∈ others) :
    table.without ports = table.without others := by
  simp only [without, same]

theorem without_without (table : PortTable χ) (ports others : List UInt16) :
    (table.without ports).without others = table.without (ports ++ others) := by
  simp only [without, mk.injEq]
  constructor <;> exact Table.eq_of_entries (by simp [Table.filter, List.filter_filter, Bool.and_comm, not_or])

theorem without_comm (table : PortTable χ) (ports others : List UInt16) :
    (table.without ports).without others = (table.without others).without ports := by
  rw [without_without, without_without]
  exact without_congr table fun port => by rw [List.mem_append, List.mem_append, or_comm]

theorem without_enter (table : PortTable χ) {socket : Socket} {ports : List UInt16} (gone : socket.port ∈ ports) (channel : χ) :
    (table.enter socket channel).without ports = table.without ports := by
  simp only [without, enter, mk.injEq]
  exact ⟨Table.filter_insert _ (by simpa using gone) _, Table.filter_insert _ (by simpa using gone) _⟩

theorem socket?_without (table : PortTable χ) (ports : List UInt16) (port : UInt16) :
    (table.without ports).socket? port = if port ∈ ports then none else table.socket? port := by
  rw [socket?, without, Table.get?_filter, ← socket?]
  by_cases gone : port ∈ ports <;> cases table.socket? port <;> simp [gone, Option.filter]

theorem contains_without (table : PortTable χ) (ports : List UInt16) (port : UInt16) :
    (table.without ports).contains port = true ↔ table.contains port = true ∧ port ∉ ports := by
  rw [contains_eq_isSome, socket?_without, contains_eq_isSome]
  by_cases gone : port ∈ ports <;> simp [gone]

theorem Bijective.contains_of_channel (bijective : table.Bijective) {socket : Socket}
    (held : table.channels.contains socket = true) : table.contains socket.port = true := by
  rw [contains_eq_isSome, bijective.own socket held, Option.isSome_some]

/-- Ports that are not there leave nothing out. -/
theorem Bijective.without_eq_self (bijective : table.Bijective) {ports : List UInt16}
    (absent : ∀ port ∈ ports, table.contains port = false) : table.without ports = table := by
  have kept (port : UInt16) (held : table.contains port = true) : port ∉ ports := by
    intro member
    cases held.symm.trans (absent port member)
  have sockets : (table.sockets.filter fun port _ => port ∉ ports) = table.sockets := by
    refine Table.eq_of_entries (List.filter_eq_self.mpr fun e member => decide_eq_true (kept e.1 ?_))
    exact Table.contains_of_get? (Table.get?_eq_some_iff.mpr member)
  have channels : (table.channels.filter fun socket _ => socket.port ∉ ports) = table.channels := by
    refine Table.eq_of_entries (List.filter_eq_self.mpr fun e member => decide_eq_true (kept e.1.port ?_))
    exact bijective.contains_of_channel (Table.contains_of_get? (Table.get?_eq_some_iff.mpr member))
  rw [without, sockets, channels]

theorem Bijective.without_nil (bijective : table.Bijective) : table.without [] = table := bijective.without_eq_self fun _ => nofun

/-- Removing a port tells whether it was there and takes it away in both directions. -/
theorem Bijective.remove_eq (bijective : table.Bijective) (port : UInt16) :
    (table.remove port).1.isSome = table.contains port ∧ (table.remove port).2 = table.without [port] := by
  rw [contains_eq_isSome, remove]
  cases bound : table.socket? port with
  | none =>
    refine ⟨rfl, (bijective.without_eq_self fun other member => ?_).symm⟩
    rw [List.mem_singleton.mp member, contains_eq_isSome, bound, Option.isSome_none]
  | some socket =>
    have own := bijective.filed port socket bound
    have connected := bijective.connected port socket bound
    refine ⟨by rw [Option.isSome_map, ← Table.contains_eq_isSome, connected, Option.isSome_some], ?_⟩
    simp only [without, mk.injEq, List.mem_singleton]
    refine ⟨rfl, Table.eq_of_entries (List.filter_congr fun e member => ?_)⟩
    have held := bijective.own e.1 (Table.contains_of_get? (Table.get?_eq_some_iff.mpr member))
    rw [decide_eq_decide, not_iff_not]
    constructor
    · rintro rfl
      exact own
    · intro same
      rw [same, bound] at held
      exact (Option.some.inj held).symm

end PortTable

namespace Endpoint

variable {e : Endpoint} {transport : Transport} {chance : Chance} {ip : Ip} {count : Nat}

/-- The endpoint with another count of draws. -/
def drawnTo (e : Endpoint) (drawn : Nat) : Endpoint := { e with drawn }

@[simp] theorem table_drawnTo (e : Endpoint) (drawn : Nat) (transport : Transport) :
    (e.drawnTo drawn).table transport = e.table transport := by
  cases transport <;> rfl

/-- The table with the ports entered one after the other. -/
def entering (ip : Ip) (table : PortTable Unit) (ports : List UInt16) : PortTable Unit :=
  ports.foldl (fun table port => table.enter ⟨ip, port⟩ ()) table

theorem socket?_entering (ip : Ip) (table : PortTable Unit) (ports : List UInt16) (port : UInt16) :
    (entering ip table ports).socket? port = if port ∈ ports then some ⟨ip, port⟩ else table.socket? port := by
  induction ports generalizing table with
  | nil => simp [entering]
  | cons first ports ih =>
    rw [entering, List.foldl_cons, ← entering, ih, PortTable.socket?_enter]
    by_cases later : port ∈ ports
    · simp [later]
    · by_cases same : port = first
      · simp [same]
      · simp [later, same]

theorem entering_without (ip : Ip) (table : PortTable Unit) {ports gone : List UInt16} (all : ∀ port ∈ ports, port ∈ gone) :
    (entering ip table ports).without gone = table.without gone := by
  induction ports generalizing table with
  | nil => rfl
  | cons first ports ih =>
    rw [List.forall_mem_cons] at all
    rw [entering, List.foldl_cons, ← entering, ih _ all.2, PortTable.without_enter _ all.1]

/-- What an allocation has come to: ports that were free, each entered in the table, and so many draws at most. -/
structure Granting (e : Endpoint) (ip : Ip) (count : Nat) (transport : Transport) (draws : Nat) (state : List UInt16 × Endpoint) :
    Prop where
  few : state.1.length ≤ count
  nodup : state.1.Nodup
  fresh : ∀ port ∈ state.1, firstEphemeralPort ≤ port ∧ e.isHeld port = false
  rest : ∃ drawn, e.drawn ≤ drawn ∧ drawn ≤ e.drawn + draws ∧
    state.2 = (e.withTable transport (entering ip (e.table transport) state.1)).drawnTo drawn

theorem granting_start (e : Endpoint) (ip : Ip) (count : Nat) (transport : Transport) : Granting e ip count transport 0 ([], e) where
  few := Nat.zero_le _
  nodup := List.nodup_nil
  fresh := by simp
  rest := ⟨e.drawn, Nat.le_refl _, Nat.le_refl _, by cases transport <;> rfl⟩

namespace Granting

variable {draws : Nat} {state : List UInt16 × Endpoint}

/-- Beside the ports that it has come to nothing has changed. -/
theorem socket? (granting : Granting e ip count transport draws state) (other : Transport) (port : UInt16) :
    (state.2.table other).socket? port =
      if other = transport ∧ port ∈ state.1 then some ⟨ip, port⟩ else (e.table other).socket? port := by
  obtain ⟨drawn, _, _, rest⟩ := granting.rest
  rw [rest, table_drawnTo]
  by_cases same : other = transport
  · rw [same, table_withTable, socket?_entering]
    simp
  · rw [table_withTable_of_ne same, if_neg fun both => same both.1]

theorem not_isHeld (granting : Granting e ip count transport draws state) {port : UInt16} (free : state.2.isHeld port = false) :
    e.isHeld port = false ∧ port ∉ state.1 := by
  have absent (other : Transport) : (state.2.table other).socket? port = none := by
    have unbound := contains_of_not_isHeld free other
    rwa [PortTable.contains_eq_isSome, Option.isSome_eq_false_iff, Option.isNone_iff_eq_none] at unbound
  have apart : port ∉ state.1 := by
    intro member
    have there := granting.socket? transport port
    rw [absent, if_pos ⟨rfl, member⟩] at there
    cases there
  have before (other : Transport) : (e.table other).contains port = false := by
    have there := granting.socket? other port
    rw [absent, if_neg fun both => apart both.2] at there
    rw [PortTable.contains_eq_isSome, ← there, Option.isSome_none]
  refine ⟨?_, apart⟩
  have udp := before .udp
  have udt := before .udt
  have tcp := before .tcp
  simp only [table] at udp udt tcp
  rw [isHeld, udp, udt, tcp]
  rfl

theorem mono (granting : Granting e ip count transport draws state) {more : Nat} (later : draws ≤ more) :
    Granting e ip count transport more state := by
  obtain ⟨drawn, low, high, rest⟩ := granting.rest
  exact { granting with rest := ⟨drawn, low, Nat.le_trans high (Nat.add_le_add_left later _), rest⟩ }

theorem redrawn {bound : List UInt16} {now : Endpoint} (granting : Granting e ip count transport draws (bound, now)) :
    Granting e ip count transport (draws + 1) (bound, now.redrawn) := by
  obtain ⟨drawn, low, high, rest⟩ := granting.rest
  refine { granting with rest := ⟨drawn + 1, Nat.le_succ_of_le low, Nat.succ_le_succ high, ?_⟩ }
  change now = _ at rest
  rw [rest]
  rfl

theorem grants {bound : List UInt16} {now : Endpoint} (granting : Granting e ip count transport draws (bound, now))
    (room : bound.length < count) {port : UInt16} (high : firstEphemeralPort ≤ port) (free : now.isHeld port = false) :
    Granting e ip count transport (draws + 1)
      (bound ++ [port], now.redrawn.withTable transport ((now.table transport).enter ⟨ip, port⟩ ())) := by
  obtain ⟨before, apart⟩ := granting.not_isHeld free
  obtain ⟨drawn, least, most, rest⟩ := granting.rest
  refine ⟨?_, ?_, ?_, drawn + 1, Nat.le_succ_of_le least, Nat.succ_le_succ most, ?_⟩
  · rw [List.length_append, List.length_singleton]
    omega
  · refine List.nodup_append.mpr ⟨granting.nodup, by simp, ?_⟩
    rintro _ old _ new rfl
    exact apart (List.mem_singleton.mp new ▸ old)
  · intro other member
    rcases List.mem_append.mp member with old | new
    · exact granting.fresh other old
    · rw [List.mem_singleton.mp new]
      exact ⟨high, before⟩
  · change now = _ at rest
    rw [rest, table_drawnTo, table_withTable, entering, entering, List.foldl_append]
    cases transport <;> rfl

/-- Ports that the systems grant come on top of those that have been granted before. -/
theorem allocFrom (chance : Chance) {systems : List (Socket → BindAnswer)} {bound : List UInt16} {now : Endpoint}
    (granting : Granting e ip count transport draws (bound, now))
    (asked : ∀ system ∈ systems, ∀ socket port, socket.port ≠ 0 → system socket = .bound port → port = socket.port) :
    Granting e ip count transport (draws + systems.length) (allocFrom chance ip count transport systems bound now) := by
  induction systems generalizing draws bound now with
  | nil => exact granting
  | cons system systems ih =>
    rw [List.forall_mem_cons] at asked
    rw [List.length_cons, Nat.add_comm systems.length, ← Nat.add_assoc]
    rcases allocFrom_cases chance ip count transport system systems bound now with
      same | same | ⟨room, free, port, table, answer, inserted, _, same⟩ <;> rw [same]
    · exact granting.mono (by omega)
    · exact ih granting.redrawn asked.2
    · obtain rfl := asked.1 _ _ (chance.port_ne_zero _) answer
      rw [PortTable.insert_eq_enter inserted]
      exact ih (granting.grants room (chance.port_ephemeral _) free) asked.2

end Granting

theorem withTable_table (e : Endpoint) (transport : Transport) : e.withTable transport (e.table transport) = e := by
  cases transport <;> rfl

theorem withTable_withTable (e : Endpoint) (transport : Transport) (table other : PortTable Unit) :
    (e.withTable transport table).withTable transport other = e.withTable transport other := by
  cases transport <;> rfl

/-- Whether every table holds what one map does. -/
def Mapped (e : Endpoint) : Prop := ∀ transport, ∃ map, (e.table transport).Refines map

namespace Mapped

theorem bijective (mapped : e.Mapped) (transport : Transport) : (e.table transport).Bijective :=
  (mapped transport).elim fun _ refines => refines.bijective

theorem with_table (mapped : e.Mapped) (transport : Transport) {table : PortTable Unit} {map : PortMap Unit}
    (refines : table.Refines map) : (e.withTable transport table).Mapped := by
  intro other
  by_cases same : other = transport
  · rw [same, table_withTable]
    exact ⟨map, refines⟩
  · rw [table_withTable_of_ne same]
    exact mapped other

theorem of_tables {other : Endpoint} (mapped : e.Mapped) (same : ∀ transport, other.table transport = e.table transport) :
    other.Mapped := by
  intro transport
  rw [same]
  exact mapped transport

theorem tryBind {bound : Endpoint} {socket : Socket} {answer : BindAnswer} {port : UInt16} (mapped : e.Mapped)
    (success : e.tryBind socket transport answer = .ok (port, bound)) : bound.Mapped := by
  rcases tryBind_cases success with rfl | ⟨_, ⟨table, inserted, rfl⟩, _⟩
  · exact mapped
  · obtain ⟨map, refines⟩ := mapped transport
    rcases refines.insert ⟨socket.ip, port⟩ () with ⟨_, refused⟩ | ⟨_, grown, success, later⟩
    · cases inserted.symm.trans refused
    · cases inserted.symm.trans success
      exact mapped.with_table transport later

theorem without (mapped : e.Mapped) (transport : Transport) (port : UInt16) :
    (e.withTable transport ((e.table transport).without [port])).Mapped := by
  obtain ⟨map, refines⟩ := mapped transport
  rw [← (refines.bijective.remove_eq port).2]
  exact mapped.with_table transport (refines.remove port).2

end Mapped

theorem releaseOne_eq (bijective : (e.table transport).Bijective) (closed : List UInt16) (port : UInt16) :
    releaseOne transport (closed, e) port =
      (if (e.table transport).contains port = true then closed ++ [port] else closed,
        e.withTable transport ((e.table transport).without [port])) := by
  obtain ⟨there, left⟩ := bijective.remove_eq port
  unfold releaseOne
  split
  · rename_i taken
    rw [taken] at there left
    rw [← there, ← left]
    rfl
  · rename_i missing
    rw [missing] at there
    have absent : (e.table transport).contains port = false := there.symm
    rw [absent, bijective.without_eq_self fun other member => by rwa [List.mem_singleton.mp member], withTable_table]
    rfl

theorem foldl_releaseOne (transport : Transport) (closing closed : List UInt16) (mapped : e.Mapped) :
    ∃ fresh, closing.foldl (releaseOne transport) (closed, e) =
        (closed ++ fresh, e.withTable transport ((e.table transport).without closing)) ∧
      fresh.Sublist closing ∧ fresh.Nodup ∧
      ∀ port, port ∈ fresh ↔ port ∈ closing ∧ (e.table transport).contains port = true := by
  induction closing generalizing closed e with
  | nil =>
    refine ⟨[], ?_, List.Sublist.refl [], List.nodup_nil, by simp⟩
    rw [(mapped.bijective transport).without_nil, withTable_table, List.append_nil]
    rfl
  | cons first closing ih =>
    obtain ⟨fresh, run, sublist, nodup, mem⟩ := ih
      (if (e.table transport).contains first = true then closed ++ [first] else closed) (mapped.without transport first)
    rw [table_withTable, PortTable.without_without, withTable_withTable] at run
    simp only [table_withTable, PortTable.contains_without, List.mem_singleton] at mem
    rw [List.foldl_cons, releaseOne_eq (mapped.bijective transport), run]
    by_cases there : (e.table transport).contains first = true
    · refine ⟨first :: fresh, ?_, sublist.cons_cons first, List.nodup_cons.mpr ⟨fun again => ?_, nodup⟩, fun port => ?_⟩
      · rw [if_pos there, List.append_assoc]
        rfl
      · exact ((mem first).mp again).2.2 rfl
      · rw [List.mem_cons, mem, List.mem_cons]
        by_cases same : port = first
        · simp [same, there]
        · simp [same]
    · refine ⟨fresh, by rw [if_neg there]; rfl, sublist.cons first, nodup, fun port => ?_⟩
      rw [mem, List.mem_cons]
      by_cases same : port = first
      · simp [same, there]
      · simp [same]

theorem pairwise_lt {ports : List UInt16} (sorted : ports.Pairwise (· ≤ ·)) (nodup : ports.Nodup) : ports.Pairwise (· < ·) :=
  (sorted.and nodup).imp fun both => UInt16.lt_of_le_of_ne both.1 both.2

/-- Releasing gives back, in ascending order, the ports that are there, and takes these away and nothing else. -/
theorem Mapped.release (mapped : e.Mapped) (ports : List UInt16) (transport : Transport) :
    (e.release ports transport).2 = e.withTable transport ((e.table transport).without ports) ∧
      (e.release ports transport).1.Pairwise (· < ·) ∧
      ∀ port, port ∈ (e.release ports transport).1 ↔ port ∈ ports ∧ (e.table transport).contains port = true := by
  obtain ⟨fresh, run, sublist, nodup, mem⟩ := foldl_releaseOne transport (ports.mergeSort (· ≤ ·)) [] mapped
  rw [release_eq, run, PortTable.without_congr _ fun _ => List.mem_mergeSort]
  refine ⟨rfl, pairwise_lt ((PortTable.pairwise_sorted ports).sublist sublist) nodup, fun port => ?_⟩
  rw [List.nil_append, mem, List.mem_mergeSort]

/-- What has been allocated can be taken away again, whatever the systems have answered: it was not there before. -/
theorem Mapped.allocFrom_without (mapped : e.Mapped) (chance : Chance) (ip : Ip) (count : Nat)
    (systems : List (Socket → BindAnswer)) {bound : List UInt16} {table : PortTable Unit} (few : bound.length ≤ count)
    (rest : (e.table transport).without bound = table) (bijective : table.Bijective) :
    (allocFrom chance ip count transport systems bound e).1.length ≤ count ∧
      ((allocFrom chance ip count transport systems bound e).2.table transport).without
        (allocFrom chance ip count transport systems bound e).1 = table := by
  induction systems generalizing bound e with
  | nil => exact ⟨few, rest⟩
  | cons system systems ih =>
    have redrawn : e.redrawn.Mapped := mapped.of_tables e.table_redrawn
    rcases allocFrom_cases chance ip count transport system systems bound e with
      same | same | ⟨room, _, port, grown, _, inserted, success, same⟩ <;> rw [same]
    · exact ⟨few, rest⟩
    · exact ih redrawn few (by rwa [table_redrawn])
    · have absent := (PortTable.insert_contains inserted).1
      refine ih (redrawn.tryBind success) ?_ ?_
      · rw [List.length_append, List.length_singleton]
        exact room
      · rw [table_withTable, PortTable.insert_eq_enter inserted, PortTable.without_enter _ (by simp), ← PortTable.without_without,
          rest]
        refine bijective.without_eq_self fun other member => ?_
        rw [List.mem_singleton.mp member, ← rest, Bool.eq_false_iff]
        intro there
        exact Bool.false_ne_true (absent.symm.trans ((PortTable.contains_without ..).mp there).1)

theorem Mapped.alloc_without (mapped : e.Mapped) (chance : Chance) (system : Socket → BindAnswer) (ip : Ip) (count : Nat)
    (transport : Transport) : (e.alloc chance system ip count transport).1.length ≤ count ∧
      ((e.alloc chance system ip count transport).2.table transport).without (e.alloc chance system ip count transport).1 =
        e.table transport := by
  have bijective := mapped.bijective transport
  obtain ⟨few, rest⟩ := mapped.allocFrom_without chance ip count (List.replicate (count * 8) system)
    (show ([] : List UInt16).length ≤ count from Nat.zero_le _) bijective.without_nil bijective
  refine ⟨?_, ?_⟩
  · rw [alloc, allocEach, List.length_mergeSort]
    exact few
  · rw [alloc, allocEach, PortTable.without_congr _ fun _ => List.mem_mergeSort]
    exact rest

/-- What can happen to an endpoint. -/
inductive Happens (e : Endpoint) : Endpoint → Prop where
  | bind (socket : Socket) (transport : Transport) (answer : BindAnswer) : Happens e (e.bind socket transport answer).2.2
  | alloc (chance : Chance) (systems : List (Socket → BindAnswer)) (ip : Ip) (count : Nat) (transport : Transport) :
      Happens e (e.allocEach chance systems ip count transport).2
  | release (ports : List UInt16) (transport : Transport) : Happens e (e.release ports transport).2
  | lose (transport : Transport) (port : UInt16) (kind : IoKind) : Happens e (e.socketLost transport port kind).2
  | send (outside : Outside) (message : Message) : Happens e (e.send outside message).2
  | attach (transport : Transport) (remote : Socket) : Happens e (e.attach transport remote).2
  | endStream (transport : Transport) (remote : Socket) (stream : Nat) : Happens e (e.streamEnded transport remote stream).2
  /-- The tasks that read and write count bytes. -/
  | count (traffic : Traffic) : Happens e (e.metered traffic)

inductive Reached : Endpoint → Prop where
  | start (config : EndpointConfig) : Reached { config }
  | step {e next : Endpoint} (before : Reached e) (happens : Happens e next) : Reached next

theorem send_table (e : Endpoint) (outside : Outside) (message : Message) (transport : Transport) :
    (e.send outside message).2.table transport = e.table transport := by
  unfold send
  split
  · rfl
  · split
    · split
      · rfl
      · split
        · cases transport <;> rfl
        · rfl
    · split
      · cases transport <;> rfl
      · split
        · rfl
        · rfl
        · cases transport <;> rfl

namespace Mapped

theorem allocEach (mapped : e.Mapped) (chance : Chance) (systems : List (Socket → BindAnswer)) (ip : Ip) (count : Nat)
    (transport : Transport) : (e.allocEach chance systems ip count transport).2.Mapped :=
  allocFrom_induct Mapped (fun e mapped => mapped.of_tables e.table_redrawn)
    (fun _ _ _ _ _ _ mapped success => mapped.tryBind success) count [] mapped

theorem alloc (mapped : e.Mapped) (chance : Chance) (system : Socket → BindAnswer) (ip : Ip) (count : Nat) (transport : Transport) :
    (e.alloc chance system ip count transport).2.Mapped :=
  mapped.allocEach chance _ ip count transport

theorem bind (mapped : e.Mapped) (socket : Socket) (transport : Transport) (answer : BindAnswer) :
    (e.bind socket transport answer).2.2.Mapped := by
  unfold Endpoint.bind
  split
  · rename_i success
    exact mapped.tryBind success
  · exact mapped

theorem released (mapped : e.Mapped) (ports : List UInt16) (transport : Transport) : (e.release ports transport).2.Mapped :=
  release_induct Mapped (fun _ closed port mapped => by
    rw [releaseOne_eq (mapped.bijective transport)]
    exact mapped.without transport port) mapped ports

theorem happens {next : Endpoint} (mapped : e.Mapped) (happens : Happens e next) : next.Mapped := by
  cases happens with
  | bind socket transport answer => exact mapped.bind socket transport answer
  | alloc chance systems ip count transport => exact mapped.allocEach chance systems ip count transport
  | release ports transport => exact mapped.released ports transport
  | lose transport port kind => exact mapped.released [port] transport
  | send outside message => exact mapped.of_tables (send_table e outside message)
  | attach transport remote => exact mapped.of_tables fun other => by cases other <;> rfl
  | endStream transport remote stream =>
    refine mapped.of_tables fun other => ?_
    unfold streamEnded
    split
    · cases other <;> rfl
    · rfl
  | count traffic => exact mapped.of_tables fun other => by cases other <;> rfl

end Mapped

theorem Reached.mapped (reached : Reached e) : e.Mapped := by
  induction reached with
  | start config => exact fun transport => ⟨.empty, by cases transport <;> exact PortTable.refines_empty⟩
  | step before happens ih => exact ih.happens happens

theorem Granting.ascending {draws : Nat} {state : List UInt16 × Endpoint} (granting : Granting e ip count transport draws state) :
    (state.1.mergeSort (· ≤ ·)).Pairwise (· < ·) :=
  pairwise_lt (PortTable.pairwise_sorted _) ((List.mergeSort_perm _ _).nodup_iff.mpr granting.nodup)

/-- Releasing what has been granted leaves nothing of it. -/
theorem Granting.released {draws : Nat} {state : List UInt16 × Endpoint} (granting : Granting e ip count transport draws state)
    (mapped : e.Mapped) (later : state.2.Mapped) :
    state.2.release (state.1.mergeSort (· ≤ ·)) transport = (state.1.mergeSort (· ≤ ·), e.drawnTo state.2.drawn) := by
  obtain ⟨left, ascending, mem⟩ := later.release (state.1.mergeSort (· ≤ ·)) transport
  have closed : (state.2.release (state.1.mergeSort (· ≤ ·)) transport).1 = state.1.mergeSort (· ≤ ·) := by
    refine List.Perm.eq_of_pairwise (fun _ _ _ _ below above => absurd below (UInt16.lt_asymm above)) ascending granting.ascending ?_
    refine (List.perm_ext_iff_of_nodup (ascending.imp UInt16.ne_of_lt) (granting.ascending.imp UInt16.ne_of_lt)).mpr fun port => ?_
    rw [mem, and_iff_left_iff_imp, List.mem_mergeSort]
    intro member
    rw [PortTable.contains_eq_isSome, granting.socket?, if_pos ⟨rfl, member⟩, Option.isSome_some]
  have absent : ∀ port ∈ state.1.mergeSort (· ≤ ·), (e.table transport).contains port = false := fun port member =>
    contains_of_not_isHeld (granting.fresh port (List.mem_mergeSort.mp member)).2 transport
  obtain ⟨drawn, _, _, rest⟩ := granting.rest
  refine Prod.ext closed (left.trans ?_)
  rw [rest, table_drawnTo, table_withTable, entering_without _ _ fun _ member => List.mem_mergeSort.mpr member,
    (mapped.bijective transport).without_eq_self absent]
  cases transport <;> rfl

/-- Whatever has happened to an endpoint and whichever draws the system refuses, an allocation gives at most as many ports
as are asked for, all of them ephemeral and held for no transport before, and enters these in the table of the one transport.
Releasing ports gives back those that are there and takes them away. Either way nothing else changes but the number of draws,
which are at most eight for each port, so that releasing what has been allocated is as if nothing had been. `alloc` is
`allocEach` with one and the same system for every draw. -/
theorem Reached.alloc_release (reached : Reached e) (chance : Chance) (systems : List (Socket → BindAnswer)) (ip : Ip) (count : Nat)
    (transport : Transport) (each : systems.length = count * 8)
    (asked : ∀ system ∈ systems, ∀ socket port, socket.port ≠ 0 → system socket = .bound port → port = socket.port) :
    (∃ ports table drawn, e.allocEach chance systems ip count transport = (ports, (e.withTable transport table).drawnTo drawn) ∧
      ports.length ≤ count ∧ ports.Pairwise (· < ·) ∧
      (∀ port ∈ ports, 50000 ≤ port.toNat ∧ port.toNat ≤ 65535 ∧ ∀ other, (e.table other).contains port = false) ∧
      (∀ port, table.socket? port = if port ∈ ports then some ⟨ip, port⟩ else (e.table transport).socket? port) ∧
      table.Bijective ∧ e.drawn ≤ drawn ∧ drawn ≤ e.drawn + 8 * count ∧
      ((e.withTable transport table).drawnTo drawn).release ports transport = (ports, e.drawnTo drawn)) ∧
    ∀ ports transport, ∃ closed,
      e.release ports transport = (closed, e.withTable transport ((e.table transport).without ports)) ∧
      closed.Pairwise (· < ·) ∧ ∀ port, port ∈ closed ↔ port ∈ ports ∧ (e.table transport).contains port = true := by
  have mapped := reached.mapped
  constructor
  · have granting := (granting_start e ip count transport).allocFrom chance asked
    have later := mapped.allocEach chance systems ip count transport
    have released := granting.released mapped later
    unfold allocEach at later ⊢
    generalize allocFrom chance ip count transport systems [] e = state at granting later released
    obtain ⟨drawn, least, most, rest⟩ := granting.rest
    refine ⟨state.1.mergeSort (· ≤ ·), entering ip (e.table transport) state.1, drawn, by rw [← rest], ?_, granting.ascending, ?_, ?_,
      ?_, least, by omega, ?_⟩
    · rw [List.length_mergeSort]
      exact granting.few
    · intro port member
      obtain ⟨high, free⟩ := granting.fresh port (List.mem_mergeSort.mp member)
      exact ⟨UInt16.le_iff_toNat_le.mp high, Nat.le_of_lt_succ port.toNat_lt, contains_of_not_isHeld free⟩
    · intro port
      simp only [List.mem_mergeSort]
      exact socket?_entering ip (e.table transport) state.1 port
    · have bijective := later.bijective transport
      change (state.2.table transport).Bijective at bijective
      rwa [rest, table_drawnTo, table_withTable] at bijective
    · have last : state.2.drawn = drawn := congrArg Endpoint.drawn rest
      rw [← rest, released, last]
  · intro ports transport
    obtain ⟨left, ascending, mem⟩ := mapped.release ports transport
    exact ⟨(e.release ports transport).1, Prod.ext rfl left, ascending, mem⟩

/-- A port that the system refuses at the first draw and grants at the second is given, and can be given back. -/
theorem alloc_release_second_draw :
    let ip : Ip := .v4 .loopback
    let e : Endpoint := (({ config := {} } : Endpoint).bind ⟨ip, 4000⟩ .udp (.bound 4000)).2.2
    let grants : Socket → BindAnswer := fun socket => .bound socket.port
    let given := e.allocEach (.counting 0) ((fun _ => .inUse) :: List.replicate 7 grants) ip 1 .tcp
    given.1 = [50000] ∧ given.2.drawn = 2 ∧ given.2.release [50000] .tcp = ([50000], e.drawnTo 2) ∧
      (e.release [4000, 50000] .udp).1 = [4000] := by
  intro ip e grants given
  have reached : e.Reached := .step (.start {}) (.bind ⟨ip, 4000⟩ .udp (.bound 4000))
  have asked : ∀ system ∈ (fun _ => .inUse) :: List.replicate 7 grants, ∀ socket port, socket.port ≠ 0 →
      system socket = .bound port → port = socket.port := by
    intro system member socket port _ answer
    rcases List.mem_cons.mp member with rfl | later
    · cases answer
    · rw [(List.mem_replicate.mp later).2] at answer
      exact (BindAnswer.bound.inj answer).symm
  obtain ⟨⟨ports, table, drawn, run, _, _, _, _, _, _, _, back⟩, -⟩ :=
    reached.alloc_release (.counting 0) _ ip 1 .tcp rfl asked
  have first : given.1 = [50000] := by decide +kernel
  have twice : given.2.drawn = 2 := by decide +kernel
  have after : given = (ports, (e.withTable .tcp table).drawnTo drawn) := run
  rw [after] at first twice
  change ports = [50000] at first
  change drawn = 2 at twice
  subst first twice
  refine ⟨by rw [after], by rw [after]; rfl, by rw [after]; exact back, ?_⟩
  rw [release, List.mergeSort_of_pairwise (by decide)]
  decide +kernel

end Endpoint

end NatTraversal
