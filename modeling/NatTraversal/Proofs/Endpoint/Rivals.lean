import NatTraversal.Proofs.Chance
import NatTraversal.Proofs.Endpoint.Binding
import NatTraversal.Simulation.Machine

namespace NatTraversal

namespace PortTable

variable {χ : Type}

theorem socket?_insert {table grown : PortTable χ} {socket : Socket} {channel : χ} (success : table.insert socket channel = .ok grown)
    (port : UInt16) : grown.socket? port = if port = socket.port then some socket else table.socket? port := by
  unfold insert at success
  split at success
  · cases success
  · cases success
    exact Table.get?_insert ..

theorem socket?_remove (table : PortTable χ) (port other : UInt16) :
    (table.remove port).2.socket? other = if other = port then none else table.socket? other := by
  unfold remove
  cases bound : table.socket? port with
  | none =>
    by_cases same : other = port
    · rw [if_pos same, same]
      exact bound
    · rw [if_neg same]
  | some socket => exact Table.get?_erase ..

end PortTable

theorem Simulation.Machine.freePort?_not_mem {used : List Socket} {ip : Ip} {chosen : Nat} {port : UInt16}
    (found : freePort? used ip chosen = some port) : (⟨ip, port⟩ : Socket) ∉ used := by
  intro taken
  have free := List.find?_some found
  rw [Bool.not_eq_true', List.any_eq_false] at free
  exact free ⟨ip, port⟩ taken (by simp [clash])

namespace Endpoint

theorem table_withTable_of_ne {transport other : Transport} (apart : other ≠ transport) (e : Endpoint) (table : PortTable Unit) :
    (e.withTable transport table).table other = e.table other := by
  cases transport <;> cases other <;> first | rfl | exact absurd rfl apart

theorem rival?_ne {transport rival : Transport} (rivals : rival? transport = some rival) : rival ≠ transport := by
  rintro rfl
  cases rival <;> cases rivals

theorem rival?_symm {transport rival : Transport} (rivals : rival? transport = some rival) : rival? rival = some transport := by
  cases transport <;> cases rivals <;> rfl

/-- A request is met without a change, or with a socket at the port that the system answers with. A port that is named is
not bound for the rival then. -/
theorem tryBind_cases {e bound : Endpoint} {socket : Socket} {transport : Transport} {answer : BindAnswer} {port : UInt16}
    (success : e.tryBind socket transport answer = .ok (port, bound)) :
    bound = e ∨ answer = .bound port ∧
      (∃ table, (e.table transport).insert ⟨socket.ip, port⟩ () = .ok table ∧ bound = e.withTable transport table) ∧
      (socket.port ≠ 0 → ∀ rival, rival? transport = some rival → (e.table rival).contains socket.port = false) := by
  unfold tryBind at success
  split at success
  · cases success
    exact .inl rfl
  · split at success
    · cases success
    · rename_i unopposed
      split at success
      · cases success
      · cases success
      · split at success
        · rename_i table inserted
          cases success
          refine .inr ⟨rfl, ⟨table, inserted, rfl⟩, ?_⟩
          intro named rival rivals
          simpa [rivals, Option.filter_some, named] using unopposed
        · cases success

/-- Whatever holds on of every socket that is bound, and however many ports are drawn, holds on of an allocation. -/
theorem allocFrom_induct (holds : Endpoint → Prop) {chance : Chance} {ip : Ip} {transport : Transport}
    {systems : List (Socket → BindAnswer)} (draws : ∀ e, holds e → holds e.redrawn)
    (binds : ∀ e bound n port, ∀ system ∈ systems, holds e →
      e.tryBind ⟨ip, chance.port n⟩ transport (system ⟨ip, chance.port n⟩) = .ok (port, bound) → holds bound)
    (count : Nat) (bound : List UInt16) {e : Endpoint} (start : holds e) :
    holds (allocFrom chance ip count transport systems bound e).2 := by
  induction systems generalizing bound e with
  | nil => exact start
  | cons system systems ih =>
    have later := fun bound {e} => ih (fun e bound n port other member => binds e bound n port other (List.mem_cons_of_mem _ member))
      bound (e := e)
    rcases allocFrom_cases chance ip count transport system systems bound e with
      same | same | ⟨_, _, port, table, _, _, success, same⟩ <;> rw [same]
    · exact start
    · exact later bound (draws e start)
    · exact later _ (binds _ _ e.drawn port system List.mem_cons_self (draws e start) success)

theorem alloc_induct (holds : Endpoint → Prop) {chance : Chance} {system : Socket → BindAnswer} {ip : Ip} {transport : Transport}
    (draws : ∀ e, holds e → holds e.redrawn)
    (binds : ∀ e bound n port, holds e → e.tryBind ⟨ip, chance.port n⟩ transport (system ⟨ip, chance.port n⟩) = .ok (port, bound) →
      holds bound)
    (count : Nat) {e : Endpoint} (start : holds e) : holds (e.alloc chance system ip count transport).2 := by
  refine allocFrom_induct holds draws (fun e bound n port same member before success => ?_) count [] start
  rw [(List.mem_replicate.mp member).2] at success
  exact binds e bound n port before success

/-- Whether the tables are in order and no socket is bound for two rivals. -/
structure Orderly (e : Endpoint) : Prop where
  sound : ∀ transport, (e.table transport).Sound
  apart : ∀ transport rival port one other, rival? transport = some rival → (e.table transport).socket? port = some one →
    (e.table rival).socket? port = some other → one ≠ other

/-- What may be relied on in the answers of a system: a port that is named is the one that is bound, and a port that it
chooses is free on the address. -/
structure Faithful (e : Endpoint) (system : Transport → Socket → BindAnswer) : Prop where
  named : ∀ transport socket port, socket.port ≠ 0 → system transport socket = .bound port → port = socket.port
  chosen : ∀ transport rival socket port, rival? transport = some rival → socket.port = 0 →
    system transport socket = .bound port → (e.table rival).socket? port ≠ some ⟨socket.ip, port⟩

section

variable {e bound : Endpoint} {system : Transport → Socket → BindAnswer} {socket : Socket} {transport : Transport} {port : UInt16}

theorem Orderly.mem_sockets (orderly : e.Orderly) (bound : (e.table transport).socket? port = some socket) :
    socket ∈ e.sockets transport := by
  have held := (orderly.sound transport).connected port socket bound
  obtain ⟨channel, found⟩ := Option.isSome_iff_exists.mp ((Table.contains_eq_isSome ..).symm.trans held)
  exact List.mem_map.mpr ⟨(socket, channel), Table.get?_eq_some_iff.mp found, rfl⟩

/-- The machine of the simulation is such a system, whatever else is bound on it. -/
theorem Orderly.faithful_machine (orderly : e.Orderly) (machine : Simulation.Machine) : Faithful e (machine.holding e).bind where
  named transport socket port named answer := by
    unfold Simulation.Machine.bind at answer
    rw [if_neg named] at answer
    generalize (if transport = .tcp then _ else _) = used at answer
    split at answer
    · cases answer
    · exact (BindAnswer.bound.inj answer).symm
  chosen transport rival socket port rivals choice answer there := by
    have held := orderly.mem_sockets there
    unfold Simulation.Machine.bind at answer
    rw [if_pos choice] at answer
    cases free : Simulation.Machine.freePort? (if transport = .tcp then (machine.holding e).stream else (machine.holding e).datagram)
        socket.ip (machine.holding e).chosen with
    | none => simp [free] at answer
    | some found =>
      simp only [free, Option.map_some, Option.getD_some, BindAnswer.bound.injEq] at answer
      subst answer
      -- Datagrams of both rivals go through one list of sockets.
      refine Simulation.Machine.freePort?_not_mem free ?_
      cases transport with
      | tcp => cases rivals
      | udp =>
        cases rivals
        exact List.mem_append_right _ held
      | udt =>
        cases rivals
        exact List.mem_append_left _ (List.mem_append_right _ held)

theorem orderly_with_table (orderly : e.Orderly) {table : PortTable Unit} (sound : table.Sound)
    (apart : ∀ rival port one other, rival? transport = some rival → table.socket? port = some one →
      (e.table rival).socket? port = some other → one ≠ other) : (e.withTable transport table).Orderly where
  sound other := by
    by_cases same : other = transport
    · rw [same, table_withTable]
      exact sound
    · rw [table_withTable_of_ne same]
      exact orderly.sound other
  apart one rival port first second rivals here there := by
    by_cases same : one = transport
    · subst same
      rw [table_withTable] at here
      rw [table_withTable_of_ne (rival?_ne rivals)] at there
      exact apart rival port first second rivals here there
    · rw [table_withTable_of_ne same] at here
      by_cases against : rival = transport
      · subst against
        rw [table_withTable] at there
        exact (apart one port second first (rival?_symm rivals) there here).symm
      · rw [table_withTable_of_ne against] at there
        exact orderly.apart one rival port first second rivals here there

theorem tryBind_orderly (orderly : e.Orderly)
    (named : ∀ port, socket.port ≠ 0 → system transport socket = .bound port → port = socket.port)
    (chosen : ∀ rival port, rival? transport = some rival → socket.port = 0 → system transport socket = .bound port →
      (e.table rival).socket? port ≠ some ⟨socket.ip, port⟩)
    (success : e.tryBind socket transport (system transport socket) = .ok (port, bound)) : bound.Orderly := by
  rcases tryBind_cases success with rfl | ⟨answer, ⟨table, inserted, rfl⟩, unopposed⟩
  · exact orderly
  · refine orderly_with_table orderly ((PortTable.insert_contains inserted).2.2 (orderly.sound transport)) ?_
    intro rival place one other rivals here there
    rw [PortTable.socket?_insert inserted] at here
    split at here
    · rename_i same
      cases here
      subst same
      by_cases choice : socket.port = 0
      · rintro rfl
        exact chosen rival place rivals choice answer there
      · have free := unopposed choice rival rivals
        rw [named place choice answer] at there
        rw [PortTable.contains_eq_isSome, there] at free
        cases free
    · exact orderly.apart transport rival place one other rivals here there

/-- A port that is asked to be released is taken out of its table, or nothing happens. -/
theorem releaseOne_cases (e : Endpoint) (transport : Transport) (closed : List UInt16) (port : UInt16) :
    (releaseOne transport (closed, e) port).2 = e ∨
      (releaseOne transport (closed, e) port).2 = e.withTable transport ((e.table transport).remove port).2 := by
  unfold releaseOne
  split
  · rename_i taken
    rw [taken]
    exact .inr rfl
  · exact .inl rfl

theorem releaseOne_orderly (orderly : e.Orderly) (transport : Transport) (closed : List UInt16) (port : UInt16) :
    (releaseOne transport (closed, e) port).2.Orderly := by
  rcases releaseOne_cases e transport closed port with same | removed
  · rwa [same]
  · rw [removed]
    refine orderly_with_table orderly (PortTable.remove_contains (orderly.sound transport) port).2.1 ?_
    intro rival place one other rivals here there
    rw [PortTable.socket?_remove] at here
    split at here
    · cases here
    · exact orderly.apart transport rival place one other rivals here there

/-- Whatever holds on when one port is released holds on when several are. -/
theorem release_induct (holds : Endpoint → Prop) (one : ∀ e closed port, holds e → holds (releaseOne transport (closed, e) port).2)
    (start : holds e) (ports : List UInt16) : holds (e.release ports transport).2 := by
  rw [release_eq]
  generalize ports.mergeSort (· ≤ ·) = closing
  generalize ([] : List UInt16) = closed
  induction closing generalizing closed e with
  | nil => exact start
  | cons port closing ih => exact ih (one e closed port start) _

theorem redrawn_orderly (orderly : e.Orderly) : e.redrawn.Orderly where
  sound transport := by
    rw [table_redrawn]
    exact orderly.sound transport
  apart transport rival port one other rivals := by
    rw [table_redrawn, table_redrawn]
    exact orderly.apart transport rival port one other rivals

theorem alloc_orderly (orderly : e.Orderly) (faithful : Faithful e system) (chance : Chance) (ip : Ip) (count : Nat)
    (transport : Transport) : (e.alloc chance (system transport) ip count transport).2.Orderly := by
  refine alloc_induct Orderly (fun _ orderly => redrawn_orderly orderly) ?_ count orderly
  intro e bound n port orderly success
  exact tryBind_orderly orderly (fun port named => faithful.named transport _ port named)
    (fun _ _ _ zero => absurd zero (chance.port_ne_zero n)) success

end

/-- What an endpoint is asked to do with its sockets. -/
inductive SocketRequest where
  | bind (socket : Socket) (transport : Transport)
  | alloc (ip : Ip) (count : Nat) (transport : Transport)
  | release (ports : List UInt16) (transport : Transport)

/-- The address that a request is about. -/
def SocketRequest.ip? : SocketRequest → Option Ip
  | bind socket _ => some socket.ip
  | alloc ip _ _ => some ip
  | release _ _ => none

def perform (chance : Chance) (system : Transport → Socket → BindAnswer) (e : Endpoint) : SocketRequest → Endpoint
  | .bind socket transport => (e.bind socket transport (system transport socket)).2.2
  | .alloc ip count transport => (e.alloc chance (system transport) ip count transport).2
  | .release ports transport => (e.release ports transport).2

/-- Requests one after the other, each with the system as it is then. -/
inductive SocketRun (chance : Chance) : List SocketRequest → Endpoint → Prop where
  | start (config : EndpointConfig) : SocketRun chance [] { config }
  | step {requests : List SocketRequest} {e : Endpoint} {system : Transport → Socket → BindAnswer}
    (before : SocketRun chance requests e) (faithful : Faithful e system) (request : SocketRequest) :
    SocketRun chance (requests ++ [request]) (perform chance system e request)

/-- A request that is not met changes nothing. -/
theorem bind_of_failed (e : Endpoint) (socket : Socket) (transport : Transport) (answer : BindAnswer)
    (failed : (e.bind socket transport answer).1.1 ≠ .success) : (e.bind socket transport answer).2.2 = e := by
  unfold bind at failed ⊢
  split
  · rename_i success
    rw [success] at failed
    exact absurd rfl failed
  · rfl

section

variable {e : Endpoint} {system : Transport → Socket → BindAnswer} {chance : Chance} {requests : List SocketRequest}

theorem perform_orderly (orderly : e.Orderly) (faithful : Faithful e system) (chance : Chance) (request : SocketRequest) :
    (perform chance system e request).Orderly := by
  cases request with
  | bind socket transport =>
    change (e.bind socket transport (system transport socket)).2.2.Orderly
    unfold bind
    split
    · rename_i success
      exact tryBind_orderly orderly (fun port named => faithful.named transport socket port named)
        (fun rival port rivals => faithful.chosen transport rival socket port rivals) success
    · exact orderly
  | alloc ip count transport => exact alloc_orderly orderly faithful chance ip count transport
  | release ports transport =>
    exact release_induct Orderly (fun _ closed port orderly => releaseOne_orderly orderly transport closed port) orderly ports

theorem orderly_of_config (config : EndpointConfig) : ({ config } : Endpoint).Orderly where
  sound transport := by cases transport <;> exact PortTable.sound_empty
  apart transport rival port one other rivals here := by
    cases transport <;> cases here

/-- Whether all sockets are bound on one address. -/
def Within (ip : Ip) (e : Endpoint) : Prop :=
  ∀ transport port socket, (e.table transport).socket? port = some socket → socket.ip = ip

theorem within_with_table {ip : Ip} (within : e.Within ip) (transport : Transport) {table : PortTable Unit}
    (inside : ∀ port socket, table.socket? port = some socket → socket.ip = ip) : (e.withTable transport table).Within ip := by
  intro other place socket found
  by_cases same : other = transport
  · subst same
    rw [table_withTable] at found
    exact inside place socket found
  · rw [table_withTable_of_ne same] at found
    exact within other place socket found

theorem tryBind_within {bound : Endpoint} {ip : Ip} {named port : UInt16} {transport : Transport} {answer : BindAnswer}
    (within : e.Within ip) (success : e.tryBind ⟨ip, named⟩ transport answer = .ok (port, bound)) : bound.Within ip := by
  rcases tryBind_cases success with rfl | ⟨_, ⟨table, inserted, rfl⟩, _⟩
  · exact within
  · refine within_with_table within transport fun place socket found => ?_
    rw [PortTable.socket?_insert inserted] at found
    split at found
    · cases found
      rfl
    · exact within transport place socket found

theorem releaseOne_within {ip : Ip} (within : e.Within ip) (transport : Transport) (closed : List UInt16) (port : UInt16) :
    (releaseOne transport (closed, e) port).2.Within ip := by
  rcases releaseOne_cases e transport closed port with same | removed
  · rwa [same]
  · rw [removed]
    refine within_with_table within transport fun place socket found => ?_
    rw [PortTable.socket?_remove] at found
    split at found
    · cases found
    · exact within transport place socket found

theorem perform_within {ip : Ip} (within : e.Within ip) (chance : Chance) (system : Transport → Socket → BindAnswer)
    {request : SocketRequest} (about : ∀ other, request.ip? = some other → other = ip) :
    (perform chance system e request).Within ip := by
  cases request with
  | bind socket transport =>
    obtain rfl := about socket.ip rfl
    change (e.bind socket transport (system transport socket)).2.2.Within socket.ip
    unfold bind
    split
    · rename_i success
      exact tryBind_within within success
    · exact within
  | alloc other count transport =>
    obtain rfl := about other rfl
    refine alloc_induct (Within other) ?_ (fun _ _ _ _ within => tryBind_within within) count within
    intro e within transport port socket found
    rw [table_redrawn] at found
    exact within transport port socket found
  | release ports transport =>
    exact release_induct (Within ip) (fun _ closed port within => releaseOne_within within transport closed port) within ports

theorem SocketRun.orderly (run : SocketRun chance requests e) : e.Orderly := by
  induction run with
  | start config => exact orderly_of_config config
  | step before faithful request ih => exact perform_orderly ih faithful chance request

theorem SocketRun.within (run : SocketRun chance requests e) {ip : Ip}
    (about : ∀ request ∈ requests, ∀ other, request.ip? = some other → other = ip) : e.Within ip := by
  induction run with
  | start config =>
    intro transport port socket found
    cases transport <;> cases found
  | @step requests e system before faithful request ih =>
    rw [List.forall_mem_append] at about
    exact perform_within (ih about.1) chance system (about.2 request (List.mem_singleton_self _))

/-- Whatever is asked of an endpoint and however the system chooses ports, the tables stay in order, a request to bind that
fails leaves them as they are, and no socket is bound both for UDP and for UDT. As long as one address is asked for, the
two have no port in common either. -/
theorem SocketRun.sockets_apart (run : SocketRun chance requests e) :
    (∀ transport, (e.table transport).Sound) ∧
    (∀ port one other, e.udp.socket? port = some one → e.udt.socket? port = some other → one.ip ≠ other.ip) ∧
    (∀ ip, (∀ request ∈ requests, ∀ other, request.ip? = some other → other = ip) →
      ∀ port, e.udp.contains port = true → e.udt.contains port = false) ∧
    ∀ socket transport answer, (e.bind socket transport answer).1.1 ≠ .success → (e.bind socket transport answer).2.2 = e := by
  have orderly := run.orderly
  have apart : ∀ port one other, e.udp.socket? port = some one → e.udt.socket? port = some other → one.ip ≠ other.ip := by
    intro port one other here there same
    have ports : one.port = other.port :=
      ((orderly.sound .udp).filed port one here).trans ((orderly.sound .udt).filed port other there).symm
    refine orderly.apart .udp .udt port one other rfl here there ?_
    cases one
    cases other
    cases same
    cases ports
    rfl
  refine ⟨orderly.sound, apart, ?_, bind_of_failed e⟩
  intro ip about port held
  have within := run.within about
  rw [PortTable.contains_eq_isSome] at held ⊢
  obtain ⟨one, here⟩ := Option.isSome_iff_exists.mp held
  rw [Option.isSome_eq_false_iff, Option.isNone_iff_eq_none]
  cases there : e.udt.socket? port with
  | none => rfl
  | some other => exact absurd ((within .udp port one here).trans (within .udt port other there).symm) (apart port one other here there)

end

/-- On one address the machine passes over the port that is bound for UDP when it chooses one for UDT. -/
theorem sockets_apart_at_one_address :
    let machine : Simulation.Machine := {}
    let ip : Ip := .v4 (.ofOctets 127 0 0 1)
    let start : Endpoint := { config := {} }
    let first := perform (.counting 0) (machine.holding start).bind start (.bind ⟨ip, 32768⟩ .udp)
    let second := perform (.counting 0) (machine.holding first).bind first (.bind ⟨ip, 0⟩ .udt)
    second.udp.contains 32768 = true ∧ second.udt.contains 32768 = false ∧ second.udt.ports = [42775] := by
  intro machine ip start first second
  have before : SocketRun (.counting 0) [.bind ⟨ip, 32768⟩ .udp] first :=
    .step (.start {}) ((orderly_of_config {}).faithful_machine machine) (.bind ⟨ip, 32768⟩ .udp)
  have run : SocketRun (.counting 0) [.bind ⟨ip, 32768⟩ .udp, .bind ⟨ip, 0⟩ .udt] second :=
    .step before (before.orderly.faithful_machine machine) (.bind ⟨ip, 0⟩ .udt)
  have held : second.udp.contains 32768 = true := by decide +kernel
  refine ⟨held, run.sockets_apart.2.2.1 ip ?_ 32768 held, by decide +kernel⟩
  intro request member other about
  rcases List.mem_pair.mp member with rfl | rfl
  · exact (Option.some.inj about).symm
  · exact (Option.some.inj about).symm

/-- With two addresses it may choose for UDT, on one, the port that is bound for UDP on the other. -/
theorem not_always_disjoint :
    ¬ ∀ (chance : Chance) (requests : List SocketRequest) (e : Endpoint), SocketRun chance requests e →
      ∀ port, e.udp.contains port = true → e.udt.contains port = false := by
  intro always
  let machine : Simulation.Machine := {}
  let one : Ip := .v4 (.ofOctets 10 0 0 1)
  let other : Ip := .v4 (.ofOctets 10 0 0 2)
  have before : SocketRun (.counting 0) [.bind ⟨one, 32768⟩ .udp] _ :=
    .step (.start {}) ((orderly_of_config {}).faithful_machine machine) (.bind ⟨one, 32768⟩ .udp)
  have run := before.step (before.orderly.faithful_machine machine) (.bind ⟨other, 0⟩ .udt)
  have apart := always _ _ _ run 32768 (by decide +kernel)
  exact absurd apart (by decide +kernel)

end Endpoint

end NatTraversal
