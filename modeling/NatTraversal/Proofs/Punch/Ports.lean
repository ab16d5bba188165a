import NatTraversal.Node.Running
import NatTraversal.Proofs.Endpoint.Binding
import NatTraversal.Proofs.Network.Rehearsal
import NatTraversal.Proofs.Punch.Moves

namespace NatTraversal

/-- Who holds ports: a handshake, or the path that one has become. -/
inductive PortHolder where
  | handshake (key : PeerKey)
  | path (key : PeerKey)
deriving DecidableEq

/-- The port that is punched from, and the ports that are held for it alone. -/
abbrev Holding := UInt16 × List UInt16

/-- The bound ports are those of others, the main port among them, and those that are held, each of them by one. -/
structure Portioned (main : UInt16) (others bound : UInt16 → Prop) (holding : PortHolder → Option Holding) : Prop where
  bound : ∀ port, bound port ↔ others port ∨ ∃ holder held, holding holder = some held ∧ port ∈ held.2
  apart : ∀ holder held port, holding holder = some held → port ∈ held.2 → ¬ others port
  single : ∀ a b one two port, holding a = some one → holding b = some two → port ∈ one.2 → port ∈ two.2 → a = b
  used : ∀ holder held, holding holder = some held → held.1 = main ∨ held.1 ∈ held.2
  main : others main

namespace Portioned

variable {main : UInt16} {others bound after : UInt16 → Prop} {holding : PortHolder → Option Holding}

theorem bound_of_holding (portioned : Portioned main others bound holding) {holder : PortHolder} {held : Holding}
    (found : holding holder = some held) : bound held.1 := by
  rw [portioned.bound]
  rcases portioned.used holder held found with same | own
  · exact .inl (same ▸ portioned.main)
  · exact .inr ⟨holder, held, found, own⟩

theorem still (portioned : Portioned main others bound holding) (same : ∀ port, after port ↔ bound port) :
    Portioned main others after holding :=
  { portioned with bound := fun port => (same port).trans (portioned.bound port) }

/-- Ports that were free come to be held. -/
theorem take (portioned : Portioned main others bound holding) {holder : PortHolder} {held : Holding}
    (idle : holding holder = none) (free : ∀ port ∈ held.2, ¬ bound port) (used : held.1 = main ∨ held.1 ∈ held.2)
    (grown : ∀ port, after port ↔ bound port ∨ port ∈ held.2) :
    Portioned main others after (Function.update holding holder (some held)) := by
  have cases : ∀ other found, Function.update holding holder (some held) other = some found →
      other = holder ∧ found = held ∨ other ≠ holder ∧ holding other = some found := by
    intro other found known
    rw [Function.update_apply] at known
    split at known
    · rename_i same
      exact .inl ⟨same, (Option.some.inj known).symm⟩
    · rename_i ne
      exact .inr ⟨ne, known⟩
  have unheld : ∀ other found port, holding other = some found → port ∈ found.2 → port ∉ held.2 := fun other found port known member new =>
    free port new ((portioned.bound port).mpr (.inr ⟨other, found, known, member⟩))
  refine ⟨?_, ?_, ?_, ?_, portioned.main⟩
  · intro port
    rw [grown, portioned.bound, or_assoc]
    refine or_congr_right ⟨?_, ?_⟩
    · rintro (⟨other, found, known, member⟩ | new)
      · refine ⟨other, found, ?_, member⟩
        rw [Function.update_of_ne (by rintro rfl; rw [idle] at known; cases known)]
        exact known
      · exact ⟨holder, held, Function.update_self .., new⟩
    · rintro ⟨other, found, known, member⟩
      rcases cases other found known with ⟨rfl, rfl⟩ | ⟨_, known⟩
      · exact .inr member
      · exact .inl ⟨other, found, known, member⟩
  · intro other found port known member outside
    rcases cases other found known with ⟨rfl, rfl⟩ | ⟨_, known⟩
    · exact free port member ((portioned.bound port).mpr (.inl outside))
    · exact portioned.apart other found port known member outside
  · intro a b one two port first second left right
    rcases cases a one first with ⟨rfl, rfl⟩ | ⟨_, known⟩ <;> rcases cases b two second with ⟨rfl, rfl⟩ | ⟨_, also⟩
    · rfl
    · exact absurd left (unheld b two port also right)
    · exact absurd right (unheld a one port known left)
    · exact portioned.single a b one two port known also left right
  · intro other found known
    rcases cases other found known with ⟨rfl, rfl⟩ | ⟨_, known⟩
    · exact used
    · exact portioned.used other found known

/-- What a holder held is released. -/
theorem give (portioned : Portioned main others bound holding) {holder : PortHolder}
    (shrunk : ∀ port, after port ↔ bound port ∧ ∀ held, holding holder = some held → port ∉ held.2) :
    Portioned main others after (Function.update holding holder none) := by
  have kept : ∀ other found, Function.update holding holder none other = some found ↔ other ≠ holder ∧ holding other = some found := by
    intro other found
    rw [Function.update_apply]
    split
    · rename_i same
      simp [same]
    · rename_i ne
      simp [ne]
  refine ⟨?_, ?_, ?_, ?_, portioned.main⟩
  · intro port
    rw [shrunk, portioned.bound]
    constructor
    · rintro ⟨outside | ⟨other, found, known, member⟩, spared⟩
      · exact .inl outside
      · refine .inr ⟨other, found, (kept other found).mpr ⟨?_, known⟩, member⟩
        rintro rfl
        exact spared found known member
    · rintro (outside | ⟨other, found, known, member⟩)
      · exact ⟨.inl outside, fun held found member => portioned.apart holder held port found member outside⟩
      · obtain ⟨ne, known⟩ := (kept other found).mp known
        exact ⟨.inr ⟨other, found, known, member⟩, fun held own also => ne (portioned.single other holder found held port known own member also)⟩
  · intro other found port known
    exact portioned.apart other found port ((kept other found).mp known).2
  · intro a b one two port first second
    exact portioned.single a b one two port ((kept a one).mp first).2 ((kept b two).mp second).2
  · intro other found known
    exact portioned.used other found ((kept other found).mp known).2

/-- What one holder held passes to another, and what that one held before is released. -/
theorem pass (portioned : Portioned main others bound holding) {giver taker : PortHolder} {held : Holding} (ne : giver ≠ taker)
    (found : holding giver = some held)
    (shrunk : ∀ port, after port ↔ bound port ∧ ∀ old, holding taker = some old → port ∉ old.2) :
    Portioned main others after (Function.update (Function.update holding giver none) taker (some held)) := by
  -- as if the giver released its ports, and the taker found them free
  have given : Portioned main others (fun port => after port ∧ port ∉ held.2)
      (Function.update (Function.update holding taker none) giver none) := by
    refine (portioned.give shrunk).give fun port => ?_
    rw [Function.update_of_ne ne, found]
    simp
  have remains : ∀ port ∈ held.2, after port := by
    intro port member
    refine (shrunk port).mpr ⟨(portioned.bound port).mpr (.inr ⟨giver, held, found, member⟩), ?_⟩
    exact fun old known also => ne (portioned.single giver taker held old port found known member also)
  have taken : Portioned main others after
      (Function.update (Function.update (Function.update holding taker none) giver none) taker (some held)) := by
    refine given.take ?_ ?_ (portioned.used giver held found) ?_
    · rw [Function.update_of_ne ne.symm, Function.update_self]
    · exact fun port member both => both.2 member
    · intro port
      by_cases member : port ∈ held.2
      · simp [member, remains port member]
      · simp [member]
  rwa [Function.update_comm ne.symm, Function.update_idem] at taken

/-- Others bind ports that were free. -/
theorem others_bind {more : UInt16 → Prop} (portioned : Portioned main others bound holding)
    (free : ∀ port, more port → ¬ bound port) (grown : ∀ port, after port ↔ bound port ∨ more port) :
    Portioned main (fun port => others port ∨ more port) after holding where
  bound port := by
    rw [grown, portioned.bound, or_right_comm]
  apart holder held port found member := by
    rintro (outside | new)
    · exact portioned.apart holder held port found member outside
    · exact free port new ((portioned.bound port).mpr (.inr ⟨holder, held, found, member⟩))
  single := portioned.single
  used := portioned.used
  main := .inl portioned.main

/-- Others release ports that nobody holds. -/
theorem others_release {ports : List UInt16} (portioned : Portioned main others bound holding) (kept : main ∉ ports)
    (spared : ∀ holder held, holding holder = some held → ∀ port ∈ held.2, port ∉ ports)
    (shrunk : ∀ port, after port ↔ bound port ∧ port ∉ ports) :
    Portioned main (fun port => others port ∧ port ∉ ports) after holding where
  bound port := by
    rw [shrunk, portioned.bound]
    constructor
    · rintro ⟨outside | ⟨holder, held, found, member⟩, apart⟩
      · exact .inl ⟨outside, apart⟩
      · exact .inr ⟨holder, held, found, member⟩
    · rintro (⟨outside, apart⟩ | ⟨holder, held, found, member⟩)
      · exact ⟨.inl outside, apart⟩
      · exact ⟨.inr ⟨holder, held, found, member⟩, spared holder held found port member⟩
  apart holder held port found member outside := portioned.apart holder held port found member outside.1
  single := portioned.single
  used := portioned.used
  main := ⟨portioned.main, kept⟩

end Portioned

/-- Whether a port is among those that are to be released. -/
def Released (effects : List PunchEffect) (port : UInt16) : Prop := ∃ ports, .release ports ∈ effects ∧ port ∈ ports

theorem released_append {effects later : List PunchEffect} {port : UInt16} :
    Released (effects ++ later) port ↔ Released effects port ∨ Released later port := by
  simp only [Released, List.mem_append, or_and_right, exists_or]

theorem released_releasing {ports : List UInt16} {port : UInt16} : Released (Puncher.releasing ports) port ↔ port ∈ ports := by
  unfold Puncher.releasing
  split
  · rename_i none
    rw [List.isEmpty_iff.mp none]
    simp [Released]
  · simp [Released]

theorem not_released_of_forall {effects : List PunchEffect} (other : ∀ ports, .release ports ∉ effects) (port : UInt16) :
    ¬ Released effects port := by
  rintro ⟨ports, member, _⟩
  exact other ports member

namespace Puncher

def holding (p : Puncher) : PortHolder → Option Holding
  | .handshake key => (p.handshakes.get? key).map fun hs => (hs.punchPort, hs.allocated)
  | .path key => (p.paths.get? key).map fun cached => (cached.path.localPort, cached.allocated)

/-- Whether a port was granted for a handshake, and is now held by it or by the path that it has become. -/
def Holds (p : Puncher) : PortHolder → UInt16 → Prop
  | .handshake key, port => ∃ hs, p.handshakes.get? key = some hs ∧ port ∈ hs.allocated
  | .path key, port => ∃ cached, p.paths.get? key = some cached ∧ port ∈ cached.allocated

theorem holds_iff (p : Puncher) (holder : PortHolder) (port : UInt16) :
    p.Holds holder port ↔ ∃ held, p.holding holder = some held ∧ port ∈ held.2 := by
  cases holder <;> simp [Holds, holding]

/-- The ports of a puncher, where `others` are bound by others. -/
def Shares (p : Puncher) (others bound : UInt16 → Prop) : Prop := Portioned p.mainPort others bound p.holding

theorem release_not_mem_attempt (p : Puncher) (c : Surroundings) (hs : Handshake) (ports : List UInt16) :
    PunchEffect.release ports ∉ p.attempt c hs := by
  simp [attempt]

theorem release_not_mem_tidings (p : Puncher) (c : Surroundings) (key : PeerKey) (hs : Handshake) (remote : Socket)
    (ports : List UInt16) : PunchEffect.release ports ∉ p.tidings c key hs remote := by
  simp [tidings]

theorem holding_keep {p : Puncher} {key : PeerKey} {hs kept : Handshake} (found : p.handshakes.get? key = some hs)
    (port : kept.punchPort = hs.punchPort) (ports : kept.allocated = hs.allocated) : (p.keep key kept).holding = p.holding := by
  funext holder
  cases holder with
  | handshake other =>
    simp only [holding, keep, Table.get?_insert]
    split
    · rename_i same
      rw [same, found, Option.map_some, Option.map_some, port, ports]
    · rfl
  | path other => rfl

theorem holding_begun (p : Puncher) (c : Surroundings) (hs : Handshake) :
    (p.begun c hs).holding = Function.update p.holding (.handshake hs.target.key) (some (hs.punchPort, hs.allocated)) := by
  funext holder
  rw [Function.update_apply]
  cases holder with
  | handshake other =>
    simp only [holding, begun, Table.get?_insert, PortHolder.handshake.injEq]
    split <;> rfl
  | path other => rfl

theorem holding_forget (p : Puncher) (key : PeerKey) (hs : Handshake) :
    (p.forget key hs).holding = Function.update p.holding (.handshake key) none := by
  funext holder
  rw [Function.update_apply]
  cases holder with
  | handshake other =>
    simp only [holding, forget, cancel, Table.get?_erase, PortHolder.handshake.injEq]
    split <;> rfl
  | path other => rfl

theorem holding_settled (p : Puncher) (c : Surroundings) (key : PeerKey) (hs : Handshake) (remote : Socket) :
    (p.settled c key hs remote).holding =
      Function.update (Function.update p.holding (.handshake key) none) (.path key) (some (hs.punchPort, hs.allocated)) := by
  funext holder
  rw [Function.update_apply, Function.update_apply]
  cases holder with
  | handshake other =>
    simp only [holding, settled, Table.get?_erase, PortHolder.handshake.injEq, reduceCtorEq, if_false]
    split <;> rfl
  | path other =>
    simp only [holding, settled, Table.get?_insert, PortHolder.path.injEq, reduceCtorEq, if_false]
    split <;> rfl

theorem holding_erase_path (p : Puncher) (key : PeerKey) (alarms : Alarms PunchAlarm) :
    ({ p with paths := p.paths.erase key, alarms } : Puncher).holding = Function.update p.holding (.path key) none := by
  funext holder
  rw [Function.update_apply]
  cases holder with
  | handshake other => rfl
  | path other =>
    simp only [holding, Table.get?_erase, PortHolder.path.injEq]
    split <;> rfl

section

variable {c : Surroundings} {p q : Puncher} {effects : List PunchEffect} {others bound : UInt16 → Prop}

/-- Nothing passes from hand to hand, and nothing is released. -/
theorem Shares.still (shares : p.Shares others bound) (holding : q.holding = p.holding) (main : q.mainPort = p.mainPort)
    (other : ∀ ports, .release ports ∉ effects) : q.Shares others fun port => bound port ∧ ¬ Released effects port := by
  unfold Shares
  rw [holding, main]
  exact Portioned.still shares fun port => by simp [not_released_of_forall other port]

/-- A handshake is begun with ports that were free. -/
theorem Shares.begun {after : UInt16 → Prop} {hs : Handshake} (shares : p.Shares others bound)
    (idle : p.handshakes.get? hs.target.key = none) (free : ∀ port ∈ hs.allocated, ¬ bound port)
    (used : hs.punchPort = p.mainPort ∨ hs.punchPort ∈ hs.allocated)
    (grown : ∀ port, after port ↔ bound port ∨ port ∈ hs.allocated) : (p.begun c hs).Shares others after := by
  unfold Shares
  rw [holding_begun]
  refine Portioned.take shares ?_ free used grown
  simp only [Puncher.holding, idle, Option.map_none]

/-- A handshake from the main port holds no port of its own. -/
theorem Shares.begun_from_main {hs : Handshake} (shares : p.Shares others bound)
    (idle : p.handshakes.get? hs.target.key = none) (main : hs.punchPort = p.mainPort) (none : hs.allocated = []) :
    (p.begun c hs).Shares others fun port => bound port ∧ ¬ Released (p.attempt c hs) port := by
  refine shares.begun idle (by simp [none]) (.inl main) fun port => ?_
  simp [none, not_released_of_forall (release_not_mem_attempt p c hs)]

/-- A move keeps every port with who holds it, and releases what is no longer held. Ports that are granted for a
handshake are another matter. -/
theorem Move.shares {input : PunchInput} (move : Move c input p q effects) (shares : p.Shares others bound)
    (ungranted : ∀ target ports, input = .command (.connect target (.ok ports)) → ports = []) :
    q.Shares others fun port => bound port ∧ ¬ Released effects port := by
  cases move with
  | aside aside asleep =>
    have frame := aside.frame
    refine shares.still ?_ ?_ fun ports member => aside.effects _ member
    · rw [frame]
      rfl
    · rw [frame]
      rfl
  | answers given asks idle => exact shares.still rfl rfl (by simp)
  | hears given asks found aimed => exact shares.still (holding_keep found rfl rfl) rfl (by simp)
  | follows given asks found elsewhere same =>
    refine shares.still (holding_keep found (by rw [same]; rfl) (by rw [same]; rfl)) rfl ?_
    simp [attempt]
  | crosses given asks found same =>
    exact shares.still (holding_keep found (by rw [same]; rfl) (by rw [same]; rfl)) rfl (release_not_mem_attempt p c _)
  | responds given asks idle apart same =>
    subst same
    exact shares.begun_from_main idle rfl rfl
  | recalls given found => exact shares.still rfl rfl (by simp)
  | refuses given error => exact shares.still rfl rfl (by simp)
  | @calls target grant ports hs given idle apart allowed granted same =>
    subst same
    have own : p.punching target ports = (p.mainPort, []) := by
      unfold punching
      split
      · rfl
      · rename_i dependent
        rw [ungranted target ports (by rw [given, granted dependent])]
        rfl
    exact shares.begun_from_main idle (by rw [own]; rfl) (by rw [own]; rfl)
  | notes given found refused => exact shares.still (holding_keep found rfl rfl) rfl (by simp)
  | fails found own error =>
    unfold Shares
    rw [holding_forget]
    refine Portioned.give shares fun port => ?_
    simp only [released_append, released_releasing, Puncher.holding, found, Option.map_some]
    simp [Released]
  | @verifies pong remote here key hs given answer owned found =>
    unfold Shares
    rw [holding_settled]
    refine Portioned.pass shares (by simp) (by simp only [Puncher.holding, found, Option.map_some]) fun port => ?_
    rw [released_append, leftover, released_releasing, Puncher.holding]
    cases p.paths.get? key with
    | none => simp [not_released_of_forall (release_not_mem_tidings p c key hs remote)]
    | some old => simp [not_released_of_forall (release_not_mem_tidings p c key hs remote)]
  | retries given found some_left early next => exact shares.still (holding_keep found rfl rfl) rfl (release_not_mem_attempt p c _)
  | closes found asleep =>
    unfold Shares
    rw [holding_erase_path]
    refine Portioned.give shares fun port => ?_
    simp only [released_append, released_releasing, Puncher.holding, found, Option.map_some]
    simp [Released]
  | stalls frame spares stuck =>
    refine shares.still ?_ ?_ (by simp)
    · rw [frame]
      rfl
    · rw [frame]
      rfl

theorem Moves.shares {input : PunchInput} (moves : Moves c input p q effects) (shares : p.Shares others bound)
    (ungranted : ∀ target ports, input = .command (.connect target (.ok ports)) → ports = []) :
    q.Shares others fun port => bound port ∧ ¬ Released effects port := by
  induction moves with
  | refl => exact Portioned.still shares fun port => by simp [Released]
  | step before move ih =>
    refine Portioned.still (move.shares ih ungranted) fun port => ?_
    rw [released_append, not_or, and_assoc]

theorem shares_ofConfig (config : Config) (me : Identity) (main : others me.address.port) :
    (ofConfig config me).Shares others others := by
  refine ⟨fun port => ?_, ?_, ?_, ?_, main⟩
  · have idle : ∀ holder, (ofConfig config me).holding holder = none := by
      rintro (key | key) <;> rfl
    simp [idle]
  all_goals rintro (key | key) <;> simp [Puncher.holding, ofConfig]

end

end Puncher

namespace Node

/-- Whether a port is bound for datagrams. -/
def Binds (n : Node) (port : UInt16) : Prop := n.endpoint.udp.contains port = true

theorem transmit_endpoint (n : Node) (outside : Outside) (message : Message) :
    (n.transmit outside message).puncher = n.puncher ∧ (n.transmit outside message).endpoint.udp = n.endpoint.udp :=
  ⟨rfl, n.endpoint.send_udp outside message⟩

/-- What a step of the puncher makes of the bound ports. -/
theorem foldl_onPunchEffect {n : Node} (sound : n.endpoint.udp.Sound) (outside : Outside) (effects : List PunchEffect) :
    (effects.foldl (onPunchEffect outside) n).puncher = n.puncher ∧
      (∀ port, (effects.foldl (onPunchEffect outside) n).Binds port ↔ n.Binds port ∧ ¬ Released effects port) ∧
      (effects.foldl (onPunchEffect outside) n).endpoint.udp.Sound := by
  induction effects generalizing n with
  | nil => exact ⟨rfl, fun port => by simp [Released], sound⟩
  | cons effect effects ih =>
    have first : (onPunchEffect outside n effect).puncher = n.puncher ∧
        (∀ port, (onPunchEffect outside n effect).Binds port ↔ n.Binds port ∧ ¬ Released [effect] port) ∧
        (onPunchEffect outside n effect).endpoint.udp.Sound := by
      cases effect with
      | send message =>
        obtain ⟨puncher, udp⟩ := n.transmit_endpoint outside message
        refine ⟨puncher, fun port => ?_, ?_⟩
        · simp only [onPunchEffect, Binds, udp]
          simp [Released]
        · exact udp ▸ sound
      | release ports =>
        have tabled : (n.endpoint.table .udp).Sound := sound
        obtain ⟨held, kept⟩ := Endpoint.release_contains tabled ports
        refine ⟨rfl, fun port => (held port).trans ?_, kept⟩
        simp [Released, Binds, Endpoint.table]
      | report event =>
        refine ⟨rfl, fun port => ?_, sound⟩
        simp [Released, Binds, onPunchEffect, leave]
    obtain ⟨puncher, binds, kept⟩ := ih first.2.2
    refine ⟨puncher.trans first.1, fun port => ?_, kept⟩
    rw [List.foldl_cons, binds, first.2.1, and_assoc, ← not_or, ← released_append]
    rfl

/-- A puncher and others that share the endpoint of a node; `others` are the ports that these have bound and not
released. They leave the main port and the puncher's ports alone. -/
inductive Sharing : Node → (UInt16 → Prop) → Prop where
  | start {n : Node} {config : Config} {me : Identity} (fresh : n.puncher = some (.ofConfig config me))
    (sound : n.endpoint.udp.Sound) (main : n.Binds me.address.port) : Sharing n n.Binds
  | connect {n : Node} {others : UInt16 → Prop} (before : Sharing n others) (now : Nat) (outside : Outside) (target : Contact) :
    Sharing (n.connect now outside target) others
  /-- Ports are granted by the endpoint alone. -/
  | command {n : Node} {others : UInt16 → Prop} (before : Sharing n others) (now : Nat) (outside : Outside)
    {command : PunchCommand} (ungranted : ∀ target ports, command ≠ .connect target (.ok ports)) :
    Sharing (n.command now outside command) others
  /-- Any alarm, at any time. -/
  | alarm {n : Node} {others : UInt16 → Prop} {p : Puncher} (before : Sharing n others) (present : n.puncher = some p)
    (now : Nat) (outside : Outside) (alarms : Alarms PunchAlarm) (alarm : PunchAlarm) :
    Sharing (n.punched outside (({ p with alarms }).onAlarm (n.surroundings now .puncher) alarm)) others
  | bind {n : Node} {others : UInt16 → Prop} {e : Endpoint} {port : UInt16} (before : Sharing n others) {socket : Socket}
    {answer : BindAnswer} (success : n.endpoint.tryBind socket .udp answer = .ok (port, e)) :
    Sharing { n with endpoint := e } fun other => others other ∨ other = port ∧ ¬ n.Binds port
  | alloc {n : Node} {others : UInt16 → Prop} (before : Sharing n others) (chance : Chance) (system : Socket → BindAnswer)
    (ip : Ip) (count : Nat) :
    Sharing { n with endpoint := (n.endpoint.alloc chance system ip count .udp).2 } fun other =>
      others other ∨ other ∈ (n.endpoint.alloc chance system ip count .udp).1
  | release {n : Node} {others : UInt16 → Prop} {ports : List UInt16} (before : Sharing n others)
    (spared : ∀ p, n.puncher = some p → p.mainPort ∉ ports ∧ ∀ holder port, p.Holds holder port → port ∉ ports) :
    Sharing { n with endpoint := (n.endpoint.release ports .udp).2 } fun other => others other ∧ other ∉ ports
  /-- Whatever concerns neither the puncher nor the ports. -/
  | elsewhere {n m : Node} {others : UInt16 → Prop} (before : Sharing n others) (puncher : m.puncher = n.puncher)
    (udp : m.endpoint.udp = n.endpoint.udp) : Sharing m others

/-- The ports are shared out between a puncher and others. -/
def Shared (n : Node) (others : UInt16 → Prop) : Prop :=
  n.endpoint.udp.Sound ∧ ∃ p, n.puncher = some p ∧ p.Shares others n.Binds

/-- The node takes over what its puncher does with what it holds. -/
theorem Shared.punched {n : Node} {others : UInt16 → Prop} {step : PunchStep} (sound : n.endpoint.udp.Sound)
    (shares : step.1.Shares others fun port => n.Binds port ∧ ¬ Released step.2 port) (outside : Outside) :
    (n.punched outside step).Shared others := by
  have entered : ({ n with puncher := some step.1 } : Node).endpoint.udp.Sound := sound
  obtain ⟨puncher, binds, kept⟩ := foldl_onPunchEffect entered outside step.2
  exact ⟨kept, step.1, puncher, Portioned.still shares binds⟩

theorem Shared.command {n : Node} {others : UInt16 → Prop} (shared : n.Shared others) (now : Nat) (outside : Outside)
    {command : PunchCommand} (ungranted : ∀ target ports, command = .connect target (.ok ports) → ports = []) :
    (n.command now outside command).Shared others := by
  obtain ⟨sound, p, present, shares⟩ := shared
  simp only [Node.command, present]
  refine Shared.punched sound ((p.handle_moves command).shares shares ?_) outside
  intro target ports given
  exact ungranted target ports (PunchInput.command.inj given)

/-- A handshake begins with ports that have just been bound for it. -/
theorem Shared.command_granted {n : Node} {others bound : UInt16 → Prop} {p : Puncher} {ports : List UInt16}
    (sound : n.endpoint.udp.Sound) (present : n.puncher = some p) (shares : p.Shares others bound)
    (free : ∀ port ∈ ports, ¬ bound port) (grown : ∀ port, n.Binds port ↔ bound port ∨ port ∈ ports) (now : Nat)
    (outside : Outside) {target : Contact} (going : p.halted = false)
    (wants : p.wantsPort (n.surroundings now .puncher) target = true) :
    (n.command now outside (.connect target (.ok ports))).Shared others := by
  simp only [Puncher.wantsPort, Bool.and_eq_true, Bool.not_eq_true', Option.isNone_iff_eq_none, bne_iff_ne,
    Table.contains_eq_isSome, Option.isSome_eq_false_iff] at wants
  obtain ⟨⟨⟨apart, idle⟩, allowed⟩, dependent⟩ := wants
  simp only [Node.command, present, Puncher.handle, going, Bool.false_eq_true, if_false]
  rw [Puncher.connect_eq_begin apart idle allowed, Puncher.begin_eq]
  have own : p.punching target ports = (ports.head?.getD p.mainPort, ports) := if_neg dependent
  refine Shared.punched sound (shares.begun idle ?_ ?_ fun port => ?_) outside
  · rw [own]
    exact free
  · rw [own]
    cases ports with
    | nil => exact .inl rfl
    | cons port rest => exact .inr List.mem_cons_self
  · rw [own]
    simp only [not_released_of_forall (Puncher.release_not_mem_attempt p _ _), not_false_eq_true, and_true]
    exact grown port

theorem Shared.connect {n : Node} {others : UInt16 → Prop} (shared : n.Shared others) (now : Nat) (outside : Outside)
    (target : Contact) : (n.connect now outside target).Shared others := by
  obtain ⟨sound, p, present, shares⟩ := shared
  unfold Node.connect
  simp only [present]
  split
  · rename_i wants
    rw [Bool.and_eq_true, Bool.not_eq_true'] at wants
    have tabled : (n.endpoint.table .udp).Sound := sound
    obtain ⟨free, grown, kept⟩ := n.endpoint.alloc_contains n.chance (outside.bind .udp) (.v4 n.me.address.ip) 1 .udp
    refine Shared.command_granted (n := { n with endpoint := _, puncher := some p }) (kept tabled) rfl shares
      (fun port member => ?_) grown now outside wants.1 wants.2
    exact Bool.not_eq_true _ ▸ free port member
  · refine Shared.command ⟨sound, p, present, shares⟩ now outside fun _ ports same => ?_
    cases same
    rfl

theorem Sharing.shared {n : Node} {others : UInt16 → Prop} (sharing : Sharing n others) : n.Shared others := by
  induction sharing with
  | start fresh sound main => exact ⟨sound, _, fresh, Puncher.shares_ofConfig _ _ main⟩
  | connect before now outside target ih => exact ih.connect now outside target
  | command before now outside ungranted ih =>
    exact ih.command now outside fun target ports same => absurd same (ungranted target ports)
  | @alarm n others p before present now outside alarms alarm ih =>
    obtain ⟨sound, q, known, shares⟩ := ih
    cases present.symm.trans known
    have moves := Puncher.onAlarm_moves (c := n.surroundings now .puncher) (p := { p with alarms }) alarm
    exact Shared.punched sound (moves.shares shares (by simp)) outside
  | @bind n others e port before socket answer success ih =>
    obtain ⟨sound, p, present, shares⟩ := ih
    rcases Endpoint.tryBind_contains success with ⟨rfl, held, rfl⟩ | ⟨unbound, grown, kept⟩
    · refine ⟨sound, p, present, Portioned.others_bind shares (fun other new => new.1 ▸ new.2) fun other => ?_⟩
      have stays : ¬ (other = socket.port ∧ ¬ n.Binds socket.port) := fun new => new.2 held
      simp only [stays, or_false]
    · have tabled : (n.endpoint.table .udp).Sound := sound
      have free : ¬ n.Binds port := Bool.not_eq_true _ ▸ unbound
      refine ⟨kept tabled, p, present, Portioned.others_bind shares (fun other new => new.1 ▸ new.2) fun other => ?_⟩
      rw [and_iff_left free]
      exact grown other
  | @alloc n others before chance system ip count ih =>
    obtain ⟨sound, p, present, shares⟩ := ih
    have tabled : (n.endpoint.table .udp).Sound := sound
    obtain ⟨free, grown, kept⟩ := n.endpoint.alloc_contains chance system ip count .udp
    refine ⟨kept tabled, p, present, Portioned.others_bind shares (fun port member => ?_) grown⟩
    exact Bool.not_eq_true _ ▸ free port member
  | @release n others ports before spared ih =>
    obtain ⟨sound, p, present, shares⟩ := ih
    have tabled : (n.endpoint.table .udp).Sound := sound
    obtain ⟨shrunk, kept⟩ := Endpoint.release_contains tabled ports
    obtain ⟨main, held⟩ := spared p present
    refine ⟨kept, p, present, Portioned.others_release shares main ?_ shrunk⟩
    exact fun holder holding found port member => held holder port ((p.holds_iff holder port).mpr ⟨holding, found, member⟩)
  | elsewhere before puncher udp ih =>
    obtain ⟨sound, p, present, shares⟩ := ih
    refine ⟨udp ▸ sound, p, puncher.trans present, Portioned.still shares fun port => ?_⟩
    rw [Binds, udp, Binds]

/-- The bound ports are those of others, the main port among them, and those that handshakes and paths hold, each of
them by one. Whatever port a handshake or a path uses is bound. -/
theorem Sharing.ports_shared_out {n : Node} {others : UInt16 → Prop} (sharing : Sharing n others) :
    ∃ p, n.puncher = some p ∧ others p.mainPort ∧
      (∀ port, n.Binds port ↔ others port ∨ ∃ holder, p.Holds holder port) ∧
      (∀ holder port, p.Holds holder port → ¬ others port) ∧
      (∀ one two port, p.Holds one port → p.Holds two port → one = two) ∧
      (∀ key hs, p.handshakes.get? key = some hs → n.Binds hs.punchPort) ∧
      ∀ key cached, p.paths.get? key = some cached → n.Binds cached.path.localPort := by
  obtain ⟨sound, p, present, shares⟩ := sharing.shared
  simp only [Puncher.holds_iff]
  refine ⟨p, present, shares.main, shares.bound, ?_, ?_, ?_, ?_⟩
  · rintro holder port ⟨held, found, member⟩
    exact shares.apart holder held port found member
  · rintro one two port ⟨held, found, member⟩ ⟨also, known, inside⟩
    exact shares.single one two held also port found known member inside
  · intro key hs found
    have holding : p.holding (.handshake key) = some (hs.punchPort, hs.allocated) := by rw [Puncher.holding, found, Option.map_some]
    exact shares.bound_of_holding holding
  · intro key cached found
    have holding : p.holding (.path key) = some (cached.path.localPort, cached.allocated) := by
      rw [Puncher.holding, found, Option.map_some]
    exact shares.bound_of_holding holding

/-- A node with nothing but a puncher and its main socket. -/
def lone (me : Identity) : Node where
  me := me
  endpoint :=
    { config := {}
      udp := ⟨Table.empty.insert me.address.port me.address.socket, Table.empty.insert me.address.socket ()⟩ }
  chance := .counting 0
  bareRoster := (Roster.empty 3).enter me.node .unrestricted
  puncher := some (.ofConfig {} me)

theorem lone_sharing (me : Identity) : Sharing (lone me) (lone me).Binds := by
  have bound : (PortTable.empty : PortTable Unit).insert me.address.socket () = .ok (lone me).endpoint.udp := rfl
  obtain ⟨_, grown, sound⟩ := PortTable.insert_contains bound
  exact .start rfl (sound PortTable.sound_empty) ((grown _).mpr (.inr rfl))

/-- A call that takes a port of its own. -/
theorem lone_call_holds_port :
    let caller := lone ⟨⟨.ofOctets 10 0 0 1, 4000, 1⟩, 0, none⟩
    let after := caller.connect 0 ⟨fun _ socket => .bound socket.port, fun _ _ => .ok (), fun _ => .taken⟩
      ⟨⟨.ofOctets 10 0 0 2, 4000, 2⟩, 0, .natted .addressDependent .portPreservation .addressDependent,
        [⟨.ofOctets 10 0 0 9, 3478, 9⟩]⟩
    Sharing after caller.Binds ∧ ∃ p holder, after.puncher = some p ∧ p.Holds holder firstEphemeralPort := by
  intro caller after
  have sharing : Sharing after caller.Binds := .connect (lone_sharing _) ..
  have taken : after.Binds firstEphemeralPort := by unfold Binds; decide +kernel
  have free : ¬ caller.Binds firstEphemeralPort := by unfold Binds; decide +kernel
  obtain ⟨p, present, _, bound, _⟩ := sharing.ports_shared_out
  obtain ⟨holder, held⟩ := ((bound _).mp taken).resolve_left free
  exact ⟨sharing, p, holder, present, held⟩

end Node

end NatTraversal
