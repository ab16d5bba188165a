import NatTraversal.Stun.Survey

namespace NatTraversal

namespace Survey

/-- Whether a survey that holds some ports asks so many times at most, allocates only while it holds none and ends with
`left`, whatever the answers are. -/
inductive Tidy {α : Type} (left : List UInt16) : Nat → List UInt16 → Survey α → Prop
  | done {asks : Nat} (result : α) : Tidy left asks left (.done result)
  | ask {asks : Nat} {held : List UInt16} {port : UInt16} {server : Address} {body : Body} {next : Option Message → Survey α}
      (tidy : ∀ answer, Tidy left asks held (next answer)) : Tidy left (asks + 1) held (.ask port server body next)
  | allocate {asks count : Nat} {next : Except LinkError (List UInt16) → Survey α}
      (tidy : ∀ ports : List UInt16, ports.length ≤ count → Tidy left asks ports (next (.ok ports))) :
      Tidy left asks [] (.allocate count next)
  | release {asks : Nat} {ports : List UInt16} {next : Except LinkError Unit → Survey α} (tidy : Tidy left asks [] (next (.ok ()))) :
      Tidy left asks ports (.release ports next)
  | mapPort {asks : Nat} {held : List UInt16} {socket : Socket} {next : Option UInt16 → Survey α}
      (tidy : ∀ port, Tidy left asks held (next port)) : Tidy left asks held (.mapPort socket next)

namespace Tidy

variable {α β : Type} {left mid held : List UInt16} {asks fewer more : Nat} {survey : Survey α}

theorem pure (result : α) : Tidy held asks held (Pure.pure result : Survey α) := .done result

theorem mono (tidy : Tidy left fewer held survey) (le : fewer ≤ more) : Tidy left more held survey := by
  induction tidy generalizing more with
  | done result => exact .done result
  | ask _ ih =>
    obtain ⟨rest, rfl⟩ := Nat.exists_eq_add_of_le' (Nat.le_of_add_left_le le)
    exact .ask fun answer => ih answer (Nat.le_of_add_le_add_right le)
  | allocate _ ih => exact .allocate fun ports few => ih ports few le
  | release _ ih => exact .release (ih le)
  | mapPort _ ih => exact .mapPort fun port => ih port le

/-- One survey after another asks as often as both. -/
theorem bind {f : α → Survey β} (tidy : Tidy mid asks held survey) (rest : ∀ a, Tidy left more mid (f a)) :
    Tidy left (more + asks) held (survey >>= f) := by
  show Tidy left (more + asks) held (survey.bind f)
  induction tidy with
  | done result => exact (rest result).mono (Nat.le_add_right ..)
  | ask _ ih => exact .ask fun answer => ih answer
  | allocate _ ih => exact .allocate fun ports few => ih ports few
  | release _ ih => exact .release ih
  | mapPort _ ih => exact .mapPort fun port => ih port

theorem map (tidy : Tidy left asks held survey) (f : α → β) : Tidy left asks held (survey >>= fun a => Pure.pure (f a)) := by
  have both : Tidy left (0 + asks) held (survey >>= fun a => Pure.pure (f a)) := tidy.bind fun a => .pure (f a)
  rwa [Nat.zero_add] at both

end Tidy

section

variable (held : List UInt16)

theorem echo_tidy (port : UInt16) (server : Address) (kind : EchoKind) : Tidy held 1 held (echo port server kind) :=
  .ask fun _ => .done _

theorem report_tidy (main server : Address) (nat : NatType) : Tidy held 1 held (report main server nat) := .ask fun _ => .done _

theorem gatewayPort_tidy (config : SurveyConfig) (main : Address) : Tidy held 0 held (gatewayPort config main) := by
  unfold gatewayPort
  split
  · exact .mapPort fun _ => .done _
  · exact .pure none

theorem samplePorts_tidy (server : Address) (ports : List UInt16) : Tidy held ports.length held (samplePorts server ports) := by
  induction ports with
  | nil => exact .done []
  | cons port ports ih => exact (echo_tidy held port server .plain).bind fun _ => ih.map _

/-- As many asks as there are fresh ports, which are given back before anything else is done. -/
theorem sampleAllocation_tidy (server : Address) : Tidy [] allocationProbes [] (sampleAllocation server) := by
  refine .allocate fun ports few => ?_
  show Tidy [] (0 + allocationProbes) ports _
  exact ((samplePorts_tidy ports server ports).mono few).bind fun samples => .release (.done (Except.ok samples))

theorem observeMain_tidy (main server1 : Address) (server2 : Option Address) (public1 : Socket) (altPort : UInt16) :
    Tidy held 4 held (observeMain main server1 server2 public1 altPort) := by
  have filtering (observed : Option (Socket × UInt16) → Option (Socket × UInt16) → Observations) : Tidy held 2 held (do
      let byServer ← echo main.port server1 .changeServer
      let byPort ← if byServer.isSome then Pure.pure none else echo main.port server1 .changePort
      return observed byServer byPort) := by
    refine (echo_tidy held ..).bind fun byServer => ?_
    split
    · exact .pure _
    · exact (echo_tidy held ..).map _
  unfold observeMain
  cases server2 with
  | none =>
    dsimp only
    split
    · exact (filtering _).mono (by decide)
    · exact ((echo_tidy held ..).bind fun _ => filtering _).mono (by decide)
  | some server =>
    dsimp only
    refine (echo_tidy held ..).bind fun second => ?_
    split
    · exact (filtering _).mono (by decide)
    · exact (echo_tidy held ..).bind fun _ => filtering _

end

/-- A survey asks no more than eight times and keeps no port. -/
theorem ofConfig_tidy (config : SurveyConfig) (main : Address) : Tidy [] 8 [] (ofConfig config main) := by
  unfold ofConfig
  split
  · exact .done _
  · rename_i server1 others _
    refine (echo_tidy [] ..).bind fun first => ?_
    split
    · exact .pure _
    · split
      · exact (report_tidy [] ..).mono (by decide)
      · refine (observeMain_tidy [] ..).bind fun seen => (sampleAllocation_tidy server1).bind fun sampled => ?_
        split
        · exact .pure _
        · split
          · exact .pure _
          · exact (gatewayPort_tidy [] config main).bind fun upnpPort => report_tidy [] ..

end Survey

end NatTraversal
