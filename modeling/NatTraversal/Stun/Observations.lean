import NatTraversal.Error

namespace NatTraversal

/-- What the echoes of a node's probes have shown. A missing socket means that no answer came. -/
structure Observations where
  /-- The socket that the node itself knows. -/
  ours : Option Socket := none
  /-- How the first server sees it. -/
  server1 : Option Socket := none
  /-- How the second server sees it. -/
  server2 : Option Socket := none
  /-- How the first server sees it at its alternate port. -/
  server1Alt : Option Socket := none
  /-- Whether an answer from another server came through. -/
  changeServer : Bool := false
  /-- Whether an answer from another port came through. -/
  changePort : Bool := false
  /-- Local and public ports of mappings to one server, in the order in which they were made. -/
  samples : List (UInt16 × UInt16) := []
deriving DecidableEq, Repr

namespace Observations

def noAnswer : Error := .unreachable 0 "no answer from the stun server"

/-- Another public socket towards another server shows a mapping by address, and towards another port of one server a
mapping by port. Towards another server the two can only be told apart if the alternate port has answered. -/
def mapping (seen : Observations) (public1 : Socket) : Dependence :=
  match seen.server2 with
  | some public2 =>
    if public2 ≠ public1 then
      if seen.server1Alt = some public1 then .addressDependent else .addressAndPortDependent
    else byPort
  | none => byPort
where
  byPort : Dependence :=
    match seen.server1Alt with
    | some alt => if alt ≠ public1 then .addressAndPortDependent else .endpointIndependent
    | none => .endpointIndependent

def filtering (seen : Observations) : Dependence :=
  if seen.changeServer then .endpointIndependent
  else if seen.changePort then .addressDependent
  else .addressAndPortDependent

/-- The steps from each number to the next. -/
def steps : List Int → List Int
  | a :: b :: rest => (b - a) :: steps (b :: rest)
  | _ => []

/-- Ports that all stay as they are, or that grow by one positive step within the window. -/
def allocation (samples : List (UInt16 × UInt16)) (window : UInt16) : Allocation × UInt8 :=
  if samples.all fun sample => sample.1 == sample.2 then (.portPreservation, 0)
  else
    match steps (samples.map fun sample => (sample.2.toNat : Int)) with
    | step :: rest =>
      if 0 < step ∧ step ≤ window.toNat ∧ step ≤ 255 ∧ rest.all (· == step) then (.portContiguity, .ofNat step.toNat)
      else (.random, 0)
    | [] => (.random, 0)

def classify (seen : Observations) (window : UInt16) : Except Error NatType :=
  match seen.ours, seen.server1 with
  | some ours, some public1 =>
    if public1 = ours then .ok .unrestricted
    else
      let (allocation, delta) := allocation seen.samples window
      .ok { NatType.natted (seen.mapping public1) allocation seen.filtering with delta }
  | _, _ => .error noAnswer

end Observations

end NatTraversal
