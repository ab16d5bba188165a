import NatTraversal.Address.Contact
import NatTraversal.Table

namespace NatTraversal

/-- What is known of a node of this process. -/
structure Standing where
  nat : NatType
  parents : List Address
deriving DecidableEq, Repr

/-- The nodes of this process, shared by all of their overlays. -/
structure Roster where
  maxParents : Nat
  nodes : Table UInt32 Standing
deriving DecidableEq, Repr

namespace Roster

def empty (maxParents : Nat) : Roster := ⟨maxParents, .empty⟩

/-- Enters a node; one that is known keeps its parents. -/
def enter (roster : Roster) (node : UInt32) (nat : NatType) : Roster :=
  let standing := match roster.nodes.get? node with
    | some standing => { standing with nat }
    | none => ⟨nat, []⟩
  { roster with nodes := roster.nodes.insert node standing }

def leave (roster : Roster) (node : UInt32) : Bool × Roster :=
  (roster.nodes.contains node, { roster with nodes := roster.nodes.erase node })

def contains (roster : Roster) (node : UInt32) : Bool := roster.nodes.contains node

def nat? (roster : Roster) (node : UInt32) : Option NatType := (roster.nodes.get? node).map (·.nat)

def parents (roster : Roster) (node : UInt32) : List Address := ((roster.nodes.get? node).map (·.parents)).getD []

/-- A node that turns out to be open loses its parents. -/
def setNat (roster : Roster) (node : UInt32) (nat : NatType) : Bool × Roster :=
  match roster.nodes.get? node with
  | some standing =>
    (true, { roster with nodes := roster.nodes.insert node ⟨nat, if nat.isOpen then [] else standing.parents⟩ })
  | none => (false, roster)

/-- Only a natted node takes parents, each once and no more than the roster allows. -/
def addParent (roster : Roster) (node : UInt32) (parent : Address) : Bool × Roster :=
  match roster.nodes.get? node with
  | some standing =>
    if standing.nat.isOpen || standing.parents.length ≥ roster.maxParents || standing.parents.contains parent then (false, roster)
    else (true, { roster with nodes := roster.nodes.insert node { standing with parents := standing.parents ++ [parent] } })
  | none => (false, roster)

def removeParent (roster : Roster) (node : UInt32) (parent : Address) : Bool × Roster :=
  match roster.nodes.get? node with
  | some standing =>
    (standing.parents.contains parent,
      { roster with nodes := roster.nodes.insert node { standing with parents := standing.parents.filter (· != parent) } })
  | none => (false, roster)

end Roster

end NatTraversal
