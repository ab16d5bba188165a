import NatTraversal.Identity.Roster

namespace NatTraversal

/-- The local node in one overlay. Its translator and parents stand in the roster, which all of its overlays share. -/
structure Identity where
  address : Address
  overlay : UInt32
  /-- What the node is worth to the overlay, where that is kept. -/
  utility : Option UInt32
deriving DecidableEq, Repr

namespace Identity

def node (me : Identity) : UInt32 := me.address.node

/-- A node that is not in the roster counts as open. -/
def nat (me : Identity) (roster : Roster) : NatType := (roster.nat? me.node).getD .unrestricted

def parents (me : Identity) (roster : Roster) : List Address := roster.parents me.node

/-- What other nodes are told. An open node names no parents. -/
def contact (me : Identity) (roster : Roster) : Contact :=
  let nat := me.nat roster
  let bare : Contact := ⟨me.address, me.overlay, nat, []⟩
  if nat.isOpen then bare else bare.withParents (me.parents roster)

/-- Has no effect where no utility is kept. -/
def setUtility (me : Identity) (value : UInt32) : Identity := { me with utility := me.utility.map fun _ => value }

def forOverlay (me : Identity) (overlay : UInt32) : Identity := { me with overlay }

end Identity

end NatTraversal
