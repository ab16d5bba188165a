import NatTraversal.Address.Basic
import NatTraversal.Ticket

namespace NatTraversal

/-- The least port that is drawn at random; the others follow up to the last one. -/
def firstEphemeralPort : UInt16 := 50000

/-- Everything that a node leaves to chance, by the number of the draw. -/
structure Chance where
  ticket : Nat → Ticket
  shuffle : Nat → List Address → List Address
  port : Nat → UInt16
  ticket_isNone : ∀ n, (ticket n).isNone = false
  shuffle_perm : ∀ n l, (shuffle n l).Perm l
  port_ephemeral : ∀ n, firstEphemeralPort ≤ port n

/-- Every `count`-th draw, from the one at `index` on. The draws of different indices have nothing in common. -/
def Chance.strand (chance : Chance) (count index : Nat) : Chance where
  ticket n := chance.ticket (n * count + index)
  shuffle n := chance.shuffle (n * count + index)
  port n := chance.port (n * count + index)
  ticket_isNone _ := chance.ticket_isNone _
  shuffle_perm _ := chance.shuffle_perm _
  port_ephemeral _ := chance.port_ephemeral _

end NatTraversal
