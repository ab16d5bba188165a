import NatTraversal.Text.Hex

namespace NatTraversal

/-- Tells one outstanding request or alarm from all others. -/
structure Ticket where
  value : UInt64
deriving DecidableEq, Repr

namespace Ticket

def none : Ticket := ⟨0⟩

def isNone (ticket : Ticket) : Bool := ticket.value == 0

def text (ticket : Ticket) : String := hexText 16 ticket.value.toNat

end Ticket

end NatTraversal
