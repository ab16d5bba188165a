import NatTraversal.Chance
import NatTraversal.Identity.Roster

namespace NatTraversal

/-- What a part of a node finds around itself when it handles something. -/
structure Surroundings where
  now : Nat
  /-- The clock that sessions age by. -/
  clock : Nat
  roster : Roster
  chance : Chance

end NatTraversal
