import NatTraversal.Json.Reading

namespace NatTraversal

/- What was drawn at random goes by names in the order of its appearance. -/

namespace Json

mutual

/-- The same value with the members of every object in alphabetical order. -/
def sorted : Json → Json
  | array items => array (sortedItems items)
  | object members => object ((sortedMembers members).mergeSort fun a b => a.1.getD "" ≤ b.1.getD "")
  | json => json

def sortedItems : List Json → List Json
  | [] => []
  | item :: rest => sorted item :: sortedItems rest

def sortedMembers : List (Option String × Json) → List (Option String × Json)
  | [] => []
  | (name, value) :: rest => (name, sorted value) :: sortedMembers rest

end

mutual

/-- The tickets that a value gives under their name. -/
def tickets : Json → List UInt64
  | array items => ticketsOfItems items
  | object members => ticketsOfMembers members
  | _ => []

def ticketsOfItems : List Json → List UInt64
  | [] => []
  | item :: rest => tickets item ++ ticketsOfItems rest

def ticketsOfMembers : List (Option String × Json) → List UInt64
  | [] => []
  | (name, value) :: rest =>
    (match name, value with
      | some "timeout_id", string text => [.ofNat (hexNumber text.toList)]
      | _, value => tickets value) ++ ticketsOfMembers rest

end

end Json

namespace Names

/-- The place of a value in a list, which it comes last in if it is not there yet. -/
def place {α : Type} [BEq α] (seen : List α) (a : α) : Nat × List α :=
  match seen.idxOf? a with
  | some i => (i, seen)
  | none => (seen.length, seen ++ [a])

def namePort (names : Names) (port : UInt16) : String × Names :=
  let (i, ports) := place names.ports port
  (s!"e{i + 1}", { names with ports })

def nameTicket (names : Names) (ticket : UInt64) : String × Names :=
  let (i, tickets) := place names.tickets ticket
  (s!"#{i + 1}", { names with tickets })

/-- The least port that goes by a name. -/
def firstNamed : Nat := 32768

/-- Gives a number below a name that speaks of ports its own name. -/
def renameNumber (names : Names) (key : String) (numeral : Numeral) : Json × Names :=
  match numeral.toNat? with
  | some n =>
    if (key = "ports" || key.endsWith "port") && firstNamed ≤ n && n < 65536 then
      let (name, names) := names.namePort (.ofNat n)
      (.string name, names)
    else (.number numeral, names)
  | none => (.number numeral, names)

def renameText (given : List UInt64) (names : Names) (key text : String) : Json × Names :=
  if key = "timeout_id" then
    let ticket : UInt64 := .ofNat (Json.hexNumber text.toList)
    if ticket = 0 || given.contains ticket then (.string text, names)
    else
      let (name, names) := names.nameTicket ticket
      (.string name, names)
  else (.string text, names)

mutual

/-- Puts names for what was drawn, in the order of appearance, and keeps tickets that were given. -/
def rename (given : List UInt64) (names : Names) (key : String) : Json → Json × Names
  | .number numeral => names.renameNumber key numeral
  | .string text => renameText given names key text
  | .array items =>
    let (items, names) := renameItems given names key items
    (.array items, names)
  | .object members =>
    let (members, names) := renameMembers given names members
    (.object members, names)
  | json => (json, names)

def renameItems (given : List UInt64) (names : Names) (key : String) : List Json → List Json × Names
  | [] => ([], names)
  | item :: rest =>
    let (item, names) := rename given names key item
    let (rest, names) := renameItems given names key rest
    (item :: rest, names)

def renameMembers (given : List UInt64) (names : Names) : List (Option String × Json) → List (Option String × Json) × Names
  | [] => ([], names)
  | (name, value) :: rest =>
    let (value, names) := rename given names (name.getD "") value
    let (rest, names) := renameMembers given names rest
    ((name, value) :: rest, names)

end

/-- Puts names in one member after the other, whatever the order of their own names. -/
def renameAll (given : List UInt64) (names : Names) (members : List (String × Json)) : List (String × Json) × Names :=
  members.foldl (fun (done, names) (name, value) =>
    let (value, names) := rename given names name value.sorted
    (done ++ [(name, value)], names)) ([], names)

end Names

end NatTraversal
