import NatTraversal.Number.Numeral
import NatTraversal.Text.Hex

namespace NatTraversal

/-- A JSON value as written: members keep their order and repetitions, numbers their digits. A string with half of a
surrogate pair stands for no text and is only known to be there. -/
inductive Json where
  | null
  | bool (b : Bool)
  | number (numeral : Numeral)
  | string (text : String)
  | unpaired
  | array (items : List Json)
  | object (members : List (Option String × Json))

namespace Json

def ofInt (n : Int) : Json := number (.ofInt n)

def ofNat (n : Nat) : Json := number (.ofInt n)

/-- An object whose members come in this order. -/
def record (members : List (String × Json)) : Json := object (members.map fun (name, value) => (some name, value))

instance : Coe String Json := ⟨string⟩

instance : Coe Bool Json := ⟨bool⟩

/-- The first member of this name, unless it is `null`. -/
def member? (json : Json) (name : String) : Option Json :=
  match json with
  | object members =>
    match members.find? fun m => m.1 == some name with
    | some (_, null) => none
    | some (_, value) => some value
    | none => none
  | _ => none

def escaped (c : Char) : List Char :=
  if c = '"' then ['\\', '"']
  else if c = '\\' then ['\\', '\\']
  else if c.toNat < 0x20 then '\\' :: 'u' :: hexChars 4 c.toNat
  else [c]

def quoted (text : String) : String := "\"" ++ String.ofList (text.toList.flatMap escaped) ++ "\""

mutual

/-- The text without blanks. -/
def text : Json → String
  | null => "null"
  | bool b => if b then "true" else "false"
  | number numeral => numeral.text
  | string s => quoted s
  | unpaired => "\"\\ud800\""
  | array items => "[" ++ String.intercalate "," (texts items) ++ "]"
  | object members => "\x7b" ++ String.intercalate "," (memberTexts members) ++ "\x7d"

def texts : List Json → List String
  | [] => []
  | item :: rest => text item :: texts rest

def memberTexts : List (Option String × Json) → List String
  | [] => []
  | (name, value) :: rest => (quoted (name.getD "") ++ ":" ++ text value) :: memberTexts rest

end

end Json

end NatTraversal
