import NatTraversal.Json.Basic

namespace NatTraversal

/-- How a value is read from JSON and how it is written. -/
structure Form (α : Type) where
  read? : Json → Option α
  write : α → Json

/-- A named part of a record. -/
structure Setting (σ : Type) where
  name : String
  read? : Json → σ → Option σ
  write : σ → Json

namespace Form

/-- Whole numbers below a limit; a number with a point, an exponent or a sign is none. -/
def below (limit : Nat) : Form Nat where
  read?
    | .number numeral => numeral.toNat?.filter (· < limit)
    | _ => none
  write := .ofNat

def map {α β : Type} (form : Form α) (forth : α → β) (back : β → α) : Form β where
  read? json := (form.read? json).map forth
  write b := form.write (back b)

def word16 : Form UInt16 := (below (Nat.pow 2 16)).map .ofNat UInt16.toNat

def word32 : Form UInt32 := (below (Nat.pow 2 32)).map .ofNat UInt32.toNat

def word64 : Form UInt64 := (below (Nat.pow 2 64)).map .ofNat UInt64.toNat

/-- Any number; written as text, which also has room for values that no numeral stands for. -/
def binary64 : Form Binary64 where
  read?
    | .number numeral => numeral.toBinary64?
    | _ => none
  write x := .string x.text

def flag : Form Bool where
  read?
    | .bool b => some b
    | _ => none
  write := .bool

def list {α : Type} (form : Form α) : Form (List α) where
  read?
    | .array items => items.mapM form.read?
    | _ => none
  write items := .array (items.map form.write)

/-- Also takes `null`. -/
def optional {α : Type} (form : Form α) : Form (Option α) where
  read?
    | .null => some none
    | json => (form.read? json).map some
  write
    | some a => form.write a
    | none => .null

end Form

namespace Setting

def make {σ α : Type} (name : String) (form : Form α) (get : σ → α) (set : σ → α → σ) : Setting σ where
  name := name
  read? json record := (form.read? json).map (set record)
  write record := form.write (get record)

/-- Reads the items of an array in the order of the settings. -/
def readItems {σ : Type} : List (Setting σ) → List Json → σ → Option σ
  | _, [], record => some record
  | setting :: settings, item :: items, record => (setting.read? item record).bind (readItems settings items)
  | [], _ :: _, _ => none

/-- Reads members that may come in any order; unknown names are passed over, known ones may not come twice. -/
def readMembers {σ : Type} (settings : List (Setting σ)) (seen : List String) :
    List (Option String × Json) → σ → Option (List String × σ)
  | [], record => some (seen, record)
  | (none, _) :: _, _ => none
  | (some name, json) :: rest, record =>
    match settings.find? fun s => s.name == name with
    | none => readMembers settings seen rest record
    | some setting =>
      if seen.contains name then none
      else (setting.read? json record).bind (readMembers settings (name :: seen) rest)

/-- Gives one setting a value. -/
def assign? {σ : Type} (settings : List (Setting σ)) (name : String) (json : Json) (record : σ) : Option σ :=
  (settings.find? fun s => s.name == name).bind fun s => s.read? json record

/-- A record as an object or as the array of its settings. What is left out keeps its value from `start`, unless the
record has to be `complete`. -/
def form {σ : Type} (settings : List (Setting σ)) (complete : Bool) (start : σ) : Form σ where
  read?
    | .array items =>
      if complete && items.length != settings.length then none else readItems settings items start
    | .object members =>
      (readMembers settings [] members start).bind fun (seen, record) =>
        if complete && seen.length != settings.length then none else some record
    | _ => none
  write record := .record (settings.map fun setting => (setting.name, setting.write record))

end Setting

end NatTraversal
