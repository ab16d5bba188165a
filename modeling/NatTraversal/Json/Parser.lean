import NatTraversal.Json.Basic

namespace NatTraversal

namespace Json

def skipBlanks (cs : List Char) : List Char := cs.dropWhile fun c => c == ' ' || c == '\n' || c == '\t' || c == '\r'

def hexUnit (a b c d : Char) : Option Nat := do
  return (((← hexValue? a) * 16 + (← hexValue? b)) * 16 + (← hexValue? c)) * 16 + (← hexValue? d)

/-- The code units and code points of a string up to the closing quote, latest first, and what follows it. -/
def stringUnits (units : List Nat) : List Char → Option (List Nat × List Char)
  | '"' :: rest => some (units, rest)
  | '\\' :: 'u' :: a :: b :: c :: d :: rest =>
    match hexUnit a b c d with
    | some unit => stringUnits (unit :: units) rest
    | none => none
  | '\\' :: c :: rest =>
    match [('"', 0x22), ('\\', 0x5c), ('/', 0x2f), ('b', 8), ('f', 12), ('n', 10), ('r', 13), ('t', 9)].lookup c with
    | some unit => stringUnits (unit :: units) rest
    | none => none
  | c :: rest => if c.toNat < 0x20 || c == '\\' then none else stringUnits (c.toNat :: units) rest
  | [] => none

/-- Joins surrogate pairs. The units come latest first; nothing comes out if one stays alone. -/
def joinUnits (text : List Char) : List Nat → Option (List Char)
  | low :: high :: rest =>
    if 0xDC00 ≤ low ∧ low < 0xE000 then
      if 0xD800 ≤ high ∧ high < 0xDC00 then
        joinUnits (Char.ofNat (0x10000 + (high - 0xD800) * 0x400 + (low - 0xDC00)) :: text) rest
      else none
    else if 0xD800 ≤ low ∧ low < 0xDC00 then none
    else joinUnits (Char.ofNat low :: text) (high :: rest)
  | [unit] => if 0xD800 ≤ unit ∧ unit < 0xE000 then none else some (Char.ofNat unit :: text)
  | [] => some text

/-- A string after its opening quote. -/
def stringRest (cs : List Char) : Option (Option String × List Char) := do
  let (units, rest) ← stringUnits [] cs
  return ((joinUnits [] units).map String.ofList, rest)

mutual

/-- A value at the head of a text, and what follows it. The fuel bounds the number of values and members. -/
def value? : (fuel : Nat) → List Char → Option (Json × List Char)
  | 0, _ => none
  | fuel + 1, cs =>
    match skipBlanks cs with
    | 'n' :: 'u' :: 'l' :: 'l' :: rest => some (null, rest)
    | 't' :: 'r' :: 'u' :: 'e' :: rest => some (bool true, rest)
    | 'f' :: 'a' :: 'l' :: 's' :: 'e' :: rest => some (bool false, rest)
    | '"' :: rest => (stringRest rest).map fun (text, rest) => (match text with | some s => string s | none => unpaired, rest)
    | '[' :: rest =>
      match skipBlanks rest with
      | ']' :: rest => some (array [], rest)
      | rest => items? fuel [] rest
    | '\x7b' :: rest =>
      match skipBlanks rest with
      | '\x7d' :: rest => some (object [], rest)
      | rest => members? fuel [] rest
    | '-' :: rest => (Numeral.take? true rest).map fun (numeral, rest) => (number numeral, rest)
    | rest => (Numeral.take? false rest).map fun (numeral, rest) => (number numeral, rest)

def items? : (fuel : Nat) → (latest : List Json) → List Char → Option (Json × List Char)
  | 0, _, _ => none
  | fuel + 1, latest, cs =>
    match value? fuel cs with
    | none => none
    | some (item, rest) =>
      match skipBlanks rest with
      | ',' :: rest => items? fuel (item :: latest) rest
      | ']' :: rest => some (array (item :: latest).reverse, rest)
      | _ => none

def members? : (fuel : Nat) → (latest : List (Option String × Json)) → List Char → Option (Json × List Char)
  | 0, _, _ => none
  | fuel + 1, latest, cs =>
    match skipBlanks cs with
    | '"' :: rest =>
      match stringRest rest with
      | none => none
      | some (name, rest) =>
        match skipBlanks rest with
        | ':' :: rest =>
          match value? fuel rest with
          | none => none
          | some (value, rest) =>
            match skipBlanks rest with
            | ',' :: rest => members? fuel ((name, value) :: latest) rest
            | '\x7d' :: rest => some (object ((name, value) :: latest).reverse, rest)
            | _ => none
        | _ => none
    | _ => none

end

/-- The value that a whole text stands for. Each level of nesting, each item and each member takes at least one
character and at most two steps. -/
def parse? (text : String) : Option Json :=
  let cs := text.toList
  match value? (2 * cs.length + 2) cs with
  | some (json, rest) => if (skipBlanks rest).isEmpty then some json else none
  | none => none

end Json

end NatTraversal
