import NatTraversal.Number.Decimal

namespace NatTraversal

/-- A number as it is written: digits before the point, digits behind it, and an exponent with its sign. -/
structure Numeral where
  negative : Bool
  whole : List Nat
  fraction : Option (List Nat)
  exponent : Option (Bool × List Nat)
deriving DecidableEq, Repr

namespace Numeral

def digits (cs : List Char) : List Nat := cs.map fun c => c.toNat - '0'.toNat

def value (digits : List Nat) : Nat := digits.foldl (fun n d => 10 * n + d) 0

def ofInt (n : Int) : Numeral := ⟨n < 0, digits (toString n.natAbs).toList, none, none⟩

def text (numeral : Numeral) : String :=
  let written (digits : List Nat) := String.join (digits.map toString)
  let fraction := match numeral.fraction with
    | some digits => "." ++ written digits
    | none => ""
  let exponent := match numeral.exponent with
    | some (negative, digits) => (if negative then "e-" else "e") ++ written digits
    | none => ""
  (if numeral.negative then "-" else "") ++ written numeral.whole ++ fraction ++ exponent

/-- Only plain digits count as an integer. -/
def toNat? (numeral : Numeral) : Option Nat :=
  if numeral.negative || numeral.fraction.isSome || numeral.exponent.isSome then none else some (value numeral.whole)

def toInt? (numeral : Numeral) : Option Int :=
  if numeral.fraction.isSome || numeral.exponent.isSome then none
  else some (if numeral.negative then -(value numeral.whole : Int) else value numeral.whole)

/-- The value nearest to `± digits * 10 ^ exponent`. -/
def nearest (negative : Bool) (digits : Nat) (exponent : Int) : Binary64 :=
  match exponent with
  | .ofNat k => .ofFraction negative (digits * Nat.pow 10 k) 1
  | .negSucc k => .ofFraction negative digits (Nat.pow 10 (k + 1))

def exact (numeral : Numeral) : Binary64 :=
  let fraction := numeral.fraction.getD []
  let (below, exponent) := numeral.exponent.getD (false, [])
  let exponent : Int := if below then -(value exponent : Int) else value exponent
  nearest numeral.negative (value (numeral.whole ++ fraction)) (exponent - fraction.length)

/-- What a significand can be. -/
def significandLimit : Nat := Nat.pow 2 64

/-- The leading digits that fit into a significand, and the number of the others. -/
def leading : Nat → List Nat → Nat × Nat
  | n, [] => (n, 0)
  | n, d :: rest => if 10 * n + d < significandLimit then leading (10 * n + d) rest else (n, rest.length + 1)

/-- `n * 10 ^ exponent` in one product or quotient by a rounded power of ten, after as many quotients by `10 ^ 308`
as a low exponent needs. Nothing if it is out of range. -/
def scaled : (fuel : Nat) → Binary64 → Int → Option Binary64
  | 0, x, _ => some x
  | fuel + 1, x, exponent =>
    if exponent.natAbs ≤ 308 then
      let power := nearest false 1 exponent.natAbs
      if exponent ≥ 0 then
        let y := x.mul power
        if y.isInfinite then none else some y
      else some (x.div power)
    else if x.isZero then some x
    else if exponent ≥ 0 then none
    else scaled fuel (x.div (nearest false 1 308)) (exponent + 308)

/-- The greatest exponent that is told from greater ones. -/
def greatestExponent : Nat := 2147483647

/-- The value as it is read quickly: digits past the significand count as zeros before the point and not at all
behind it, and only then is the power of ten applied. Nothing if it is out of range. -/
def toBinary64? (numeral : Numeral) : Option Binary64 :=
  let (whole, dropped) := leading 0 numeral.whole
  let fraction := numeral.fraction.getD []
  let (significand, ignored) := leading whole fraction
  let point : Int := (dropped : Int) - ((fraction.length - ignored : Nat) : Int)
  let (below, digits) := numeral.exponent.getD (false, [])
  let huge := value digits ≥ greatestExponent + 1
  let magnitude :=
    if huge then if significand ≠ 0 ∧ ¬below then none else some (.zero false)
    else
      let exponent := point + (if below then -(value digits : Int) else value digits)
      let exponent := max (-(greatestExponent : Int) - 1) (min exponent greatestExponent)
      scaled 8 (.ofNat significand) exponent
  magnitude.map fun x => if numeral.negative then x.neg else x

/-- Splits a numeral without sign off the head of a text. The whole part has no leading zero, and a point or an
exponent mark has digits behind it. -/
def take? (negative : Bool) (cs : List Char) : Option (Numeral × List Char) := do
  let (whole, cs) ← some1 cs
  guard (whole.head? ≠ some '0' ∨ whole.length = 1)
  let (fraction, cs) ← match cs with
    | '.' :: cs => (some1 cs).map fun (ds, cs) => (some (digits ds), cs)
    | cs => some (none, cs)
  let (exponent, cs) ← match cs with
    | 'e' :: cs | 'E' :: cs =>
      let (below, cs) := match cs with
        | '+' :: cs => (false, cs)
        | '-' :: cs => (true, cs)
        | cs => (false, cs)
      (some1 cs).map fun (ds, cs) => (some (below, digits ds), cs)
    | cs => some (none, cs)
  return (⟨negative, digits whole, fraction, exponent⟩, cs)
where
  some1 (cs : List Char) : Option (List Char × List Char) :=
    let ds := cs.takeWhile Char.isDigit
    if ds.isEmpty then none else some (ds, cs.drop ds.length)

end Numeral

/-- Reads a text as the nearest value: a numeral, `NaN` or `inf`. -/
def Binary64.parse? (text : String) : Option Binary64 :=
  match text.toList with
  | '-' :: cs => unsigned true cs
  | '+' :: cs => unsigned false cs
  | cs => unsigned false cs
where
  unsigned (negative : Bool) (cs : List Char) : Option Binary64 :=
    match String.ofList (cs.map Char.toLower) with
    | "nan" => some .nan
    | "inf" | "infinity" => some (.infinite negative)
    | _ =>
      match Numeral.take? negative cs with
      | some (numeral, []) => some numeral.exact
      | _ => none

end NatTraversal
