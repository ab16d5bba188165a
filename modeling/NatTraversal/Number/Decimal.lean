import NatTraversal.Number.Binary64

namespace NatTraversal

namespace Decimal

/-- `digits * 10 ^ exponent` without exponent or trailing zeros behind the point. -/
def positional (digits : Nat) (exponent : Int) : String :=
  match exponent with
  | .ofNat k => toString digits ++ String.ofList (List.replicate k '0')
  | .negSucc k =>
    let places := k + 1
    let all := (toString digits).toList
    let all := List.replicate (places + 1 - all.length) '0' ++ all
    let whole := all.take (all.length - places)
    let behind := ((all.drop (all.length - places)).reverse.dropWhile (· == '0')).reverse
    String.ofList (if behind.isEmpty then whole else whole ++ '.' :: behind)

/-- The multiple of `10 ^ k` nearest to a value among its neighbours on that grid that read back as the value, if
there is one. All numbers are given over one denominator: the value, and the ends of the interval around it whose
numbers round to it, `closed` telling whether the ends do. -/
def onGrid (low value high den : Nat) (closed : Bool) (k : Int) : Option Nat :=
  let (step, den) := match k with
    | .ofNat n => (Nat.pow 10 n * den, 1)
    | .negSucc n => (den, Nat.pow 10 (n + 1))
  let reads (c : Nat) : Bool :=
    let x := c * step
    if closed then low * den ≤ x && x ≤ high * den else low * den < x && x < high * den
  let below := value * den / step
  match reads below && below != 0, reads (below + 1) with
  | true, true =>
    let up := (below + 1) * step - value * den
    let down := value * den - below * step
    some (if up < down || (up == down && below % 2 == 1) then below + 1 else below)
  | true, false => some below
  | false, true => some (below + 1)
  | false, false => none

/-- The first grid with a hit, from `10 ^ k` downwards. -/
def coarsest (low value high den : Nat) (closed : Bool) : (fuel : Nat) → Int → Nat × Int
  | 0, k => (0, k)
  | fuel + 1, k =>
    match onGrid low value high den closed k with
    | some c => (c, k)
    | none => coarsest low value high den closed fuel (k - 1)

/-- The shortest decimal that reads back as the value, the nearest of those. Eighteen grids are enough: seventeen
digits tell all values apart. -/
def shortest (mantissa : Nat) (exponent : Int) : Nat × Int :=
  let (unit, den) := Binary64.fraction 1 (exponent - 2)
  let low := if mantissa = Nat.pow 2 52 ∧ exponent > -1074 then 4 * mantissa - 1 else 4 * mantissa - 2
  let value := 4 * mantissa * unit
  let top : Int := (toString (value / den)).length
  let start := if value / den = 0 then 1 - ((toString (den / value)).length : Int) + 1 else top
  coarsest (low * unit) value ((4 * mantissa + 2) * unit) den (mantissa % 2 == 0) 20 start

end Decimal

/-- The shortest positional text that reads back as the value. -/
def Binary64.text : Binary64 → String
  | nan => "NaN"
  | infinite s => if s then "-inf" else "inf"
  | finite s m e =>
    let magnitude := if m = 0 then "0" else
      let (digits, exponent) := Decimal.shortest m e
      Decimal.positional digits exponent
    if s then "-" ++ magnitude else magnitude

end NatTraversal
