import NatTraversal.Number.Rounding

namespace NatTraversal

/-- A number of 53 significant bits, as hardware computes with it. A finite one is `± mantissa * 2 ^ exponent`, with
the mantissa below `2 ^ 53` and the exponent from -1074 to 971; below `2 ^ 52` the exponent is -1074. -/
inductive Binary64 where
  | nan
  | infinite (negative : Bool)
  | finite (negative : Bool) (mantissa : Nat) (exponent : Int)
deriving DecidableEq, Repr

namespace Binary64

def zero (negative : Bool) : Binary64 := finite negative 0 (-1074)

/-- `n * 2 ^ e` as a fraction. -/
def fraction (n : Nat) (e : Int) : Nat × Nat :=
  match e with
  | .ofNat k => (n * Nat.pow 2 k, 1)
  | .negSucc k => (n, Nat.pow 2 (k + 1))

def bitLength (n : Nat) : Nat := if n = 0 then 0 else n.log2 + 1

/-- The value nearest to `± num / den`, of two the one with the even mantissa; infinite from half a step above the
greatest finite value on. -/
def ofFraction (negative : Bool) (num den : Nat) : Binary64 :=
  if num = 0 then zero negative
  else
    let guess : Int := max (bitLength num - bitLength den - 53) (-1074)
    let scaled (e : Int) : Nat × Nat := let (n, d) := fraction 1 e; (num * d, den * n)
    let exponent := if (scaled guess).1 ≥ Nat.pow 2 53 * (scaled guess).2 then guess + 1 else guess
    let mantissa := roundToEven (scaled exponent).1 (scaled exponent).2
    let (mantissa, exponent) := if mantissa = Nat.pow 2 53 then (Nat.pow 2 52, exponent + 1) else (mantissa, exponent)
    if exponent > 971 then infinite negative else finite negative mantissa exponent

def ofNat (n : Nat) : Binary64 := ofFraction false n 1

def one : Binary64 := ofNat 1

def isNan : Binary64 → Bool
  | nan => true
  | _ => false

def isInfinite : Binary64 → Bool
  | infinite _ => true
  | _ => false

def isZero : Binary64 → Bool
  | finite _ 0 _ => true
  | _ => false

def neg : Binary64 → Binary64
  | nan => nan
  | infinite s => infinite !s
  | finite s m e => finite (!s) m e

/-- The numerator over `2 ^ -e` of a finite value, for an `e` not above its exponent. -/
def numeratorAt (negative : Bool) (mantissa : Nat) (exponent e : Int) : Int :=
  let n : Int := (mantissa * Nat.pow 2 (exponent - e).toNat : Nat)
  if negative then -n else n

def add : Binary64 → Binary64 → Binary64
  | nan, _ => nan
  | _, nan => nan
  | infinite s, infinite t => if s = t then infinite s else nan
  | infinite s, _ => infinite s
  | _, infinite t => infinite t
  | finite s m e, finite t n f =>
    let low := min e f
    let sum := numeratorAt s m e low + numeratorAt t n f low
    if sum = 0 then zero (s && t)
    else
      let (num, den) := fraction sum.natAbs low
      ofFraction (sum < 0) num den

def mul : Binary64 → Binary64 → Binary64
  | nan, _ => nan
  | _, nan => nan
  | infinite s, infinite t => infinite (s != t)
  | infinite s, finite t n _ => if n = 0 then nan else infinite (s != t)
  | finite s m _, infinite t => if m = 0 then nan else infinite (s != t)
  | finite s m e, finite t n f =>
    let (num, den) := fraction (m * n) (e + f)
    ofFraction (s != t) num den

def div : Binary64 → Binary64 → Binary64
  | nan, _ => nan
  | _, nan => nan
  | infinite _, infinite _ => nan
  | infinite s, finite t _ _ => infinite (s != t)
  | finite s _ _, infinite t => zero (s != t)
  | finite s m e, finite t n f =>
    if n = 0 then if m = 0 then nan else infinite (s != t)
    else
      let (num, den) := fraction m (e - f)
      ofFraction (s != t) num (den * n)

/-- A power by repeated squaring: each step rounds, so the order of the products belongs to the result. -/
def pow (x : Binary64) (n : Nat) : Binary64 := go one x n
where
  go (acc x : Binary64) (n : Nat) : Binary64 :=
    let acc := if n % 2 = 1 then acc.mul x else acc
    if n / 2 = 0 then acc else go acc (x.mul x) (n / 2)
  termination_by n

/-- Strictly below one. -/
def belowOne : Binary64 → Bool
  | nan => false
  | infinite s => s
  | finite s m e => s || (let (num, den) := fraction m e; num < den)

/-- The nearest natural number below `2 ^ 64`, halves going up. A negative value gives 0, and so does no number. -/
def toWord : Binary64 → UInt64
  | nan => 0
  | infinite s => if s then 0 else .ofNat (Nat.pow 2 64 - 1)
  | finite s m e =>
    if s then 0
    else
      let (num, den) := fraction m e
      .ofNat (min (roundUp num den) (Nat.pow 2 64 - 1))

end Binary64

end NatTraversal
