/-
  Numbers of the binary format with 53 significant bits, in exact arithmetic.

  A finite number is `± mantissa · 2 ^ exponent` with a mantissa below `2 ^ 53` and an exponent
  between `-1074` and `971`.  Every operation computes the exact result as a quotient of naturals
  and rounds it once, to the nearest number of the format, a tie going to the even mantissa.
-/
import Typewright.Number.Decimal

namespace Typewright

/-- A number of the format, an infinity, or the undefined number. -/
inductive Binary64 where
  /-- `± mantissa · 2 ^ exponent`. -/
  | finite (negative : Bool) (mantissa : Nat) (exponent : Int)
  /-- An infinity. -/
  | infinite (negative : Bool)
  /-- The result of an undefined operation. -/
  | undefined
  deriving DecidableEq, Repr

/-- The power of two with a natural exponent. -/
def twoPow (n : Nat) : Nat := Nat.pow 2 n

/-- The natural nearest to `num / den`; a tie goes to the even one. -/
def roundDiv (num den : Nat) : Nat :=
  let q := num / den
  let twice := 2 * (num % den)
  if twice < den then q
  else if den < twice then q + 1
  else if q % 2 = 0 then q
  else q + 1

namespace Binary64

/-- The smallest exponent. -/
def minExponent : Int := -1074

/-- The largest exponent. -/
def maxExponent : Int := 971

/-- The positive zero. -/
def zero : Binary64 := .finite false 0 minExponent

/-- `num / den · 2 ^ -e` as a quotient of naturals. -/
def rescale (num den : Nat) (e : Int) : Nat × Nat :=
  (num * twoPow (-e).toNat, den * twoPow e.toNat)

/-- The exponent on which the mantissa of `num / den` has 53 bits, unless that is too small an
    exponent. -/
def exponentFor (num den : Nat) : Int :=
  let guess : Int := num.log2 - den.log2 - 53
  let (n, d) := rescale num den guess
  max minExponent (if twoPow 53 ≤ n / d then guess + 1 else guess)

/-- The number of the format nearest to `± num / den`. -/
def ofQuotient (negative : Bool) (num den : Nat) : Binary64 :=
  if num = 0 then .finite negative 0 minExponent
  else
    let e := exponentFor num den
    let (n, d) := rescale num den e
    let m := roundDiv n d
    let (m, e) := if m = twoPow 53 then (twoPow 52, e + 1) else (m, e)
    if maxExponent < e then .infinite negative else .finite negative m e

/-- Beyond this power of ten a first digit is too large, or too small, for the format. -/
def decimalReach : Int := 400

/-- The number of the format nearest to a decimal. -/
def ofDecimal (d : Decimal) : Binary64 :=
  if d.coefficient = 0 ∨ d.adjusted < -decimalReach then .finite d.negative 0 minExponent
  else if decimalReach < d.adjusted then .infinite d.negative
  else ofQuotient d.negative (d.coefficient * tenPow d.exponent.toNat)
    (tenPow (-d.exponent).toNat)

/-- The number of the format nearest to a whole number. -/
def ofInt (n : Int) : Binary64 := ofQuotient (n < 0) n.natAbs 1

/-- The number of the format nearest to a whole number, unless the whole number is too large. -/
def ofInt? (n : Int) : Option Binary64 :=
  match ofInt n with
  | .finite negative m e => some (.finite negative m e)
  | _ => none

/-- The mantissa, with its sign, on the scale `2 ^ scale` for a `scale` not above the exponent. -/
def onScale (negative : Bool) (mantissa : Nat) (exponent scale : Int) : Int :=
  let m : Int := (mantissa * twoPow (exponent - scale).toNat : Nat)
  if negative then -m else m

/-- The sum.  An exact zero is negative only if both terms are. -/
def add : Binary64 → Binary64 → Binary64
  | .finite s m e, .finite t n f =>
    let scale := min e f
    let sum := onScale s m e scale + onScale t n f scale
    if sum = 0 then .finite (s && t) 0 minExponent
    else
      let (num, den) := rescale sum.natAbs 1 (-scale)
      ofQuotient (sum < 0) num den
  | .infinite s, .infinite t => if s = t then .infinite s else .undefined
  | .infinite s, .finite .. => .infinite s
  | .finite .., .infinite t => .infinite t
  | .undefined, _ => .undefined
  | _, .undefined => .undefined

/-- The product. -/
def mul : Binary64 → Binary64 → Binary64
  | .finite s m e, .finite t n f =>
    let (num, den) := rescale (m * n) 1 (-(e + f))
    ofQuotient (s != t) num den
  | .infinite s, .infinite t => .infinite (s != t)
  | .infinite s, .finite t m _ => if m = 0 then .undefined else .infinite (s != t)
  | .finite s m _, .infinite t => if m = 0 then .undefined else .infinite (s != t)
  | .undefined, _ => .undefined
  | _, .undefined => .undefined

/-- The whole number that a number is, if it is one. -/
def toInt? : Binary64 → Option Int
  | .finite negative m e =>
    let (num, den) := rescale m 1 (-e)
    if num % den = 0 then
      let n : Int := (num / den : Nat)
      some (if negative then -n else n)
    else none
  | _ => none

/-- The number with the other sign. -/
def negate : Binary64 → Binary64
  | .finite negative m e => .finite (!negative) m e
  | .infinite negative => .infinite (!negative)
  | .undefined => .undefined

/-- A whole number is at most as large as a number. -/
def intLe (n : Int) : Binary64 → Bool
  | .finite negative m e =>
    let (num, den) := rescale m 1 (-e)
    n * den ≤ if negative then -(num : Int) else num
  | .infinite negative => !negative
  | .undefined => false

/-- A number is at most as large as a whole number. -/
def leInt (x : Binary64) (n : Int) : Bool := intLe (-n) x.negate

/-! ## A fixed number of places -/

/-- The number rounded to `places` decimal places, a tie going to the even digit. -/
def fixedPlaces (places : Nat) : Binary64 → String
  | .finite negative m e =>
    let (num, den) := rescale m 1 (-e)
    (Decimal.mk negative (roundDiv (num * tenPow places) den) (-(places : Int))).plain
  | .infinite negative => if negative then "-inf" else "inf"
  | .undefined => "nan"

end Binary64

end Typewright
