/-
  The shortest decimal that reads back as a given binary number.

  The reals that round to a number of the format form an interval around it.  For 1, 2, … 17 digits
  the two decimals next to the number on that grid are tried: the first grid on which one of them
  lies in the interval gives the answer, and of two that do the nearer one, a tie going to the even
  digit.  If any point of a grid lies in the interval then one of the number's two neighbours on
  that grid does, so no shorter decimal is missed.
-/
import Typewright.Number.Binary64

namespace Typewright.Binary64

/-- The reals that round to a number, as quotients over one denominator. -/
structure Interval where
  /-- Lower end. -/
  low : Nat
  /-- The number itself. -/
  value : Nat
  /-- Upper end. -/
  high : Nat
  /-- The denominator of all three. -/
  den : Nat
  /-- Whether the ends belong to the interval. -/
  closed : Bool

/-- The interval of `mantissa · 2 ^ exponent`.  Below a power of two the numbers lie closer, so
    the lower half-gap is half as wide there. -/
def intervalOf (mantissa : Nat) (exponent : Int) : Interval :=
  let gap := if mantissa = twoPow 52 ∧ minExponent < exponent then 1 else 2
  let up := twoPow exponent.toNat
  { low := (4 * mantissa - gap) * up
    value := 4 * mantissa * up
    high := (4 * mantissa + 2) * up
    den := 4 * twoPow (-exponent).toNat
    closed := mantissa % 2 = 0 }

/-- The quotient `num / den` lies in the interval. -/
def Interval.holds (i : Interval) (num den : Nat) : Bool :=
  if i.closed then i.low * den ≤ num * i.den && num * i.den ≤ i.high * den
  else i.low * den < num * i.den && num * i.den < i.high * den

/-- The power of ten of the first digit of `num / den`. -/
def leadingPower (num den : Nat) : Int :=
  let guess : Int := (Decimal.digits num).length - (Decimal.digits den).length
  if den * tenPow guess.toNat ≤ num * tenPow (-guess).toNat then guess else guess - 1

/-- The point of the interval on the grid of `count` digits that is nearest to the number: its
    digits, and the power of ten of their unit. -/
def Interval.onGrid? (i : Interval) (count : Nat) : Option (Nat × Int) :=
  let unit : Int := leadingPower i.value i.den - ((count : Int) - 1)
  let up := tenPow unit.toNat
  let down := tenPow (-unit).toNat
  let below := i.value * down / (i.den * up)
  let holds (n : Nat) : Bool := i.holds (n * up) down
  let nearest := roundDiv (i.value * down) (i.den * up)
  if holds nearest then some (nearest, unit)
  else if holds below then some (below, unit)
  else if holds (below + 1) then some (below + 1, unit)
  else none

/-- The shortest decimal of a positive `mantissa · 2 ^ exponent`: its digits, and the power of ten
    of their unit. -/
def shortestDigits (mantissa : Nat) (exponent : Int) : Nat × Int :=
  let i := intervalOf mantissa exponent
  ((List.range 17).findSome? fun n => i.onGrid? (n + 1)).getD (0, 0)

/-- Digits without the zeros at their end, and the power of ten of the unit that is left. -/
def dropTrailingZeros (ds : List Char) (unit : Int) : List Char × Int :=
  let kept := (ds.reverse.dropWhile (· == '0')).reverse
  (kept, unit + (ds.length - kept.length : Int))

/-- Digits with the power of ten of their first: written out between `10 ^ -4` and `10 ^ 16`, with
    a point and at least one digit on either side of it; with an exponent of at least two digits
    elsewhere. -/
def layOut (ds : List Char) (lead : Int) : List Char :=
  if -4 ≤ lead ∧ lead < 16 then
    if lead < 0 then '0' :: '.' :: (List.replicate (-lead - 1).toNat '0' ++ ds)
    else
      let whole := lead.toNat + 1
      let ds := ds ++ List.replicate (whole + 1 - ds.length) '0'
      ds.take whole ++ '.' :: ds.drop whole
  else
    let power := Decimal.digits lead.natAbs
    Decimal.mantissaChars ds ++ 'e' :: (if lead < 0 then '-' else '+') ::
      (List.replicate (2 - power.length) '0' ++ power)

/-- The shortest text that reads back as the number. -/
def shortest : Binary64 → String
  | .finite negative m e =>
    let body :=
      if m = 0 then ['0', '.', '0']
      else
        let (n, unit) := shortestDigits m e
        let (ds, unit) := dropTrailingZeros (Decimal.digits n) unit
        layOut ds (unit + (ds.length - 1 : Int))
    String.ofList (Decimal.signChars negative ++ body)
  | .infinite negative => if negative then "-inf" else "inf"
  | .undefined => "nan"

end Typewright.Binary64
