/-
  Decimal numbers that keep the scale they were written with: `1.50` and `1.5` have one value but
  are two decimals, and each is written back with its own digits.

  A decimal is a sign, a coefficient and a power of ten.  There is a negative zero, and a zero has
  an exponent like any other coefficient.  Two texts are given: the plain one, which never has an
  exponent, and the scientific one, which is plain for small scales and lets the scale be read off
  in every case.  Comparison is by value.
-/

namespace Typewright

/-- The number `± coefficient · 10 ^ exponent`. -/
structure Decimal where
  /-- The sign; a zero has one too. -/
  negative : Bool
  /-- The digits, as a number. -/
  coefficient : Nat
  /-- The power of ten the digits are scaled by. -/
  exponent : Int
  deriving DecidableEq, Repr

/-- The power of ten with a natural exponent. -/
def tenPow (n : Nat) : Nat := Nat.pow 10 n

namespace Decimal

/-- The digits `0` to `9` of a number, without zeros in front. -/
def digits (n : Nat) : List Char := Nat.toDigits 10 n

/-- A whole number as a decimal. -/
def ofInt (n : Int) : Decimal := ⟨n < 0, n.natAbs, 0⟩

/-- The power of ten of the first digit. -/
def adjusted (d : Decimal) : Int := d.exponent + ((digits d.coefficient).length - 1 : Int)

/-- The coefficient with its sign. -/
def signed (d : Decimal) : Int := if d.negative then -(d.coefficient : Int) else d.coefficient

/-! ## Texts -/

/-- A minus sign where one is due. -/
def signChars (negative : Bool) : List Char := if negative then ['-'] else []

/-- The digits of `n` with a point before the last `places` of them; at least one digit stands
    before the point. -/
def pointed (places n : Nat) : List Char :=
  let ds := digits n
  let ds := List.replicate (places + 1 - ds.length) '0' ++ ds
  ds.take (ds.length - places) ++ '.' :: ds.drop (ds.length - places)

/-- The digits of `n` with zeros behind them; a zero stays a single one. -/
def scaledUp (zeros n : Nat) : List Char :=
  if n = 0 then digits 0 else digits n ++ List.replicate zeros '0'

/-- The text without an exponent: zeros are added behind for a positive scale, and a point is put
    among the digits for a negative one. -/
def plainChars (d : Decimal) : List Char :=
  signChars d.negative ++
    match d.exponent with
    | .ofNat scale => scaledUp scale d.coefficient
    | .negSucc places => pointed (places + 1) d.coefficient

/-- The digits with a point after the first one; a single digit has no point. -/
def mantissaChars : List Char → List Char
  | [] => []
  | [c] => [c]
  | c :: cs => c :: '.' :: cs

/-- A power of ten with its sign. -/
def exponentChars (e : Int) : List Char :=
  'E' :: (if e < 0 then '-' else '+') :: digits e.natAbs

/-- Written without an exponent in the scientific text: no scale above the units, and at most six
    places between the point and the first digit. -/
def isPlain (d : Decimal) : Bool := d.exponent ≤ 0 && -6 ≤ d.adjusted

/-- The text that shows the digits and the scale exactly. -/
def scientificChars (d : Decimal) : List Char :=
  if d.isPlain then d.plainChars
  else signChars d.negative ++ mantissaChars (digits d.coefficient) ++ exponentChars d.adjusted

/-- The text without an exponent. -/
def plain (d : Decimal) : String := String.ofList d.plainChars

/-- The text that shows the digits and the scale exactly. -/
def scientific (d : Decimal) : String := String.ofList d.scientificChars

@[simp] theorem toList_plain (d : Decimal) : d.plain.toList = d.plainChars := by simp [plain]

@[simp] theorem toList_scientific (d : Decimal) : d.scientific.toList = d.scientificChars := by
  simp [scientific]

theorem digits_mul_ten {n : Nat} (h : n ≠ 0) : digits (n * 10) = digits n ++ ['0'] := by
  have := Nat.toDigits_of_base_le (b := 10) (n := n * 10) (by decide) (by omega)
  simpa [digits, Nat.digitChar] using this

/-- Zeros behind the digits multiply by a power of ten. -/
theorem scaledUp_eq (zeros n : Nat) : scaledUp zeros n = digits (n * tenPow zeros) := by
  by_cases h : n = 0
  · simp [scaledUp, h]
  · simp only [scaledUp, if_neg h]
    induction zeros with
    | zero => simp [tenPow]
    | succ k ih =>
      have hk : n * tenPow k ≠ 0 := Nat.mul_ne_zero h (Nat.ne_of_gt (Nat.pow_pos (by decide)))
      have hs : n * tenPow (k + 1) = n * tenPow k * 10 := by
        simp [tenPow, Nat.pow_succ, Nat.mul_assoc]
      rw [hs, digits_mul_ten hk, ← ih, List.replicate_succ', List.append_assoc]

/-! ## Comparison by value -/

/-- The coefficient, with its sign, on the scale `10 ^ e` for an `e` that is not above the
    exponent. -/
def onScale (d : Decimal) (e : Int) : Int := d.signed * (tenPow (d.exponent - e).toNat : Int)

/-- The digits of one decimal are smaller than those of another on the smaller of the two
    scales. -/
def lessOnScale (a b : Decimal) : Bool :=
  let e := min a.exponent b.exponent
  a.onScale e < b.onScale e

/-- Smaller in value.  Only decimals of one sign, with first digits of one power of ten, have to
    be brought to one scale, which then adds no more zeros than they have digits. -/
def less (a b : Decimal) : Bool :=
  if a.coefficient = 0 ∨ b.coefficient = 0 ∨ a.negative ≠ b.negative then a.signed < b.signed
  else if a.adjusted = b.adjusted then a.lessOnScale b
  else if a.negative then b.adjusted < a.adjusted
  else a.adjusted < b.adjusted

theorem digits_length_pos (n : Nat) : 0 < (digits n).length := Nat.length_toDigits_pos

theorem lt_tenPow_iff {n k : Nat} (hk : 0 < k) : n < tenPow k ↔ (digits n).length ≤ k :=
  (Nat.length_toDigits_le_iff (by decide) hk).symm

theorem tenPow_le_coefficient {n : Nat} (h : n ≠ 0) : tenPow ((digits n).length - 1) ≤ n := by
  by_cases hk : (digits n).length - 1 = 0
  · rw [hk]
    exact Nat.one_le_iff_ne_zero.2 h
  · refine Nat.le_of_not_lt fun hlt => ?_
    have := (lt_tenPow_iff (Nat.pos_of_ne_zero hk)).1 hlt
    have := digits_length_pos n
    omega

theorem scaled_lt_scaled {m n p q : Nat} (hn : n ≠ 0)
    (h : (digits m).length + p < (digits n).length + q) : m * tenPow p < n * tenPow q := by
  have hm : m < tenPow (digits m).length := (lt_tenPow_iff (digits_length_pos m)).2 (Nat.le_refl _)
  have hpos := digits_length_pos n
  calc m * tenPow p < tenPow (digits m).length * tenPow p :=
        Nat.mul_lt_mul_of_pos_right hm (Nat.pow_pos (by decide))
    _ = tenPow ((digits m).length + p) := (Nat.pow_add ..).symm
    _ ≤ tenPow ((digits n).length - 1 + q) := Nat.pow_le_pow_right (by decide) (by omega)
    _ = tenPow ((digits n).length - 1) * tenPow q := Nat.pow_add ..
    _ ≤ n * tenPow q := Nat.mul_le_mul_right _ (tenPow_le_coefficient hn)

theorem scaled_lt_of_adjusted_lt {a b : Decimal} (hb : b.coefficient ≠ 0)
    (h : a.adjusted < b.adjusted) {e : Int} (ha : e ≤ a.exponent) (hb' : e ≤ b.exponent) :
    a.coefficient * tenPow (a.exponent - e).toNat <
      b.coefficient * tenPow (b.exponent - e).toNat := by
  apply scaled_lt_scaled hb
  simp only [adjusted] at h
  omega

theorem onScale_eq {d : Decimal} {e : Int} :
    d.onScale e = if d.negative then -((d.coefficient * tenPow (d.exponent - e).toNat : Nat) : Int)
      else ((d.coefficient * tenPow (d.exponent - e).toNat : Nat) : Int) := by
  simp only [onScale, signed, Int.natCast_mul]
  split
  · exact Int.neg_mul ..
  · rfl

/-- Where powers of ten decide, they decide as the digits on one scale do. -/
theorem less_eq_lessOnScale (a b : Decimal) : a.less b = a.lessOnScale b := by
  have hea : min a.exponent b.exponent ≤ a.exponent := Int.min_le_left ..
  have heb : min a.exponent b.exponent ≤ b.exponent := Int.min_le_right ..
  have hpa : 0 < tenPow (a.exponent - min a.exponent b.exponent).toNat := Nat.pow_pos (by decide)
  have hpb : 0 < tenPow (b.exponent - min a.exponent b.exponent).toNat := Nat.pow_pos (by decide)
  have up : a.adjusted < b.adjusted → b.coefficient ≠ 0 → _ := fun h h0 =>
    scaled_lt_of_adjusted_lt h0 h hea heb
  have down : b.adjusted < a.adjusted → a.coefficient ≠ 0 → _ := fun h h0 =>
    scaled_lt_of_adjusted_lt h0 h heb hea
  simp only [less, lessOnScale, onScale_eq, signed]
  generalize tenPow (a.exponent - min a.exponent b.exponent).toNat = p at *
  generalize tenPow (b.exponent - min a.exponent b.exponent).toNat = q at *
  have hp : a.coefficient ≠ 0 → 0 < a.coefficient * p := fun h => Nat.mul_pos (by omega) hpa
  have hq : b.coefficient ≠ 0 → 0 < b.coefficient * q := fun h => Nat.mul_pos (by omega) hpb
  by_cases ha : a.coefficient = 0 <;> by_cases hb : b.coefficient = 0 <;>
    by_cases sa : a.negative <;> by_cases sb : b.negative <;> simp [ha, hb, sa, sb] <;> grind

/-! ## Limits -/

/-- The largest power of ten a first digit may have. -/
def maxAdjusted : Int := 999999999999999999

/-- The smallest power of ten a last digit may have. -/
def minExponent : Int := -1999999999999999997

/-- The decimal can be held exactly. -/
def inRange (d : Decimal) : Bool := minExponent ≤ d.exponent && d.adjusted ≤ maxAdjusted

end Decimal

end Typewright
