/-
  Limits of what can be written.

  A whole number is written or read only if it has at most `maxDigits` digits.  A decimal can have
  few digits and a huge exponent, and its plain text has a character for every zero that the
  exponent stands for; more than `maxCharacters` of them have no place in any memory.

  Neither limit shows in a number itself, so whoever writes one has to ask first.  A whole number
  that was asked about is `Writable`.
-/
import Typewright.Number.Decimal

namespace Typewright

/-! ## Whole numbers -/

/-- How many digits a whole number may have where it is read from a text or written as one. -/
def maxDigits : Nat := 4300

/-- A whole number has no more digits than can be written. -/
def isWritable (n : Int) : Bool := (Decimal.digits n.natAbs).length ≤ maxDigits

theorem isWritable_iff {n : Int} :
    isWritable n = true ↔ (Decimal.digits n.natAbs).length ≤ maxDigits := decide_eq_true_iff

/-- The words for a whole number with too many digits to be written. -/
def unwritableWords : String :=
  "Exceeds the limit (" ++ toString maxDigits ++ " digits) for integer string conversion; use " ++
    "sys.set_int_max_str_digits() to increase the limit"

/-- A whole number that can be written. -/
structure Writable where
  number : Int
  writable : isWritable number = true
  deriving DecidableEq, Repr

namespace Writable

/-- A whole number as one that can be written, if it can. -/
def ofInt? (n : Int) : Option Writable :=
  if h : isWritable n = true then some ⟨n, h⟩ else none

/-- A number below a thousand. -/
def ofFin (n : Fin 1000) : Writable where
  number := n.val
  writable := by
    have hdigits : (Decimal.digits n.val).length ≤ 3 :=
      (Decimal.lt_tenPow_iff (by decide)).mp n.isLt
    exact isWritable_iff.mpr (Nat.le_trans hdigits (by decide))

/-- The digits, behind a minus sign if one is due. -/
def digits (w : Writable) : String := toString w.number

theorem ofInt?_eq_some_iff {n : Int} {w : Writable} : ofInt? n = some w ↔ w.number = n := by
  unfold ofInt?
  constructor
  · intro h
    split at h
    · cases h; rfl
    · cases h
  · rintro rfl
    rw [dif_pos w.writable]

theorem ofInt?_eq_none_iff {n : Int} : ofInt? n = none ↔ isWritable n = false := by
  unfold ofInt?
  split
  next h => simp [h]
  next h => simpa using h

end Writable

/-! ## Plain texts of decimals -/

/-- How many characters a text may have: so many places are there for a process to address. -/
def maxCharacters : Nat := Nat.pow 2 47

namespace Decimal

/-- How many characters the text without an exponent has. -/
def plainLength (d : Decimal) : Nat :=
  (if d.negative then 1 else 0) +
    match d.exponent with
    | .ofNat scale => if d.coefficient = 0 then 1 else (digits d.coefficient).length + scale
    | .negSucc places => max (digits d.coefficient).length (places + 2) + 1

theorem length_pointed (places n : Nat) :
    (pointed places n).length = max (digits n).length (places + 1) + 1 := by
  simp only [pointed, List.length_append, List.length_cons, List.length_take, List.length_drop,
    List.length_replicate]
  omega

theorem length_scaledUp (zeros n : Nat) :
    (scaledUp zeros n).length = if n = 0 then 1 else (digits n).length + zeros := by
  unfold scaledUp
  split
  · rfl
  · rw [List.length_append, List.length_replicate]

/-- The length can be told without making the text. -/
theorem length_plainChars (d : Decimal) : d.plainChars.length = d.plainLength := by
  unfold plainChars plainLength
  rw [List.length_append]
  congr 1
  · cases d.negative <;> rfl
  · cases d.exponent with
    | ofNat scale => exact length_scaledUp scale d.coefficient
    | negSucc places => exact length_pointed (places + 1) d.coefficient

/-- The text without an exponent is no longer than a text can be. -/
def isShowable (d : Decimal) : Bool := d.plainLength ≤ maxCharacters

end Decimal

end Typewright
