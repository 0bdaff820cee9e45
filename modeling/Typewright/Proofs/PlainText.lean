/-
  Bounds as plain texts.

  A bound is shown without a power of ten.  If its exponent is positive, the zeros that it stands
  for are written out; if it is negative, a point stands among the digits, and zeros in front of
  them where there are too few.

    bound      digits   exponent   text
    1E+3       1          3        1000
    -0E+2      0          2        -0
    15E-1      15        -1        1.5
    15E-4      15        -4        0.0015

  So the text is that of another decimal than the bound if the exponent is positive: of the one with
  the zeros among its digits (`expanded`).  Both have one value (`toRat_expanded`), and if the bound
  can be held, the other can be held too (`inRange_expanded`).  Therefore what is read back from the
  text is the number that the bound is, although it may be another decimal (`shownBy_plainChars`).
-/
import Typewright.Proofs.DecimalText
import Typewright.Proofs.Question
import Typewright.Proofs.RoundTrip

namespace Typewright

namespace Decimal

/-! ## Plain texts -/

/-- Nothing but digits, and at least one of them. -/
structure IsDigits (ds : List Char) : Prop where
  nonempty : ds ≠ []
  digits : ∀ c ∈ ds, c.isDigit = true

/-- A minus sign or none, then digits, and then a point with digits behind it or nothing. -/
def IsPlainText (s : List Char) : Prop :=
  ∃ sign whole rest, s = sign ++ (whole ++ rest) ∧ (sign = [] ∨ sign = ['-']) ∧ IsDigits whole ∧
    (rest = [] ∨ ∃ fraction, rest = '.' :: fraction ∧ IsDigits fraction)

/-- A text shows a decimal: it is plain, it spells the value of the decimal and no other number, and
    if the decimal can be held, a decimal of this value is read from the text. -/
structure ShownBy (d : Decimal) (s : List Char) : Prop where
  plain : IsPlainText s
  spells : ∀ q, Spells s q ↔ d.toRat = q
  read : d.inRange = true → ∃ d', Decimal.read s = .number d' ∧ d'.toRat = d.toRat

/-! ## Zeros written out -/

/-- Writing out the zeros does not change the value. -/
theorem toRat_expanded (d : Decimal) : d.expanded.toRat = d.toRat := by
  have hzeros : (d.exponent - min d.exponent 0).toNat = d.exponent.toNat := by omega
  have hsigned : d.expanded.signed = d.onScale (min d.exponent 0) := by
    rw [onScale_eq, hzeros]
    rfl
  rw [toRat_eq_onScale (min_le_left d.exponent 0), ← hsigned]
  rfl

/-- Each zero behind the digits of a number is one more digit. -/
theorem length_digits_mul {n : Nat} (h : n ≠ 0) (zeros : Nat) :
    (digits (n * tenPow zeros)).length = (digits n).length + zeros := by
  rw [← scaledUp_eq, scaledUp, if_neg h, List.length_append, List.length_replicate]

theorem exponent_expanded {d : Decimal} (h : 0 ≤ d.exponent) : d.expanded.exponent = 0 :=
  min_eq_right h

/-- Writing out the zeros leaves the power of ten of the first digit, but for a zero. -/
theorem adjusted_expanded {d : Decimal} (h : 0 ≤ d.exponent) :
    d.expanded.adjusted = if d.coefficient = 0 then 0 else d.adjusted := by
  have hzeros : (d.exponent.toNat : Int) = d.exponent := Int.toNat_of_nonneg h
  rw [adjusted, exponent_expanded h]
  split
  next hzero =>
    have hnone : d.expanded.coefficient = 0 := by rw [expanded, hzero, Nat.zero_mul]
    rw [hnone]
    decide
  next hne =>
    have hlength : (digits d.expanded.coefficient).length =
        (digits d.coefficient).length + d.exponent.toNat := length_digits_mul hne _
    rw [adjusted, hlength]
    omega

/-- What can be held can be held with its zeros written out. -/
theorem inRange_expanded {d : Decimal} (h : d.inRange = true) : d.expanded.inRange = true := by
  by_cases hexponent : d.exponent ≤ 0
  · rwa [expanded_eq_self hexponent]
  · have hpositive : 0 ≤ d.exponent := le_of_not_ge hexponent
    simp only [inRange, Bool.and_eq_true, decide_eq_true_eq] at h ⊢
    rw [exponent_expanded hpositive, adjusted_expanded hpositive]
    refine ⟨by decide, ?_⟩
    split
    · decide
    · exact h.2

/-! ## What a plain text says -/

namespace PlainShape

variable {d : Decimal} {whole fraction : List Char}

theorem isPlainText (h : PlainShape d whole fraction) : IsPlainText d.plainChars := by
  obtain ⟨hwhole, hfraction⟩ := List.forall_mem_append.mp h.digits
  refine ⟨signChars d.negative, whole, _, h.text, ?_, ⟨h.nonempty, hwhole⟩, ?_⟩
  · cases d.negative with
    | true => exact .inr rfl
    | false => exact .inl rfl
  · split
    next => exact .inl rfl
    next hne => exact .inr ⟨fraction, rfl, hne, hfraction⟩

/-- The number that a plain text writes out. -/
theorem writes (h : PlainShape d whole fraction) :
    Numeral.Writes ⟨d.negative, whole, fraction, 0⟩ d.plainChars := by
  have hwrites := writes_withFraction d.negative h.nonempty h.digits .absent
  rwa [List.append_nil, ← h.text] at hwrites

/-- That number comes to the decimal with its zeros written out. -/
theorem decimal_eq (h : PlainShape d whole fraction) :
    Numeral.decimal ⟨d.negative, whole, fraction, 0⟩ = d.expanded := by
  rw [Numeral.decimal, h.coefficient, zero_sub, h.exponent]
  rfl

/-- The reader cleans nothing away. -/
theorem normalize_eq (h : PlainShape d whole fraction) :
    normalize d.plainChars = d.plainChars := by
  refine normalize_eq_self ?_
  rw [h.text]
  exact List.forall_mem_append.mpr ⟨mem_numerals_signChars, mem_numerals_withFraction h.digits⟩

end PlainShape

/-- **The plain text of a decimal shows it**, whatever its sign, its digits and its exponent. -/
theorem shownBy_plainChars (d : Decimal) : d.ShownBy d.plainChars := by
  obtain ⟨whole, fraction, h⟩ := d.exists_plainShape
  have hwrites : Numeral.Writes ⟨d.negative, whole, fraction, 0⟩ (normalize d.plainChars) := by
    rw [h.normalize_eq]
    exact h.writes
  constructor
  case plain => exact h.isPlainText
  case spells =>
    intro q
    constructor
    · rintro ⟨n, hn, rfl⟩
      rw [← n.toRat_decimal, hn.decimal_eq hwrites, h.decimal_eq, toRat_expanded]
    · rintro rfl
      refine ⟨_, hwrites, ?_⟩
      rw [← Numeral.toRat_decimal, h.decimal_eq, toRat_expanded]
  case read =>
    intro hrange
    have hread := read_eq_number_iff.mpr ⟨⟨_, hwrites, h.decimal_eq⟩, inRange_expanded hrange⟩
    exact ⟨d.expanded, hread, d.toRat_expanded⟩

example : plain ⟨false, 1, 3⟩ = "1000" ∧ plain ⟨true, 0, 2⟩ = "-0" ∧
    plain ⟨false, 15, -1⟩ = "1.5" ∧ plain ⟨false, 15, -4⟩ = "0.0015" := by decide

end Decimal

/-! ## Bounds -/

namespace Context

theorem ask_min_value (c : Context) :
    c.ask "min_value" = some (ofText (decimalText c.subject.constraints.minValue)) :=
  c.ask_eq_some_iff.mpr (by simp [groupedQuestions, valueQuestions])

theorem ask_max_value (c : Context) :
    c.ask "max_value" = some (ofText (decimalText c.subject.constraints.maxValue)) :=
  c.ask_eq_some_iff.mpr (by simp [groupedQuestions, valueQuestions])

theorem decimalText_some (d : Decimal) : decimalText (some d) = Text.ofChars d.plainChars := by
  simp [decimalText, Text.ofString]

end Context

namespace Model

open Context

/-- An attribute with bounds whose zeros are not written out. -/
def price : Attribute :=
  { Attribute.plain ⟨"price", by decide⟩ .decimal with
    constraints := ⟨false, false, false, false, none, none, none, some ⟨true, 0, 2⟩,
      some ⟨false, 1, 3⟩, none, none, none, none⟩ }

/-- What has a price. -/
def article : Entity where
  className := "Article"
  table := none
  attributes := [price]
  className_ne := by decide
  distinct := by decide
  composite := by decide

/-- A model with a single attribute, which has bounds. -/
def priceList : Model where
  name := "prices"
  entities := [article]
  name_ne := by decide
  distinct := by decide

/-- The context in which the price is shown. -/
def priceContext : Context := fresh priceList .standard article price (by decide +kernel)

theorem price_readable : price.Readable where
  name := ⟨"price", rfl⟩
  constraints := ⟨by decide, by decide⟩
  parts := List.forall_mem_nil _
  tags := ⟨List.nodup_nil, List.forall_mem_nil _⟩

end Model

end Typewright
