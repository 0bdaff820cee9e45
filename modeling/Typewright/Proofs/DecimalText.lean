/-
  A decimal is read back from its scientific text.

  The text keeps the digits and the scale.  It has the shape of digits, digits behind a point, and a
  power of ten, the last two of which may be absent, with a sign in front (`exists_shape`).  Without
  a power of ten it is the plain text, whose shape is found first (`exists_plainShape`).  So it
  writes out a number (`Shape.writes`).  What this comes to does not depend on where the point
  stands: the digits in front of it and behind it are the coefficient, and every digit behind it
  lowers the power of ten by one (`Shape.decimal_eq`).

    text        digits   behind the point   power   exponent
    150         150      0                   0        0
    1.50        150      2                   0       -2
    1.50E+7     150      2                   7        5
    1E-9        1        0                  -9       -9

  None of its characters is one that the reader cleans away, so that a decimal that can be held is
  read back with its coefficient and its exponent (`read_scientificChars`); and nothing else is ever
  read (`inRange_of_read`).
-/
import Typewright.Proofs.Numeral
import Typewright.Proofs.Trimming

namespace Typewright.Decimal

open Typewright.Text

/-! ## Characters -/

/-- The reader cleans no character of a scientific text away, and changes none. -/
theorem cleaned_numeral : ∀ c ∈ numerals,
    isBlankChar c = false ∧ (c != '_') = true ∧ plainDigit c = c := by
  have hall : numerals.all fun c => !isBlankChar c && c != '_' && plainDigit c == c := by
    decide +kernel
  intro c hc
  simpa [and_assoc] using List.all_eq_true.mp hall c hc

theorem normalize_eq_self {s : List Char} (h : ∀ c ∈ s, c ∈ numerals) : normalize s = s := by
  have hstripped : stripped isBlankChar s = s :=
    stripped_eq_self_iff.mpr
      ⟨fun c hc => (cleaned_numeral c (h c (List.mem_of_mem_head? hc))).1,
        fun c hc => (cleaned_numeral c (h c (List.mem_of_mem_getLast? hc))).1⟩
  have hfiltered : s.filter (· != '_') = s :=
    List.filter_eq_self.mpr fun c hc => (cleaned_numeral c (h c hc)).2.1
  have hdigits : s.map plainDigit = s :=
    (List.map_congr_left fun c hc => (cleaned_numeral c (h c hc)).2.2).trans (List.map_id s)
  rw [normalize, hstripped, hfiltered, hdigits]

theorem digits_ne_nil (n : Nat) : digits n ≠ [] := Nat.toDigits_ne_nil

theorem isDigit_of_mem_digits {n : Nat} {c : Char} (h : c ∈ digits n) : c.isDigit = true :=
  Nat.isDigit_of_mem_toDigits (by decide) (by decide) h

@[simp] theorem ofDigits_digits (n : Nat) : ofDigits (digits n) = n :=
  Nat.ofDigitChars_toDigits (by decide) (by decide)

/-- Zeros in front do not count. -/
theorem ofDigits_zeros_append (k : Nat) (ds : List Char) :
    ofDigits (List.replicate k '0' ++ ds) = ofDigits ds := by
  simp [ofDigits, Nat.ofDigitChars_append, Nat.ofDigitChars_replicate_zero]

/-! ## Digits with a point among them -/

/-- Digits, with a point and more digits behind them if there are more. -/
def withFraction (whole fraction : List Char) : List Char :=
  whole ++ if fraction = [] then [] else '.' :: fraction

theorem signText_signChars (negative : Bool) : SignText negative (signChars negative) := by
  cases negative with
  | true => exact .minus
  | false => exact .absent

theorem fractionText_of_shape (fraction : List Char) :
    FractionText fraction (if fraction = [] then [] else '.' :: fraction) := by
  split
  next hnone => exact hnone ▸ .absent
  next => exact .point fraction

section Parts

variable {whole fraction tail : List Char} {power : Int}

/-- The number that such digits write out, with a power of ten behind them. -/
theorem writes_withFraction (negative : Bool) (hne : whole ≠ [])
    (hdigits : ∀ c ∈ whole ++ fraction, c.isDigit = true) (htail : PowerText power tail) :
    Numeral.Writes ⟨negative, whole, fraction, power⟩
      (signChars negative ++ (withFraction whole fraction ++ tail)) := by
  have hall : whole ++ fraction ≠ [] := List.append_ne_nil_of_left_ne_nil hne fraction
  refine ⟨signChars negative, withFraction whole fraction ++ tail, rfl, signText_signChars _,
    ⟨hdigits, hall⟩, _, tail, ?_, fractionText_of_shape fraction, htail⟩
  rw [withFraction, List.append_assoc]

theorem mem_numerals_signChars {negative : Bool} : ∀ c ∈ signChars negative, c ∈ numerals := by
  cases negative <;> simp [signChars, numerals]

theorem mem_numerals_withFraction (hdigits : ∀ c ∈ whole ++ fraction, c.isDigit = true) :
    ∀ c ∈ withFraction whole fraction, c ∈ numerals := by
  obtain ⟨hwhole, hfraction⟩ := List.forall_mem_append.mp hdigits
  refine List.forall_mem_append.mpr ⟨fun c hc => mem_numerals_of_isDigit (hwhole c hc), ?_⟩
  split
  · simp
  · exact List.forall_mem_cons.mpr
      ⟨by decide, fun c hc => mem_numerals_of_isDigit (hfraction c hc)⟩

end Parts

/-! ## The shape of a plain text -/

/-- The same number with all zeros written out, so that the power of ten is not positive. -/
def expanded (d : Decimal) : Decimal :=
  ⟨d.negative, d.coefficient * tenPow d.exponent.toNat, min d.exponent 0⟩

theorem expanded_eq_self {d : Decimal} (h : d.exponent ≤ 0) : d.expanded = d := by
  have hone : tenPow d.exponent.toNat = 1 := by
    rw [Int.toNat_eq_zero.mpr h]
    rfl
  rw [expanded, hone, Nat.mul_one, min_eq_left h]

/-- The parts of a plain text without its sign. -/
structure PlainShape (d : Decimal) (whole fraction : List Char) : Prop where
  text : d.plainChars = signChars d.negative ++ withFraction whole fraction
  nonempty : whole ≠ []
  digits : ∀ c ∈ whole ++ fraction, c.isDigit = true
  coefficient : ofDigits (whole ++ fraction) = d.expanded.coefficient
  exponent : -(fraction.length : Int) = d.expanded.exponent

/-- The digits of `n` with a point among them, and zeros in front if there are too few of them. -/
theorem pointed_eq {places : Nat} (hplaces : places ≠ 0) (n : Nat) :
    ∃ whole fraction zeros, pointed places n = withFraction whole fraction ∧ whole ≠ [] ∧
      fraction.length = places ∧ whole ++ fraction = List.replicate zeros '0' ++ digits n := by
  let zeros := places + 1 - (digits n).length
  let ds := List.replicate zeros '0' ++ digits n
  have hlength : places + 1 ≤ ds.length := by
    simp only [ds, zeros, List.length_append, List.length_replicate]
    omega
  have hfraction : (ds.drop (ds.length - places)).length = places := by
    rw [List.length_drop]
    omega
  refine ⟨ds.take (ds.length - places), ds.drop (ds.length - places), zeros, ?_, ?_, hfraction,
    List.take_append_drop _ _⟩
  · have hne : ds.drop (ds.length - places) ≠ [] := by
      intro hnil
      rw [hnil] at hfraction
      exact hplaces hfraction.symm
    rw [withFraction, if_neg hne]
    rfl
  · have hwhole : (ds.take (ds.length - places)).length ≠ 0 := by
      rw [List.length_take]
      omega
    exact List.ne_nil_of_length_pos (Nat.pos_of_ne_zero hwhole)

/-- Every plain text has this shape. -/
theorem exists_plainShape (d : Decimal) : ∃ whole fraction, PlainShape d whole fraction := by
  cases hscale : d.exponent with
  | ofNat scale =>
    have hexponent : d.expanded.exponent = 0 := by
      rw [expanded, hscale]
      exact min_eq_right (Int.natCast_nonneg scale)
    have hcoefficient : d.expanded.coefficient = d.coefficient * tenPow scale := by
      rw [expanded, hscale]
      rfl
    refine ⟨Decimal.digits d.expanded.coefficient, [], ?_⟩
    constructor
    case text => simp [plainChars, hscale, scaledUp_eq, hcoefficient, withFraction]
    case nonempty => exact digits_ne_nil _
    case digits => simpa using fun c => isDigit_of_mem_digits
    case coefficient => rw [List.append_nil, ofDigits_digits]
    case exponent => simp [hexponent]
  | negSucc places =>
    obtain ⟨whole, fraction, zeros, hpointed, hne, hlength, hall⟩ :=
      pointed_eq places.succ_ne_zero d.coefficient
    have hself : d.expanded = d := by
      refine expanded_eq_self ?_
      rw [hscale]
      exact le_of_lt (Int.negSucc_lt_zero places)
    refine ⟨whole, fraction, ?_⟩
    constructor
    case text => simp [plainChars, hscale, hpointed]
    case nonempty => exact hne
    case digits =>
      rw [hall]
      intro c hc
      rcases List.mem_append.mp hc with hzero | hdigit
      · rw [List.eq_of_mem_replicate hzero]
        rfl
      · exact isDigit_of_mem_digits hdigit
    case coefficient => rw [hself, hall, ofDigits_zeros_append, ofDigits_digits]
    case exponent =>
      rw [hself, hlength, hscale]
      omega

/-! ## The shape of a scientific text -/

/-- The parts of a scientific text without its sign. -/
structure Shape (d : Decimal) (whole fraction tail : List Char) (power : Int) : Prop where
  text : d.scientificChars = signChars d.negative ++ (withFraction whole fraction ++ tail)
  nonempty : whole ≠ []
  digits : ∀ c ∈ whole ++ fraction, c.isDigit = true
  tail : tail = [] ∧ power = 0 ∨ tail = exponentChars power
  coefficient : ofDigits (whole ++ fraction) = d.coefficient
  exponent : power - fraction.length = d.exponent

/-- A mantissa has its point behind the first digit. -/
theorem mantissaChars_cons (c : Char) (cs : List Char) :
    mantissaChars (c :: cs) = withFraction [c] cs := by
  cases cs <;> simp [mantissaChars, withFraction]

/-- Every scientific text has this shape. -/
theorem exists_shape (d : Decimal) : ∃ whole fraction tail power,
    Shape d whole fraction tail power := by
  by_cases hplain : d.isPlain = true
  · have htext : d.scientificChars = d.plainChars := by rw [scientificChars, if_pos hplain]
    have hexponent : d.exponent ≤ 0 := by
      simp only [isPlain, Bool.and_eq_true, decide_eq_true_eq] at hplain
      exact hplain.1
    obtain ⟨whole, fraction, h⟩ := d.exists_plainShape
    refine ⟨whole, fraction, [], 0, ?_⟩
    constructor
    case text => rw [htext, h.text, List.append_nil]
    case nonempty => exact h.nonempty
    case digits => exact h.digits
    case tail => exact .inl ⟨rfl, rfl⟩
    case coefficient => rw [h.coefficient, expanded_eq_self hexponent]
    case exponent => rw [zero_sub, h.exponent, expanded_eq_self hexponent]
  · obtain ⟨c, cs, hcs⟩ := List.exists_cons_of_ne_nil (digits_ne_nil d.coefficient)
    refine ⟨[c], cs, exponentChars d.adjusted, d.adjusted, ?_⟩
    constructor
    case text =>
      rw [scientificChars, if_neg hplain, hcs, mantissaChars_cons, List.append_assoc]
    case nonempty => exact List.cons_ne_nil c []
    case digits =>
      rw [List.singleton_append, ← hcs]
      exact fun c => isDigit_of_mem_digits
    case tail => exact .inr rfl
    case coefficient => rw [List.singleton_append, ← hcs, ofDigits_digits]
    case exponent =>
      rw [adjusted, hcs, List.length_cons]
      omega

/-! ## Reading -/

theorem powerText_exponentChars (e : Int) : PowerText e (exponentChars e) := by
  have hdigits : ∀ d ∈ digits e.natAbs, d.isDigit = true := fun _ => isDigit_of_mem_digits
  have hne : digits e.natAbs ≠ [] := digits_ne_nil _
  by_cases he : e < 0
  · have h := PowerText.marked (.inr rfl) .minus hne hdigits
    simpa [exponentChars, he, abs_of_neg he] using h
  · have h := PowerText.marked (.inr rfl) .plus hne hdigits
    simpa [exponentChars, he, abs_of_nonneg (not_lt.mp he)] using h

namespace Shape

variable {d : Decimal} {whole fraction tail : List Char} {power : Int}

/-- The number that a text of the given shape writes out. -/
theorem writes (h : Shape d whole fraction tail power) :
    Numeral.Writes ⟨d.negative, whole, fraction, power⟩ d.scientificChars := by
  have hpower : PowerText power tail := by
    obtain ⟨rfl, rfl⟩ | rfl := h.tail
    · exact .absent
    · exact powerText_exponentChars power
  rw [h.text]
  exact writes_withFraction d.negative h.nonempty h.digits hpower

/-- That number comes to the decimal. -/
theorem decimal_eq (h : Shape d whole fraction tail power) :
    Numeral.decimal ⟨d.negative, whole, fraction, power⟩ = d := by
  rw [Numeral.decimal, h.coefficient, h.exponent]

/-- The characters of a text of the given shape. -/
theorem mem_numerals (h : Shape d whole fraction tail power) :
    ∀ c ∈ d.scientificChars, c ∈ numerals := by
  have htail : ∀ c ∈ tail, c ∈ numerals := by
    obtain ⟨rfl, -⟩ | rfl := h.tail
    · simp
    · have hpower : ∀ c ∈ Decimal.digits power.natAbs, c ∈ numerals :=
        fun c hc => mem_numerals_of_isDigit (isDigit_of_mem_digits hc)
      have hmark : (if power < 0 then '-' else '+') ∈ numerals := by split <;> decide
      exact List.forall_mem_cons.mpr ⟨by decide, List.forall_mem_cons.mpr ⟨hmark, hpower⟩⟩
  rw [h.text]
  exact List.forall_mem_append.mpr ⟨mem_numerals_signChars,
    List.forall_mem_append.mpr ⟨mem_numerals_withFraction h.digits, htail⟩⟩

end Shape

/-- **A decimal that can be held is read back from its scientific text.** -/
theorem read_scientificChars {d : Decimal} (h : d.inRange = true) :
    read d.scientificChars = .number d := by
  obtain ⟨whole, fraction, tail, power, hshape⟩ := d.exists_shape
  have hwrites := hshape.writes
  rw [← normalize_eq_self hshape.mem_numerals] at hwrites
  exact read_eq_number_iff.mpr ⟨⟨_, hwrites, hshape.decimal_eq⟩, h⟩

/-- Only decimals that can be held are read. -/
theorem inRange_of_read {s : List Char} {d : Decimal} (h : read s = .number d) :
    d.inRange = true :=
  (read_eq_number_iff.mp h).2

end Typewright.Decimal
