/-
  Numbers written out, and what is read from them.

  A number is written with a sign or without, with digits in front of a point and behind it, and
  with a power of ten or without (`Numeral`).  Its value is that of the whole part, plus that of the
  fraction as so many tenths, hundredths and so on, times the power of ten (`Numeral.value`).

    text       sign   in front   behind   power   value
    15                15                    0      15
    +1.50      +      1          50         0       1.5
    -.15E2     -                 15         2     -15
    -0         -      0                     0       0

  The reader never forms the parts.  It takes all digits for one coefficient, and lowers the power
  by one for every digit behind the point.  Both come to one number (`Numeral.toRat_decimal`).  A
  text is read as a decimal exactly if it writes out a number, blanks, underscores and the script of
  the digits aside, and the decimal can be held (`read_eq_number_iff`).  So a number may be spelled
  in many ways, and its value is the same in all of them (`spells_iff`).
-/
import Mathlib.Data.List.TakeWhile
import Mathlib.Tactic.FieldSimp
import Mathlib.Tactic.IntervalCases
import Typewright.Number.DecimalText
import Typewright.Proofs.DecimalValue

namespace Typewright.Decimal

/-! ## The parts of a written number -/

/-- A sign, or none. -/
inductive SignText : Bool → List Char → Prop where
  | absent : SignText false []
  | plus : SignText false ['+']
  | minus : SignText true ['-']

/-- A point and digits behind it, or neither. -/
inductive FractionText : List Char → List Char → Prop where
  | absent : FractionText [] []
  | point (ds : List Char) : FractionText ds ('.' :: ds)

/-- The mark of a power of ten and the power, or neither. -/
inductive PowerText : Int → List Char → Prop where
  | absent : PowerText 0 []
  | marked {c : Char} {negative : Bool} {sign ds : List Char} (mark : c = 'e' ∨ c = 'E')
      (hsign : SignText negative sign) (nonempty : ds ≠ [])
      (digits : ∀ d ∈ ds, d.isDigit = true) :
      PowerText (if negative then -(ofDigits ds : Int) else ofDigits ds) (c :: (sign ++ ds))

/-- A number by what is written of it. -/
structure Numeral where
  negative : Bool
  /-- The digits in front of the point. -/
  whole : List Char
  /-- The digits behind the point. -/
  fraction : List Char
  power : Int

namespace Numeral

/-- The number that is meant. -/
def value (n : Numeral) : ℚ :=
  (if n.negative then -1 else 1) *
    (ofDigits n.whole + ofDigits n.fraction / (10 : ℚ) ^ n.fraction.length) * (10 : ℚ) ^ n.power

/-- All digits as the coefficient, with the power that they are scaled by. -/
def decimal (n : Numeral) : Decimal :=
  ⟨n.negative, ofDigits (n.whole ++ n.fraction), n.power - n.fraction.length⟩

/-- The digits are digits, and there is one. -/
structure Proper (n : Numeral) : Prop where
  digits : ∀ c ∈ n.whole ++ n.fraction, c.isDigit = true
  nonempty : n.whole ++ n.fraction ≠ []

/-- A text writes out a number but for its sign. -/
def WritesUnsigned (n : Numeral) (s : List Char) : Prop :=
  n.Proper ∧ ∃ point tail, s = n.whole ++ (point ++ tail) ∧
    FractionText n.fraction point ∧ PowerText n.power tail

/-- A text writes out a number. -/
def Writes (n : Numeral) (s : List Char) : Prop :=
  ∃ sign body, s = sign ++ body ∧ SignText n.negative sign ∧ n.WritesUnsigned body

end Numeral

/-! ## The value -/

theorem ofDigits_append (ds es : List Char) :
    ofDigits (ds ++ es) = 10 ^ es.length * ofDigits ds + ofDigits es := by
  rw [ofDigits, Nat.ofDigitChars_append, Nat.ofDigitChars_eq_ofDigitChars_zero]
  rfl

/-- **The decimal that is made of all digits has the value of the number.** -/
theorem Numeral.toRat_decimal (n : Numeral) : n.decimal.toRat = n.value := by
  have hsigned : (n.decimal.signed : ℚ) = (if n.negative then -1 else 1) *
      ((10 : ℚ) ^ n.fraction.length * ofDigits n.whole + ofDigits n.fraction) := by
    rw [signed, decimal, ofDigits_append]
    cases n.negative <;> simp
  have hpower : (10 : ℚ) ^ n.decimal.exponent =
      (10 : ℚ) ^ n.power / (10 : ℚ) ^ n.fraction.length := by
    rw [decimal, zpow_sub₀ (by norm_num), zpow_natCast]
  rw [toRat, hsigned, hpower, value]
  field_simp

/-! ## Reading the parts -/

/-- Digits in front of something else are taken off as they stand. -/
theorem span_digits {ds rest : List Char} (hds : ∀ c ∈ ds, c.isDigit = true)
    (hrest : ∀ c ∈ rest.head?, c.isDigit = false) :
    (ds ++ rest).takeWhile Char.isDigit = ds ∧ (ds ++ rest).dropWhile Char.isDigit = rest := by
  rw [List.takeWhile_append_of_pos hds, List.dropWhile_append_of_pos hds]
  cases rest with
  | nil => simp
  | cons c cs => simp [hrest c rfl]

/-- What is taken off the front is a sign. -/
theorem signText_of_readSign {s rest : List Char} {negative : Bool}
    (h : readSign s = (negative, rest)) : ∃ sign, s = sign ++ rest ∧ SignText negative sign := by
  unfold readSign at h
  split at h
  next => cases h; exact ⟨['-'], rfl, .minus⟩
  next => cases h; exact ⟨['+'], rfl, .plus⟩
  next => cases h; exact ⟨[], rfl, .absent⟩

/-- A digit or a point, with which a number without its sign starts. -/
def Leads (c : Char) : Prop := c.isDigit = true ∨ c = '.'

/-- The sign in front of a digit or a point is taken off. -/
theorem readSign_of_signText {negative : Bool} {sign : List Char} (h : SignText negative sign)
    {c : Char} (hc : Leads c) (rest : List Char) :
    readSign (sign ++ c :: rest) = (negative, c :: rest) := by
  cases h with
  | absent =>
    show readSign (c :: rest) = (false, c :: rest)
    unfold readSign
    split
    next heq => cases heq; simp [Leads] at hc
    next heq => cases heq; simp [Leads] at hc
    next => rfl
  | plus => rfl
  | minus => rfl

theorem readExponent_eq_some_iff {s : List Char} {e : Int} :
    readExponent s = some e ↔ PowerText e s := by
  constructor
  · intro h
    cases s with
    | nil => cases h; exact .absent
    | cons c rest =>
      rw [readExponent] at h
      split at h
      next hmark =>
        rcases hsign : readSign rest with ⟨negative, ds⟩
        obtain ⟨sign, rfl, htext⟩ := signText_of_readSign hsign
        simp only [hsign] at h
        split at h
        next hdigits =>
          cases h
          obtain ⟨hne, hall⟩ : ds ≠ [] ∧ ∀ d ∈ ds, d.isDigit = true := by simpa using hdigits
          exact .marked hmark htext hne hall
        next => cases h
      next => cases h
  · intro h
    cases h with
    | absent => rfl
    | @marked c negative sign ds hmark htext hne hall =>
      obtain ⟨d, more, rfl⟩ := List.exists_cons_of_ne_nil hne
      have hread := readSign_of_signText htext (.inl (hall d (.head _))) more
      have hdigits : (d :: more).all Char.isDigit = true := List.all_eq_true.mpr hall
      simp [readExponent, hmark, hread, hdigits]

/-- A power of ten starts with neither a digit nor a point. -/
theorem PowerText.head {e : Int} {tail : List Char} (h : PowerText e tail) :
    ∀ c ∈ tail.head?, c.isDigit = false ∧ c ≠ '.' := by
  cases h with
  | absent => simp
  | marked mark => rcases mark with rfl | rfl <;> simp

/-- What is taken off the front is a fraction. -/
theorem fractionText_of_readFraction {s ds rest : List Char} (h : readFraction s = (ds, rest)) :
    (∃ point, s = point ++ rest ∧ FractionText ds point) ∧ ∀ c ∈ ds, c.isDigit = true := by
  unfold readFraction at h
  split at h
  next more =>
    cases h
    refine ⟨⟨'.' :: more.takeWhile Char.isDigit, ?_, .point _⟩, fun c hc => ?_⟩
    · rw [List.cons_append, List.takeWhile_append_dropWhile]
    · exact List.mem_takeWhile_imp hc
  next =>
    cases h
    exact ⟨⟨[], rfl, .absent⟩, by simp⟩

/-- Behind the digits in front stands a point, the mark of a power, or nothing. -/
theorem FractionText.head {ds point tail : List Char} {e : Int} (h : FractionText ds point)
    (htail : PowerText e tail) : ∀ c ∈ (point ++ tail).head?, c.isDigit = false := by
  cases h with
  | absent => exact fun c hc => (htail.head c hc).1
  | point => simp

/-- The fraction in front of a power of ten is taken off. -/
theorem readFraction_of_fractionText {ds point tail : List Char} {e : Int}
    (h : FractionText ds point) (hds : ∀ c ∈ ds, c.isDigit = true) (htail : PowerText e tail) :
    readFraction (point ++ tail) = (ds, tail) := by
  have hhead := htail.head
  cases h with
  | absent =>
    show readFraction tail = ([], tail)
    unfold readFraction
    split
    next => exact absurd rfl (hhead '.' rfl).2
    next => rfl
  | point =>
    obtain ⟨htake, hdrop⟩ := span_digits hds fun c hc => (hhead c hc).1
    rw [List.cons_append, readFraction, htake, hdrop]

/-! ## Reading a number -/

/-- A text is read as a decimal without a sign exactly if it writes out a number that comes to
    it. -/
theorem readUnsigned_eq_some_iff {negative : Bool} {s : List Char} {d : Decimal} :
    readUnsigned negative s = some d ↔
      ∃ n : Numeral, n.negative = negative ∧ n.WritesUnsigned s ∧ n.decimal = d := by
  constructor
  · intro h
    rcases hfraction : readFraction (s.dropWhile Char.isDigit) with ⟨fraction, tail⟩
    obtain ⟨⟨point, hpoint, htext⟩, hbehind⟩ := fractionText_of_readFraction hfraction
    have hfront : ∀ c ∈ s.takeWhile Char.isDigit, c.isDigit = true :=
      fun c hc => List.mem_takeWhile_imp hc
    simp only [readUnsigned, hfraction] at h
    split at h
    next => cases h
    next hne =>
      obtain ⟨e, hpower, rfl⟩ := Option.map_eq_some_iff.mp h
      refine ⟨⟨negative, s.takeWhile Char.isDigit, fraction, e⟩, rfl, ⟨⟨?digits, ?nonempty⟩,
        point, tail, ?text, htext, readExponent_eq_some_iff.mp hpower⟩, rfl⟩
      case digits => exact List.forall_mem_append.mpr ⟨hfront, hbehind⟩
      case nonempty => simpa using hne
      case text => rw [← hpoint, List.takeWhile_append_dropWhile]
  · rintro ⟨n, rfl, ⟨hproper, point, tail, rfl, hpoint, htail⟩, rfl⟩
    obtain ⟨hfront, hbehind⟩ := List.forall_mem_append.mp hproper.digits
    obtain ⟨htake, hdrop⟩ := span_digits hfront (hpoint.head htail)
    have hne : (n.whole.isEmpty && n.fraction.isEmpty) = false := by
      simpa using hproper.nonempty
    rw [readUnsigned, htake, hdrop, readFraction_of_fractionText hpoint hbehind htail]
    simp [hne, readExponent_eq_some_iff.mpr htail, Numeral.decimal]

/-- A number without its sign starts with a digit or a point. -/
theorem Numeral.WritesUnsigned.exists_cons {n : Numeral} {s : List Char}
    (h : n.WritesUnsigned s) : ∃ c rest, s = c :: rest ∧ Leads c := by
  obtain ⟨_, whole, fraction, _⟩ := n
  obtain ⟨⟨hdigits, hne⟩, point, tail, rfl, hpoint, -⟩ := h
  cases whole with
  | cons c cs => exact ⟨c, cs ++ (point ++ tail), rfl, .inl (hdigits c (.head _))⟩
  | nil =>
    cases hpoint with
    | absent => exact absurd rfl hne
    | point => exact ⟨'.', fraction ++ tail, rfl, .inr rfl⟩

/-- The characters of a scientific text. -/
def numerals : List Char :=
  ['0', '1', '2', '3', '4', '5', '6', '7', '8', '9', '-', '+', '.', 'E']

theorem mem_numerals_of_isDigit {c : Char} (h : c.isDigit = true) : c ∈ numerals := by
  rw [Char.isDigit_iff_toNat] at h
  obtain ⟨hlow, hhigh⟩ := h
  have hchar : c = Char.ofNat c.toNat := (Char.ofNat_toNat c).symm
  rw [hchar]
  change 48 ≤ c.toNat at hlow
  change c.toNat ≤ 57 at hhigh
  generalize c.toNat = n at hlow hhigh
  interval_cases n <;> decide

/-- A text that starts with a digit or a point is no name of something that is not finite. -/
theorem namesNotFinite_eq_false {c : Char} {s : List Char} (h : Leads c) :
    namesNotFinite (c :: s) = false := by
  have hletters : numerals.all fun c =>
      c.toLower == c && c != 'i' && c != 'n' && c != 's' || !(c.isDigit || c == '.') := by
    decide +kernel
  have hmem : c ∈ numerals := by
    rcases h with hdigit | rfl
    · exact mem_numerals_of_isDigit hdigit
    · decide
  have hletter := List.all_eq_true.mp hletters c hmem
  have hleads : (c.isDigit || c == '.') = true := by simpa [Leads] using h
  obtain ⟨⟨⟨hlower, hi⟩, hn⟩, hs⟩ :
      ((c.toLower = c ∧ c ≠ 'i') ∧ c ≠ 'n') ∧ c ≠ 's' := by simpa [hleads] using hletter
  simp [namesNotFinite, hlower, hi, hn.symm, hs]

/-- The sign of a number is taken off its text, and what is left comes to the decimal. -/
theorem Numeral.Writes.reads {n : Numeral} {s : List Char} (h : n.Writes s) :
    ∃ body, readSign s = (n.negative, body) ∧ namesNotFinite body = false ∧
      readUnsigned n.negative body = some n.decimal := by
  obtain ⟨sign, body, rfl, hsign, hbody⟩ := h
  obtain ⟨c, rest, rfl, hc⟩ := hbody.exists_cons
  exact ⟨c :: rest, readSign_of_signText hsign hc rest, namesNotFinite_eq_false hc,
    readUnsigned_eq_some_iff.mpr ⟨n, rfl, hbody, rfl⟩⟩

/-- Numbers that one text writes out come to one decimal. -/
theorem Numeral.Writes.decimal_eq {n n' : Numeral} {s : List Char} (h : n.Writes s)
    (h' : n'.Writes s) : n.decimal = n'.decimal := by
  obtain ⟨body, hsign, -, hread⟩ := h.reads
  obtain ⟨body', hsign', -, hread'⟩ := h'.reads
  obtain ⟨hnegative, rfl⟩ := Prod.mk.inj (hsign.symm.trans hsign')
  rw [← hnegative, hread] at hread'
  exact Option.some.inj hread'

/-- What is read from a text that writes out a number. -/
theorem read_of_writes {n : Numeral} {s : List Char} (h : n.Writes (normalize s)) :
    read s = if n.decimal.inRange then .number n.decimal else .malformed := by
  obtain ⟨body, hsign, hnames, hread⟩ := h.reads
  simp only [read, hsign, hnames, Bool.false_eq_true, if_false, hread]

/-- **A text is read as a decimal exactly if it writes out a number that comes to it, and the
    decimal can be held.** -/
theorem read_eq_number_iff {s : List Char} {d : Decimal} :
    read s = .number d ↔
      (∃ n : Numeral, n.Writes (normalize s) ∧ n.decimal = d) ∧ d.inRange = true := by
  constructor
  · intro h
    rcases hsign : readSign (normalize s) with ⟨negative, body⟩
    obtain ⟨sign, htext, hwritten⟩ := signText_of_readSign hsign
    simp only [read, hsign] at h
    split at h
    next => cases h
    next =>
      split at h
      next found hread =>
        split at h
        next hrange =>
          cases h
          obtain ⟨n, rfl, hbody, hd⟩ := readUnsigned_eq_some_iff.mp hread
          exact ⟨⟨n, ⟨sign, body, htext, hwritten, hbody⟩, hd⟩, hrange⟩
        next => cases h
      next => cases h
  · rintro ⟨⟨n, hn, rfl⟩, hrange⟩
    rw [read_of_writes hn, if_pos hrange]

/-- A text spells a number, blanks, underscores and the script of its digits aside. -/
def Spells (s : List Char) (q : ℚ) : Prop := ∃ n : Numeral, n.Writes (normalize s) ∧ n.value = q

/-- A text that is read as a decimal spells the value of this decimal, and no other number. -/
theorem spells_iff {s : List Char} {d : Decimal} (h : read s = .number d) {q : ℚ} :
    Spells s q ↔ d.toRat = q := by
  constructor
  · rintro ⟨n, hn, rfl⟩
    rw [read_of_writes hn] at h
    split at h
    next =>
      cases h
      exact n.toRat_decimal
    next => cases h
  · rintro rfl
    obtain ⟨⟨n, hn, rfl⟩, -⟩ := read_eq_number_iff.mp h
    exact ⟨n, hn, n.toRat_decimal.symm⟩

end Typewright.Decimal
