/-
  Bounds that cross are bounds that no number satisfies.

  Two bounds leave nothing between them exactly if both are set and the lower one lies above the
  upper one (`not_exists_within_iff`).  A bound that is not set admits everything, and a bound that
  is set admits itself.  For lengths this is about natural numbers, since no bound on a length is
  negative; for values it is about rational numbers, since decimals are compared by value.

  The check names the bounds on a length that cross, and fails where one of them has too many digits
  to be written (`Constraints.Unwordable`).

  The bounds on the value were given with a description of the attribute: as a whole number, as a
  number with a fraction, or as a text.  However a bound is spelled there, it is the number that is
  spelled which counts (`Attribute.states_iff`).
-/
import Typewright.Proofs.Finding
import Typewright.Proofs.Numeral
import Typewright.Proofs.RoundTrip

namespace Typewright

open Reader

/-! ## Bounds -/

section Within

variable {α β : Type} [LinearOrder β]

/-- Lies between two bounds, as far as they are set. -/
def Within (value : α → β) (low high : Option α) (v : β) : Prop :=
  (∀ l ∈ low, value l ≤ v) ∧ ∀ h ∈ high, v ≤ value h

/-- Nothing lies between two bounds exactly if they cross. -/
theorem not_exists_within_iff [Nonempty β] {value : α → β} {low high : Option α} :
    (¬ ∃ v, Within value low high v) ↔ ∃ l ∈ low, ∃ h ∈ high, value h < value l := by
  constructor
  · intro hnone
    -- a bound that is set lies between the two, unless the other one keeps it out
    cases low with
    | none =>
      cases high with
      | none => exact absurd ⟨Classical.arbitrary β, by simp [Within]⟩ hnone
      | some h => exact absurd ⟨value h, by simp [Within]⟩ hnone
    | some l =>
      cases high with
      | none => exact absurd ⟨value l, by simp [Within]⟩ hnone
      | some h =>
        refine ⟨l, rfl, h, rfl, lt_of_not_ge fun hle => hnone ⟨value l, ?_⟩⟩
        simpa [Within] using hle
  · rintro ⟨l, hl, h, hh, hlt⟩ ⟨v, hlow, hhigh⟩
    exact absurd (le_trans (hlow l hl) (hhigh h hh)) (not_le_of_gt hlt)

theorem isSome_crossing_iff {above : α → α → Bool} {low high : Option α} :
    (crossing above low high).isSome = true ↔ ∃ l ∈ low, ∃ h ∈ high, above l h = true := by
  cases low <;> cases high <;> simp [crossing]

/-- Bounds that cross are those that are set. -/
theorem eq_of_crossing {above : α → α → Bool} {low high : Option α} {l h : α}
    (hcross : crossing above low high = some (l, h)) : low = some l ∧ high = some h := by
  cases low <;> cases high <;> grind [crossing]

end Within

namespace Constraints

/-- A length satisfies the bounds that are set. -/
def AdmitsLength (c : Constraints) (n : Nat) : Prop := Within id c.minLength c.maxLength n

/-- A number satisfies the bounds that are set. -/
def AdmitsValue (c : Constraints) (v : ℚ) : Prop := Within Decimal.toRat c.minValue c.maxValue v

theorem isSome_crossingLengths_iff (c : Constraints) :
    c.crossingLengths.isSome = true ↔ ¬ ∃ n, c.AdmitsLength n := by
  simp only [crossingLengths, isSome_crossing_iff, AdmitsLength, not_exists_within_iff,
    decide_eq_true_eq, id]

/-- No length satisfies the bounds, and one of them has too many digits to be written. -/
def Unwordable (c : Constraints) : Prop :=
  (¬ ∃ n, c.AdmitsLength n) ∧
    ∃ n : Nat, (n ∈ c.minLength ∨ n ∈ c.maxLength) ∧ isWritable n = false

/-- Bounds that cross and cannot both be written are those that there are no words for. -/
theorem crossUnwritably_iff (c : Constraints) : c.crossUnwritably = true ↔ c.Unwordable := by
  rw [Unwordable, ← isSome_crossingLengths_iff, crossUnwritably, Bool.and_eq_true]
  refine and_congr_right fun hcross => ?_
  obtain ⟨⟨low, high⟩, hcross⟩ := Option.isSome_iff_exists.mp hcross
  obtain ⟨hlow, hhigh⟩ := eq_of_crossing hcross
  have hwritten : c.writtenCrossing.isNone = true ↔
      Writable.ofInt? low = none ∨ Writable.ofInt? high = none := by
    cases hl : Writable.ofInt? low <;> cases hh : Writable.ofInt? high <;>
      simp [writtenCrossing, hcross, hl, hh]
  rw [hwritten, Writable.ofInt?_eq_none_iff, Writable.ofInt?_eq_none_iff, hlow, hhigh]
  simp [or_and_right, exists_or]

/-- Where there are words for it, a crossing is found. -/
theorem isSome_writtenCrossing {c : Constraints} (h : ¬ c.Unwordable) :
    c.writtenCrossing.isSome = c.crossingLengths.isSome := by
  rw [← crossUnwritably_iff, crossUnwritably] at h
  cases hcross : c.crossingLengths with
  | none => simp [writtenCrossing, hcross]
  | some pair => simpa [hcross, Option.isSome_iff_ne_none] using h

theorem isSome_crossingValues_iff (c : Constraints) :
    c.crossingValues.isSome = true ↔ ¬ ∃ v, c.AdmitsValue v := by
  simp only [crossingValues, isSome_crossing_iff, AdmitsValue, not_exists_within_iff,
    Decimal.less_iff]

end Constraints

/-! ## What the check finds -/

namespace Entity

variable {e : Entity} {a : Attribute}

theorem finds_lengthsCross_iff :
    (∃ f ∈ e.constraintFindings a, f.code = "MIN_LENGTH_GT_MAX_LENGTH") ↔
      a.constraints.writtenCrossing.isSome = true := by
  simp [constraintFindings, or_and_right, exists_or, Finding.code, Option.isSome_iff_exists]

theorem finds_valuesCross_iff :
    (∃ f ∈ e.constraintFindings a, f.code = "MIN_VALUE_GT_MAX_VALUE") ↔
      a.constraints.crossingValues.isSome = true := by
  simp [constraintFindings, or_and_right, exists_or, Finding.code, Option.isSome_iff_exists]

end Entity

/-! ## Bounds as they were given -/

/-- A value gives a number: a whole number itself, another number by its shortest text, and a text
    the number that it spells. -/
def Value.Gives : Value → ℚ → Prop
  | .int n, q => n = q
  | .real x, q => Decimal.Spells x.shortest.toList q
  | .text s, q => ∃ cs, Text.chars? s = some cs ∧ Decimal.Spells cs q
  | _, _ => False

/-- A description gives a number under a name. -/
def Value.States (description : Value) (name : String) (q : ℚ) : Prop :=
  ∃ (fields : Fields) (v : Value),
    description.opened = .object fields ∧ fields.get? name = some v ∧ v.Gives q

namespace Reader

theorem spells_iff_of_decimalOfText {s : List Char} {d : Decimal}
    (h : decimalOfText s = .passed d) {q : ℚ} : Decimal.Spells s q ↔ d.toRat = q := by
  unfold decimalOfText at h
  split at h
  next x hx =>
    cases h
    exact Decimal.spells_iff hx
  all_goals cases h

/-- A value that is read as a decimal gives the value of this decimal, and no other number. -/
theorem gives_iff_of_decimal {v : Value} {d : Decimal} (h : decimal v = .passed d) {q : ℚ} :
    v.Gives q ↔ d.toRat = q := by
  unfold decimal at h
  split at h
  next n =>
    simp only at h
    split at h
    next =>
      cases h
      rw [Decimal.toRat_ofInt]
      rfl
    next => cases h
  next => exact spells_iff_of_decimalOfText h
  next s =>
    split at h
    next cs hcs => simp [Value.Gives, hcs, spells_iff_of_decimalOfText h]
    next => cases h
  next => cases h

/-- No text is refused that spells a number which can be held. -/
theorem decimal_of_writes {n : Decimal.Numeral} {s : List Char}
    (h : n.Writes (Decimal.normalize s)) (hrange : n.decimal.inRange = true) :
    decimal (.text (Text.ofChars s)) = .passed n.decimal := by
  have hread : Decimal.read s = .number n.decimal := by
    rw [Decimal.read_of_writes h, if_pos hrange]
  simp [decimal, decimalOfText, Text.chars?_ofChars, hread]

/-- What a field that may be absent gives is the value of what is read from it. -/
theorem gives_iff_of_optionalField {name : String} {fields : Fields} {o : Option Decimal}
    (h : optionalField name decimal fields = .passed o) {q : ℚ} :
    (∃ v, fields.get? name = some v ∧ v.Gives q) ↔ ∃ d ∈ o, d.toRat = q := by
  unfold optionalField field at h
  split at h
  next v hv =>
    have hread := Checked.under_eq_passed_iff.mp h
    unfold optional at hread
    split at hread
    next =>
      cases hread
      simp [hv, Value.Gives]
    next =>
      obtain ⟨d, hd, rfl⟩ := Checked.map_eq_passed_iff.mp hread
      simp [hv, gives_iff_of_decimal hd]
  next hnone =>
    cases h
    simp [hnone]

end Reader

namespace Attribute

/-- The bounds of an attribute are the numbers that its description states. -/
theorem states_iff {description : Value} {a : Attribute}
    (h : Attribute.read description = .passed a) (q : ℚ) :
    (description.States "min_value" q ↔ ∃ d ∈ a.constraints.minValue, d.toRat = q) ∧
      (description.States "max_value" q ↔ ∃ d ∈ a.constraints.maxValue, d.toRat = q) := by
  obtain ⟨fields, hopened, -, -, d, hfields, hsettle⟩ := object_eq_passed_iff.mp h
  obtain ⟨-, hconstraints, -⟩ := of_settle hsettle
  obtain ⟨hmin, hmax⟩ := Constraints.bounds_of_read (groups_of_read hfields).2.1
  have hstates : ∀ name : String, description.States name q ↔
      ∃ v, Fields.get? fields name = some v ∧ v.Gives q := by
    intro name
    simp [Value.States, hopened]
  rw [hstates, hstates, hconstraints]
  exact ⟨gives_iff_of_optionalField hmin, gives_iff_of_optionalField hmax⟩

end Attribute

/-! ## What is reported -/

namespace Model

theorem crossesUnwritably_iff {m : Model} : m.crossesUnwritably = true ↔
    ∃ e ∈ m.entities, ∃ a ∈ e.attributes, a.constraints.Unwordable := by
  simp only [crossesUnwritably, List.any_eq_true, Constraints.crossUnwritably_iff]

/-- The check of constraints fails exactly if there are bounds on a length that cross and that there
    are no words for. -/
theorem constraintFindings_eq_error_iff {m : Model} {failure : Failure} :
    m.constraintFindings = .error failure ↔ failure = .unwritableNumber ∧
      ∃ e ∈ m.entities, ∃ a ∈ e.attributes, a.constraints.Unwordable := by
  rw [← crossesUnwritably_iff, constraintFindings]
  cases m.crossesUnwritably <;> simp [eq_comm]

/-- Otherwise it finds what there is to say about one attribute after another. -/
theorem constraintFindings_eq_ok_iff {m : Model} {findings : List Finding} :
    m.constraintFindings = .ok findings ↔
      findings = m.eachAttribute Entity.constraintFindings ∧
        ∀ e ∈ m.entities, ∀ a ∈ e.attributes, ¬ a.constraints.Unwordable := by
  have hwordable : m.crossesUnwritably = false ↔
      ∀ e ∈ m.entities, ∀ a ∈ e.attributes, ¬ a.constraints.Unwordable := by
    rw [← Bool.not_eq_true, crossesUnwritably_iff]
    push Not
    rfl
  rw [← hwordable, constraintFindings]
  cases m.crossesUnwritably <;> simp [eq_comm]

/-- There are issues to report unless the check of constraints fails. -/
theorem exists_issues_iff {m : Model} {environment : Option Environment} :
    (∃ issues, m.issues environment = .ok issues) ↔
      ∀ e ∈ m.entities, ∀ a ∈ e.attributes, ¬ a.constraints.Unwordable := by
  cases hissues : m.issues environment with
  | error failure =>
    obtain ⟨-, e, he, a, ha, hunwordable⟩ :=
      constraintFindings_eq_error_iff.mp (issues_eq_error_iff.mp hissues)
    exact iff_of_false (by simp) fun hnone => hnone e he a ha hunwordable
  | ok issues =>
    refine iff_of_true ⟨issues, rfl⟩ fun e he a ha hunwordable => ?_
    have hfails := constraintFindings_eq_error_iff.mpr ⟨rfl, e, he, a, ha, hunwordable⟩
    rw [issues_eq_error_iff.mpr hfails] at hissues
    cases hissues

/-- A description with one bound on the value as a text and the other one as a whole number. -/
def weightData : Value :=
  .object
    [("name", .text "weight"), ("neutral_type", .text "decimal"), ("min_length", .int 3),
      ("max_length", .int 3), ("min_value", .text " +1.50E1 "), ("max_value", .int 12)]

/-- The attribute that is described. -/
def weight : Attribute :=
  { Attribute.plain ⟨"weight", by decide⟩ .decimal with
    constraints := ⟨false, false, false, false, some 3, some 3, none, some ⟨false, 150, -1⟩,
      some ⟨false, 12, 0⟩, none, none, none, none⟩ }

/-- The loads that are weighed. -/
def weighedLoad : Entity where
  className := "Load"
  table := none
  attributes := [weight]
  className_ne := by decide
  distinct := by decide
  composite := by decide

/-- A model with a single attribute, whose bounds on the value cross. -/
def freight : Model where
  name := "freight"
  entities := [weighedLoad]
  name_ne := by decide
  distinct := by decide

end Model

end Typewright
