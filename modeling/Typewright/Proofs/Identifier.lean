/-
  Names that pass for identifiers.

  An identifier consists of ASCII letters, digits and underscores, and no digit stands in front
  (`Text.Identifier`).  The check of a name asks for a first character and then for a run of others
  up to the end of the text or up to one final line feed (`Text.hasShape_iff`).  So a name passes
  exactly if it is an identifier, or an identifier in a line of its own (`Text.isIdentifier_iff`).

  In a model that passes both checks of names, all names are identifiers exactly if none of them
  ends with a line feed (`Model.namesPass_iff`).
-/
import Mathlib.Data.List.TakeWhile
import Typewright.Proofs.Finding

namespace Typewright

namespace Text

/-! ## Shapes -/

/-- The code point that ends a line. -/
def lineFeed : CodePoint := .char '\n'

/-- A text of a shape is a first character and a run of others, perhaps in a line of its own. -/
theorem hasShape_iff {first rest : Char → Bool} (hrest : rest '\n' = false) {s : Text} :
    hasShape first rest s = true ↔
      ∃ c cs, (c.is first = true ∧ ∀ d ∈ cs, d.is rest = true) ∧
        (s = c :: cs ∨ s = c :: cs ++ [lineFeed]) := by
  have hfeed : ¬ lineFeed.is rest = true := by simp [lineFeed, CodePoint.is, hrest]
  cases s with
  | nil => simp [hasShape]
  | cons c tail =>
    simp only [hasShape, Bool.and_eq_true, Bool.or_eq_true, beq_iff_eq]
    constructor
    · rintro ⟨hfirst, hbehind⟩
      have hrun : ∀ d ∈ tail.takeWhile (CodePoint.is rest), d.is rest = true :=
        fun d hd => List.mem_takeWhile_imp hd
      have hsplit := tail.takeWhile_append_dropWhile (p := CodePoint.is rest)
      refine ⟨c, tail.takeWhile (CodePoint.is rest), ⟨hfirst, hrun⟩, ?_⟩
      rcases hbehind with hend | hline
      · rw [hend, List.append_nil] at hsplit
        exact .inl (by rw [hsplit])
      · rw [hline] at hsplit
        exact .inr (by rw [List.cons_append, lineFeed, hsplit])
    · rintro ⟨d, cs, ⟨hfirst, hrun⟩, hends⟩
      rcases hends with hend | hline
      · obtain ⟨rfl, rfl⟩ := List.cons.inj hend
        exact ⟨hfirst, .inl (List.dropWhile_eq_nil_iff.mpr hrun)⟩
      · rw [List.cons_append] at hline
        obtain ⟨rfl, rfl⟩ := List.cons.inj hline
        refine ⟨hfirst, .inr ?_⟩
        rw [List.dropWhile_append_of_pos hrun, List.dropWhile_cons_of_neg hfeed]
        rfl

/-! ## Identifiers -/

/-- Letters, digits and underscores, of which a digit is not the first. -/
structure Identifier (s : Text) : Prop where
  nonempty : s ≠ []
  characters : ∀ c ∈ s, c.is (fun c => isAsciiAlphanumeric c || c == '_') = true
  noDigit : ∀ c ∈ s.head?, c.is isAsciiDigit = false

/-- The characters that may stand in front are those of an identifier but for the digits. -/
theorem isAsciiLetter_or_underscore (c : Char) : (isAsciiLetter c || c == '_') =
    ((isAsciiAlphanumeric c || c == '_') && !isAsciiDigit c) := by
  cases hdigit : isAsciiDigit c with
  | false => simp [isAsciiAlphanumeric, hdigit]
  | true =>
    simp only [isAsciiDigit, Bool.and_eq_true, decide_eq_true_eq, Char.le_def,
      UInt32.le_iff_toNat_le] at hdigit
    have hhigh : c.val.toNat ≤ 57 := hdigit.2
    have hletter : isAsciiLetter c = false := by
      simp only [isAsciiLetter, isSmallLetter, isCapitalLetter, Bool.or_eq_false_iff,
        Bool.and_eq_false_iff, decide_eq_false_iff_not, Char.le_def, UInt32.le_iff_toNat_le]
      exact ⟨.inl fun (h : 97 ≤ c.val.toNat) => by omega,
        .inl fun (h : 65 ≤ c.val.toNat) => by omega⟩
    have hunderscore : (c == '_') = false := by
      refine beq_eq_false_iff_ne.mpr ?_
      rintro rfl
      exact absurd hhigh (by decide)
    simp [hletter, hunderscore]

theorem identifier_cons_iff {c : CodePoint} {cs : Text} :
    Identifier (c :: cs) ↔ c.is (fun c => isAsciiLetter c || c == '_') = true ∧
      ∀ d ∈ cs, d.is (fun c => isAsciiAlphanumeric c || c == '_') = true := by
  have hfront : c.is (fun c => isAsciiLetter c || c == '_') = true ↔
      c.is (fun c => isAsciiAlphanumeric c || c == '_') = true ∧ c.is isAsciiDigit = false := by
    cases c with
    | half n => simp [CodePoint.is]
    | char x => simp only [CodePoint.is, isAsciiLetter_or_underscore, Bool.and_eq_true,
        Bool.not_eq_true']
  rw [hfront]
  constructor
  · intro h
    obtain ⟨hc, hcs⟩ := List.forall_mem_cons.mp h.characters
    exact ⟨⟨hc, h.noDigit c rfl⟩, hcs⟩
  · rintro ⟨⟨hc, hdigit⟩, hcs⟩
    refine ⟨List.cons_ne_nil c cs, List.forall_mem_cons.mpr ⟨hc, hcs⟩, ?_⟩
    intro d hd
    obtain rfl := Option.some.inj hd
    exact hdigit

/-- **The test for identifiers accepts them, with or without a line feed behind.** -/
theorem isIdentifier_iff {s : Text} : isIdentifier s = true ↔
    Identifier s ∨ ∃ stem, Identifier stem ∧ s = stem ++ [lineFeed] := by
  rw [isIdentifier, hasShape_iff (by decide)]
  simp only [← identifier_cons_iff]
  constructor
  · rintro ⟨c, cs, hstem, rfl | rfl⟩
    · exact .inl hstem
    · exact .inr ⟨c :: cs, hstem, rfl⟩
  · rintro (h | ⟨stem, h, rfl⟩)
    · obtain ⟨c, cs, rfl⟩ := List.exists_cons_of_ne_nil h.nonempty
      exact ⟨c, cs, h, .inl rfl⟩
    · obtain ⟨c, cs, rfl⟩ := List.exists_cons_of_ne_nil h.nonempty
      exact ⟨c, cs, h, .inr rfl⟩

/-- No identifier ends with a line feed. -/
theorem Identifier.getLast?_ne {s : Text} (h : Identifier s) : s.getLast? ≠ some lineFeed := by
  intro hlast
  exact absurd (h.characters lineFeed (List.mem_of_getLast? hlast)) (by decide)

/-- So the identifiers among the names that pass are those without a line feed at the end. -/
theorem identifier_iff {s : Text} :
    Identifier s ↔ isIdentifier s = true ∧ s.getLast? ≠ some lineFeed := by
  rw [isIdentifier_iff]
  constructor
  · intro h
    exact ⟨.inl h, h.getLast?_ne⟩
  · rintro ⟨h | ⟨stem, -, rfl⟩, hlast⟩
    · exact h
    · exact absurd List.getLast?_concat hlast

end Text

/-! ## Names of a model -/

namespace Model

/-- The class names and the names of all attributes. -/
def names (m : Model) : List Text :=
  m.classNames ++ m.entities.flatMap fun e => e.attributes.map (·.name)

/-- Neither check of names has an error. -/
structure NamesPass (m : Model) : Prop where
  entities : "INVALID_ENTITY_NAME" ∉ m.entityNameFindings.map Finding.code
  attributes : "INVALID_ATTRIBUTE_NAME" ∉ m.attributeNameFindings.map Finding.code

variable {m : Model}

theorem invalidEntityName_notMem_iff :
    "INVALID_ENTITY_NAME" ∉ m.entityNameFindings.map Finding.code ↔
      ∀ e ∈ m.entities, Text.isIdentifier e.className = true := by
  have hone : ∀ e : Entity, "INVALID_ENTITY_NAME" ∉ e.ownNameFindings.map Finding.code ↔
      Text.isIdentifier e.className = true := by
    intro e
    unfold Entity.ownNameFindings
    cases h : Text.isIdentifier e.className <;> simp [Finding.code]
  simp only [entityNameFindings, List.map_flatMap, List.mem_flatMap, not_exists, not_and, hone]

theorem invalidAttributeName_notMem_iff :
    "INVALID_ATTRIBUTE_NAME" ∉ m.attributeNameFindings.map Finding.code ↔
      ∀ e ∈ m.entities, ∀ a ∈ e.attributes, Text.isIdentifier a.name = true := by
  have hone : ∀ (e : Entity) (a : Attribute),
      "INVALID_ATTRIBUTE_NAME" ∉ (e.nameFindings a).map Finding.code ↔
        Text.isIdentifier a.name = true := by
    intro e a
    unfold Entity.nameFindings
    cases h : Text.isIdentifier a.name <;> simp [Finding.code]
  have hempty : ∀ e : Entity,
      "INVALID_ATTRIBUTE_NAME" ∉ e.attributeNameFindings.map Finding.code ↔
        ∀ a ∈ e.attributes, Text.isIdentifier a.name = true := by
    intro e
    have hnone : "INVALID_ATTRIBUTE_NAME" ∉
        (findingIf e.attributes.isEmpty (.noAttributes e.className)).map Finding.code := by
      simp [Finding.code]
    rw [Entity.attributeNameFindings, List.map_append, List.mem_append, not_or, and_iff_right hnone]
    simp only [List.map_flatMap, List.mem_flatMap, not_exists, not_and, hone]
  simp only [attributeNameFindings, List.map_flatMap, List.mem_flatMap, not_exists, not_and, hempty]

/-- The two checks look at all names between them, and at nothing else. -/
theorem namesPass_iff_isIdentifier :
    m.NamesPass ↔ ∀ s ∈ m.names, Text.isIdentifier s = true := by
  have hnames : (∀ s ∈ m.names, Text.isIdentifier s = true) ↔
      (∀ e ∈ m.entities, Text.isIdentifier e.className = true) ∧
        ∀ e ∈ m.entities, ∀ a ∈ e.attributes, Text.isIdentifier a.name = true := by
    simp only [names, classNames, List.forall_mem_append, List.forall_mem_map,
      List.forall_mem_flatMap]
  rw [hnames, ← invalidEntityName_notMem_iff, ← invalidAttributeName_notMem_iff]
  exact ⟨fun h => ⟨h.entities, h.attributes⟩, fun h => ⟨h.1, h.2⟩⟩

/-- **The names that pass are identifiers, with or without a line feed behind; and they are all
    identifiers exactly if none ends with a line feed.** -/
theorem namesPass_iff (m : Model) :
    (m.NamesPass ↔ ∀ s ∈ m.names,
      Text.Identifier s ∨ ∃ stem, Text.Identifier stem ∧ s = stem ++ [Text.lineFeed]) ∧
    ((∀ s ∈ m.names, Text.Identifier s) ↔
      m.NamesPass ∧ ∀ s ∈ m.names, s.getLast? ≠ some Text.lineFeed) := by
  constructor
  · simp only [namesPass_iff_isIdentifier, Text.isIdentifier_iff]
  · simp only [namesPass_iff_isIdentifier, Text.identifier_iff, forall_and]

/-- An entity whose names are written with the ends of their lines. -/
def endedNames : Model where
  name := "ended"
  entities := [{
    className := "Item\n"
    table := none
    attributes := [.plain ⟨"code\n", by decide⟩ .string]
    className_ne := by decide
    distinct := by decide
    composite := by decide }]
  name_ne := by decide
  distinct := by decide

/-- Not only identifiers pass: names with a line feed at the end do too. -/
theorem lineFeed_passes :
    ¬ ∀ m : Model, "INVALID_ENTITY_NAME" ∉ m.entityNameFindings.map Finding.code →
      "INVALID_ATTRIBUTE_NAME" ∉ m.attributeNameFindings.map Finding.code →
      ∀ s ∈ m.names, Text.Identifier s := by
  intro h
  have hitem := h endedNames (by decide +kernel) (by decide +kernel) "Item\n" (.head _)
  exact hitem.getLast?_ne rfl

end Model

end Typewright
