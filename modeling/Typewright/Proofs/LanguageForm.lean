/-
  The forms of a language type.

  A kind has up to two forms in a language, a primitive and a boxed one.  A request gets the first
  of them in the order that it wants, and beside it the short name of the boxed form, or of the
  primitive where there is no other (`find?_cases`).  So the name that an answer shows beside its
  type is that of the type with the object form asked for, and of the hints only the object form and
  the sign matter (`boxing_coherent`).

  The sign chooses between two primitives, and the table of unsigned ones is looked at for an
  unsigned type only.  A kind is supported if it has a type without that table, which is the same as
  having one whatever the hints are.  A kind that has nothing but an unsigned type has one for some
  requests and none for others, so that no list of kinds could tell (`exists_kinds_iff`).

  A request for the object form is no promise: where a kind has no boxed form it gets the primitive.
  So a primitive can be recommended for a column that may be null (`recommended_primitive_iff`).
-/
import Mathlib.Tactic.ByContra
import Mathlib.Tactic.Tauto
import Typewright.Language.Builtin

namespace Typewright

namespace Converter

variable {c : Converter} {r : TypeRequest} {t : LanguageType}

/-! ## The two forms -/

/-- The boxed type for a request. -/
def boxedFor? (c : Converter) (r : TypeRequest) : Option Spelling :=
  c.boxed? r.type (c.primitive? r)

/-- A kind has a primitive type with the sign that is asked for. -/
def HasPrimitive (c : Converter) (r : TypeRequest) : Prop :=
  (c.primitives r.type).isSome ∨ r.unsigned = true ∧ (c.unsigned r.type).isSome

/-- A kind has a boxed type: one of its own, or the nullable form of its primitive. -/
def HasBoxed (c : Converter) (r : TypeRequest) : Prop :=
  (c.objects r.type).isSome ∨ c.boxing = .nullable ∧ c.HasPrimitive r

theorem isSome_primitive?_iff : (c.primitive? r).isSome ↔ c.HasPrimitive r := by
  unfold primitive? HasPrimitive
  cases r.unsigned with
  | true => simp [or_comm]
  | false => simp

theorem isSome_boxedFor?_iff : (c.boxedFor? r).isSome ↔ c.HasBoxed r := by
  rw [HasBoxed, ← isSome_primitive?_iff]
  unfold boxedFor? boxed?
  cases c.boxing with
  | listed => simp
  | nullable => cases c.primitive? r <;> simp

/-- A request gets its primitive form, its boxed form, or nothing where a kind has neither. -/
theorem find?_cases (c : Converter) (r : TypeRequest) :
    (∃ p, c.primitive? r = some p ∧ (r.object = true → c.boxedFor? r = none) ∧
      c.find? r = some ⟨r.type, p.simple, p.full, ((c.boxedFor? r).getD p).simple, true⟩) ∨
    (∃ b, c.boxedFor? r = some b ∧ (r.object = false → c.primitive? r = none) ∧
      c.find? r = some ⟨r.type, b.simple, b.full, b.simple, false⟩) ∨
    (c.primitive? r = none ∧ c.boxedFor? r = none ∧ c.find? r = none) := by
  unfold find? boxedFor?
  dsimp only
  generalize c.primitive? r = primitive
  generalize c.boxed? r.type primitive = boxed
  cases primitive with
  | none =>
    cases boxed with
    | none => exact .inr (.inr ⟨rfl, rfl, rfl⟩)
    | some b => exact .inr (.inl ⟨b, rfl, fun _ => rfl, rfl⟩)
  | some p =>
    cases boxed with
    | none => exact .inl ⟨p, rfl, fun _ => rfl, rfl⟩
    | some b =>
      cases r.object with
      | true => exact .inr (.inl ⟨b, rfl, nofun, rfl⟩)
      | false => exact .inl ⟨p, rfl, nofun, rfl⟩

theorem get_eq_ok_iff : c.get r = .ok t ↔ c.find? r = some t := by
  unfold get
  cases c.find? r <;> simp

theorem map_get {α : Type} (c : Converter) (r : TypeRequest) (f : LanguageType → α) :
    (c.get r).map f = ((c.find? r).map f).elim (.error (c.missing r.type)) .ok := by
  unfold get
  cases c.find? r <;> rfl

theorem exists_primitive_iff : (∃ t, c.find? r = some t ∧ t.primitive = true) ↔
    c.HasPrimitive r ∧ (r.object = true → ¬ c.HasBoxed r) := by
  rw [← isSome_primitive?_iff, ← isSome_boxedFor?_iff]
  obtain ⟨p, hp, hobject, hfind⟩ | ⟨b, hb, hobject, hfind⟩ | ⟨hp, hb, hfind⟩ := find?_cases c r
  · exact iff_of_true ⟨_, hfind, rfl⟩ ⟨by simp [hp], fun h => by simp [hobject h]⟩
  · cases hform : r.object with
    | true => simp [hfind, hb]
    | false => simp [hfind, hobject hform]
  · simp [hfind, hp]

theorem exists_boxed_iff : (∃ t, c.find? r = some t ∧ t.primitive = false) ↔
    c.HasBoxed r ∧ (r.object = false → ¬ c.HasPrimitive r) := by
  rw [← isSome_primitive?_iff, ← isSome_boxedFor?_iff]
  obtain ⟨p, hp, hobject, hfind⟩ | ⟨b, hb, hobject, hfind⟩ | ⟨hp, hb, hfind⟩ := find?_cases c r
  · cases hform : r.object with
    | true => simp [hfind, hobject hform]
    | false => simp [hfind, hp]
  · exact iff_of_true ⟨_, hfind, rfl⟩ ⟨by simp [hb], fun h => by simp [hobject h]⟩
  · simp [hfind, hb]

theorem find?_eq_none_iff : c.find? r = none ↔ ¬ c.HasPrimitive r ∧ ¬ c.HasBoxed r := by
  rw [← isSome_primitive?_iff, ← isSome_boxedFor?_iff]
  obtain ⟨p, hp, -, hfind⟩ | ⟨b, hb, -, hfind⟩ | ⟨hp, hb, hfind⟩ := find?_cases c r
  · simp [hfind, hp]
  · simp [hfind, hb]
  · simp [hfind, hp, hb]

/-! ## Boxing -/

/-- The name beside an answer is that of the boxed form, or of the primitive where there is none. -/
theorem wrapper_find? (c : Converter) (r : TypeRequest) :
    (c.find? r).map (·.wrapper) = ((c.boxedFor? r).or (c.primitive? r)).map (·.simple) := by
  obtain ⟨p, hp, -, hfind⟩ | ⟨b, hb, -, hfind⟩ | ⟨hp, hb, hfind⟩ := find?_cases c r
  · rw [hfind, hp]
    cases c.boxedFor? r <;> rfl
  · rw [hfind, hb]
    rfl
  · rw [hfind, hb, hp]
    rfl

/-- An answer shows itself where it is not primitive or the object form was asked for. -/
theorem wrapper_eq_simple (h : c.find? r = some t)
    (hself : t.primitive = false ∨ r.object = true) : t.wrapper = t.simple := by
  obtain ⟨p, -, hobject, hfind⟩ | ⟨b, -, -, hfind⟩ | ⟨-, -, hfind⟩ := find?_cases c r
  · cases h.symm.trans hfind
    rcases hself with hprimitive | hasked
    · cases hprimitive
    · rw [hobject hasked]
      rfl
  · cases h.symm.trans hfind
    rfl
  · cases h.symm.trans hfind

/-- **The object form is what the plain answer shows beside itself.**  A type that is not primitive
    shows itself, a request for the object form gets the boxed one exactly if there is one, and the
    hints for a primitive and for a long text change nothing. -/
theorem boxing_coherent (c : Converter) (r : TypeRequest) :
    (c.get { r with object := true }).map (·.wrapper) =
        (c.get { r with object := false }).map (·.wrapper) ∧
      (c.get { r with object := true }).map (·.simple) =
        (c.get { r with object := false }).map (·.wrapper) ∧
      (∀ t, c.get r = .ok t → t.primitive = false → t.wrapper = t.simple) ∧
      (c.HasBoxed r ↔ ∃ t, c.get { r with object := true } = .ok t ∧ t.primitive = false) ∧
      ∀ primitive longText, c.get { r with primitive, longText } = c.get r := by
  -- the two forms do not depend on which of them is asked for
  have hwrapper : (c.get { r with object := true }).map (·.wrapper) =
      (c.get { r with object := false }).map (·.wrapper) := by
    rw [map_get, map_get, wrapper_find?, wrapper_find?]
    rfl
  have hsimple : (c.get { r with object := true }).map (·.simple) =
      (c.get { r with object := true }).map (·.wrapper) := by
    cases hget : c.get { r with object := true } with
    | error missing => rfl
    | ok t => exact congrArg Except.ok (wrapper_eq_simple (get_eq_ok_iff.mp hget) (.inr rfl)).symm
  refine ⟨hwrapper, hsimple.trans hwrapper, ?self, ?boxed, fun _ _ => rfl⟩
  case self =>
    intro t ht hprimitive
    exact wrapper_eq_simple (get_eq_ok_iff.mp ht) (.inl hprimitive)
  case boxed =>
    simp only [get_eq_ok_iff]
    rw [exists_boxed_iff]
    exact ⟨fun h => ⟨h, nofun⟩, fun h => h.1⟩

/-- The converter of a language whose boxed types are the nullable forms of its primitives. -/
def nullableValues : Converter := TargetLanguage.csharp.converter .standard

/-- The object form of an unsigned number, which is derived from the unsigned primitive, and what is
    given where both forms are asked for. -/
theorem boxing_coherent_unsigned :
    (nullableValues.get ⟨.short, false, false, true, false⟩).map (·.wrapper) = .ok "ushort?" ∧
      (nullableValues.get ⟨.short, false, true, true, false⟩).map (·.simple) = .ok "ushort?" ∧
      ∃ t, nullableValues.get ⟨.short, true, true, true, true⟩ = .ok t ∧ t.primitive = false := by
  obtain ⟨-, hsimple, -, -, -⟩ := boxing_coherent nullableValues ⟨.short, false, false, true, false⟩
  obtain ⟨-, -, -, hboxed, -⟩ := boxing_coherent nullableValues ⟨.short, true, false, true, true⟩
  exact ⟨rfl, hsimple.trans rfl, hboxed.mp (.inr ⟨rfl, .inl rfl⟩)⟩

/-! ## Kinds with a type -/

theorem mem_supported {kind : NeutralType} :
    kind ∈ c.supported ↔ (c.primitives kind).isSome ∨ (c.objects kind).isSome := by
  have hmem : kind ∈ NeutralType.all := Vocabulary.mem_members kind
  simp [supported, hmem]

/-- A converter has no type for a request, which is a failure of the configuration. -/
def Refuses (c : Converter) (r : TypeRequest) : Prop :=
  ∃ missing, c.get r = .error missing ∧ (Failure.missingType missing).kind = .configuration

theorem refuses_iff_find? : c.Refuses r ↔ c.find? r = none := by
  unfold Refuses get
  cases c.find? r <;> simp [Failure.kind]

theorem not_refuses_iff : ¬ c.Refuses r ↔ ∃ t, c.get r = .ok t := by
  simp only [refuses_iff_find?, get_eq_ok_iff, ← Option.isSome_iff_exists,
    Option.isSome_iff_ne_none, ne_eq]

/-- Beside the tables of the supported kinds only that of unsigned types counts, and only where an
    unsigned type is asked for. -/
theorem refuses_iff_tables : c.Refuses r ↔
    r.type ∉ c.supported ∧ (r.unsigned = true → c.unsigned r.type = none) := by
  rw [refuses_iff_find?, find?_eq_none_iff, HasBoxed, HasPrimitive, mem_supported,
    ← Option.not_isSome_iff_eq_none]
  tauto

/-- **A request is refused exactly if its kind is not supported and has no unsigned type that could
    be taken instead.**  The supported kinds are those that are never refused. -/
theorem refuses_iff (c : Converter) :
    (∀ r : TypeRequest, c.Refuses r ↔
      r.type ∉ c.supported ∧ (r.unsigned = true → c.unsigned r.type = none)) ∧
    ∀ kind, kind ∈ c.supported ↔ ∀ r : TypeRequest, r.type = kind → ∃ t, c.get r = .ok t := by
  refine ⟨fun _ => refuses_iff_tables, fun kind => ⟨?_, fun hall => ?_⟩⟩
  · rintro hkind r rfl
    exact not_refuses_iff.mp fun hrefused => (refuses_iff_tables.mp hrefused).1 hkind
  · -- the request without hints looks at nothing but the tables of the supported kinds
    by_contra hkind
    refine not_refuses_iff.mpr (hall ⟨kind, false, false, false, false⟩ rfl) ?_
    exact refuses_iff_tables.mpr ⟨hkind, nofun⟩

/-- A list of kinds tells which requests are refused exactly if every kind with an unsigned type is
    supported without it. -/
theorem exists_kinds_iff (c : Converter) :
    (∃ kinds : List NeutralType, ∀ r : TypeRequest, c.Refuses r ↔ r.type ∉ kinds) ↔
      ∀ kind, (c.unsigned kind).isSome → kind ∈ c.supported := by
  constructor
  · rintro ⟨kinds, htell⟩ kind hunsigned
    by_contra hkind
    -- the kind is refused without a sign and not refused with one
    have hplain : c.Refuses ⟨kind, false, false, false, false⟩ :=
      refuses_iff_tables.mpr ⟨hkind, nofun⟩
    have hkinds : kind ∉ kinds := (htell _).mp hplain
    have hsigned : c.Refuses ⟨kind, false, false, true, false⟩ := (htell _).mpr hkinds
    rw [(refuses_iff_tables.mp hsigned).2 rfl] at hunsigned
    cases hunsigned
  · intro hall
    refine ⟨c.supported, fun r => refuses_iff_tables.trans (and_iff_left_of_imp ?_)⟩
    intro hkind _
    exact Option.not_isSome_iff_eq_none.mp fun hunsigned => hkind (hall _ hunsigned)

/-- A converter that knows one type, an unsigned one. -/
def unsignedOnly : Converter where
  label := "CustomConverter"
  language := "cobol"
  primitives := fun _ => none
  unsigned := fun kind => if kind = .int then some ⟨"BINARY", "BINARY-LONG UNSIGNED"⟩ else none
  objects := fun _ => none
  boxing := .listed
  typeCodes := .standard

/-- A kind that is not supported can have a type. -/
theorem supported_can_miss :
    ¬ ∀ (c : Converter) (r : TypeRequest), c.Refuses r ↔ r.type ∉ c.supported := by
  intro h
  have hrefused : unsignedOnly.Refuses ⟨.int, false, false, true, false⟩ :=
    (h _ _).mpr (by decide)
  exact not_refuses_iff.mpr ⟨_, rfl⟩ hrefused

/-! ## Recommendations -/

/-- **A primitive type is recommended for a column that is not null, and for one that may be null
    exactly if the kind has no boxed type.** -/
theorem recommended_primitive_iff (c : Converter) (code : Option Int) (notNull : Bool) :
    (∃ t, c.recommended? code notNull = some t ∧ t.primitive = true) ↔
      ∃ kind, c.typeCodes.typeFor code = some kind ∧ (c.primitives kind).isSome ∧
        (notNull = false → c.boxing = .listed ∧ c.objects kind = none) := by
  unfold recommended?
  cases c.typeCodes.typeFor code with
  | none => simp
  | some kind =>
    have hprimitive : c.HasPrimitive ⟨kind, false, !notNull, false, false⟩ ↔
        (c.primitives kind).isSome := or_iff_left nofun
    simp only [Option.bind_some, exists_primitive_iff, HasBoxed, hprimitive, Option.some_inj,
      exists_eq_left', Bool.not_eq_true']
    refine and_congr_right fun hsome => forall_congr' fun _ => ?_
    cases c.boxing with
    | listed => simp
    | nullable => simp [hsome]

/-- A converter that knows one type, a primitive one. -/
def primitiveOnly : Converter where
  label := "CustomConverter"
  language := "cobol"
  primitives := fun kind => if kind = .int then some ⟨"BINARY", "BINARY-LONG"⟩ else none
  unsigned := fun _ => none
  objects := fun _ => none
  boxing := .listed
  typeCodes := .standard

/-- A primitive can be recommended for a column that may be null. -/
theorem nullable_can_be_primitive :
    ¬ ∀ (c : Converter) (code : Option Int) (t : LanguageType),
      c.recommended? code false = some t → t.primitive = false := by
  intro h
  exact absurd (h primitiveOnly (some 4) _ rfl) (by decide)

end Converter

namespace TargetLanguage

/-- The languages of the library have a boxed type beside every primitive. -/
theorem hasBoxed_of_hasPrimitive (l : TargetLanguage) (typeCodes : Catalog) {r : TypeRequest}
    (h : (l.converter typeCodes).HasPrimitive r) : (l.converter typeCodes).HasBoxed r := by
  cases l with
  | csharp => exact .inr ⟨rfl, h⟩
  | java | python | typescript =>
    -- the object tables of the others hold every kind
    left
    obtain ⟨kind, _, _, _, _⟩ := r
    cases kind <;> rfl

/-- So they recommend no primitive for a column that may be null. -/
theorem recommended_of_nullable (l : TargetLanguage) {typeCodes : Catalog} {code : Option Int}
    {t : LanguageType} (h : (l.converter typeCodes).recommended? code false = some t) :
    t.primitive = false := by
  obtain ⟨kind, -, hfind⟩ := Option.bind_eq_some_iff.mp h
  refine Bool.eq_false_iff.mpr fun hprimitive => ?_
  obtain ⟨hform, hnone⟩ := Converter.exists_primitive_iff.mp ⟨t, hfind, hprimitive⟩
  exact hnone rfl (l.hasBoxed_of_hasPrimitive typeCodes hform)

end TargetLanguage

end Typewright
