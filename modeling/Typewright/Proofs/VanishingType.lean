/-
  SQL types that vanish.

  An override is never blank, but it is a template, and where there is no size its placeholders are
  dropped, together with the parentheses and the blanks around them.  Some templates hold nothing
  else: they vanish (`Sql.Vanishes`).  The definition says of what pieces such a template is made;
  that these are the templates of which nothing but blanks is left is `isBlank_emptied_iff`.

  No other way leads to a blank SQL type.  A size is never blank and is shown by every template with
  a placeholder, a bare name stays, and the templates of the dialects and of the standard start with
  a letter.  So the attributes without an SQL type are those that state none, have no size, and are
  of a kind whose override vanishes (`Environment.LeavesNoType`).
-/
import Typewright.Proofs.DecimalText
import Typewright.Proofs.Rendering
import Typewright.Proofs.SqlType

namespace Typewright

namespace Sql

open Text

/-! ## What vanishes -/

/-- A template that holds nothing but blanks and placeholders, alone in parentheses or without
    them.  Groups may also stand between the two signs of a placeholder, which come together when
    the groups are dropped. -/
inductive Vanishes : Text → Prop
  | nil : Vanishes []
  | blank {c : CodePoint} {rest : Text} (hc : c.is isBlankChar = true) (hrest : Vanishes rest) :
      Vanishes (c :: rest)
  | group {g rest : Text} (hg : IsGroup g) (hrest : Vanishes rest) : Vanishes (g ++ rest)
  | placeholder {groups : List Text} {rest : Text} (hgroups : ∀ g ∈ groups, IsGroup g)
      (hrest : Vanishes rest) :
      Vanishes (.char '%' :: (groups.flatten ++ .char 's' :: rest))

/-! ## What is left of a template -/

theorem isBlank_of_vanishes {template : Text} (h : Vanishes template) :
    isBlank (emptied template) = true := by
  induction h with
  | nil => rw [emptied_nil]; rfl
  | @blank c rest hc _ ih =>
    have hpercent : c ≠ .char '%' := by
      rintro rfl
      exact absurd hc (by decide)
    rcases dropGroups_cons_of_blank hc rest with heq | heq
    · rw [emptied, heq, ← emptied]
      exact ih
    · rw [emptied_cons heq fun _ h _ => hpercent h]
      exact isBlank_cons.mpr ⟨hc, ih⟩
  | @group g rest hg _ ih =>
    rw [emptied_group hg]
    exact ih
  | @placeholder groups rest hgroups _ ih =>
    rw [emptied_placeholder hgroups]
    exact ih

theorem vanishes_of_isBlank {template : Text} (h : isBlank (emptied template) = true) :
    Vanishes template := by
  induction template using emptied_induction with
  | nil => exact .nil
  | group g rest hg ih =>
    rw [emptied_group hg] at h
    exact .group hg (ih h)
  | place groups rest hgroups ih =>
    rw [emptied_placeholder hgroups] at h
    exact .placeholder hgroups (ih h)
  | sign c rest hsign ih =>
    rw [hsign] at h
    obtain ⟨hc, hrest⟩ := isBlank_cons.mp h
    exact .blank hc (ih hrest)

theorem vanishes_of_blank {template : Text} (h : isBlank template = true) : Vanishes template := by
  induction template with
  | nil => exact .nil
  | cons c rest ih =>
    obtain ⟨hc, hrest⟩ := isBlank_cons.mp h
    exact .blank hc (ih hrest)

/-- **Of a template without a size nothing but blanks is left exactly if it vanishes.** -/
theorem isBlank_emptied_iff {template : Text} :
    isBlank (emptied template) = true ↔ Vanishes template :=
  ⟨vanishes_of_isBlank, isBlank_of_vanishes⟩

instance (template : Text) : Decidable (Vanishes template) :=
  decidable_of_iff _ isBlank_emptied_iff

example : Vanishes " %( %s )s" := by decide +kernel

example : ¬ Vanishes "(%s) X" := by decide +kernel

/-! ## What becomes of a template -/

theorem isBlank_apply_none_iff {template : Text} :
    isBlank (apply template none) = true ↔ Vanishes template := by
  rw [apply_none, isBlank_trimmed, isBlank_emptied_iff]

/-- A placeholder shows the size. -/
theorem isBlank_fill {size template : Text} (hsize : isBlank size = false)
    (hplace : hasPlaceholder template = true) : isBlank (fill size template) = false := by
  obtain ⟨c, hc, hblank⟩ := List.all_eq_false.mp hsize
  exact List.all_eq_false.mpr ⟨c, mem_fill hc hplace, hblank⟩

theorem isBlank_apply_some {size template : Text} (hsize : isBlank size = false)
    (htemplate : isBlank template = false) : isBlank (apply template (some size)) = false := by
  have hne : size ≠ [] := by
    rintro rfl
    cases hsize
  rw [apply_some hne, isBlank_trimmed]
  cases hplace : hasPlaceholder template with
  | true => exact isBlank_fill hsize hplace
  | false => rw [fill_of_no_placeholder hplace, htemplate]

theorem isBlank_withSize {type : Text} (h : isBlank type = false) (size : Option Text) :
    isBlank (withSize type size) = false := by
  have hbase : isBlank (trimmed type) = false := (isBlank_trimmed type).trans h
  simp only [withSize]
  split
  · simp only [isBlank, List.append_assoc, List.all_append, Bool.and_eq_false_iff]
    exact .inl hbase
  · exact hbase

/-! ## Templates that stay -/

/-- What vanishes starts, behind its blanks, with a parenthesis or a placeholder. -/
theorem Vanishes.head {template : Text} (h : Vanishes template) :
    ∀ c ∈ (trimStart template).head?, c = .char '(' ∨ c = .char '%' := by
  induction h with
  | nil => nofun
  | blank hc _ ih =>
    rw [trimStart_cons_of_blank hc]
    exact ih
  | group hg _ _ =>
    obtain ⟨hfront, -, -⟩ := hg
    rw [List.append_assoc, trimStart_append hfront, List.cons_append,
      trimStart_cons_of_not_blank (by decide)]
    rintro c ⟨⟩
    exact .inl rfl
  | placeholder _ _ _ =>
    rw [trimStart_cons_of_not_blank (by decide)]
    rintro c ⟨⟩
    exact .inr rfl

/-- What starts, behind its blanks, with a word does not vanish. -/
theorem not_vanishes_of_word {template : Text}
    (h : (trimStart template).head?.any (CodePoint.is isWordChar) = true) :
    ¬ Vanishes template := by
  intro hvanishes
  obtain ⟨c, hc, hword⟩ := Option.any_eq_true _ _ |>.mp h
  rcases hvanishes.head c hc with rfl | rfl
  · exact absurd hword (by decide +kernel)
  · exact absurd hword (by decide +kernel)

theorem not_vanishes_of_bareName {template : Text} (h : isBareName template = true) :
    ¬ Vanishes template := by
  apply not_vanishes_of_word
  simp only [isBareName, Bool.and_eq_true, Bool.not_eq_true'] at h
  cases hstart : trimStart template with
  | nil => simp [hstart] at h
  | cons c rest =>
    cases hword : c.is isWordChar with
    | true => simp [hword]
    | false => simp [hstart, hword] at h

theorem startsWithWord_template (d : Dialect) (type : NeutralType) :
    (trimStart (d.template type)).head?.any (CodePoint.is isWordChar) = true := by
  cases d <;> cases type <;> decide

theorem startsWithWord_longText (d : Dialect) :
    (trimStart d.longText).head?.any (CodePoint.is isWordChar) = true := by
  cases d <;> decide

theorem startsWithWord_autoIncrement {d : Dialect} {type : NeutralType} {serial : String}
    (h : d.autoIncrement? type = some serial) :
    (trimStart serial).head?.any (CodePoint.is isWordChar) = true := by
  unfold Dialect.autoIncrement? at h
  split at h <;> cases h <;> decide

theorem startsWithWord_standardTemplate (type : NeutralType) :
    (trimStart (standardTemplate type)).head?.any (CodePoint.is isWordChar) = true := by
  cases type <;> decide

/-! ## The type that is inferred -/

namespace Provider

variable {s : Subject}

/-- A template that is not blank becomes blank only where it vanishes for lack of a size. -/
theorem isBlank_render_iff {template : Text} {source : Source} {size : Option Text}
    (htemplate : isBlank template = false) (hsize : ∀ given ∈ size, isBlank given = false) :
    isBlank (render template source size) = true ↔ size = none ∧ Vanishes template := by
  unfold render
  split
  next hbare =>
    have hword : isBareName template = true := (Bool.and_eq_true_iff.mp hbare).2
    rw [isBlank_withSize htemplate]
    simp [not_vanishes_of_bareName hword]
  next =>
    cases size with
    | none =>
      rw [isBlank_apply_none_iff]
      simp
    | some given =>
      rw [isBlank_apply_some (hsize given rfl) htemplate]
      simp

/-- A template of a dialect or of the standard starts with a word. -/
theorem startsWithWord_templateFor {p : Provider} {type : NeutralType} (auto long : Bool)
    (h : p.override? type = none) :
    (trimStart (p.templateFor type auto long).1).head?.any (CodePoint.is isWordChar) = true := by
  unfold templateFor
  rw [h]
  cases p.dialect with
  | none =>
    dsimp only
    split
    · decide
    · exact startsWithWord_standardTemplate type
  | some d =>
    simp only [dialectTemplate]
    split
    next serial hserial =>
      split at hserial
      · exact startsWithWord_autoIncrement hserial
      · cases hserial
    · split
      · exact startsWithWord_longText d
      · exact startsWithWord_template d type

/-- An inferred type is blank exactly if there is no size and the kind has an override that
    vanishes. -/
theorem isBlank_inferred_iff {p : Provider} (hp : ∀ entry ∈ p.overrides, isBlank entry.2 = false)
    (s : Subject) : isBlank (p.inferred s).1 = true ↔
      sizeFor s = none ∧ ∃ template, p.override? s.type = some template ∧ Vanishes template := by
  have hsize : ∀ given ∈ sizeFor s, isBlank given = false := fun _ => isBlank_of_sizeFor
  simp only [inferred]
  cases hoverride : p.override? s.type with
  | some template =>
    obtain ⟨before, after, hentry, -⟩ := List.lookup_eq_some_iff.mp hoverride
    have htemplate : isBlank template = false := hp (s.type, template) (by simp [hentry])
    simp only [templateFor, hoverride, isBlank_render_iff htemplate hsize]
    simp
  | none =>
    have hstays := not_vanishes_of_word
      (startsWithWord_templateFor s.autoIncremented s.longText hoverride)
    have htemplate : isBlank (p.templateFor s.type s.autoIncremented s.longText).1 = false :=
      Bool.eq_false_iff.mpr fun hblank => hstays (vanishes_of_blank hblank)
    rw [isBlank_render_iff htemplate hsize]
    simp [hstays]

/-- A type that an attribute states is not blank, so only an inferred one can be. -/
theorem sqlType_isBlank_iff (p : Provider) (s : Subject) : isBlank (p.sqlType s) = true ↔
    isBlank s.explicit = true ∧ isBlank (p.inferred s).1 = true := by
  cases hstated : isBlank s.explicit with
  | false =>
    rw [sqlType_eq_stated hstated, isBlank_trimmed, hstated]
    simp
  | true =>
    rw [sqlType_eq_inferred hstated]
    simp

end Provider

end Sql

/-! ## Attributes without an SQL type -/

theorem Text.isBlankChar_of_isDigit {c : Char} (h : c.isDigit = true) : isBlankChar c = false := by
  have hrange : 48 ≤ c.toNat ∧ c.toNat ≤ 57 := Char.isDigit_iff_toNat.mp h
  simp only [isBlankChar, Bool.or_eq_false_iff, Bool.and_eq_false_iff, decide_eq_false_iff_not,
    beq_eq_false_iff_ne]
  omega

theorem Writable.exists_digit (w : Writable) : ∃ c ∈ w.digits.toList, c.isDigit = true := by
  obtain ⟨digit, hdigit⟩ := List.exists_mem_of_ne_nil _ (Decimal.digits_ne_nil w.number.natAbs)
  refine ⟨digit, ?_, Decimal.isDigit_of_mem_digits hdigit⟩
  obtain ⟨n, hn⟩ := w
  cases n with
  | ofNat n =>
    have hdigits : (Nat.repr n).toList = Decimal.digits n := by simp [Nat.repr, Decimal.digits]
    show digit ∈ (Nat.repr n).toList
    rw [hdigits]
    exact hdigit
  | negSucc n =>
    have hdigits : ("-" ++ Nat.repr (n + 1)).toList = '-' :: Decimal.digits (n + 1) := by
      simp [Nat.repr, Decimal.digits]
    show digit ∈ ("-" ++ Nat.repr (n + 1)).toList
    rw [hdigits]
    exact .tail _ hdigit

/-- The digits of a number are no blank text. -/
theorem Context.isBlank_numberText (n : Option Writable) :
    Text.isBlank (numberText n) = true ↔ n = none := by
  cases n with
  | none => exact iff_of_true rfl rfl
  | some n =>
    obtain ⟨digit, hmem, hdigit⟩ := n.exists_digit
    have hblank : Text.isBlankChar digit = false := Text.isBlankChar_of_isDigit hdigit
    have hsome : Text.isBlank (numberText (some n)) = false :=
      List.all_eq_false.mpr
        ⟨.char digit, List.mem_map_of_mem hmem, by simp [CodePoint.is, hblank]⟩
    simp [hsome]

/-- An environment gives an attribute no SQL type: the attribute states none and has no size, and
    the override for its kind is a template that vanishes. -/
structure Environment.LeavesNoType (env : Environment) (a : Attribute) : Prop where
  unstated : Text.isBlank (Context.orEmpty a.column.sqlType) = true
  /-- The kind has no size, or neither the column nor, for a text, the bound on its length says
      one. -/
  unsized : a.type.isSized = false ∨ (Text.isBlank (Context.orEmpty a.column.size) = true ∧
    (a.type = .string → a.constraints.maxLength = none))
  vanishes : ∃ template, env.overrides.lookup a.type = some template ∧ Sql.Vanishes template

/-- **The SQL type of an attribute is blank exactly if its environment leaves it none.** -/
theorem Context.isBlank_sqlType_iff (c : Context) :
    Text.isBlank c.sqlType = true ↔ c.environment.LeavesNoType c.subject := by
  have hsize : Sql.Provider.sizeFor c.sqlSubject = none ↔ _ := Sql.Provider.sizeFor_eq_none_iff
  rw [sqlType, Sql.Provider.sqlType_isBlank_iff,
    Sql.Provider.isBlank_inferred_iff c.environment.overrides_ok, hsize]
  simp only [sqlSubject, Sql.Length.toText, isBlank_numberText, maxLength, Option.pmap_eq_none_iff]
  constructor
  · rintro ⟨hunstated, hunsized, hvanishes⟩
    exact ⟨hunstated, hunsized, hvanishes⟩
  · intro hnone
    exact ⟨hnone.unstated, hnone.unsized, hnone.vanishes⟩

/-- An environment in which a text is of no type but its size. -/
def Environment.sizeAlone : Environment :=
  { Environment.standard with
    overrides := [(.string, "(%s)")]
    overrides_ok := by decide }

/-- Without a size there is no type then, although no override is blank. -/
theorem Context.sqlType_can_be_blank :
    ¬ ∀ (m : Model) (env : Environment), ∀ e ∈ m.entities, ∀ a ∈ e.attributes,
      ∀ c, (Context.opened m env e a).outcome = .ok c → Text.isBlank c.sqlType = false := by
  intro h
  have hlabel := h Model.shop .sizeAlone Model.shopPart (.tail _ (.head _))
    (.plain ⟨"label", by decide⟩ .string) (.tail _ (.head _)) _ rfl
  exact absurd hlabel (by decide +kernel)

end Typewright
