/-
  Overrides that are bare names.

  An override that is one word takes its size as a native type does, by its family, and not as a
  template.  For a word of a sized family this comes to the same as writing the placeholder behind
  it, and for no other word: such a word stays alone (`bareName_agrees_iff`).

  The two ways meet in `sizedName`, the word with its size in parentheses: adding a suffix makes it
  from the word, and filling or dropping the placeholder from the template.  Neither way touches the
  word itself, since that holds no blank, no parenthesis and no percent sign.
-/
import Typewright.Proofs.SizeGroup
import Typewright.Proofs.SqlType

namespace Typewright

namespace Text

/-! ## Words -/

/-- One or more word characters. -/
structure IsWord (s : Text) : Prop where
  ne_nil : s ≠ []
  wordChars : ∀ c ∈ s, c.is isWordChar = true

instance (s : Text) : Decidable (IsWord s) :=
  decidable_of_iff (s ≠ [] ∧ ∀ c ∈ s, c.is isWordChar = true)
    ⟨fun h => ⟨h.1, h.2⟩, fun h => ⟨h.ne_nil, h.wordChars⟩⟩

theorem IsWord.not_blank {s : Text} (h : IsWord s) {c : CodePoint} (hc : c ∈ s) :
    c.is isBlankChar = false :=
  isBlank_of_wordChar (h.wordChars c hc)

theorem IsWord.notMem {s : Text} (h : IsWord s) {c : Char} (hc : covers wordlessSpans c = true) :
    .char c ∉ s :=
  fun hmem => Bool.false_ne_true ((isWordChar_of_wordless hc).symm.trans (h.wordChars _ hmem))

theorem IsWord.trimStart_append {s : Text} (h : IsWord s) (rest : Text) :
    trimStart (s ++ rest) = s ++ rest := by
  obtain ⟨c, more, rfl⟩ := List.exists_cons_of_ne_nil h.ne_nil
  exact trimStart_cons_of_not_blank (h.not_blank (.head _)) (more ++ rest)

theorem IsWord.trimEnd_eq {s : Text} (h : IsWord s) : trimEnd s = s :=
  List.rdropWhile_eq_self_iff.mpr fun hne =>
    Bool.eq_false_iff.mp (h.not_blank (List.getLast_mem hne))

theorem IsWord.trimmed_eq {s : Text} (h : IsWord s) : trimmed s = s :=
  trimmed_eq_self_iff.mpr ⟨fun _ hc => h.not_blank (List.mem_of_head? hc),
    fun _ hc => h.not_blank (List.mem_of_getLast? hc)⟩

end Text

namespace Sql

open Text

variable {word : Text}

/-! ## Bare names and templates -/

/-- A name with a size in parentheses, or alone. -/
def sizedName (word : Text) : Option Text → Text
  | none => word
  | some size => word ++ .char '(' :: (size ++ [.char ')'])

/-- A name of a sized family takes its size, and another one none. -/
theorem withSize_word (hword : IsWord word) {size : Option Text}
    (hsize : ∀ given ∈ size, trimmed given = given ∧ given ≠ []) :
    withSize word size = if needsSize word then sizedName word size else word := by
  unfold withSize
  cases size with
  | none =>
    have hempty : trimmed ([] : Text) = [] := rfl
    simp [hword.trimmed_eq, hempty, sizedName]
  | some given =>
    obtain ⟨htrimmed, hne⟩ := hsize given rfl
    have hparens : word ++ "(" ++ given ++ ")" = sizedName word (some given) := by
      rw [sizedName, List.append_assoc, List.append_assoc]
      rfl
    simp only [hword.trimmed_eq, Option.getD_some, htrimmed, hword.ne_nil, hne, hparens, ne_eq,
      not_false_eq_true, decide_true, Bool.true_and, Bool.and_true]

/-- A placeholder behind a word is filled with the size, or goes with its parentheses. -/
theorem apply_word (hword : IsWord word) {size : Option Text}
    (hsize : ∀ given ∈ size, trimmed given = given ∧ given ≠ []) :
    apply (word ++ "(%s)") size = sizedName word size := by
  have hgroup : (word ++ "(%s)" : Text) = word ++ (enclosed [] placeholder [] ++ []) := rfl
  have hpercent : .char '%' ∉ word := hword.notMem (by decide)
  rw [hgroup]
  cases size with
  | none =>
    rw [apply_none, emptied_enclosed hpercent List.not_mem_nil rfl rfl, List.append_nil,
      hword.trimEnd_eq, hword.trimmed_eq, sizedName]
  | some given =>
    obtain ⟨c, more, rfl⟩ := List.exists_cons_of_ne_nil hword.ne_nil
    rw [apply_some (hsize given rfl).2, fill_enclosed hpercent List.not_mem_nil rfl rfl, sizedName]
    have hends := stripped_enclosed (hword.not_blank (.head _))
      (by decide : CodePoint.is isBlankChar (.char ')') = false) (more ++ .char '(' :: given)
    simpa [trimmed, enclosed] using hends

theorem isBareName_word (hword : IsWord word) : isBareName word = true := by
  have hstart : trimStart word = word := by simpa using hword.trimStart_append []
  have htake : word.takeWhile (CodePoint.is isWordChar) = word :=
    List.takeWhile_eq_self_iff.mpr hword.wordChars
  have hdrop : word.dropWhile (CodePoint.is isWordChar) = [] :=
    List.dropWhile_eq_nil_iff.mpr hword.wordChars
  have hrest : trimStart ([] : Text) = [] := rfl
  simp only [isBareName, hstart, htake, hdrop, hrest, List.isEmpty_nil, Bool.and_true,
    Bool.not_eq_true', List.isEmpty_eq_false_iff]
  exact hword.ne_nil

theorem isBareName_word_placeholder (hword : IsWord word) :
    isBareName (word ++ "(%s)") = false := by
  have hdrop : (word ++ "(%s)").dropWhile (CodePoint.is isWordChar) = "(%s)" := by
    have hopen : CodePoint.is isWordChar (.char '(') = false := isWordChar_of_wordless (by decide)
    rw [List.dropWhile_append_of_pos hword.wordChars]
    exact List.dropWhile_cons_of_neg (Bool.eq_false_iff.mp hopen)
  have hrest : (trimStart "(%s)").isEmpty = false := by decide
  simp [isBareName, hword.trimStart_append, hdrop, hrest]

namespace Provider

/-- What an override by a word gives, and by a word with a placeholder behind it. -/
theorem sqlType_eq_word {p : Provider} {s : Subject} (hword : IsWord word)
    (h : isBlank s.explicit = true) (hentry : p.override? s.type = some word) :
    p.sqlType s = if needsSize word then sizedName word (sizeFor s) else word := by
  rw [sqlType_eq_override h hentry, render, isBareName_word hword,
    withSize_word hword fun _ hsize => trimmed_of_sizeFor hsize]
  rfl

theorem sqlType_eq_word_placeholder {p : Provider} {s : Subject} (hword : IsWord word)
    (h : isBlank s.explicit = true) (hentry : p.override? s.type = some (word ++ "(%s)")) :
    p.sqlType s = sizedName word (sizeFor s) := by
  rw [sqlType_eq_override h hentry, render, isBareName_word_placeholder hword,
    apply_word hword fun _ hsize => trimmed_of_sizeFor hsize, Bool.and_false,
    if_neg Bool.false_ne_true]

/-- **A bare name means the same as the name with a placeholder behind it exactly if it is one of a
    sized family.**  Any other name stays as it is. -/
theorem bareName_agrees_iff (hword : IsWord word) :
    (needsSize word = true ↔ ∀ (p q : Provider) (s : Subject), p.override? s.type = some word →
      q.override? s.type = some (word ++ "(%s)") → p.sqlType s = q.sqlType s) ∧
    (needsSize word = false → ∀ (p : Provider) (s : Subject), p.override? s.type = some word →
      isBlank s.explicit = true → p.sqlType s = word) := by
  refine ⟨⟨?agree, ?sized⟩, ?alone⟩
  case agree =>
    intro hsized p q s hp hq
    cases hstated : isBlank s.explicit with
    | false => exact sqlType_of_stated hstated
    | true =>
      rw [sqlType_eq_word hword hstated hp, if_pos hsized,
        sqlType_eq_word_placeholder hword hstated hq]
  case sized =>
    intro hall
    by_contra hnone
    -- a text of a given size takes it through the placeholder only
    have hsame := hall ⟨none, [(.string, word)]⟩ ⟨none, [(.string, word ++ "(%s)")]⟩
      ((Subject.plain .string).resized "1" (.small 0)) rfl rfl
    have hone : sizeFor ((Subject.plain .string).resized "1" (.small 0)) = some "1" := by decide
    rw [sqlType_eq_word hword rfl rfl, if_neg hnone, sqlType_eq_word_placeholder hword rfl rfl,
      hone] at hsame
    have hlonger : word = word ++ .char '(' :: [.char '1', .char ')'] := hsame
    exact absurd (List.self_eq_append_right.mp hlonger) (List.cons_ne_nil _ _)
  case alone =>
    intro hnone p s hp hstated
    rw [sqlType_eq_word hword hstated hp, hnone, if_neg Bool.false_ne_true]

/-- A word of a sized family in other letters, and a word of none. -/
theorem bareName_agrees_iff_words :
    IsWord "nVarchar2" ∧ needsSize "nVarchar2" = true ∧
      (∀ s : Subject, s.type = .decimal →
        (Provider.mk (some .oracle) [(.decimal, "nVarchar2")]).sqlType s =
          (Provider.mk none [(.decimal, "nVarchar2(%s)")]).sqlType s) ∧
      IsWord "größe" ∧ needsSize "größe" = false ∧
      (Provider.mk none [(.string, "größe")]).sqlType
        ((Subject.plain .string).resized "12" (.small 40)) = "größe" := by
  have hsized : IsWord "nVarchar2" := by decide
  have halone : IsWord "größe" := by decide
  have hneeds : needsSize "nVarchar2" = true := by decide
  have hnone : needsSize "größe" = false := by decide
  refine ⟨hsized, hneeds, fun s hs => ?_, halone, hnone, ?_⟩
  · refine (bareName_agrees_iff hsized).1.mp hneeds _ _ s ?_ ?_
    · rw [hs]
      rfl
    · rw [hs]
      decide
  · exact (bareName_agrees_iff halone).2 hnone _ _ rfl rfl

end Provider

end Sql

end Typewright
