/-
  Trimming: what dropping a class of characters at both ends of a text leaves.

  The result ends in nothing of the class on either side, so that a text is its own trimmed form
  exactly if it has no blank at an end.  Trimming leaves nothing exactly of a blank text.
-/
import Mathlib.Data.List.DropRight
import Typewright.Text.Blank

namespace Typewright.Text

variable {α : Type} {p : α → Bool} {s : List α}

/-- Dropping at both ends is dropping in front and then at the end. -/
theorem stripped_eq_rdropWhile (p : α → Bool) (s : List α) :
    stripped p s = (s.dropWhile p).rdropWhile p := rfl

theorem stripped_sublist (p : α → Bool) (s : List α) : (stripped p s).Sublist (s.dropWhile p) := by
  rw [stripped_eq_rdropWhile]
  exact (List.rdropWhile_prefix p _).sublist

/-- Nothing is dropped exactly if neither end is in the class. -/
theorem stripped_eq_self_iff :
    stripped p s = s ↔ (∀ c ∈ s.head?, p c = false) ∧ (∀ c ∈ s.getLast?, p c = false) := by
  -- both passes only shorten the text, so none of them may drop anything
  have hpasses : stripped p s = s ↔ s.dropWhile p = s ∧ s.rdropWhile p = s := by
    constructor
    · intro h
      have hfront : s.dropWhile p = s :=
        (List.dropWhile_sublist p).antisymm (by simpa [h] using stripped_sublist p s)
      rw [stripped_eq_rdropWhile, hfront] at h
      exact ⟨hfront, h⟩
    · rintro ⟨hfront, hback⟩
      rw [stripped_eq_rdropWhile, hfront, hback]
  rw [hpasses, List.dropWhile_eq_self_iff, List.rdropWhile_eq_self_iff]
  cases s with
  | nil => simp
  | cons c t => simp [List.getLast?_eq_some_getLast]

/-- What was dropped at both ends leaves nothing to drop. -/
theorem stripped_stripped (p : α → Bool) (s : List α) :
    stripped p (stripped p s) = stripped p s := by
  rw [stripped_eq_self_iff, stripped_eq_rdropWhile]
  constructor
  · intro c hc
    obtain ⟨rest, hrest⟩ := List.rdropWhile_prefix p (s.dropWhile p)
    have hfront : (s.dropWhile p).head? = some c := by
      rw [← hrest, List.head?_append, Option.mem_def.mp hc, Option.some_or]
    simpa [hfront] using List.head?_dropWhile_not p s
  · intro c hc
    obtain ⟨hne, rfl⟩ := List.mem_getLast?_eq_getLast hc
    simpa using List.rdropWhile_last_not p (s.dropWhile p) hne

@[simp] theorem trimmed_trimmed (s : Text) : trimmed (trimmed s) = trimmed s :=
  stripped_stripped _ s

theorem trimmed_isInfix (s : Text) : trimmed s <:+: s := by
  rw [trimmed, stripped_eq_rdropWhile]
  exact (List.rdropWhile_prefix _ _).isInfix.trans (List.dropWhile_suffix _).isInfix

/-- Dropping in front stops at a member that stays. -/
theorem dropWhile_append_cons {c : α} (hc : p c = false) (front behind : List α) :
    (front ++ c :: behind).dropWhile p = front.dropWhile p ++ c :: behind := by
  rw [List.dropWhile_append]
  split
  next hnone =>
    rw [List.isEmpty_iff.mp hnone, List.nil_append, List.dropWhile_cons_of_neg (by simp [hc])]
  next => rfl

/-- Dropping at both ends stops at a member that stays. -/
theorem stripped_append_cons {c : α} (hc : p c = false) (front behind : List α) :
    stripped p (front ++ c :: behind) = front.dropWhile p ++ c :: behind.rdropWhile p := by
  rw [stripped, dropWhile_append_cons hc, List.reverse_append, List.reverse_cons,
    List.append_assoc, List.singleton_append, dropWhile_append_cons hc]
  simp [List.rdropWhile]

/-- A text is its own trimmed form exactly if no blank stands at an end. -/
theorem trimmed_eq_self_iff {s : Text} :
    trimmed s = s ↔
      (∀ c ∈ s.head?, c.is isBlankChar = false) ∧ (∀ c ∈ s.getLast?, c.is isBlankChar = false) :=
  stripped_eq_self_iff

/-- Between two members that stay nothing is dropped. -/
theorem stripped_enclosed {c d : α} (hc : p c = false) (hd : p d = false) (mid : List α) :
    stripped p (c :: (mid ++ [d])) = c :: (mid ++ [d]) := by
  have hback : (mid ++ [d]).rdropWhile p = mid ++ [d] :=
    List.rdropWhile_concat_neg p mid d (by simp [hd])
  have hdrop := stripped_append_cons hc [] (mid ++ [d])
  rwa [hback] at hdrop

/-! ## Blank texts -/

theorem all_dropWhile (p : α → Bool) (s : List α) : (s.dropWhile p).all p = s.all p := by
  have hsplit : s.all p = ((s.takeWhile p).all p && (s.dropWhile p).all p) := by
    rw [← List.all_append, List.takeWhile_append_dropWhile]
  rw [hsplit, List.all_takeWhile, Bool.true_and]

/-- Dropping a class at both ends leaves a text that holds nothing else as one. -/
theorem all_stripped (p : α → Bool) (s : List α) : (stripped p s).all p = s.all p := by
  rw [stripped, List.all_reverse, all_dropWhile, List.all_reverse, all_dropWhile]

@[simp] theorem isBlank_trimmed (s : Text) : isBlank (trimmed s) = isBlank s := all_stripped _ s

theorem isBlank_cons {c : CodePoint} {s : Text} :
    isBlank (c :: s) = true ↔ c.is isBlankChar = true ∧ isBlank s = true := by
  simp only [isBlank, List.all_cons, Bool.and_eq_true]

/-- Nothing is left by trimming exactly if nothing but blanks was there. -/
theorem trimmed_eq_nil_iff {s : Text} : trimmed s = [] ↔ isBlank s = true := by
  constructor
  · intro h
    rw [← isBlank_trimmed, h]
    rfl
  · intro h
    have hfront : s.dropWhile (CodePoint.is isBlankChar) = [] :=
      List.dropWhile_eq_nil_iff.mpr fun c hc => List.all_eq_true.mp h c hc
    rw [trimmed, stripped, hfront]
    rfl

theorem trimmed_ne_nil_iff {s : Text} : trimmed s ≠ [] ↔ isBlank s = false := by
  rw [Ne, trimmed_eq_nil_iff, Bool.not_eq_true]

/-! ## Blanks in front -/

/-- What starts behind its blanks with `c` is `c` and the rest, with blanks in front. -/
theorem exists_of_trimStart {s rest : Text} {c : CodePoint} (h : trimStart s = c :: rest) :
    ∃ front, isBlank front = true ∧ s = front ++ c :: rest := by
  refine ⟨s.takeWhile (CodePoint.is isBlankChar), ?_, ?_⟩
  · exact List.all_takeWhile
  · rw [← h]
    exact List.takeWhile_append_dropWhile.symm

theorem trimStart_append {front s : Text} (h : isBlank front = true) :
    trimStart (front ++ s) = trimStart s :=
  List.dropWhile_append_of_pos (List.all_eq_true.mp h)

theorem trimStart_cons_of_blank {c : CodePoint} (h : c.is isBlankChar = true) (s : Text) :
    trimStart (c :: s) = trimStart s :=
  List.dropWhile_cons_of_pos h

theorem trimStart_cons_of_not_blank {c : CodePoint} (h : c.is isBlankChar = false) (s : Text) :
    trimStart (c :: s) = c :: s :=
  List.dropWhile_cons_of_neg (by simp [h])

/-! ## Blanks at the end -/

/-- A text without the blanks at its end. -/
def trimEnd (s : Text) : Text := s.rdropWhile (CodePoint.is isBlankChar)

theorem trimEnd_of_isBlank {s : Text} (h : isBlank s = true) : trimEnd s = [] :=
  List.rdropWhile_eq_nil_iff.mpr (List.all_eq_true.mp h)

/-- What stands in front stays, unless nothing but blanks follows and it is one too. -/
theorem trimEnd_cons {c : CodePoint} {s : Text} (h : isBlank (c :: s) = false) :
    trimEnd (c :: s) = c :: trimEnd s := by
  simp only [trimEnd, List.rdropWhile, List.reverse_cons, List.dropWhile_append]
  split
  next hnone =>
    have hblank : isBlank s = true := by
      simpa [isBlank, List.dropWhile_eq_nil_iff] using hnone
    have hc : c.is isBlankChar = false :=
      Bool.eq_false_iff.mpr fun hc => Bool.eq_false_iff.mp h (isBlank_cons.mpr ⟨hc, hblank⟩)
    rw [List.isEmpty_iff.mp hnone, List.dropWhile_cons_of_neg (Bool.eq_false_iff.mp hc)]
    rfl
  next =>
    rw [List.reverse_append]
    rfl

end Typewright.Text
