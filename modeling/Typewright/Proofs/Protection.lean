/-
  Texts protected by backslashes can be read back.

  A backslash takes what follows it literally.  To write a text so that some character, a quote say,
  stands in it only literally, its backslashes are protected first and then the character.  The
  second step puts in backslashes of its own, but it changes none of those that are there; so every
  code point of the text keeps an image of its own (`protect_protect`), itself or itself behind a
  backslash.

  A reader that begins in front of an image ends behind it, whatever stands around it.  So it pairs
  the backslashes of a run as they were written, and never takes the second one of a pair for the
  first one of another (`readProtected_image`).
-/
import Typewright.Template.Helper

namespace Typewright

namespace Text

/-- The sign that takes what follows it literally. -/
def backslash : CodePoint := .char '\\'

/-- The code points of a text in which a backslash is dropped and what follows it is taken
    literally, each with whether it was taken so; nothing if a backslash stands at the end. -/
def readProtected : Text → Option (List (CodePoint × Bool))
  | [] => some []
  | c :: rest =>
    if c = backslash then
      match rest with
      | [] => none
      | d :: rest => (readProtected rest).map ((d, true) :: ·)
    else (readProtected rest).map ((c, false) :: ·)

/-- What becomes of one code point when backslashes are protected and then `c` is. -/
def protectedImage (c d : CodePoint) : Text :=
  if d = backslash ∨ d = c then [backslash, d] else [d]

variable {c : CodePoint}

/-! ## Protecting in two steps -/

theorem protect_append (c : CodePoint) (s t : Text) :
    protect c (s ++ t) = protect c s ++ protect c t :=
  substitute_append c _ s t

theorem protect_self (c : CodePoint) : protect c [c] = [backslash, c] := by
  simp [protect, substitute, backslash]

theorem protect_of_ne {d : CodePoint} (h : d ≠ c) : protect c [d] = [d] := by
  simp [protect, substitute, h]

/-- The second step does not change the backslashes that the first one has put in. -/
theorem protect_protect_singleton (hc : c ≠ backslash) (d : CodePoint) :
    protect c (protect backslash [d]) = protectedImage c d := by
  unfold protectedImage
  by_cases hbackslash : d = backslash
  · subst hbackslash
    have hsecond : protect c [backslash, backslash] =
        protect c [backslash] ++ protect c [backslash] := protect_append c [backslash] [backslash]
    rw [protect_self, hsecond, protect_of_ne hc.symm, if_pos (.inl rfl)]
    rfl
  · rw [protect_of_ne hbackslash]
    by_cases hd : d = c
    · subst hd
      rw [protect_self, if_pos (.inr rfl)]
    · rw [protect_of_ne hd, if_neg (not_or.mpr ⟨hbackslash, hd⟩)]

/-- Both steps are one pass in which every code point is replaced by its image. -/
theorem protect_protect (hc : c ≠ backslash) (s : Text) :
    protect c (protect backslash s) = s.flatMap (protectedImage c) := by
  have happend (s t : Text) : protect c (protect backslash (s ++ t)) =
      protect c (protect backslash s) ++ protect c (protect backslash t) := by
    rw [protect_append, protect_append]
  have himages := eq_flatMap_of_append (f := fun s => protect c (protect backslash s)) rfl happend s
  simpa only [protect_protect_singleton hc] using himages

/-! ## Reading -/

theorem readProtected_backslash (d : CodePoint) (rest : Text) :
    readProtected (backslash :: d :: rest) = (readProtected rest).map ((d, true) :: ·) := by
  rw [readProtected, if_pos rfl]

theorem readProtected_cons {d : CodePoint} (h : d ≠ backslash) (rest : Text) :
    readProtected (d :: rest) = (readProtected rest).map ((d, false) :: ·) := by
  rw [readProtected.eq_def]
  exact if_neg h

/-- The image of a code point is read as the code point, whatever follows it. -/
theorem readProtected_image (c d : CodePoint) (rest : Text) :
    readProtected (protectedImage c d ++ rest) =
      (readProtected rest).map ((d, decide (d = backslash ∨ d = c)) :: ·) := by
  unfold protectedImage
  by_cases h : d = backslash ∨ d = c
  · rw [if_pos h, decide_eq_true h]
    exact readProtected_backslash d rest
  · rw [if_neg h, decide_eq_false h]
    exact readProtected_cons (not_or.mp h).1 rest

/-- What was written is read again, the protected code points and no others literally. -/
theorem readProtected_protect (hc : c ≠ backslash) (s : Text) :
    readProtected (protect c (protect backslash s)) =
      some (s.map fun d => (d, decide (d = backslash ∨ d = c))) := by
  rw [protect_protect hc]
  induction s with
  | nil => rfl
  | cons d rest ih => rw [List.flatMap_cons, readProtected_image, ih]; rfl

/-- In the other order the backslashes of the first step are protected, and not the character. -/
example : readProtected (protect backslash (protect doubleQuote [doubleQuote])) =
    some [(backslash, true), (doubleQuote, false)] := by decide

end Text

namespace Template

open Text (readProtected)

/-- **A text whose backslashes are protected, and then another character, is read back from what
    comes out**: no backslash is left over at the end, the text is the one that was written, and
    the character is not met but literally. -/
theorem backslash_twice_reads_back (s : Text) {c : CodePoint} (hc : c ≠ Text.backslash) :
    ∃ once twice reading,
      backslash (some s) (.value (.text [Text.backslash])) = some (.ok (some once)) ∧
      backslash (some once) (.value (.text [c])) = some (.ok (some twice)) ∧
      readProtected twice = some reading ∧ reading.map (·.1) = s ∧ (c, false) ∉ reading := by
  refine ⟨_, _, _, rfl, rfl, Text.readProtected_protect hc s, ?_, ?_⟩
  · rw [List.map_map]
    exact List.map_id' s
  · intro hmem
    obtain ⟨d, -, hd⟩ := List.mem_map.mp hmem
    obtain ⟨rfl, hliteral⟩ := Prod.mk.inj hd
    exact of_decide_eq_false hliteral (.inr rfl)

/-- A quote behind two backslashes. -/
theorem backslash_twice_reads_back_quote :
    Text.doubleQuote ≠ Text.backslash ∧
    ∃ once twice reading,
      backslash (some "a\\\\\"") (.value (.text [Text.backslash])) = some (.ok (some once)) ∧
      backslash (some once) (.value (.text [Text.doubleQuote])) = some (.ok (some twice)) ∧
      readProtected twice = some reading ∧ reading.map (·.1) = "a\\\\\"" ∧
      (Text.doubleQuote, false) ∉ reading :=
  have hquote : Text.doubleQuote ≠ Text.backslash := by decide
  ⟨hquote, backslash_twice_reads_back "a\\\\\"" hquote⟩

end Template

end Typewright
