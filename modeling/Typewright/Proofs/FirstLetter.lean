/-
  Texts with another first letter.

  To capitalize a text is to put its first character in upper case, as if it stood alone, and to
  leave the rest as it is.  The character may become several.  Then, if it is done once more, the
  first character is another one than before, the first of those.

    text      capitalized
    name      Name
    ßname     SSname
    ŉame      ʼName

  This one stays as it is, since what a case mapping makes of a character is mapped to itself
  (`Settled.images_of_mem`).  So to capitalize a text twice is to capitalize it once, and the same
  holds of lower case (`firstLetter_changes`).
-/
import Typewright.Proofs.CaseMapping

namespace Typewright.Text

/-- A transform makes a change to the first code point of a text and to no other. -/
structure ChangesFirst (change transform : Text → Text) : Prop where
  /-- The first code point is changed by itself, and the others follow it as they are. -/
  eq_append : ∀ s, transform s = change (s.take 1) ++ s.tail
  /-- The first code point does not vanish. -/
  change_ne_nil : ∀ s, s ≠ [] → change (s.take 1) ≠ []
  /-- There is nothing left to be changed. -/
  idempotent : ∀ s, transform (transform s) = transform s

/-! ## Mapping the first character -/

/-- The text with its first character mapped. -/
def mapFirst (mapping : Char → List Char) : Text → Text
  | [] => []
  | c :: rest => c.images mapping ++ rest

theorem capitalize_eq_mapFirst : capitalize = mapFirst upperChar := by
  funext s
  cases s <;> rfl

theorem uncapitalize_eq_mapFirst : uncapitalize = mapFirst lowerChar := by
  funext s
  cases s <;> rfl

section Settled

variable {shifts : List Shift} {expansions : List (Nat × List Nat)}

/-- A settled table maps the first character once and for all. -/
theorem Settled.mapFirst_mapFirst (h : Settled shifts expansions) (s : Text) :
    mapFirst (mapCase shifts expansions) (mapFirst (mapCase shifts expansions) s) =
      mapFirst (mapCase shifts expansions) s := by
  cases s with
  | nil => rfl
  | cons c rest =>
    obtain ⟨first, others, himages⟩ := List.exists_cons_of_ne_nil (h.images_ne_nil c)
    -- the second time, it is the first of the images that is mapped
    have hfirst : first.images (mapCase shifts expansions) = [first] :=
      h.images_of_mem (himages ▸ List.mem_cons_self)
    rw [mapFirst, himages, List.cons_append, mapFirst, hfirst, List.singleton_append]

/-- The table may be applied by a change of case that does the same to a code point by itself. -/
theorem Settled.changesFirst (h : Settled shifts expansions) {change : Text → Text}
    (hnil : change [] = []) (hone : ∀ c, change [c] = c.images (mapCase shifts expansions)) :
    ChangesFirst change (mapFirst (mapCase shifts expansions)) where
  eq_append := by
    intro s
    cases s with
    | nil => simp [mapFirst, hnil]
    | cons c rest => simp [mapFirst, hone]
  change_ne_nil := by
    intro s hs
    obtain ⟨c, rest, rfl⟩ := List.exists_cons_of_ne_nil hs
    simpa [hone] using h.images_ne_nil c
  idempotent := h.mapFirst_mapFirst

end Settled

/-! ## One letter by itself -/

theorem toUpperCase_singleton (c : CodePoint) : toUpperCase [c] = c.images upperChar :=
  List.flatMap_singleton _ _

/-- Nothing stands before a letter by itself, so that a capital sigma does not end a word. -/
theorem toLowerCase_singleton (c : CodePoint) : toLowerCase [c] = c.images lowerChar := by
  show lowerBetween false c [] ++ [] = _
  rw [List.append_nil, lowerBetween]
  split
  next hsigma =>
    subst hsigma
    decide
  next => rfl

/-- **To capitalize a text is to put its first letter in upper case, once and for all, and likewise
    for lower case.** -/
theorem firstLetter_changes :
    ChangesFirst toUpperCase capitalize ∧ ChangesFirst toLowerCase uncapitalize := by
  rw [capitalize_eq_mapFirst, uncapitalize_eq_mapFirst]
  exact ⟨upper_settled.changesFirst rfl toUpperCase_singleton,
    lower_settled.changesFirst rfl toLowerCase_singleton⟩

example : capitalize "ßname" = "SSname" ∧ capitalize "ŉame" = "ʼName" := by decide

end Typewright.Text
