/-
  Markup that is escaped can be read back.

  Escaping replaces the five special characters one after the other, each in the whole text, and
  every reference that it writes begins with a special character itself.  But the ampersand has its
  turn first, and a reference holds no other special character.  So no step touches what an earlier
  one has written, and all of them together are one pass in which every code point is replaced by an
  image of its own (`escapeMarkup_eq_flatMap`).

  What is to be shown of an escaped text has to be shown of one image, then.  An image holds no
  special character but the ampersand in front of a reference; and a reader that takes references
  for their characters, from left to right and each once, gives back the code point of an image
  whatever follows it (`unescapeMarkup_image`).  Whether the text looked like a reference before it
  was escaped makes no difference.
-/
import Mathlib.Data.List.Infix
import Typewright.Proofs.Index
import Typewright.Text.Escape

namespace Typewright.Text

/-! ## References -/

/-- The special characters of markup with their references. -/
def references : List (CodePoint × Text) :=
  [('&', "&amp;"), ('<', "&lt;"), ('>', "&gt;"), ('\x22', "&quot;"), ('\x27', "&apos;")]

/-- The reference of a special character; any other code point stands for itself. -/
def markupImage (c : CodePoint) : Text := (references.lookup c).getD [c]

/-- The first reference that a text begins with: its character, and what follows it. -/
def reference? (s : Text) : Option (CodePoint × Text) :=
  references.findSome? fun (c, reference) =>
    if reference <+: s then some (c, s.drop reference.length) else none

/-- A reference begins with an ampersand and holds no other one. -/
theorem exists_of_reference {entry : CodePoint × Text} (h : entry ∈ references) :
    ∃ rest, entry.2 = .char '&' :: rest ∧ .char '&' ∉ rest := by
  have hall : ∀ entry ∈ references,
      entry.2 = .char '&' :: entry.2.tail ∧ .char '&' ∉ entry.2.tail := by decide
  exact ⟨_, hall entry h⟩

/-- What is read is a reference, and what follows it. -/
theorem exists_of_reference? {s rest : Text} {c : CodePoint}
    (h : reference? s = some (c, rest)) :
    ∃ reference, (c, reference) ∈ references ∧ s = reference ++ rest := by
  obtain ⟨⟨d, reference⟩, hmem, hread⟩ := List.exists_of_findSome?_eq_some h
  dsimp only at hread
  split at hread
  next hprefix =>
    obtain ⟨behind, rfl⟩ := hprefix
    rw [List.drop_left] at hread
    cases hread
    exact ⟨reference, hmem, rfl⟩
  next => cases hread

theorem length_of_reference? {s rest : Text} {c : CodePoint}
    (h : reference? s = some (c, rest)) : rest.length < s.length := by
  obtain ⟨reference, hmem, rfl⟩ := exists_of_reference? h
  obtain ⟨tail, rfl : reference = _, -⟩ := exists_of_reference hmem
  rw [List.length_append, List.length_cons]
  omega

/-- The text with all references replaced by their characters at once: what stands for a reference
    is not looked at again. -/
def unescapeMarkup : Text → Text
  | [] => []
  | c :: rest =>
    match h : reference? (c :: rest) with
    | some (d, behind) =>
      have : behind.length < (c :: rest).length := length_of_reference? h
      d :: unescapeMarkup behind
    | none => c :: unescapeMarkup rest
termination_by s => s.length
decreasing_by
  · exact this
  · exact Nat.lt_succ_self _

/-! ## The image of one character -/

/-- A code point is either special, and its image is its reference, or its own image. -/
theorem markupImage_cases (c : CodePoint) :
    (c, markupImage c) ∈ references ∨
      (∀ entry ∈ references, c ≠ entry.1) ∧ markupImage c = [c] := by
  have hnodup : (references.map (·.1)).Nodup := by decide
  unfold markupImage
  cases h : references.lookup c with
  | some reference => exact .inl ((lookup_eq_some_iff_mem hnodup).mp h)
  | none => exact .inr ⟨by simpa using List.lookup_eq_none_iff.mp h, rfl⟩

/-! ## Escaping in one pass -/

theorem escapeMarkup_append (s t : Text) :
    escapeMarkup (s ++ t) = escapeMarkup s ++ escapeMarkup t := by
  simp [escapeMarkup, substitute_append]

theorem escapeMarkup_singleton (c : CodePoint) : escapeMarkup [c] = markupImage c := by
  rcases markupImage_cases c with hspecial | ⟨hother, himage⟩
  · -- no step but that of the character itself changes anything
    have hall : ∀ entry ∈ references, escapeMarkup [entry.1] = entry.2 := by decide
    exact hall (c, markupImage c) hspecial
  · rw [himage]
    simp only [references, List.forall_mem_cons] at hother
    obtain ⟨hamp, hlt, hgt, hquot, hapos, -⟩ := hother
    simp [escapeMarkup, substitute, hamp, hlt, hgt, hquot, hapos]

/-- Escaping is one pass in which every code point is replaced by its image. -/
theorem escapeMarkup_eq_flatMap (s : Text) : escapeMarkup s = s.flatMap markupImage := by
  rw [eq_flatMap_of_append rfl escapeMarkup_append s, funext escapeMarkup_singleton]

/-! ## What an escaped text holds -/

/-- Of the special characters only the ampersand occurs in an image. -/
theorem notMem_markupImage {entry : CodePoint × Text} (hentry : entry ∈ references)
    (hne : entry.1 ≠ '&') (c : CodePoint) : entry.1 ∉ markupImage c := by
  rcases markupImage_cases c with hspecial | ⟨hother, himage⟩
  · have hall : ∀ shown ∈ references, ∀ entry ∈ references,
        entry.1 ≠ '&' → entry.1 ∉ shown.2 := by decide
    exact hall (c, markupImage c) hspecial entry hentry hne
  · rw [himage, List.mem_singleton]
    exact (hother entry hentry).symm

theorem notMem_escapeMarkup {entry : CodePoint × Text} (hentry : entry ∈ references)
    (hne : entry.1 ≠ '&') (s : Text) : entry.1 ∉ escapeMarkup s := by
  rw [escapeMarkup_eq_flatMap, List.mem_flatMap]
  rintro ⟨c, -, hc⟩
  exact notMem_markupImage hentry hne c hc

/-- A suffix begins behind a part of the text in which its first member does not occur. -/
theorem suffix_of_suffix_append {α : Type} {x : α} {v front rest : List α} (hx : x ∉ front)
    (h : x :: v <:+ front ++ rest) : x :: v <:+ rest := by
  induction front with
  | nil => exact h
  | cons y front ih =>
    rcases List.suffix_cons_iff.mp h with heq | hsuffix
    · exact absurd (.head _) ((List.cons.inj heq).1 ▸ hx)
    · exact ih (List.not_mem_of_not_mem_cons hx) hsuffix

/-- Every ampersand of an escaped text begins a reference. -/
theorem exists_reference_of_ampersand {s v : Text} (h : .char '&' :: v <:+ escapeMarkup s) :
    ∃ entry ∈ references, entry.2 <+: .char '&' :: v := by
  rw [escapeMarkup_eq_flatMap] at h
  induction s with
  | nil => cases List.suffix_nil.mp h
  | cons c rest ih =>
    rw [List.flatMap_cons] at h
    rcases markupImage_cases c with hspecial | ⟨hother, himage⟩
    · -- the ampersand is the one in front of the reference, or it stands behind the reference
      obtain ⟨tail, hfront : markupImage c = _, htail⟩ := exists_of_reference hspecial
      rw [hfront, List.cons_append] at h
      rcases List.suffix_cons_iff.mp h with heq | hsuffix
      · refine ⟨_, hspecial, ?_⟩
        rw [heq, ← List.cons_append, ← hfront]
        exact List.prefix_append _ _
      · exact ih (suffix_of_suffix_append htail hsuffix)
    · have hamp : .char '&' ∉ markupImage c := by
        rw [himage, List.mem_singleton]
        exact (hother _ (.head _)).symm
      exact ih (suffix_of_suffix_append hamp h)

/-! ## Reading an escaped text -/

theorem unescapeMarkup_of_reference? {s rest : Text} {c : CodePoint}
    (h : reference? s = some (c, rest)) : unescapeMarkup s = c :: unescapeMarkup rest := by
  cases s with
  | nil => exact absurd (length_of_reference? h) (Nat.not_lt_zero _)
  | cons d s =>
    rw [unescapeMarkup]
    split
    next heq =>
      rw [h] at heq
      cases heq
      rfl
    next heq =>
      rw [h] at heq
      cases heq

/-- Where no ampersand stands no reference begins. -/
theorem unescapeMarkup_cons {c : CodePoint} (h : c ≠ '&') (rest : Text) :
    unescapeMarkup (c :: rest) = c :: unescapeMarkup rest := by
  have hnone : reference? (c :: rest) = none := by
    refine List.findSome?_eq_none_iff.mpr fun entry hentry => if_neg fun hprefix => ?_
    obtain ⟨tail, hfront, -⟩ := exists_of_reference hentry
    rw [hfront] at hprefix
    exact h (List.cons_prefix_cons.mp hprefix).1.symm
  rw [unescapeMarkup]
  split
  next heq =>
    rw [hnone] at heq
    cases heq
  next => rfl

/-- No reference begins another one. -/
theorem eq_of_begins {entry other : CodePoint × Text} (hentry : entry ∈ references)
    (hother : other ∈ references) (h : entry.2 <+: other.2) : entry = other := by
  have hall : ∀ entry ∈ references, ∀ other ∈ references,
      entry.2 <+: other.2 → entry = other := by decide
  exact hall entry hentry other hother h

/-- So a reference is read as itself, whatever follows it. -/
theorem reference?_append {c : CodePoint} {reference : Text} (h : (c, reference) ∈ references)
    (rest : Text) : reference? (reference ++ rest) = some (c, rest) := by
  cases hread : reference? (reference ++ rest) with
  | none =>
    have hno := List.findSome?_eq_none_iff.mp hread (c, reference) h
    dsimp only at hno
    rw [if_pos (List.prefix_append reference rest)] at hno
    cases hno
  | some found =>
    obtain ⟨d, behind⟩ := found
    obtain ⟨other, hother, hsplit⟩ := exists_of_reference? hread
    have hbegins : other <+: reference ++ rest := hsplit ▸ List.prefix_append other behind
    have hsame : (d, other) = (c, reference) := by
      rcases List.prefix_or_prefix_of_prefix hbegins (List.prefix_append reference rest) with
        hle | hge
      · exact eq_of_begins hother h hle
      · exact (eq_of_begins h hother hge).symm
    cases hsame
    rw [List.append_cancel_left hsplit]

/-- The image of a code point is read as the code point, whatever follows it. -/
theorem unescapeMarkup_image (c : CodePoint) (rest : Text) :
    unescapeMarkup (markupImage c ++ rest) = c :: unescapeMarkup rest := by
  rcases markupImage_cases c with hspecial | ⟨hother, himage⟩
  · exact unescapeMarkup_of_reference? (reference?_append hspecial rest)
  · rw [himage]
    exact unescapeMarkup_cons (hother _ (.head _)) rest

theorem unescapeMarkup_escapeMarkup (s : Text) : unescapeMarkup (escapeMarkup s) = s := by
  rw [escapeMarkup_eq_flatMap]
  induction s with
  | nil => rw [List.flatMap_nil, unescapeMarkup]
  | cons c rest ih => rw [List.flatMap_cons, unescapeMarkup_image, ih]

/-- **Escaped markup is safe and can be read back.**  No special character is left in it but the
    ampersand, and every ampersand begins a reference.  With every reference replaced by its
    character it is the text it was made of, so different texts have different escaped forms; and
    texts in a row are escaped one by one. -/
theorem escapeMarkup_reads_back (s : Text) :
    (.char '<' ∉ escapeMarkup s ∧ .char '>' ∉ escapeMarkup s ∧ .char '\x22' ∉ escapeMarkup s ∧
      .char '\x27' ∉ escapeMarkup s) ∧
    (∀ v, .char '&' :: v <:+ escapeMarkup s → ∃ entry ∈ references, entry.2 <+: .char '&' :: v) ∧
    unescapeMarkup (escapeMarkup s) = s ∧
    (∀ t, escapeMarkup s = escapeMarkup t → s = t) ∧
    ∀ t, escapeMarkup (s ++ t) = escapeMarkup s ++ escapeMarkup t := by
  have hspecial : ∀ entry ∈ references, entry.1 ≠ '&' → entry.1 ∉ escapeMarkup s :=
    fun _ hentry hne => notMem_escapeMarkup hentry hne s
  refine ⟨by simpa [references] using hspecial, fun v => exists_reference_of_ampersand,
    unescapeMarkup_escapeMarkup s, fun t hsame => ?_, escapeMarkup_append s⟩
  rw [← unescapeMarkup_escapeMarkup s, hsame, unescapeMarkup_escapeMarkup]

/-- A text that looks like a reference, between the quotes of an attribute. -/
theorem escapeMarkup_reads_back_quoted :
    escapeMarkup "'&lt;'" = "&apos;&amp;lt;&apos;" ∧
      unescapeMarkup "&apos;&amp;lt;&apos;" = "'&lt;'" ∧
      ∃ entry ∈ references, entry.2 <+: ("&amp;lt;&apos;" : Text) := by
  have hescaped : escapeMarkup "'&lt;'" = "&apos;&amp;lt;&apos;" := by decide
  obtain ⟨-, hampersand, hread, -⟩ := escapeMarkup_reads_back "'&lt;'"
  rw [hescaped] at hampersand hread
  exact ⟨hescaped, hread, hampersand ("amp;lt;&apos;" : Text) ⟨("&apos;" : Text), by decide⟩⟩

end Typewright.Text
