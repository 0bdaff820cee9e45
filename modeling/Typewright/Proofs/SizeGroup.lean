/-
  Templates with one group: a placeholder alone in parentheses.

  With a size the group is filled where it stands, and without one it goes as a whole, together with
  the blanks in front of it; nothing else of the template is touched, whatever blanks and
  parentheses it holds (`apply_enclosed`).

  For the second it has to be shown where the group begins that is dropped.  It holds the first
  percent sign of the template, and nothing but blanks stand between this sign and the parenthesis
  of the group.  So an earlier parenthesis opens no group, and a group begins at a blank only if
  nothing but blanks follows up to its parenthesis (`isBlank_of_afterGroup?`).
-/
import Typewright.Proofs.Placeholder

namespace Typewright.Sql

open Text

/-- A text in parentheses, with something in front of it and behind it inside them. -/
def enclosed (inside content behind : Text) : Text :=
  .char '(' :: (inside ++ content ++ behind ++ [.char ')'])

variable {front inside behind : Text}

/-! ## Where a group begins -/

theorem isGroup_enclosed (hfront : isBlank front = true) (hinside : isBlank inside = true)
    (hbehind : isBlank behind = true) : IsGroup (front ++ enclosed inside placeholder behind) := by
  have hgroup := IsGroup.intro hfront hinside hbehind
  simpa [enclosed, placeholder] using hgroup

/-- What stands in front of the first percent sign of a text. -/
theorem front_eq_of_percent {front' rest rest' : Text} (h : .char '%' ∉ front)
    (h' : .char '%' ∉ front') (hsame : front ++ .char '%' :: rest = front' ++ .char '%' :: rest') :
    front = front' := by
  have htake (s more : Text) (hs : .char '%' ∉ s) :
      (s ++ .char '%' :: more).takeWhile (· != .char '%') = s := by
    have hother : ∀ c ∈ s, (c != .char '%') = true := by
      intro c hc
      exact bne_iff_ne.mpr fun hpercent => hs (hpercent ▸ hc)
    rw [List.takeWhile_append_of_pos hother, List.takeWhile_cons_of_neg (by simp), List.append_nil]
  rw [← htake front rest h, hsame, htake front' rest' h']

theorem openParen_notMem_of_isBlank {s : Text} (h : isBlank s = true) : .char '(' ∉ s :=
  fun hmem => absurd (List.all_eq_true.mp h _ hmem) (by decide)

/-- Nothing but blanks can stand between the place where a group begins and its parenthesis. -/
theorem isBlank_of_afterGroup? {rest after : Text} (hfront : .char '%' ∉ front)
    (hinside : isBlank inside = true)
    (h : afterGroup? (front ++ (enclosed inside placeholder behind ++ rest)) = some after) :
    isBlank front = true := by
  obtain ⟨g, hg, hsplit⟩ := afterGroup?_eq_some_iff.mp h
  obtain @⟨blanks, inner, close, hblanks, hinner, -⟩ := hg
  have hsame : blanks ++ .char '(' :: inner = front ++ .char '(' :: inside := by
    have hbefore : .char '%' ∉ blanks ++ .char '(' :: inner := by
      simp [percent_notMem_of_isBlank hblanks, percent_notMem_of_isBlank hinner]
    have hbefore' : .char '%' ∉ front ++ .char '(' :: inside := by
      simp [hfront, percent_notMem_of_isBlank hinside]
    refine front_eq_of_percent hbefore hbefore' (?_ :
      _ ++ .char '%' :: .char 's' :: (close ++ .char ')' :: after) =
        _ ++ .char '%' :: .char 's' :: (behind ++ .char ')' :: rest))
    simpa [enclosed, placeholder] using hsplit.symm
  -- the blanks hold no parenthesis, so both parentheses are the same one
  obtain ⟨rfl, -⟩ := (List.append_cons_inj_of_notMem (openParen_notMem_of_isBlank hblanks)
    (openParen_notMem_of_isBlank hinner)).mp hsame
  exact hblanks

/-! ## Dropping the group -/

/-- The first group of a template goes with the blanks in front of it. -/
theorem dropGroups_enclosed (hfront : .char '%' ∉ front) (hinside : isBlank inside = true)
    (hbehind : isBlank behind = true) (rest : Text) :
    dropGroups (front ++ (enclosed inside placeholder behind ++ rest)) =
      trimEnd front ++ dropGroups rest := by
  induction front with
  | nil => exact dropGroups_group (@isGroup_enclosed [] inside behind rfl hinside hbehind) rest
  | cons c front ih =>
    cases hblank : isBlank (c :: front) with
    | true =>
      rw [trimEnd_of_isBlank hblank, ← List.append_assoc,
        dropGroups_group (isGroup_enclosed hblank hinside hbehind), List.nil_append]
    | false =>
      have hnone :
          afterGroup? (c :: (front ++ (enclosed inside placeholder behind ++ rest))) = none := by
        rw [Option.eq_none_iff_forall_ne_some]
        intro after hafter
        have hcontra := isBlank_of_afterGroup? hfront hinside hafter
        rw [hblank] at hcontra
        cases hcontra
      rw [List.cons_append, dropGroups_cons hnone, ih (List.not_mem_of_not_mem_cons hfront),
        trimEnd_cons hblank, List.cons_append]

/-- No percent sign is left in a template whose only one stood in the group. -/
theorem emptied_enclosed {rest : Text} (hfront : .char '%' ∉ front) (hrest : .char '%' ∉ rest)
    (hinside : isBlank inside = true) (hbehind : isBlank behind = true) :
    emptied (front ++ (enclosed inside placeholder behind ++ rest)) = trimEnd front ++ rest := by
  have hleft : .char '%' ∉ trimEnd front ++ rest := by
    rw [List.mem_append, not_or]
    exact ⟨fun hmem => hfront ((List.rdropWhile_prefix _ front).subset hmem), hrest⟩
  rw [emptied, dropGroups_enclosed hfront hinside hbehind,
    dropGroups_of_no_placeholder (hasPlaceholder_eq_false hrest),
    fill_of_no_placeholder (hasPlaceholder_eq_false hleft)]

/-! ## Filling the placeholder -/

/-- Where a template holds one percent sign, that of a placeholder, the size takes its place. -/
theorem fill_single {rest : Text} (hfront : .char '%' ∉ front) (hrest : .char '%' ∉ rest)
    (size : Text) : fill size (front ++ (placeholder ++ rest)) = front ++ (size ++ rest) := by
  have hcut : ∀ more, placeholder ++ rest ≠ .char 's' :: more := fun _ hmore =>
    absurd (List.cons.inj hmore).1 (by decide)
  rw [fill_append hcut, fill_of_no_placeholder (hasPlaceholder_eq_false hfront), placeholder,
    List.cons_append, List.cons_append, List.nil_append, fill_placeholder,
    fill_of_no_placeholder (hasPlaceholder_eq_false hrest)]

theorem fill_enclosed {rest : Text} (hfront : .char '%' ∉ front) (hrest : .char '%' ∉ rest)
    (hinside : isBlank inside = true) (hbehind : isBlank behind = true) (size : Text) :
    fill size (front ++ (enclosed inside placeholder behind ++ rest)) =
      front ++ (enclosed inside size behind ++ rest) := by
  have hbefore : .char '%' ∉ front ++ .char '(' :: inside := by
    simp [hfront, percent_notMem_of_isBlank hinside]
  have hafter : .char '%' ∉ behind ++ .char ')' :: rest := by
    simp [hrest, percent_notMem_of_isBlank hbehind]
  simpa [enclosed] using fill_single hbefore hafter size

/-- **A placeholder alone in parentheses is filled or dropped as a whole**, and what stands around
    it stays. -/
theorem apply_enclosed {base suffix blanks inside behind : Text} (hbase : .char '%' ∉ base)
    (hsuffix : .char '%' ∉ suffix) (hblanks : isBlank blanks = true)
    (hinside : isBlank inside = true) (hbehind : isBlank behind = true) :
    (∀ size : Text, size ≠ [] →
      apply (base ++ blanks ++ (enclosed inside placeholder behind ++ suffix)) (some size) =
        trimmed (base ++ blanks ++ (enclosed inside size behind ++ suffix))) ∧
    (∀ size : Option Text, size.getD [] = [] →
      apply (base ++ blanks ++ (enclosed inside placeholder behind ++ suffix)) size =
        trimmed (trimEnd (base ++ blanks) ++ suffix)) := by
  have hfront : .char '%' ∉ base ++ blanks := by
    simp [hbase, percent_notMem_of_isBlank hblanks]
  constructor
  · intro size hsize
    rw [apply_some hsize, fill_enclosed hfront hsuffix hinside hbehind]
  · intro size hsize
    rw [apply_of_no_size hsize, apply_none, emptied_enclosed hfront hsuffix hinside hbehind]

/-- A template that holds blanks and parentheses in front of the group and behind it. -/
theorem apply_enclosed_call :
    .char '%' ∉ ("call ( ) " : Text) ∧ .char '%' ∉ (") (x) " : Text) ∧
      isBlank "\t\u2003" = true ∧ isBlank " " = true ∧ isBlank [] = true ∧
      apply "call ( ) \t\u2003( %s)) (x) " (some " 3") = "call ( ) \t\u2003(  3)) (x)" ∧
      apply "call ( ) \t\u2003( %s)) (x) " none = "call ( )) (x)" := by
  have hbase : .char '%' ∉ ("call ( ) " : Text) := by decide
  have hsuffix : .char '%' ∉ (") (x) " : Text) := by decide
  obtain ⟨hfilled, hdropped⟩ := @apply_enclosed "call ( ) " ") (x) " "\t\u2003" " " [] hbase hsuffix
    (by decide) (by decide) rfl
  refine ⟨hbase, hsuffix, by decide, by decide, rfl, ?_, ?_⟩
  · exact (hfilled " 3" (by decide)).trans (by decide)
  · exact (hdropped none rfl).trans (by decide)

end Typewright.Sql
