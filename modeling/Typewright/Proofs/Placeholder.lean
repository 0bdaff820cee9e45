/-
  Placeholders: where a template takes its size, and what is left of it where there is none.

  Without a size two passes go over a template.  The first drops the groups, which are placeholders
  that stand alone in parentheses, and the second drops the placeholders that are left.  Each reads
  the template in pieces and is known by them (`group_induction`, `placeholder_induction`).  Together
  they read a group, a placeholder with groups between its two signs, or a sign that stays
  (`emptied_induction`).

  Neither pass looks again at what it has joined.  So the two signs of a placeholder can stand
  around others, and come together when these are dropped (`Rejoins`); this is the one way in which
  a placeholder survives (`infix_emptied_iff`).
-/
import Typewright.Proofs.Trimming
import Typewright.Sql.Size

namespace Typewright.Sql

open Text

/-- What stands for the size. -/
def placeholder : Text := [.char '%', .char 's']

/-! ## Groups -/

/-- A placeholder that stands alone in parentheses, with blanks in front of them and inside. -/
inductive IsGroup : Text → Prop
  | intro {front inside behind : Text} (hfront : isBlank front = true)
      (hinside : isBlank inside = true) (hbehind : isBlank behind = true) :
      IsGroup (front ++ .char '(' :: (inside ++ .char '%' :: .char 's' :: (behind ++ [.char ')'])))

/-- Looking for a group finds one in front, and what follows it. -/
theorem afterGroup?_eq_some_iff {s after : Text} :
    afterGroup? s = some after ↔ ∃ g, IsGroup g ∧ s = g ++ after := by
  constructor
  · intro h
    unfold afterGroup? at h
    split at h
    next inner houter =>
      split at h
      next rest hinner =>
        split at h
        next closed hrest =>
          cases h
          obtain ⟨front, hfront, rfl⟩ := exists_of_trimStart houter
          obtain ⟨inside, hinside, rfl⟩ := exists_of_trimStart hinner
          obtain ⟨behind, hbehind, rfl⟩ := exists_of_trimStart hrest
          exact ⟨_, .intro hfront hinside hbehind, by simp⟩
        next => cases h
      next => cases h
    next => cases h
  · rintro ⟨g, ⟨hfront, hinside, hbehind⟩, rfl⟩
    have hopen : CodePoint.is isBlankChar (.char '(') = false := by decide
    have hpercent : CodePoint.is isBlankChar (.char '%') = false := by decide
    have hclose : CodePoint.is isBlankChar (.char ')') = false := by decide
    simp only [afterGroup?, List.append_assoc, List.cons_append, List.nil_append,
      trimStart_append hfront, trimStart_append hinside, trimStart_append hbehind,
      trimStart_cons_of_not_blank hopen, trimStart_cons_of_not_blank hpercent,
      trimStart_cons_of_not_blank hclose]

theorem percent_notMem_of_isBlank {s : Text} (h : isBlank s = true) : .char '%' ∉ s :=
  fun hmem => absurd (List.all_eq_true.mp h _ hmem) (by decide)

/-- The percent sign of a group is followed by the other sign of the placeholder. -/
theorem IsGroup.exists_of_percent {front behind : Text}
    (h : IsGroup (front ++ .char '%' :: behind)) : ∃ more, behind = .char 's' :: more := by
  generalize hg : front ++ .char '%' :: behind = g at h
  obtain @⟨blanks, inside, close, hblanks, hinside, hclose⟩ := h
  have hbefore : .char '%' ∉ blanks ++ .char '(' :: inside := by
    simp [percent_notMem_of_isBlank hblanks, percent_notMem_of_isBlank hinside]
  have hafter : .char '%' ∉ .char 's' :: (close ++ [.char ')']) := by
    simp [percent_notMem_of_isBlank hclose]
  have hsplit : front ++ .char '%' :: behind =
      (blanks ++ .char '(' :: inside) ++ .char '%' :: .char 's' :: (close ++ [.char ')']) := by
    rw [hg, List.append_assoc, List.cons_append]
  -- there is one percent sign, so both splits are at the same place
  obtain ⟨-, -, hrest⟩ := (List.append_cons_inj_of_notMem hbefore hafter).mp hsplit.symm
  exact ⟨_, hrest.symm⟩

/-! ## Dropping groups -/

@[simp] theorem dropGroups_nil : dropGroups [] = [] := by
  unfold dropGroups
  rfl

theorem dropGroups_of_afterGroup? {s after : Text} (h : afterGroup? s = some after) :
    dropGroups s = dropGroups after := by
  rw [dropGroups]
  split
  next other hother => rw [Option.some.inj (h.symm.trans hother)]
  next hnone => rw [h] at hnone; cases hnone

theorem dropGroups_cons {c : CodePoint} {rest : Text} (h : afterGroup? (c :: rest) = none) :
    dropGroups (c :: rest) = c :: dropGroups rest := by
  rw [dropGroups]
  split
  next after hafter => rw [h] at hafter; cases hafter
  next => rfl

theorem dropGroups_group {g : Text} (hg : IsGroup g) (rest : Text) :
    dropGroups (g ++ rest) = dropGroups rest :=
  dropGroups_of_afterGroup? (afterGroup?_eq_some_iff.mpr ⟨g, hg, rfl⟩)

theorem dropGroups_groups {groups : List Text} (h : ∀ g ∈ groups, IsGroup g) (rest : Text) :
    dropGroups (groups.flatten ++ rest) = dropGroups rest := by
  induction groups with
  | nil => rfl
  | cons g more ih =>
    obtain ⟨hg, hmore⟩ := List.forall_mem_cons.mp h
    rw [List.flatten_cons, List.append_assoc, dropGroups_group hg, ih hmore]

/-- A sign that can start no group stays. -/
theorem dropGroups_cons_of_ne {c : CodePoint} (hblank : c.is isBlankChar = false)
    (hopen : c ≠ .char '(') (rest : Text) : dropGroups (c :: rest) = c :: dropGroups rest := by
  apply dropGroups_cons
  unfold afterGroup?
  rw [trimStart_cons_of_not_blank hblank]
  split
  next heq => exact absurd (List.cons.inj heq).1 hopen
  next => rfl

/-- A blank goes with the group that follows it, or stays. -/
theorem dropGroups_cons_of_blank {c : CodePoint} (h : c.is isBlankChar = true) (rest : Text) :
    dropGroups (c :: rest) = dropGroups rest ∨ dropGroups (c :: rest) = c :: dropGroups rest := by
  have hsame : afterGroup? (c :: rest) = afterGroup? rest := by
    unfold afterGroup?
    rw [trimStart_cons_of_blank h]
  cases hafter : afterGroup? rest with
  | some after =>
    rw [dropGroups_of_afterGroup? (hsame.trans hafter), dropGroups_of_afterGroup? hafter]
    exact .inl rfl
  | none => exact .inr (dropGroups_cons (hsame.trans hafter))

/-- The first pass reads a text in groups and in signs at which none starts. -/
@[elab_as_elim]
theorem group_induction {motive : Text → Prop} (nil : motive [])
    (group : ∀ g rest, IsGroup g → motive rest → motive (g ++ rest))
    (sign : ∀ c rest, afterGroup? (c :: rest) = none → motive rest → motive (c :: rest))
    (s : Text) : motive s := by
  induction s using dropGroups.induct with
  | case1 s after hafter ih =>
    obtain ⟨g, hg, rfl⟩ := afterGroup?_eq_some_iff.mp hafter
    exact group g after hg ih
  | case2 => exact nil
  | case3 c rest hnone ih => exact sign c rest hnone ih

/-- What is left starts with a sign that was there behind groups. -/
theorem exists_of_dropGroups {s left : Text} {c : CodePoint} (h : dropGroups s = c :: left) :
    ∃ (groups : List Text) (rest : Text), (∀ g ∈ groups, IsGroup g) ∧
      s = groups.flatten ++ c :: rest ∧ left = dropGroups rest := by
  induction s using group_induction with
  | nil => cases (dropGroups_nil).symm.trans h
  | group g after hg ih =>
    rw [dropGroups_group hg] at h
    obtain ⟨groups, rest, hgroups, rfl, hleft⟩ := ih h
    refine ⟨g :: groups, rest, List.forall_mem_cons.mpr ⟨hg, hgroups⟩, ?_, hleft⟩
    rw [List.flatten_cons, List.append_assoc]
  | sign d rest hnone _ =>
    rw [dropGroups_cons hnone] at h
    obtain ⟨rfl, rfl⟩ := List.cons.inj h
    exact ⟨[], rest, nofun, rfl, rfl⟩

/-- A percent sign that starts no placeholder is in no group, so the groups in front of it are those
    of what stands there. -/
theorem dropGroups_append_percent {rest : Text} (h : ∀ more, rest ≠ .char 's' :: more)
    (front : Text) :
    dropGroups (front ++ .char '%' :: rest) = dropGroups front ++ .char '%' :: dropGroups rest := by
  induction front using group_induction with
  | nil =>
    rw [List.nil_append, dropGroups_nil, List.nil_append]
    exact dropGroups_cons_of_ne (by decide) (by decide) rest
  | group g front hg ih => rw [List.append_assoc, dropGroups_group hg, dropGroups_group hg, ih]
  | sign c front hnone ih =>
    have hstill : afterGroup? (c :: front ++ .char '%' :: rest) = none := by
      rw [Option.eq_none_iff_forall_ne_some]
      intro after hafter
      obtain ⟨g, hg, hsplit⟩ := afterGroup?_eq_some_iff.mp hafter
      rcases List.append_eq_append_iff.mp hsplit with ⟨tail, rfl, htail⟩ | ⟨tail, hfront, -⟩
      · cases tail with
        | nil =>
          rw [List.append_nil] at hg
          have hfound : afterGroup? (c :: front) = some [] :=
            afterGroup?_eq_some_iff.mpr ⟨_, hg, (List.append_nil _).symm⟩
          rw [hnone] at hfound
          cases hfound
        | cons d tail =>
          obtain ⟨rfl, rfl⟩ := List.cons.inj htail
          obtain ⟨more, rfl⟩ := hg.exists_of_percent
          exact h _ rfl
      · have hfound : afterGroup? (c :: front) = some tail :=
          afterGroup?_eq_some_iff.mpr ⟨g, hg, hfront⟩
        rw [hnone] at hfound
        cases hfound
    rw [List.cons_append] at hstill
    rw [List.cons_append, dropGroups_cons hstill, ih, dropGroups_cons hnone, List.cons_append]

theorem dropGroups_sublist (s : Text) : (dropGroups s).Sublist s := by
  induction s using group_induction with
  | nil => rw [dropGroups_nil]
  | group g rest hg ih =>
    rw [dropGroups_group hg]
    exact ih.trans (List.sublist_append_right g rest)
  | sign c rest hnone ih =>
    rw [dropGroups_cons hnone]
    exact ih.cons_cons c

/-! ## Filling placeholders -/

theorem fill_placeholder (size rest : Text) :
    fill size (.char '%' :: .char 's' :: rest) = size ++ fill size rest := by
  rw [fill]

theorem fill_cons {c : CodePoint} {rest : Text}
    (h : ∀ more, c = .char '%' → rest ≠ .char 's' :: more) (size : Text) :
    fill size (c :: rest) = c :: fill size rest := by
  rw [fill]
  rintro more rfl hrest
  exact h more rfl hrest

/-- The second pass reads a text in placeholders and in signs at which none starts. -/
@[elab_as_elim]
theorem placeholder_induction {motive : Text → Prop} (nil : motive [])
    (place : ∀ rest, motive rest → motive (.char '%' :: .char 's' :: rest))
    (sign : ∀ c rest, (∀ more, c = .char '%' → rest ≠ .char 's' :: more) → motive rest →
      motive (c :: rest))
    (s : Text) : motive s := by
  induction s using fill.induct with
  | case1 rest ih => exact place rest ih
  | case2 c rest hnone ih => exact sign c rest (fun more hc hrest => hnone more hc hrest) ih
  | case3 => exact nil

/-- Two parts of a template are filled one by one, if no placeholder lies across the cut. -/
theorem fill_append {rest : Text} (h : ∀ more, rest ≠ .char 's' :: more) (size front : Text) :
    fill size (front ++ rest) = fill size front ++ fill size rest := by
  induction front using placeholder_induction with
  | nil => rfl
  | place front ih =>
    rw [List.cons_append, List.cons_append, fill_placeholder, fill_placeholder, ih,
      List.append_assoc]
  | sign c front hnone ih =>
    have hcut : ∀ more, c = .char '%' → front ++ rest ≠ .char 's' :: more := by
      rintro more rfl hmore
      cases front with
      | nil => exact h more hmore
      | cons d front =>
        obtain ⟨rfl, -⟩ := List.cons.inj hmore
        exact hnone front rfl rfl
    rw [List.cons_append, fill_cons hcut, fill_cons hnone, ih, List.cons_append]

theorem fill_nil_sublist (s : Text) : (fill [] s).Sublist s := by
  induction s using placeholder_induction with
  | nil => exact .slnil
  | place rest ih =>
    rw [fill_placeholder]
    exact (ih.cons _).cons _
  | sign c rest hnone ih =>
    rw [fill_cons hnone]
    exact ih.cons_cons c

/-! ## Texts with and without placeholders -/

theorem hasPlaceholder_cons {c : CodePoint} {rest : Text}
    (h : ∀ more, c = .char '%' → rest ≠ .char 's' :: more) :
    hasPlaceholder (c :: rest) = hasPlaceholder rest := by
  rw [hasPlaceholder]
  rintro more rfl hrest
  exact h more rfl hrest

theorem hasPlaceholder_cons_of {c : CodePoint} {rest : Text} (h : hasPlaceholder rest = true) :
    hasPlaceholder (c :: rest) = true := by
  unfold hasPlaceholder
  split
  next => rfl
  next heq =>
    cases heq
    exact h
  next heq => cases heq

theorem hasPlaceholder_append (front rest : Text) :
    hasPlaceholder (front ++ .char '%' :: .char 's' :: rest) = true := by
  induction front with
  | nil => rfl
  | cons c front ih => exact hasPlaceholder_cons_of ih

theorem hasPlaceholder_group {g : Text} (hg : IsGroup g) (rest : Text) :
    hasPlaceholder (g ++ rest) = true := by
  obtain @⟨front, inside, behind, -, -, -⟩ := hg
  have hplace := hasPlaceholder_append (front ++ .char '(' :: inside) (behind ++ .char ')' :: rest)
  simpa using hplace

theorem hasPlaceholder_iff {s : Text} : hasPlaceholder s = true ↔ placeholder <:+: s := by
  constructor
  · intro h
    induction s using placeholder_induction with
    | nil => cases h
    | place rest _ => exact ⟨[], rest, rfl⟩
    | sign c rest hnone ih => exact List.infix_cons (ih ((hasPlaceholder_cons hnone).symm.trans h))
  · rintro ⟨front, rest, rfl⟩
    rw [List.append_assoc]
    exact hasPlaceholder_append front rest

theorem hasPlaceholder_eq_false {s : Text} (h : .char '%' ∉ s) : hasPlaceholder s = false := by
  refine Bool.eq_false_iff.mpr fun hplace => h ?_
  exact (hasPlaceholder_iff.mp hplace).subset (.head _)

/-- Without a placeholder there is nothing to drop. -/
theorem dropGroups_of_no_placeholder {s : Text} (h : hasPlaceholder s = false) :
    dropGroups s = s := by
  induction s using group_induction with
  | nil => exact dropGroups_nil
  | group g rest hg _ =>
    rw [hasPlaceholder_group hg] at h
    cases h
  | sign c rest hnone ih =>
    have hrest : hasPlaceholder rest = false :=
      Bool.eq_false_iff.mpr fun hrest => Bool.eq_false_iff.mp h (hasPlaceholder_cons_of hrest)
    rw [dropGroups_cons hnone, ih hrest]

/-- Without a placeholder there is nothing to fill. -/
theorem fill_of_no_placeholder {s : Text} (h : hasPlaceholder s = false) (size : Text) :
    fill size s = s := by
  induction s using placeholder_induction with
  | nil => rfl
  | place rest _ => cases h
  | sign c rest hnone ih => rw [fill_cons hnone, ih ((hasPlaceholder_cons hnone).symm.trans h)]

/-- Every sign of a size is in what a template with a placeholder becomes. -/
theorem mem_fill {c : CodePoint} {size template : Text} (hc : c ∈ size)
    (h : hasPlaceholder template = true) : c ∈ fill size template := by
  induction template using placeholder_induction with
  | nil => cases h
  | place rest _ =>
    rw [fill_placeholder]
    exact List.mem_append_left _ hc
  | sign d rest hnone ih =>
    rw [fill_cons hnone]
    exact List.mem_cons_of_mem _ (ih ((hasPlaceholder_cons hnone).symm.trans h))

/-- Dropping a placeholder makes a text shorter. -/
theorem fill_nil_ne_self {s : Text} (h : hasPlaceholder s = true) : fill [] s ≠ s := by
  induction s using placeholder_induction with
  | nil => cases h
  | place rest _ =>
    intro heq
    have hlength : (fill [] rest).length ≤ rest.length := (fill_nil_sublist rest).length_le
    rw [fill_placeholder, List.nil_append] at heq
    rw [heq, List.length_cons, List.length_cons] at hlength
    omega
  | sign c rest hnone ih =>
    rw [fill_cons hnone]
    exact fun heq => ih ((hasPlaceholder_cons hnone).symm.trans h) (List.cons.inj heq).2

/-- Trimming neither makes a placeholder nor takes one away. -/
theorem infix_trimmed_iff {s : Text} : placeholder <:+: trimmed s ↔ placeholder <:+: s := by
  constructor
  · exact fun h => h.trans (trimmed_isInfix s)
  · rintro ⟨front, rest, rfl⟩
    have hpercent : CodePoint.is isBlankChar (.char '%') = false := by decide
    have hsign : CodePoint.is isBlankChar (.char 's') = false := by decide
    refine ⟨front.dropWhile (CodePoint.is isBlankChar),
      rest.rdropWhile (CodePoint.is isBlankChar), ?_⟩
    have hsplit : front ++ placeholder ++ rest = (front ++ [.char '%']) ++ .char 's' :: rest := by
      rw [List.append_assoc, List.append_assoc]
      rfl
    rw [hsplit, trimmed, stripped_append_cons hsign, dropWhile_append_cons hpercent,
      List.append_assoc, List.append_assoc]
    rfl

/-! ## What is left without a size -/

/-- A template without its groups and its placeholders. -/
def emptied (template : Text) : Text := fill [] (dropGroups template)

@[simp] theorem emptied_nil : emptied [] = [] := by
  rw [emptied, dropGroups_nil, fill]

theorem emptied_group {g : Text} (hg : IsGroup g) (rest : Text) :
    emptied (g ++ rest) = emptied rest := by
  rw [emptied, dropGroups_group hg, emptied]

theorem emptied_placeholder {groups : List Text} (h : ∀ g ∈ groups, IsGroup g) (rest : Text) :
    emptied (.char '%' :: (groups.flatten ++ .char 's' :: rest)) = emptied rest := by
  rw [emptied, dropGroups_cons_of_ne (by decide) (by decide), dropGroups_groups h,
    dropGroups_cons_of_ne (by decide) (by decide), fill_placeholder, List.nil_append, emptied]

theorem emptied_cons {c : CodePoint} {rest : Text}
    (h : dropGroups (c :: rest) = c :: dropGroups rest)
    (hplace : ∀ more, c = .char '%' → dropGroups rest ≠ .char 's' :: more) :
    emptied (c :: rest) = c :: emptied rest := by
  rw [emptied, h, fill_cons hplace, emptied]

/-- A sign that can start neither a group nor a placeholder stays. -/
theorem emptied_cons_of_ne {c : CodePoint} (hblank : c.is isBlankChar = false)
    (hopen : c ≠ .char '(') (hpercent : c ≠ .char '%') (rest : Text) :
    emptied (c :: rest) = c :: emptied rest :=
  emptied_cons (dropGroups_cons_of_ne hblank hopen rest) fun _ hc => absurd hc hpercent

/-- A template may be cut in front of a percent sign that starts no placeholder. -/
theorem emptied_append_percent {rest : Text} (h : ∀ more, rest ≠ .char 's' :: more) (front : Text) :
    emptied (front ++ .char '%' :: rest) = emptied front ++ emptied (.char '%' :: rest) := by
  have hcut : ∀ more, .char '%' :: dropGroups rest ≠ .char 's' :: more := fun _ hmore =>
    absurd (List.cons.inj hmore).1 (by decide)
  rw [emptied, dropGroups_append_percent h, fill_append hcut,
    ← dropGroups_cons_of_ne (by decide) (by decide), emptied, emptied]

/-- A template is read in pieces: groups, placeholders with groups between their signs, and signs
    that stay. -/
@[elab_as_elim]
theorem emptied_induction {motive : Text → Prop} (nil : motive [])
    (group : ∀ g rest, IsGroup g → motive rest → motive (g ++ rest))
    (place : ∀ (groups : List Text) (rest : Text), (∀ g ∈ groups, IsGroup g) → motive rest →
      motive (.char '%' :: (groups.flatten ++ .char 's' :: rest)))
    (sign : ∀ c rest, emptied (c :: rest) = c :: emptied rest → motive rest → motive (c :: rest))
    (template : Text) : motive template := by
  -- a placeholder takes two signs at once, so the induction is on the length
  induction hn : template.length using Nat.strong_induction_on generalizing template with
  | _ n ih =>
    subst hn
    cases hafter : afterGroup? template with
    | some after =>
      have hrest : motive after := ih _ (length_of_afterGroup? hafter) after rfl
      obtain ⟨g, hg, rfl⟩ := afterGroup?_eq_some_iff.mp hafter
      exact group g after hg hrest
    | none =>
      cases template with
      | nil => exact nil
      | cons c rest =>
        by_cases hplace : c = .char '%' ∧ ∃ more, dropGroups rest = .char 's' :: more
        · obtain ⟨rfl, more, hmore⟩ := hplace
          obtain ⟨groups, behind, hgroups, rfl, -⟩ := exists_of_dropGroups hmore
          refine place groups behind hgroups (ih _ ?_ behind rfl)
          simp only [List.length_cons, List.length_append]
          omega
        · have hsign : emptied (c :: rest) = c :: emptied rest :=
            emptied_cons (dropGroups_cons hafter) fun more hc hmore => hplace ⟨hc, more, hmore⟩
          exact sign c rest hsign (ih _ (by simp) rest rfl)

theorem emptied_sublist (s : Text) : (emptied s).Sublist s :=
  (fill_nil_sublist _).trans (dropGroups_sublist s)

/-- Of a text with a placeholder something is dropped. -/
theorem emptied_eq_self_iff {s : Text} : emptied s = s ↔ hasPlaceholder s = false := by
  constructor
  · intro h
    have hgroups : dropGroups s = s := by
      refine (dropGroups_sublist s).antisymm ?_
      have hback : (emptied s).Sublist (dropGroups s) := fill_nil_sublist _
      rwa [h] at hback
    rw [emptied, hgroups] at h
    exact Bool.eq_false_iff.mpr fun hplace => fill_nil_ne_self hplace h
  · intro h
    rw [emptied, dropGroups_of_no_placeholder h, fill_of_no_placeholder h]

/-! ## What becomes of a template -/

/-- With a size every placeholder is filled. -/
theorem apply_some {size : Text} (h : size ≠ []) (template : Text) :
    apply template (some size) = trimmed (fill size template) := by
  unfold apply
  cases hplace : hasPlaceholder template with
  | true =>
    rw [Option.getD_some]
    exact if_pos h
  | false => rw [fill_of_no_placeholder hplace]; rfl

theorem apply_none (template : Text) : apply template none = trimmed (emptied template) := by
  unfold apply
  cases hplace : hasPlaceholder template with
  | true => rfl
  | false => rw [emptied_eq_self_iff.mpr hplace]; rfl

/-- The empty size is none. -/
theorem apply_of_no_size {size : Option Text} (h : size.getD [] = []) (template : Text) :
    apply template size = apply template none := by
  unfold apply
  rw [h]
  rfl

/-- A text stays as it is exactly if nothing can be trimmed away and no placeholder dropped. -/
theorem apply_none_eq_self_iff {s : Text} :
    apply s none = s ↔ trimmed s = s ∧ hasPlaceholder s = false := by
  rw [apply_none]
  constructor
  · intro h
    have hemptied : emptied s = s := by
      refine (emptied_sublist s).antisymm ?_
      have hback : (trimmed (emptied s)).Sublist (emptied s) := (trimmed_isInfix _).sublist
      rwa [h] at hback
    rw [hemptied] at h
    exact ⟨h, emptied_eq_self_iff.mp hemptied⟩
  · rintro ⟨htrimmed, hplace⟩
    rw [emptied_eq_self_iff.mpr hplace, htrimmed]

/-! ## What is dropped -/

/-- A run of pieces of which nothing is left: so many placeholders, and groups before, between and
    inside them. -/
inductive Dropped : Nat → Text → Prop
  | nil : Dropped 0 []
  | group {n : Nat} {g rest : Text} (hg : IsGroup g) (hrest : Dropped n rest) :
      Dropped n (g ++ rest)
  | placeholder {n : Nat} {groups : List Text} {rest : Text} (hgroups : ∀ g ∈ groups, IsGroup g)
      (hrest : Dropped n rest) :
      Dropped (n + 1) (.char '%' :: (groups.flatten ++ .char 's' :: rest))

theorem Dropped.emptied_append {n : Nat} {inner : Text} (h : Dropped n inner) (rest : Text) :
    emptied (inner ++ rest) = emptied rest := by
  induction h with
  | nil => rfl
  | group hg _ ih => rw [List.append_assoc, emptied_group hg, ih]
  | placeholder hgroups _ ih =>
    rw [List.cons_append, List.append_assoc, List.cons_append, emptied_placeholder hgroups, ih]

/-- A run without a placeholder holds groups only. -/
theorem Dropped.exists_groups {inner : Text} (h : Dropped 0 inner) :
    ∃ groups : List Text, (∀ g ∈ groups, IsGroup g) ∧ inner = groups.flatten := by
  generalize hn : 0 = n at h
  induction h with
  | nil => exact ⟨[], nofun, rfl⟩
  | group hg _ ih =>
    obtain ⟨groups, hgroups, rfl⟩ := ih hn
    exact ⟨_ :: groups, List.forall_mem_cons.mpr ⟨hg, hgroups⟩, rfl⟩
  | placeholder => cases hn

/-- Behind its groups a run with a placeholder starts with one. -/
theorem Dropped.exists_dropGroups {n : Nat} {inner : Text} (h : Dropped (n + 1) inner)
    (rest : Text) : ∃ more, dropGroups (inner ++ rest) = .char '%' :: more := by
  generalize hm : n + 1 = m at h
  induction h with
  | nil => cases hm
  | group hg _ ih =>
    obtain ⟨more, hmore⟩ := ih hm
    exact ⟨more, by rw [List.append_assoc, dropGroups_group hg, hmore]⟩
  | placeholder =>
    rw [List.cons_append, dropGroups_cons_of_ne (by decide) (by decide)]
    exact ⟨_, rfl⟩

/-- What is left starts with a sign that was there behind pieces that are dropped. -/
theorem exists_of_emptied {s left : Text} {c : CodePoint} (h : emptied s = c :: left) :
    ∃ (n : Nat) (inner rest : Text), Dropped n inner ∧ s = inner ++ c :: rest ∧
      left = emptied rest := by
  induction s using emptied_induction with
  | nil => cases emptied_nil.symm.trans h
  | group g rest hg ih =>
    rw [emptied_group hg] at h
    obtain ⟨n, inner, behind, hinner, rfl, hleft⟩ := ih h
    exact ⟨n, g ++ inner, behind, .group hg hinner, (List.append_assoc ..).symm, hleft⟩
  | place groups rest hgroups ih =>
    rw [emptied_placeholder hgroups] at h
    obtain ⟨n, inner, behind, hinner, rfl, hleft⟩ := ih h
    refine ⟨n + 1, _, behind, .placeholder hgroups hinner, ?_, hleft⟩
    rw [List.cons_append, List.append_assoc, List.cons_append]
  | sign d rest hsign _ =>
    rw [hsign] at h
    obtain ⟨rfl, rfl⟩ := List.cons.inj h
    exact ⟨0, [], rest, .nil, rfl, rfl⟩

/-! ## Placeholders that survive -/

/-- The two signs of a placeholder stand around one or more others, which are dropped first. -/
def Rejoins (template : Text) : Prop :=
  ∃ (front : Text) (n : Nat) (inner back : Text), Dropped (n + 1) inner ∧
    template = front ++ .char '%' :: (inner ++ .char 's' :: back)

theorem Rejoins.append {template : Text} (h : Rejoins template) (front : Text) :
    Rejoins (front ++ template) := by
  obtain ⟨before, n, inner, back, hinner, rfl⟩ := h
  exact ⟨front ++ before, n, inner, back, hinner, (List.append_assoc ..).symm⟩

theorem infix_emptied_of_rejoins {template : Text} (h : Rejoins template) :
    placeholder <:+: emptied template := by
  obtain ⟨front, n, inner, back, hinner, rfl⟩ := h
  obtain ⟨more, hmore⟩ := hinner.exists_dropGroups (.char 's' :: back)
  -- the outer percent sign starts no placeholder, before the inner ones are dropped
  have hopen : ∀ other, inner ++ .char 's' :: back ≠ .char 's' :: other := by
    intro other hother
    rw [hother, dropGroups_cons_of_ne (by decide) (by decide)] at hmore
    cases hmore
  have hleft : emptied (inner ++ .char 's' :: back) = .char 's' :: emptied back := by
    rw [hinner.emptied_append]
    exact emptied_cons_of_ne (by decide) (by decide) (by decide) back
  have houter : emptied (.char '%' :: (inner ++ .char 's' :: back)) =
      .char '%' :: .char 's' :: emptied back := by
    rw [← hleft]
    refine emptied_cons (dropGroups_cons_of_ne (by decide) (by decide) _) ?_
    rintro other - hother
    cases hmore.symm.trans hother
  refine ⟨emptied front, emptied back, ?_⟩
  calc emptied front ++ placeholder ++ emptied back
      = emptied front ++ emptied (.char '%' :: (inner ++ .char 's' :: back)) := by
        rw [houter, List.append_assoc]
        rfl
    _ = emptied (front ++ .char '%' :: (inner ++ .char 's' :: back)) :=
        (emptied_append_percent hopen front).symm

theorem rejoins_of_infix_emptied {template : Text} (h : placeholder <:+: emptied template) :
    Rejoins template := by
  obtain ⟨before, after, h⟩ := h
  induction template using emptied_induction generalizing before with
  | nil => simp [placeholder] at h
  | group g rest hg ih =>
    rw [emptied_group hg] at h
    exact (ih before h).append g
  | place groups rest hgroups ih =>
    rw [emptied_placeholder hgroups] at h
    have hrest := (ih before h).append (.char '%' :: (groups.flatten ++ [.char 's']))
    simpa using hrest
  | sign c rest hsign ih =>
    rw [hsign] at h
    cases before with
    | cons d before => exact (ih before (List.cons.inj h).2).append [c]
    | nil =>
      obtain ⟨rfl, hleft⟩ := List.cons.inj h
      obtain ⟨n, inner, back, hinner, rfl, rfl⟩ := exists_of_emptied hleft.symm
      cases n with
      | succ n => exact ⟨[], n, inner, back, hinner, rfl⟩
      | zero =>
        -- with groups alone between them the two signs are dropped with the others
        obtain ⟨groups, hgroups, rfl⟩ := hinner.exists_groups
        rw [emptied_placeholder hgroups, ← hleft] at hsign
        have hlonger : emptied back = .char '%' :: .char 's' :: emptied back := hsign
        have hlength := congrArg List.length hlonger
        rw [List.length_cons, List.length_cons] at hlength
        omega

/-- **A placeholder is left exactly if the signs of one come together.** -/
theorem infix_emptied_iff {template : Text} :
    placeholder <:+: emptied template ↔ Rejoins template :=
  ⟨rejoins_of_infix_emptied, infix_emptied_of_rejoins⟩

instance (template : Text) : Decidable (Rejoins template) :=
  decidable_of_iff _ (hasPlaceholder_iff.trans infix_emptied_iff)

example : ¬ Rejoins "%(%s)s (%%s)" := by decide +kernel

theorem infix_apply_none_iff {template : Text} :
    placeholder <:+: apply template none ↔ Rejoins template := by
  rw [apply_none, infix_trimmed_iff, infix_emptied_iff]

/-- **Without a size a placeholder is left exactly if the signs of one come together**, and exactly
    then the result does not stay as it is when it is taken for a template itself. -/
theorem placeholder_survives_iff (template : Text) (size again : Option Text)
    (hsize : size.getD [] = []) (hagain : again.getD [] = []) :
    (placeholder <:+: apply template size ↔ Rejoins template) ∧
      (apply (apply template size) again = apply template size ↔ ¬ Rejoins template) := by
  rw [apply_of_no_size hsize, apply_of_no_size hagain]
  refine ⟨infix_apply_none_iff, ?_⟩
  have htrimmed : trimmed (apply template none) = apply template none := by
    rw [apply_none, trimmed_trimmed]
  rw [apply_none_eq_self_iff, and_iff_right htrimmed, ← infix_apply_none_iff, ← hasPlaceholder_iff,
    Bool.not_eq_true]

theorem placeholder_survives_iff_nested :
    (some [] : Option Text).getD [] = [] ∧ (none : Option Text).getD [] = [] ∧
      Rejoins "CHAR %%s( %s )s" ∧ placeholder <:+: apply "CHAR %%s( %s )s" (some []) ∧
      apply (apply "CHAR %%s( %s )s" (some [])) none ≠ apply "CHAR %%s( %s )s" (some []) :=
  have hinner : Dropped 1 "%s( %s )" :=
    .placeholder (List.forall_mem_nil _) (.group (@IsGroup.intro [] " " " " rfl rfl rfl) .nil)
  have hrejoins : Rejoins "CHAR %%s( %s )s" := ⟨"CHAR ", 0, "%s( %s )", [], hinner, by decide⟩
  have hsurvives := placeholder_survives_iff "CHAR %%s( %s )s" (some []) none rfl rfl
  ⟨rfl, rfl, hrejoins, hsurvives.1.mpr hrejoins, fun hsame => hsurvives.2.mp hsame hrejoins⟩

/-- There are templates that keep a placeholder. -/
theorem placeholder_can_survive :
    ¬ ∀ (template : Text) (size : Option Text), size.getD [] = [] →
      ¬ placeholder <:+: apply template size := by
  intro h
  exact h "%%ss" none rfl ⟨[], [], by decide +kernel⟩

end Typewright.Sql
