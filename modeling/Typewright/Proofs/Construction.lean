/-
  Which attributes make an entity.

  Two rules decide: the names of the attributes are distinct, and no part of a composite foreign key
  is alone.  Where the first is broken the names that repeat are told, each once and in ascending
  order (`Repeats`), and the second is not looked at.  Where only the second is broken, the first
  attribute is told that breaks it.

  Texts are ordered by the numbers of their code points, the first difference deciding
  (`Text.le_iff`).  Since a text is known by these numbers, a list that is sorted by them and has
  nothing twice is strictly ascending.
-/
import Mathlib.Data.List.Nodup
import Mathlib.Order.Basic
import Typewright.Model.Entity

namespace Typewright

/-! ## The order of texts -/

namespace Text

/-- The numbers of the code points of a text. -/
def numbers (s : Text) : List Nat := s.map CodePoint.toNat

theorem CodePoint.toNat_injective : Function.Injective CodePoint.toNat := by
  intro c d h
  have hsome : some c = some d := by rw [← c.ofNat?_toNat, ← d.ofNat?_toNat, h]
  exact Option.some.inj hsome

/-- A text is known by the numbers of its code points. -/
theorem numbers_injective : Function.Injective numbers :=
  List.map_injective_iff.mpr CodePoint.toNat_injective

/-- Texts are in order unless the numbers of the second are the smaller ones. -/
theorem le_iff {s t : Text} : le s t = true ↔ ¬ t.numbers < s.numbers := by
  induction s generalizing t with
  | nil => simp [le, numbers]
  | cons c s ih =>
    cases t with
    | nil => simp [le, numbers]
    | cons d t =>
      have hsame : c = d ↔ c.toNat = d.toNat := CodePoint.toNat_injective.eq_iff.symm
      have hfirst : numbers (d :: t) < numbers (c :: s) ↔
          d.toNat < c.toNat ∨ d.toNat = c.toNat ∧ numbers t < numbers s := List.cons_lt_cons_iff
      simp only [le, Bool.or_eq_true, Bool.and_eq_true, decide_eq_true_eq, beq_iff_eq, ih, hsame,
        hfirst]
      grind

theorem le_trans (r s t : Text) (hrs : le r s = true) (hst : le s t = true) : le r t = true :=
  have hlow := List.not_lt.mp (le_iff.mp hrs)
  have hhigh := List.not_lt.mp (le_iff.mp hst)
  le_iff.mpr (List.not_lt.mpr (List.le_trans hlow hhigh))

theorem le_total (s t : Text) : (le s t || le t s) = true := by
  rw [Bool.or_eq_true, le_iff, le_iff, List.not_lt, List.not_lt]
  exact List.le_total _ _

/-- Of two texts in order that differ the numbers of the first are smaller. -/
theorem numbers_lt {s t : Text} (hle : le s t = true) (hne : s ≠ t) : s.numbers < t.numbers := by
  by_contra hlt
  have heq : s.numbers = t.numbers :=
    List.le_antisymm (List.not_lt.mp (le_iff.mp hle)) (List.not_lt.mp hlt)
  exact hne (numbers_injective heq)

end Text

/-! ## Names that repeat -/

/-- These are the names that occur more than once, each once and in ascending order. -/
structure Repeats (names repeated : List Text) : Prop where
  mem_iff : ∀ n, n ∈ repeated ↔ 1 < names.count n
  ascending : repeated.Pairwise fun s t => s.numbers < t.numbers

/-- Of equal texts the first one is kept. -/
theorem nodup_eraseDups (names : List Text) : names.eraseDups.Nodup := by
  match names with
  | [] => exact List.nodup_nil
  | n :: rest =>
    rw [List.eraseDups_cons, List.nodup_cons, List.mem_eraseDups]
    exact ⟨by simp, nodup_eraseDups (rest.filter fun other => !other == n)⟩
termination_by names.length
decreasing_by exact Nat.lt_succ_of_le (List.length_filter_le _ rest)

theorem repeats_duplicates (names : List Text) : Repeats names (duplicates names) where
  mem_iff n := by
    have hmem : 1 < names.count n → n ∈ names :=
      fun hcount => List.count_pos_iff.mp (Nat.zero_lt_of_lt hcount)
    simp only [duplicates, List.mem_mergeSort, List.mem_eraseDups, List.mem_filter,
      decide_eq_true_eq]
    exact ⟨fun h => h.2, fun h => ⟨hmem h, h⟩⟩
  ascending := by
    let found := (names.filter fun n => decide (1 < names.count n)).eraseDups
    have hsorted : (found.mergeSort Text.le).Pairwise fun s t => Text.le s t = true :=
      List.pairwise_mergeSort Text.le_trans Text.le_total found
    have hdistinct : (found.mergeSort Text.le).Nodup :=
      (List.mergeSort_perm found Text.le).nodup_iff.mpr (nodup_eraseDups _)
    exact (hsorted.and hdistinct).imp fun h => Text.numbers_lt h.1 h.2

/-! ## Building an entity -/

/-- The first of the attributes that is alone in its composite foreign keys. -/
def FirstLone (attributes : List Attribute) (a : Attribute) : Prop :=
  ∃ before after, attributes = before ++ a :: after ∧
    (∀ b ∈ before, CompositeOk attributes b) ∧ ¬ CompositeOk attributes a

theorem FirstLone.broken {attributes : List Attribute} {a : Attribute}
    (h : FirstLone attributes a) : ¬ ∀ b ∈ attributes, CompositeOk attributes b := by
  obtain ⟨before, after, hsplit, -, hlone⟩ := h
  intro hall
  refine hlone (hall a ?_)
  rw [hsplit]
  exact List.mem_append_right _ (.head _)

/-- The search for an attribute that is alone ends at the first one. -/
theorem firstLone_of_find {attributes : List Attribute} {a : Attribute}
    (h : attributes.find? (KeyGroups.ofAttributes attributes).isLone = some a) :
    FirstLone attributes a := by
  obtain ⟨hlone, before, after, hsplit, hbefore⟩ := List.find?_eq_some_iff_append.mp h
  have hmem : a ∈ attributes := List.mem_of_find?_eq_some h
  refine ⟨before, after, hsplit, fun b hb => ?_, (KeyGroups.isLone_iff hmem).mp hlone⟩
  have hb' : b ∈ attributes := hsplit ▸ List.mem_append_left _ hb
  exact (KeyGroups.isLone_eq_false_iff hb').mp (by simpa using hbefore b hb)

namespace Entity

variable (className : Name) (table : Option Text) {attributes : List Attribute}

theorem build_of_repeated (h : ¬ (attributes.map (·.name)).Nodup) :
    build className table attributes =
      .error (.duplicateAttributes className (duplicates (attributes.map (·.name)))) :=
  dif_neg h

/-- With distinct names the outcome hangs on whether an attribute is alone. -/
theorem build_of_distinct (h : (attributes.map (·.name)).Nodup) :
    (∃ a, FirstLone attributes a ∧
      build className table attributes = .error (.loneCompositePart className a.name)) ∨
    ((∀ a ∈ attributes, CompositeOk attributes a) ∧
      ∃ e, build className table attributes = .ok e) := by
  unfold build
  rw [dif_pos h]
  split
  next a hfind => exact .inl ⟨a, firstLone_of_find hfind, rfl⟩
  next hfind => exact .inr ⟨KeyGroups.find?_isLone_eq_none_iff.mp hfind, _, rfl⟩

/-- **An entity is built exactly from attributes with distinct names of which none is alone in its
    composite foreign keys.** -/
theorem build_outcome (className : Name) (table : Option Text) (attributes : List Attribute) :
    ((∃ e, build className table attributes = .ok e) ↔
      (attributes.map (·.name)).Nodup ∧ ∀ a ∈ attributes, CompositeOk attributes a) ∧
    (¬ (attributes.map (·.name)).Nodup →
      ∃ repeated, Repeats (attributes.map (·.name)) repeated ∧
        build className table attributes = .error (.duplicateAttributes className repeated)) ∧
    ((attributes.map (·.name)).Nodup → ¬ (∀ a ∈ attributes, CompositeOk attributes a) →
      ∃ a, FirstLone attributes a ∧
        build className table attributes = .error (.loneCompositePart className a.name)) := by
  by_cases hdistinct : (attributes.map (·.name)).Nodup
  · obtain ⟨a, hfirst, herror⟩ | ⟨hshared, e, hok⟩ :=
      build_of_distinct className table hdistinct
    · exact ⟨iff_of_false (by simp [herror]) fun h => hfirst.broken h.2,
        fun h => absurd hdistinct h, fun _ _ => ⟨a, hfirst, herror⟩⟩
    · exact ⟨iff_of_true ⟨e, hok⟩ ⟨hdistinct, hshared⟩, fun h => absurd hdistinct h,
        fun _ h => absurd hshared h⟩
  · have herror := build_of_repeated className table hdistinct
    exact ⟨iff_of_false (by simp [herror]) fun h => hdistinct h.1,
      fun _ => ⟨_, repeats_duplicates _, herror⟩, fun h => absurd h hdistinct⟩

end Entity

end Typewright
