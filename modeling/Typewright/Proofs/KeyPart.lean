/-
  The entities that the parts of a foreign key name.

  The parts are gone through once, with the names met so far at hand, and a name is kept where it is
  met for the first time.  The names at hand only grow, so those that are kept are those that were
  not at hand in the beginning (`mem_firstOccurrences`).  None of those that are kept further on is
  the name in front.  So what is kept stands in the order of the first places, and no name is kept
  twice (`pairwise_firstOccurrences`).

  Whether the parts disagree with the recorded name is a question of which entities they name.  The
  order of the parts does not count for it, nor how often one is there (`parts_compared`), although
  the words for a disagreement list the entities in the order of the parts.
-/
import Mathlib.Data.List.Basic
import Typewright.Model.Reference

namespace Typewright.Attribute

/-! ## First occurrences -/

variable {seen names : List Text} {n : Text}

/-- The names that are kept are those that were not met before. -/
theorem mem_firstOccurrences : n ∈ firstOccurrences seen names ↔ n ∈ names ∧ n ∉ seen := by
  induction names generalizing seen with
  | nil => simp [firstOccurrences]
  | cons m rest ih =>
    rw [firstOccurrences]
    by_cases hm : m ∈ seen
    · have hne : n ∉ seen → n ≠ m := fun hn h => hn (h ▸ hm)
      rw [if_pos hm, ih, List.mem_cons]
      constructor
      · rintro ⟨hrest, hn⟩
        exact ⟨.inr hrest, hn⟩
      · rintro ⟨hnames, hn⟩
        exact ⟨hnames.resolve_left (hne hn), hn⟩
    · rw [if_neg hm, List.mem_cons, ih, List.mem_cons, List.mem_cons]
      by_cases h : n = m
      · simp [h, hm]
      · simp [h]

/-- A name that is kept behind another one has its first place behind that of the other. -/
theorem pairwise_firstOccurrences (seen names : List Text) :
    (firstOccurrences seen names).Pairwise fun m n => names.idxOf m < names.idxOf n := by
  induction names generalizing seen with
  | nil => exact .nil
  | cons x rest ih =>
    -- what is kept further on is not `x`, so `x` in front moves all first places by one
    have hplace : ∀ {seen : List Text}, x ∈ seen → ∀ n ∈ firstOccurrences seen rest,
        (x :: rest).idxOf n = rest.idxOf n + 1 := by
      intro seen hx n hn
      have hne : x ≠ n := fun h => (mem_firstOccurrences.mp hn).2 (h ▸ hx)
      exact List.idxOf_cons_ne rest hne
    have hrest : ∀ {seen : List Text}, x ∈ seen → (firstOccurrences seen rest).Pairwise
        fun m n => (x :: rest).idxOf m < (x :: rest).idxOf n := by
      intro seen hx
      refine (ih seen).imp_of_mem fun {m n} hm hn hlt => ?_
      rw [hplace hx m hm, hplace hx n hn]
      exact Nat.succ_lt_succ hlt
    rw [firstOccurrences]
    split
    next hx => exact hrest hx
    next =>
      refine List.pairwise_cons.mpr ⟨fun n hn => ?_, hrest List.mem_cons_self⟩
      rw [List.idxOf_cons_self, hplace List.mem_cons_self n hn]
      exact Nat.succ_pos _

theorem nodup_firstOccurrences (seen names : List Text) : (firstOccurrences seen names).Nodup := by
  refine (pairwise_firstOccurrences seen names).imp fun {m n} hlt hsame => ?_
  rw [hsame] at hlt
  exact Nat.lt_irrefl _ hlt

example : firstOccurrences [] ["Item", "Part", "Item"] = ["Item", "Part"] := by decide

/-! ## Recorded names and parts -/

variable {a : Attribute}

theorem mem_partEntities : n ∈ a.partEntities ↔ ∃ p ∈ a.keys.parts, p.entity = n := by
  simp [partEntities, mem_firstOccurrences]

theorem partEntities_eq_nil_iff : a.partEntities = [] ↔ a.keys.parts = [] := by
  simp only [List.eq_nil_iff_forall_not_mem, mem_partEntities]
  constructor
  · intro h p hp
    exact h p.entity ⟨p, hp, rfl⟩
  · rintro h n ⟨p, hp, -⟩
    exact h p hp

/-- There is no disagreement where one of the two sources is absent, or a part names the recorded
    entity. -/
theorem disagreement?_eq_none_iff : a.disagreement? = none ↔
    a.reference = [] ∨ a.keys.parts = [] ∨ ∃ p ∈ a.keys.parts, p.entity = a.reference := by
  have hnone : a.disagreement? = none ↔ a.disagrees = false := by
    unfold disagreement?
    cases a.disagrees <;> simp
  rw [hnone, ← partEntities_eq_nil_iff, ← mem_partEntities, ← or_assoc]
  simp only [disagrees, Bool.and_eq_false_iff, decide_eq_false_iff_not, not_not,
    Bool.not_eq_false', List.contains_iff_mem]

/-- The attribute with other parts of foreign keys. -/
def withParts (a : Attribute) (parts : List ForeignKeyPart) : Attribute :=
  { a with keys := { a.keys with parts := parts } }

@[simp] theorem withParts_reference (a : Attribute) (parts : List ForeignKeyPart) :
    (a.withParts parts).reference = a.reference := rfl

@[simp] theorem withParts_parts (a : Attribute) (parts : List ForeignKeyPart) :
    (a.withParts parts).keys.parts = parts := rfl

/-- What is made of the entities that the parts of foreign keys name. -/
structure PartsCompared (a : Attribute) : Prop where
  /-- No entity is listed twice. -/
  distinct : a.partEntities.Nodup
  /-- Those that are listed are those that a part names. -/
  complete : ∀ n, n ∈ a.partEntities ↔ ∃ p ∈ a.keys.parts, p.entity = n
  /-- They are listed by the first parts that name them. -/
  ordered : a.partEntities.Pairwise fun m n =>
    (a.keys.parts.map (·.entity)).idxOf m < (a.keys.parts.map (·.entity)).idxOf n
  /-- There is no disagreement exactly if nothing is recorded, there are no parts, or a part names
      the very entity that is recorded. -/
  agreeing : a.disagreement? = none ↔
    Text.trimmed (a.keys.references.getD []) = [] ∨ a.keys.parts = [] ∨
      ∃ p ∈ a.keys.parts, p.entity = Text.trimmed (a.keys.references.getD [])
  /-- Parts may be put in another order and be there more or less often. -/
  rearranged : ∀ parts, (∀ p, p ∈ parts ↔ p ∈ a.keys.parts) →
    ((a.withParts parts).disagreement? = none ↔ a.disagreement? = none)

/-- **The entities that parts name are listed once and in order, and whether they disagree with the
    recorded one depends on neither order nor repetition.** -/
theorem parts_compared (a : Attribute) : a.PartsCompared where
  distinct := nodup_firstOccurrences _ _
  complete _ := mem_partEntities
  ordered := pairwise_firstOccurrences _ _
  agreeing := disagreement?_eq_none_iff
  rearranged := by
    intro parts h
    have hnil : parts = [] ↔ a.keys.parts = [] := by
      simp only [List.eq_nil_iff_forall_not_mem, h]
    simp only [disagreement?_eq_none_iff, withParts_reference, withParts_parts, hnil, h]

end Typewright.Attribute
