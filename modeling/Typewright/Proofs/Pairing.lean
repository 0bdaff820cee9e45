/-
  Lists that are paired off, in order or in another one.

  What is done to the members of a list one by one pairs the list off with the results: every member
  stands at the place of its own.  What is said of the members of either list can then be carried
  over to the other.  If only the members matter and not their places, the results are paired off up
  to their order (`Reordered`).
-/
import Mathlib.Data.List.Perm.Basic

namespace Typewright

/-! ## Lists paired off -/

section Pairing

variable {α β γ : Type} {R : α → β → Prop} {xs : List α} {ys : List β}

/-- What is paired off in order looks the same in order, if it does pair by pair. -/
theorem map_eq_of_forall₂ {f : α → γ} {g : β → γ} (h : List.Forall₂ R xs ys)
    (hfg : ∀ x y, R x y → f x = g y) : xs.map f = ys.map g := by
  have heq : List.Forall₂ (· = ·) (xs.map f) (ys.map g) := by
    rw [List.forall₂_map_left_iff, List.forall₂_map_right_iff]
    exact h.imp hfg
  rwa [List.forall₂_eq_eq_eq] at heq

/-- What is paired off is counted alike, if it counts alike pair by pair. -/
theorem countP_eq_of_forall₂ {f : α → Bool} {g : β → Bool} (h : List.Forall₂ R xs ys)
    (hfg : ∀ x y, R x y → f x = g y) : xs.countP f = ys.countP g := by
  have hmap := congrArg (List.countP id) (map_eq_of_forall₂ h hfg)
  rwa [List.countP_map, List.countP_map] at hmap

theorem exists_of_forall₂ (h : List.Forall₂ R xs ys) {y : β} (hy : y ∈ ys) : ∃ x ∈ xs, R x y := by
  induction h with
  | nil => cases hy
  | cons hxy _ ih =>
    rcases List.mem_cons.mp hy with rfl | hrest
    · exact ⟨_, .head _, hxy⟩
    · obtain ⟨x, hx, hR⟩ := ih hrest
      exact ⟨x, .tail _ hx, hR⟩

/-- What stands at one place is paired off. -/
theorem rel_of_getElem? (h : List.Forall₂ R xs ys) {i : Nat} {x : α} {y : β} (hx : xs[i]? = some x)
    (hy : ys[i]? = some y) : R x y := by
  obtain ⟨hi, rfl⟩ := List.getElem?_eq_some_iff.mp hx
  obtain ⟨hj, rfl⟩ := List.getElem?_eq_some_iff.mp hy
  exact h.get hi hj

/-- What is chosen on both sides alike stays paired off. -/
theorem filter_of_forall₂ {p : α → Bool} {q : β → Bool} (h : List.Forall₂ R xs ys)
    (hpq : ∀ x y, R x y → p x = q y) : List.Forall₂ R (xs.filter p) (ys.filter q) := by
  induction h with
  | nil => exact .nil
  | @cons x y _ _ hxy _ ih =>
    rw [List.filter_cons, List.filter_cons, hpq x y hxy]
    cases q y with
    | true => exact .cons hxy ih
    | false => exact ih

/-- What is paired off with the same is paired off with each other. -/
theorem forall₂_of_common {S : α → γ → Prop} {zs : List γ} (h : List.Forall₂ R xs ys)
    (h' : List.Forall₂ S xs zs) : List.Forall₂ (fun y z => ∃ x, R x y ∧ S x z) ys zs := by
  induction h generalizing zs with
  | nil =>
    cases h'
    exact .nil
  | cons hxy _ ih =>
    cases h' with
    | cons hxz hrest => exact .cons ⟨_, hxy, hxz⟩ (ih hrest)

/-- What is paired off by way of others in between is paired off through one of them each. -/
theorem exists_forall₂_iff {S : β → γ → Prop} {zs : List γ} :
    (∃ ys, List.Forall₂ R xs ys ∧ List.Forall₂ S ys zs) ↔
      List.Forall₂ (fun x z => ∃ y, R x y ∧ S y z) xs zs := by
  constructor
  · rintro ⟨ys, h, h'⟩
    induction h generalizing zs with
    | nil =>
      cases h'
      exact .nil
    | cons hxy _ ih =>
      cases h' with
      | cons hyz hrest => exact .cons ⟨_, hxy, hyz⟩ (ih hrest)
  · intro h
    induction h with
    | nil => exact ⟨[], .nil, .nil⟩
    | cons hxz _ ih =>
      obtain ⟨y, hxy, hyz⟩ := hxz
      obtain ⟨ys, hys, hzs⟩ := ih
      exact ⟨y :: ys, .cons hxy hys, .cons hyz hzs⟩

/-- What is paired off gives the same list of results, if it gives the same one pair by pair. -/
theorem filterMap_eq_of_forall₂ {f : α → Option γ} {g : β → Option γ} (h : List.Forall₂ R xs ys)
    (hfg : ∀ x y, R x y → f x = g y) : xs.filterMap f = ys.filterMap g := by
  have hmap := congrArg (List.filterMap id) (map_eq_of_forall₂ h hfg)
  rwa [List.filterMap_map, List.filterMap_map] at hmap

end Pairing

/-! ## Lists in another order -/

section Reordering

variable {α β γ δ : Type}

/-- The members of one list, in some order, are related to those of another. -/
def Reordered (R : α → β → Prop) (xs : List α) (ys : List β) : Prop :=
  ∃ middle, xs.Perm middle ∧ List.Forall₂ R middle ys

namespace Reordered

variable {R : α → β → Prop} {xs : List α} {ys : List β}

theorem exists_right (h : Reordered R xs ys) {x : α} (hx : x ∈ xs) : ∃ y ∈ ys, R x y := by
  obtain ⟨middle, hperm, hpairs⟩ := h
  exact exists_of_forall₂ hpairs.flip (hperm.mem_iff.mp hx)

theorem exists_left (h : Reordered R xs ys) {y : β} (hy : y ∈ ys) : ∃ x ∈ xs, R x y := by
  obtain ⟨middle, hperm, hpairs⟩ := h
  obtain ⟨x, hx, hR⟩ := exists_of_forall₂ hpairs hy
  exact ⟨x, hperm.mem_iff.mpr hx, hR⟩

/-- What is the same for related members comes in another order. -/
theorem map_perm (h : Reordered R xs ys) {f : α → γ} {g : β → γ}
    (hfg : ∀ x y, R x y → f x = g y) : (xs.map f).Perm (ys.map g) := by
  obtain ⟨middle, hperm, hpairs⟩ := h
  rw [← map_eq_of_forall₂ hpairs hfg]
  exact hperm.map f

/-- Lists that related members give in any order are put together in another order. -/
theorem flatMap_perm (h : Reordered R xs ys) {f : α → List γ} {g : β → List γ}
    (hfg : ∀ x y, R x y → (f x).Perm (g y)) : (xs.flatMap f).Perm (ys.flatMap g) := by
  obtain ⟨middle, hperm, hpairs⟩ := h
  refine (hperm.flatMap_right f).trans ?_
  clear hperm
  induction hpairs with
  | nil => exact .nil
  | cons hxy _ ih => exact (hfg _ _ hxy).append ih

theorem eq_iff_perm {xs ys : List α} : Reordered Eq xs ys ↔ xs.Perm ys := by
  constructor
  · rintro ⟨middle, hperm, hpairs⟩
    rw [List.forall₂_eq_eq_eq] at hpairs
    exact hpairs ▸ hperm
  · intro hperm
    exact ⟨ys, hperm, List.forall₂_same.mpr fun _ _ => rfl⟩

/-- If members are paired off with others, then so are their related ones, in another order. -/
theorem forall₂ {P : α → γ → Prop} {Q : β → δ → Prop} {S : γ → δ → Prop} {zs : List γ}
    (h : Reordered R xs ys) (hpaired : List.Forall₂ P xs zs)
    (hrelated : ∀ x y z, R x y → P x z → ∃ w, Q y w ∧ S z w) :
    ∃ ws, List.Forall₂ Q ys ws ∧ Reordered S zs ws := by
  obtain ⟨middle, hperm, hpairs⟩ := h
  obtain ⟨moved, hmoved, hback⟩ := List.perm_comp_forall₂ hperm.symm hpaired
  -- in the new order members and their related ones stand at the same places
  have hstep : ∃ ws, List.Forall₂ Q ys ws ∧ List.Forall₂ S moved ws := by
    clear hperm hpaired hback
    induction hpairs generalizing moved with
    | nil =>
      cases hmoved
      exact ⟨[], .nil, .nil⟩
    | cons hxy _ ih =>
      cases hmoved with
      | cons hxz hrest =>
        obtain ⟨w, hw, hzw⟩ := hrelated _ _ _ hxy hxz
        obtain ⟨ws, hws, hzws⟩ := ih _ hrest
        exact ⟨w :: ws, .cons hw hws, .cons hzw hzws⟩
  obtain ⟨ws, hws, hzws⟩ := hstep
  exact ⟨ws, hws, moved, hback.symm, hzws⟩

end Reordered

end Reordering

end Typewright
