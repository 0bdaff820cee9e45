/-
  Indexes and the things that they were made of.

  Storing replaces what a name had before, so an index may hold fewer things than it was made of.
  Where no two of them have one name nothing is replaced, and the entries stay as they came
  (`foldl_store_of_nodup`).  Then nothing is lost: what is found under a name is the one thing in
  the list that has it, and what is not found is not in the list (`indexes_ofList`).
-/
import Mathlib.Data.List.Nodup
import Typewright.Data.Index

namespace Typewright

/-! ## Looking up in distinct entries -/

section Lookup

variable {κ β : Type} [BEq κ] [LawfulBEq κ]

/-- With distinct names, a list of named things has the thing under its name and no other. -/
theorem lookup_eq_some_iff_mem {l : List (κ × β)} (h : (l.map (·.1)).Nodup) {k : κ} {b : β} :
    l.lookup k = some b ↔ (k, b) ∈ l := by
  induction l with
  | nil => simp
  | cons entry rest ih =>
    obtain ⟨name, x⟩ := entry
    rw [List.map_cons, List.nodup_cons] at h
    rw [List.lookup_cons, List.mem_cons]
    by_cases hk : k = name
    · subst hk
      have hrest : (k, b) ∉ rest := fun hm => h.1 (List.mem_map.mpr ⟨(k, b), hm, rfl⟩)
      simp [hrest, eq_comm]
    · have hne : (k == name) = false := beq_eq_false_iff_ne.mpr hk
      simp [hne, hk, ih h.2]

/-- The order of a list does not matter for what it has under a name. -/
theorem lookup_eq_of_perm {l₁ l₂ : List (κ × β)} (hperm : l₁.Perm l₂) (h : (l₁.map (·.1)).Nodup)
    (k : κ) : l₁.lookup k = l₂.lookup k := by
  have h₂ : (l₂.map (·.1)).Nodup := (hperm.map (·.1)).nodup_iff.mp h
  apply Option.ext
  intro b
  rw [lookup_eq_some_iff_mem h, lookup_eq_some_iff_mem h₂, hperm.mem_iff]

end Lookup

/-! ## Finding by a key -/

/-- What is found under a name is the one thing of a list that has it. -/
structure Indexes {κ α : Type} [BEq κ] (find? : κ → Option α) (name : α → κ) (things : List α) :
    Prop where
  found_iff : ∀ n x, find? n = some x ↔ x ∈ things ∧ name x = n
  /-- The things with a name are one or none, and what is found. -/
  filter_eq : ∀ n, things.filter (name · == n) = (find? n).toList
  isSome_iff : ∀ n, (find? n).isSome = true ↔ n ∈ things.map name
  own : ∀ x ∈ things, find? (name x) = some x

variable {κ α : Type} [BEq κ] [LawfulBEq κ]

/-- With distinct names there is one thing at most that has a name. -/
theorem filter_name_of_nodup {name : α → κ} {things : List α} (h : (things.map name).Nodup)
    {x : α} (hx : x ∈ things) : things.filter (name · == name x) = [x] := by
  induction things with
  | nil => cases hx
  | cons y rest ih =>
    rw [List.map_cons, List.nodup_cons] at h
    rcases List.mem_cons.mp hx with rfl | hrest
    · have hnone : rest.filter (name · == name x) = [] := by
        refine List.filter_eq_nil_iff.mpr fun z hz hsame => h.1 ?_
        rw [← eq_of_beq hsame]
        exact List.mem_map_of_mem hz
      simp [hnone]
    · have hne : name y ≠ name x := fun hsame => h.1 (hsame ▸ List.mem_map_of_mem hrest)
      simp [hne, ih h.2 hrest]

/-- To find everything under its name, and nothing else, is enough. -/
theorem Indexes.of_found_iff {find? : κ → Option α} {name : α → κ} {things : List α}
    (h : (things.map name).Nodup) (hfound : ∀ n x, find? n = some x ↔ x ∈ things ∧ name x = n) :
    Indexes find? name things where
  found_iff := hfound
  filter_eq n := by
    cases hn : find? n with
    | some x =>
      obtain ⟨hmem, rfl⟩ := (hfound n x).mp hn
      exact filter_name_of_nodup h hmem
    | none =>
      refine List.filter_eq_nil_iff.mpr fun x hx hsame => ?_
      have hsome := (hfound n x).mpr ⟨hx, eq_of_beq hsame⟩
      rw [hn] at hsome
      cases hsome
  isSome_iff n := by
    rw [Option.isSome_iff_exists, List.mem_map]
    exact exists_congr (hfound n)
  own x hx := (hfound (name x) x).mpr ⟨hx, rfl⟩

/-- With distinct names a search through the list finds the thing that has a name. -/
theorem indexes_find? {name : α → κ} {things : List α} (h : (things.map name).Nodup) :
    Indexes (fun n => things.find? (name · == n)) name things := by
  refine .of_found_iff h fun n x => ?_
  constructor
  · intro hx
    exact ⟨List.mem_of_find?_eq_some hx, by simpa using List.find?_some hx⟩
  · rintro ⟨hx, rfl⟩
    rw [← List.head?_filter, filter_name_of_nodup h hx, List.head?_cons]

/-! ## Filling an index -/

namespace Index

variable {β : Type}

theorem any_key_eq_true_iff {index : Index κ β} {k : κ} :
    index.any (·.1 == k) = true ↔ k ∈ index.map (·.1) := by
  simp

/-- Storing an entry adds its name behind the others, unless it is there. -/
theorem map_fst_store (index : Index κ β) (entry : κ × β) :
    (index.store entry).map (·.1) =
      if entry.1 ∈ index.map (·.1) then index.map (·.1) else index.map (·.1) ++ [entry.1] := by
  unfold store
  by_cases h : entry.1 ∈ index.map (·.1)
  · rw [if_pos (any_key_eq_true_iff.mpr h), if_pos h, List.map_map]
    refine List.map_congr_left fun old _ => ?_
    show (if old.1 == entry.1 then (old.1, entry.2) else old).1 = old.1
    split <;> rfl
  · rw [if_neg (mt any_key_eq_true_iff.mp h), if_neg h, List.map_append]
    rfl

/-- Distinct names stay distinct, and none is made up. -/
theorem foldl_store_keys (entries : List (κ × β)) {index : Index κ β}
    (h : (index.map (·.1)).Nodup) :
    ((entries.foldl store index).map (·.1)).Nodup ∧
      ∀ k ∈ (entries.foldl store index).map (·.1),
        k ∈ index.map (·.1) ∨ k ∈ entries.map (·.1) := by
  -- the names stored so far are distinct before every entry
  induction entries generalizing index with
  | nil => exact ⟨h, fun k hk => .inl hk⟩
  | cons entry rest ih =>
    have hstore : ((index.store entry).map (·.1)).Nodup := by
      rw [map_fst_store]
      split
      next => exact h
      next hnew => exact List.concat_eq_append ▸ h.concat hnew
    obtain ⟨hnodup, hmem⟩ := ih hstore
    refine ⟨hnodup, fun k hk => ?_⟩
    rcases hmem k hk with hstored | hrest
    · rw [map_fst_store] at hstored
      split at hstored
      next => exact .inl hstored
      next =>
        rcases List.mem_append.mp hstored with hold | hnew
        · exact .inl hold
        · rw [List.mem_singleton.mp hnew]
          exact .inr (.head _)
    · exact .inr (.tail _ hrest)

/-- Entries with distinct names are all stored as they are. -/
theorem foldl_store_of_nodup {entries : List (κ × β)} {index : Index κ β}
    (h : ((index ++ entries).map (·.1)).Nodup) : entries.foldl store index = index ++ entries := by
  induction entries generalizing index with
  | nil => rw [List.append_nil]; rfl
  | cons entry rest ih =>
    have hnew : entry.1 ∉ index.map (·.1) := by
      rw [List.map_append, List.nodup_append] at h
      exact fun hold => h.2.2 _ hold _ (List.mem_map_of_mem (.head _)) rfl
    have hstore : index.store entry = index ++ [entry] := by
      rw [store, if_neg (mt any_key_eq_true_iff.mp hnew)]
    rw [List.foldl_cons, hstore, ih (by simpa using h), List.append_assoc]
    rfl

theorem ofEntries_of_nodup {entries : List (κ × β)} (h : (entries.map (·.1)).Nodup) :
    ofEntries entries = entries :=
  foldl_store_of_nodup (by simpa using h)

/-- An index of things with distinct names loses none of them. -/
theorem indexes_ofList {name : α → κ} {things : List α} (h : (things.map name).Nodup) :
    Indexes (fun n => (ofList name things).lookup n) name things := by
  have hkeys : ((things.map fun x => (name x, x)).map (·.1)).Nodup := by
    rw [List.map_map]
    exact h
  refine .of_found_iff h fun n x => ?_
  rw [ofList, ofEntries_of_nodup hkeys, lookup_eq_some_iff_mem hkeys, List.mem_map]
  constructor
  · rintro ⟨y, hy, heq⟩
    cases heq
    exact ⟨hy, rfl⟩
  · rintro ⟨hx, rfl⟩
    exact ⟨x, hx, rfl⟩

/-- Of things that share a name the last one is left. -/
example : (ofList (· % 2) [1, 2, 3]).lookup 1 = some 3 := by decide

end Index

end Typewright
