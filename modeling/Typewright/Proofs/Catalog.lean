/-
  Catalogs are indexes of their entries.

  A catalog is built from entries in any order, and the first entry that repeats an earlier code
  ends the building; so a catalog is refused exactly if two of its entries share a code.  The code is
  told, except that one with too many digits to be written is not.

  A catalog that is built answers for its entries: the entry of a code is the only one that has it,
  and in the sorted view every entry has its one place.  Neither depends on the order in which the
  entries were given: what is found is told by which entries there are (`Indexes`), and of the
  arrangements of a list only one is strictly ascending (`sorted_eq_of_perm`).
-/
import Typewright.Proofs.Index
import Typewright.TypeCode.Catalog

namespace Typewright

/-! ## The first code that repeats -/

/-- This is the code of the first entry that has the code of an earlier one. -/
def RepeatsFirst (entries : List TypeCode) (code : Int) : Prop :=
  ∃ before entry after, entries = before ++ entry :: after ∧ entry.code = code ∧
    code ∈ before.map (·.code) ∧ (before.map (·.code)).Nodup

/-- The search ends at the first code that was seen or stands earlier in the list. -/
theorem exists_of_firstRepeat {codes : List Int} {code : Int} : ∀ {seen : List Int},
    firstRepeat seen codes = some code →
      ∃ before after, codes = before ++ code :: after ∧ (code ∈ seen ∨ code ∈ before) ∧
        before.Nodup ∧ ∀ c ∈ before, c ∉ seen := by
  induction codes with
  | nil => intro seen h; cases h
  | cons c rest ih =>
    intro seen h
    by_cases hc : c ∈ seen
    · rw [firstRepeat, if_pos hc] at h
      cases h
      exact ⟨[], rest, rfl, .inl hc, List.nodup_nil, by simp⟩
    · rw [firstRepeat, if_neg hc] at h
      obtain ⟨before, after, rfl, hrepeats, hnodup, hnew⟩ := ih h
      refine ⟨c :: before, after, rfl, ?_, ?_, ?_⟩
      · -- what counts as seen behind `c` was seen before, or is `c`
        rcases hrepeats with hseen | hbefore
        · rcases List.mem_cons.mp hseen with rfl | hseen
          · exact .inr (.head _)
          · exact .inl hseen
        · exact .inr (.tail _ hbefore)
      · exact List.nodup_cons.mpr ⟨fun hmem => hnew c hmem (.head _), hnodup⟩
      · intro d hd
        rcases List.mem_cons.mp hd with rfl | hd
        · exact hc
        · exact fun hseen => hnew d hd (.tail _ hseen)

/-- The first entry that repeats a code decides, not the first code that is repeated. -/
example : firstRepeat [] [4, -7, -7, 4] = some (-7) := by decide

theorem repeatsFirst_of_firstRepeat {entries : List TypeCode} {code : Int}
    (h : firstRepeat [] (entries.map (·.code)) = some code) : RepeatsFirst entries code := by
  obtain ⟨before, after, hsplit, hrepeats, hnodup, -⟩ := exists_of_firstRepeat h
  obtain ⟨front, back, rfl, rfl, hback⟩ := List.map_eq_append_iff.mp hsplit
  obtain ⟨entry, rest, rfl, rfl, -⟩ := List.map_eq_cons_iff.mp hback
  have hmem : entry.code ∈ front.map (·.code) :=
    hrepeats.resolve_left (List.not_mem_nil)
  exact ⟨front, entry, rest, rfl, rfl, hmem, hnodup⟩

/-- Codes repeat exactly if two entries share one. -/
theorem not_nodup_iff_share {entries : List TypeCode} :
    ¬ (entries.map (·.code)).Nodup ↔ ∃ a b, [a, b].Sublist entries ∧ a.code = b.code := by
  rw [List.Nodup, List.pairwise_map, List.pairwise_iff_forall_sublist]
  simp

namespace Catalog

variable {entries : List TypeCode} {c d : Catalog}

/-! ## Building -/

theorem build_of_distinct (h : (entries.map (·.code)).Nodup) :
    build entries = .ok ⟨entries, h⟩ := by
  unfold build
  split
  next code hrepeat =>
    have hnone := firstRepeat_eq_none_iff.mpr ⟨h, fun c _ => List.not_mem_nil⟩
    rw [hnone] at hrepeat
    cases hrepeat
  next => rfl

theorem entries_of_build (h : build entries = .ok c) : c.entries = entries := by
  unfold build at h
  split at h
  next => cases h
  next => cases h; rfl

theorem repeatsFirst_of_build {error : CatalogError} (h : build entries = .error error) :
    ∃ code, RepeatsFirst entries code ∧ error = .ofRepeat code := by
  unfold build at h
  split at h
  next code hrepeat =>
    exact ⟨code, repeatsFirst_of_firstRepeat hrepeat, (Except.error.inj h).symm⟩
  next => cases h

/-- The complaint about a code names it if it can be written. -/
theorem message_ofRepeat (code : Int) : (CatalogError.ofRepeat code).message =
    if isWritable code then "Duplicate type code in catalog: " ++ toString code
    else unwritableWords := by
  unfold CatalogError.ofRepeat
  cases hcode : Writable.ofInt? code with
  | some w =>
    obtain rfl := Writable.ofInt?_eq_some_iff.mp hcode
    rw [if_pos w.writable]
    rfl
  | none =>
    have hlong : isWritable code = false := Writable.ofInt?_eq_none_iff.mp hcode
    rw [hlong]
    rfl

/-- Entries are refused exactly if their codes are not distinct. -/
theorem exists_error_iff : (∃ error, build entries = .error error) ↔
    ¬ (entries.map (·.code)).Nodup := by
  constructor
  · rintro ⟨error, herror⟩ hnodup
    rw [build_of_distinct hnodup] at herror
    cases herror
  · intro hrepeated
    cases hbuild : build entries with
    | error error => exact ⟨error, rfl⟩
    | ok c => exact absurd (entries_of_build hbuild ▸ c.distinct) hrepeated

/-! ## Queries -/

/-- A catalog answers for these entries. -/
structure AnswersFor (c : Catalog) (entries : List TypeCode) : Prop where
  /-- The entry of a code is the one that has it. -/
  indexes : Indexes (fun n => c.get? (some n)) TypeCode.code entries
  absent : c.get? none = none
  known : ∀ entry ∈ entries, c.nameFor (some entry.code) = entry.name ∧
    c.typeFor (some entry.code) = entry.type ∧ c.contains (some entry.code) = true
  unknown : ∀ code, c.get? code = none →
    c.nameFor code = [] ∧ c.typeFor code = none ∧ c.contains code = false
  sorted_perm : c.sorted.Perm entries
  sorted_ascending : c.sorted.Pairwise fun a b => a.code < b.code
  size_eq : c.size = entries.length

/-- No query tells the two catalogs apart. -/
structure Alike (c d : Catalog) : Prop where
  get? : ∀ code, c.get? code = d.get? code
  nameFor : ∀ code, c.nameFor code = d.nameFor code
  typeFor : ∀ code, c.typeFor code = d.typeFor code
  contains : ∀ code, c.contains code = d.contains code
  sorted : c.sorted = d.sorted
  size : c.size = d.size
  summary : c.summary = d.summary

theorem indexes_get? (c : Catalog) :
    Indexes (fun n => c.get? (some n)) TypeCode.code c.entries :=
  indexes_find? c.distinct

theorem sorted_perm (c : Catalog) : c.sorted.Perm c.entries := List.mergeSort_perm _ _

/-- No two entries share a code, so the sorted view ascends strictly. -/
theorem sorted_ascending (c : Catalog) : c.sorted.Pairwise fun a b => a.code < b.code := by
  have hsorted : c.sorted.Pairwise fun a b => decide (a.code ≤ b.code) = true :=
    List.pairwise_mergeSort (fun a b d => by simpa using Int.le_trans)
      (fun a b => by simpa using Int.le_total _ _) c.entries
  have hdistinct : c.sorted.Pairwise fun a b => a.code ≠ b.code :=
    List.pairwise_map.mp ((c.sorted_perm.map _).nodup_iff.mpr c.distinct)
  exact (hsorted.and hdistinct).imp fun h =>
    Int.lt_iff_le_and_ne.mpr ⟨of_decide_eq_true h.1, h.2⟩

/-- There is one strictly ascending arrangement of entries. -/
theorem sorted_eq_of_perm (h : c.entries.Perm d.entries) : c.sorted = d.sorted := by
  refine List.Perm.eq_of_pairwise ?_ c.sorted_ascending d.sorted_ascending
    (c.sorted_perm.trans (h.trans d.sorted_perm.symm))
  intro a b _ _ hab hba
  omega

theorem get?_eq_of_perm (h : c.entries.Perm d.entries) (code : Option Int) :
    c.get? code = d.get? code := by
  cases code with
  | none => rfl
  | some n =>
    apply Option.ext
    intro entry
    have hc := c.indexes_get?.found_iff n entry
    have hd := d.indexes_get?.found_iff n entry
    rw [hc, hd, h.mem_iff]

theorem alike_of_perm (h : c.entries.Perm d.entries) : c.Alike d := by
  have hget := get?_eq_of_perm h
  have hsize : c.size = d.size := h.length_eq
  exact
    { get? := hget
      nameFor := fun code => by rw [nameFor, nameFor, hget]
      typeFor := fun code => by rw [typeFor, typeFor, hget]
      contains := fun code => by rw [contains, contains, hget]
      sorted := sorted_eq_of_perm h
      size := hsize
      summary := congrArg (fun n => "<TypeCodeCatalog " ++ toString n ++ " codes>") hsize }

theorem answersFor_entries (c : Catalog) : c.AnswersFor c.entries where
  indexes := c.indexes_get?
  absent := rfl
  known entry hentry := by
    have hfound : c.get? (some entry.code) = some entry := c.indexes_get?.own entry hentry
    simp [nameFor, typeFor, contains, hfound]
  unknown code hnone := by simp [nameFor, typeFor, contains, hnone]
  sorted_perm := c.sorted_perm
  sorted_ascending := c.sorted_ascending
  size_eq := rfl

/-- Entries in another order make a catalog that answers the same. -/
theorem exists_alike_of_perm {entries : List TypeCode} (h : entries.Perm c.entries) :
    ∃ d, build entries = .ok d ∧ d.Alike c := by
  have hnodup : (entries.map (·.code)).Nodup := (h.map _).nodup_iff.mpr c.distinct
  exact ⟨⟨entries, hnodup⟩, build_of_distinct hnodup, alike_of_perm h⟩

/-- Entries with descending codes, one of them negative, and one without a type. -/
def descending : List TypeCode :=
  [⟨4, "INTEGER", some .int⟩, ⟨0, "NULL", none⟩, ⟨-5, "BIGINT", some .long⟩]

end Catalog

end Typewright
