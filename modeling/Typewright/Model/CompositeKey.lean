/-
  Composite foreign keys.

  An attribute that is part of a composite foreign key must not be alone: if it lists key parts at
  all, one of its keys has a part in another attribute (`CompositeOk`).

  To see this for every attribute of an entity, the attributes are grouped by the keys that they
  have parts of, each of them once in a group however often it lists the key.  An attribute is alone
  if no group of a key that it lists has a second member (`KeyGroups.isLone`), which comes to the
  same (`KeyGroups.isLone_iff`).
-/
import Typewright.Model.Attribute

namespace Typewright

/-! ## The rule -/

/-- Some foreign key that `a` is part of has a part in an attribute with another name. -/
def SharesKey (attributes : List Attribute) (a : Attribute) : Prop :=
  ∃ p ∈ a.keys.parts, ∃ b ∈ attributes, b.name ≠ a.name ∧ ∃ q ∈ b.keys.parts, q.key = p.key

instance (attributes : List Attribute) (a : Attribute) : Decidable (SharesKey attributes a) := by
  unfold SharesKey; infer_instance

/-- If `a` is flagged as part of a composite foreign key and lists key parts, one of them is
    shared. -/
def CompositeOk (attributes : List Attribute) (a : Attribute) : Prop :=
  a.keys.composite = true → a.keys.parts ≠ [] → SharesKey attributes a

instance (attributes : List Attribute) (a : Attribute) :
    Decidable (CompositeOk attributes a) := by
  unfold CompositeOk; infer_instance

/-! ## Groups -/

/-- The names of foreign keys, and for each of them the names of the attributes that have a part of
    it. -/
abbrev KeyGroups := List (Text × List Text)

namespace KeyGroups

/-- The group of a key. -/
def members (groups : KeyGroups) (key : Text) : List Text := (groups.lookup key).getD []

/-- Puts an attribute into the group of a key, unless it is there. -/
def add (key name : Text) : KeyGroups → KeyGroups
  | [] => [(key, [name])]
  | (k, names) :: rest =>
    if k = key then (k, names.insert name) :: rest else (k, names) :: add key name rest

/-- Puts an attribute into the groups of all keys that it has parts of. -/
def addParts (groups : KeyGroups) (a : Attribute) : KeyGroups :=
  a.keys.parts.foldl (fun groups p => add p.key a.name groups) groups

/-- The groups that attributes form. -/
def ofAttributes (attributes : List Attribute) : KeyGroups := attributes.foldl addParts []

/-- An attribute is flagged as part of a composite foreign key and lists key parts, and there is no
    other attribute in the group of any of them. -/
def isLone (groups : KeyGroups) (a : Attribute) : Bool :=
  a.keys.composite && !a.keys.parts.isEmpty &&
    !a.keys.parts.any fun p => 1 < (groups.members p.key).length

/-! ## Members of a group -/

theorem members_cons (k : Text) (names : List Text) (rest : KeyGroups) (key : Text) :
    members ((k, names) :: rest) key = if key = k then names else members rest key := by
  by_cases h : key = k
  · simp [members, h]
  · have hne : (key == k) = false := beq_eq_false_iff_ne.2 h
    simp [members, List.lookup_cons, h, hne]

/-- Of the groups only that of the key changes. -/
theorem members_add (key name : Text) (groups : KeyGroups) (k : Text) :
    (add key name groups).members k =
      if k = key then (groups.members key).insert name else groups.members k := by
  induction groups with
  | nil => rw [add, members_cons]; rfl
  | cons group rest ih =>
    obtain ⟨first, names⟩ := group
    rw [add, members_cons, members_cons]
    by_cases hfirst : first = key
    · subst hfirst
      by_cases hk : k = first <;> simp [members_cons, hk]
    · have hkey : key ≠ first := Ne.symm hfirst
      by_cases hk : k = first
      · simp [members_cons, hfirst, hk]
      · simp [members_cons, hfirst, hkey, hk, ih]

/-- In the group of a key are the attributes that were there and those that have a part of it. -/
theorem mem_members_addParts {groups : KeyGroups} {a : Attribute} {key n : Text} :
    n ∈ (groups.addParts a).members key ↔
      n ∈ groups.members key ∨ (a.name = n ∧ ∃ q ∈ a.keys.parts, q.key = key) := by
  unfold addParts
  induction a.keys.parts generalizing groups with
  | nil => simp
  | cons p rest ih =>
    rw [List.foldl_cons, ih, members_add]
    by_cases hkey : key = p.key
    · subst hkey
      simp only [if_true, List.mem_insert_iff, List.mem_cons, exists_eq_or_imp]
      grind
    · have hne : p.key ≠ key := Ne.symm hkey
      simp [hkey, hne]

/-- An attribute that has several parts of a key is in its group once. -/
theorem nodup_members_addParts {groups : KeyGroups} (h : ∀ key, (groups.members key).Nodup)
    (a : Attribute) (key : Text) : ((groups.addParts a).members key).Nodup := by
  unfold addParts
  induction a.keys.parts generalizing groups with
  | nil => exact h key
  | cons p rest ih =>
    refine ih fun k => ?_
    rw [members_add]
    split
    · by_cases hold : a.name ∈ groups.members p.key
      · rw [List.insert_of_mem hold]
        exact h p.key
      · rw [List.insert_of_not_mem hold]
        exact List.nodup_cons.2 ⟨hold, h p.key⟩
    · exact h k

/-- What the grouping of attributes keeps true of the groups formed so far. -/
structure Grouped (attributes : List Attribute) (groups : KeyGroups) : Prop where
  /-- The group of a key has the attributes with a part of it. -/
  mem_iff : ∀ key n, n ∈ groups.members key ↔
    ∃ b ∈ attributes, b.name = n ∧ ∃ q ∈ b.keys.parts, q.key = key
  /-- No attribute is counted twice. -/
  nodup : ∀ key, (groups.members key).Nodup

theorem Grouped.addParts {attributes : List Attribute} {groups : KeyGroups}
    (h : Grouped attributes groups) (a : Attribute) :
    Grouped (attributes ++ [a]) (groups.addParts a) where
  mem_iff key n := by
    rw [mem_members_addParts, h.mem_iff]
    simp [or_and_right, exists_or]
  nodup := nodup_members_addParts h.nodup a

theorem grouped_foldl {before : List Attribute} {groups : KeyGroups}
    (h : Grouped before groups) (attributes : List Attribute) :
    Grouped (before ++ attributes) (attributes.foldl KeyGroups.addParts groups) := by
  induction attributes generalizing before groups with
  | nil => rwa [List.append_nil]
  | cons a rest ih =>
    rw [List.append_cons]
    exact ih (h.addParts a)

/-- The groups of the attributes of an entity are what they are to be. -/
theorem grouped_ofAttributes (attributes : List Attribute) :
    Grouped attributes (ofAttributes attributes) := by
  have hempty : Grouped [] [] :=
    ⟨fun key n => by simp [members], fun key => List.nodup_nil⟩
  exact grouped_foldl hempty attributes

/-! ## Attributes that are alone -/

/-- A list that tells its members apart and has `x` has more than one exactly if it has another. -/
theorem one_lt_length_iff {names : List Text} (h : names.Nodup) {x : Text} (hx : x ∈ names) :
    1 < names.length ↔ ∃ y ∈ names, y ≠ x := by
  match names, h, hx with
  | [y], _, hx => simp_all
  | y :: z :: rest, h, _ =>
    have hne : y ≠ z := fun hyz => (List.nodup_cons.1 h).1 (hyz ▸ .head _)
    refine iff_of_true (by simp) ?_
    by_cases hy : y = x
    · exact ⟨z, .tail _ (.head _), fun hz => hne (hy.trans hz.symm)⟩
    · exact ⟨y, .head _, hy⟩

/-- A key is shared exactly if its group has a second member. -/
theorem sharesKey_iff {attributes : List Attribute} {a : Attribute} (ha : a ∈ attributes) :
    SharesKey attributes a ↔
      ∃ p ∈ a.keys.parts, 1 < ((ofAttributes attributes).members p.key).length := by
  have hgrouped := grouped_ofAttributes attributes
  have hself : ∀ p ∈ a.keys.parts, a.name ∈ (ofAttributes attributes).members p.key :=
    fun p hp => (hgrouped.mem_iff p.key a.name).2 ⟨a, ha, rfl, p, hp, rfl⟩
  constructor
  · rintro ⟨p, hp, b, hb, hname, hkey⟩
    have hother := (hgrouped.mem_iff p.key b.name).2 ⟨b, hb, rfl, hkey⟩
    exact ⟨p, hp, (one_lt_length_iff (hgrouped.nodup p.key) (hself p hp)).2 ⟨b.name, hother, hname⟩⟩
  · rintro ⟨p, hp, hlength⟩
    obtain ⟨n, hn, hne⟩ := (one_lt_length_iff (hgrouped.nodup p.key) (hself p hp)).1 hlength
    obtain ⟨b, hb, rfl, hkey⟩ := (hgrouped.mem_iff p.key n).1 hn
    exact ⟨p, hp, b, hb, hne, hkey⟩

/-- Among the attributes that were grouped, those are alone that break the rule. -/
theorem isLone_iff {attributes : List Attribute} {a : Attribute} (ha : a ∈ attributes) :
    (ofAttributes attributes).isLone a = true ↔ ¬ CompositeOk attributes a := by
  have hany : (a.keys.parts.any fun p =>
      decide (1 < ((ofAttributes attributes).members p.key).length)) = true ↔
        SharesKey attributes a := by
    rw [sharesKey_iff ha, List.any_eq_true]
    simp only [decide_eq_true_eq]
  simp only [isLone, CompositeOk, Bool.and_eq_true, Bool.not_eq_true', ← Bool.not_eq_true, hany,
    List.isEmpty_iff, Classical.not_imp, and_assoc, ne_eq]

theorem isLone_eq_false_iff {attributes : List Attribute} {a : Attribute} (ha : a ∈ attributes) :
    (ofAttributes attributes).isLone a = false ↔ CompositeOk attributes a := by
  rw [← Bool.not_eq_true, isLone_iff ha, Decidable.not_not]

/-- No attribute is found to be alone exactly if all of them keep the rule. -/
theorem find?_isLone_eq_none_iff {attributes : List Attribute} :
    attributes.find? (ofAttributes attributes).isLone = none ↔
      ∀ a ∈ attributes, CompositeOk attributes a := by
  rw [List.find?_eq_none]
  constructor
  · intro h a ha
    exact (isLone_eq_false_iff ha).1 (Bool.eq_false_iff.2 (h a ha))
  · intro h a ha
    rw [isLone_iff ha]
    exact Decidable.not_not.2 (h a ha)

end KeyGroups

end Typewright
