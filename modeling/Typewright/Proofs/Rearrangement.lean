/-
  Models in another order.

  A model is rearranged by putting its entities in another order, and the attributes of each of them
  in another order too.  Its data is rearranged alike (`Value.ModelRearranged`): the lists of
  entities and of attributes are put in another order, and all else stays, so that an attribute is
  described by the same data as before.

  A reader says the same about the members of a list in any order, and the rules for a whole, that
  names are distinct and that no part of a composite foreign key is alone, speak of members and not
  of places.  So rearranged data is read as a rearranged model (`read_of_rearranged`).
-/
import Typewright.Proofs.RoundTrip

namespace Typewright

/-! ## Entities and models -/

/-- An entity with its attributes in another order. -/
structure Entity.Rearranges (e e' : Entity) : Prop where
  className : e'.className = e.className
  table : e'.table = e.table
  attributes : e.attributes.Perm e'.attributes

/-- A model with its entities, and the attributes of each of them, in another order. -/
structure Model.Rearranges (m m' : Model) : Prop where
  name : m'.name = m.name
  entities : Reordered Entity.Rearranges m.entities m'.entities

/-- The order of the other attributes does not matter for a part of a composite foreign key. -/
theorem CompositeOk.of_perm {attributes attributes' : List Attribute} {a : Attribute}
    (hperm : attributes.Perm attributes') (h : CompositeOk attributes a) :
    CompositeOk attributes' a := by
  intro hcomposite hparts
  obtain ⟨p, hp, b, hb, hshared⟩ := h hcomposite hparts
  exact ⟨p, hp, b, hperm.mem_iff.mp hb, hshared⟩

/-- With its attributes in another order an entity is built too. -/
theorem Entity.build_of_perm {className : Name} {table : Option Text}
    {attributes attributes' : List Attribute} {e : Entity}
    (h : Entity.build className table attributes = .ok e) (hperm : attributes.Perm attributes') :
    ∃ e', Entity.build className table attributes' = .ok e' ∧ e.Rearranges e' := by
  obtain ⟨hname, hattributes⟩ := Entity.of_build h
  have htable : e.table = table := by
    unfold Entity.build at h
    split at h
    · split at h <;> cases h
      rfl
    · cases h
  rw [← hattributes] at hperm
  let e' : Entity :=
    { className := className.val
      table
      attributes := attributes'
      className_ne := className.ne
      distinct := (hperm.map (·.name)).nodup_iff.mp e.distinct
      composite := fun a ha => (e.composite a (hperm.mem_iff.mpr ha)).of_perm hperm }
  exact ⟨e', e'.build_self, hname.symm, htable.symm, hperm⟩

/-- With its entities rearranged a model is built too. -/
theorem Model.build_of_reordered {name : Name} {entities entities' : List Entity} {m : Model}
    (h : Model.build name entities = .ok m)
    (hentities : Reordered Entity.Rearranges entities entities') :
    ∃ m', Model.build name entities' = .ok m' ∧ m.Rearranges m' := by
  obtain ⟨hname, hm⟩ := Model.of_build h
  rw [← hm] at hentities
  have hnames : (m.entities.map (·.className)).Perm (entities'.map (·.className)) :=
    hentities.map_perm fun _ _ he => he.className.symm
  let m' : Model :=
    { name := name.val
      entities := entities'
      name_ne := name.ne
      distinct := hnames.nodup_iff.mp m.distinct }
  exact ⟨m', m'.build_self, hname.symm, hentities⟩

/-! ## Rearranged data -/

namespace Value

/-- The entries of two objects, one by one: the same names with the same values, but for one name
    with values that are related. -/
def EntriesAlike (name : String) (R : Value → Value → Prop) (fields fields' : Fields) : Prop :=
  List.Forall₂ (fun shown shown' => shown'.1 = shown.1 ∧
    if shown.1 = .text name then R shown.2 shown'.2 else shown'.2 = shown.2) fields fields'

/-- Two objects that show the same, but for what they show under one name. -/
def AlikeBut (name : String) (R : Value → Value → Prop) (v v' : Value) : Prop :=
  ∃ fields fields', v.opened = .object fields ∧ v'.opened = .object fields' ∧
    EntriesAlike name R fields fields'

/-- Two lists with related members, in another order. -/
def ReorderedList (R : Value → Value → Prop) (v v' : Value) : Prop :=
  ∃ items items', v.opened = .list items ∧ v'.opened = .list items' ∧ Reordered R items items'

/-- The data of an entity with the attributes in another order. -/
def EntityRearranged : Value → Value → Prop := AlikeBut "attributes" (ReorderedList Eq)

/-- The data of a model with the entities, and the attributes of each, in another order. -/
def ModelRearranged : Value → Value → Prop := AlikeBut "entities" (ReorderedList EntityRearranged)

namespace EntriesAlike

variable {name : String} {R : Value → Value → Prop} {fields fields' : Fields}

theorem names_eq (h : EntriesAlike name R fields fields') :
    fields'.map (·.1) = fields.map (·.1) :=
  (map_eq_of_forall₂ h fun _ _ hshown => hshown.1.symm).symm

theorem get?_of_ne (h : EntriesAlike name R fields fields') {other : String} (hne : other ≠ name) :
    fields'.get? other = fields.get? other := by
  unfold Fields.get?
  induction h with
  | nil => rfl
  | @cons shown shown' rest rest' hshown _ ih =>
    obtain ⟨hname, hvalue⟩ := hshown
    obtain ⟨key, v⟩ := shown
    obtain ⟨key', v'⟩ := shown'
    cases hname
    rw [List.lookup_cons, List.lookup_cons, ih]
    by_cases hkey : Key.text other = key
    · have hother : key ≠ .text name := by
        rintro rfl
        exact hne (Text.ofString_inj.mp (Key.text.inj hkey))
      rw [if_neg hother] at hvalue
      cases hvalue
      rfl
    · rw [beq_eq_false_iff_ne.mpr hkey]

theorem get?_name (h : EntriesAlike name R fields fields') :
    (fields.get? name = none ∧ fields'.get? name = none) ∨
    ∃ v v', fields.get? name = some v ∧ fields'.get? name = some v' ∧ R v v' := by
  unfold Fields.get?
  induction h with
  | nil => exact .inl ⟨rfl, rfl⟩
  | @cons shown shown' rest rest' hshown _ ih =>
    obtain ⟨hname, hvalue⟩ := hshown
    obtain ⟨key, v⟩ := shown
    obtain ⟨key', v'⟩ := shown'
    cases hname
    by_cases hkey : Key.text name = key
    · cases hkey
      rw [if_pos rfl] at hvalue
      exact .inr ⟨v, v', by simp, by simp, hvalue⟩
    · rw [List.lookup_cons, List.lookup_cons, beq_eq_false_iff_ne.mpr hkey]
      exact ih

end EntriesAlike

end Value

namespace Reader

variable {α β : Type} {name : String} {R : Value → Value → Prop} {fields fields' : Fields}

/-! ## Reading rearranged data -/

/-- Which names are refused depends on the names alone. -/
theorem onlyKnown_congr (hnames : fields'.map (·.1) = fields.map (·.1)) (known : List String) :
    onlyKnown known fields' = onlyKnown known fields := by
  have hcauses (fields : Fields) : (fields.filterMap fun entry =>
        (keyCause? known entry.1).map (Fault.mk [.field entry.1])) =
      (fields.map (·.1)).filterMap fun key =>
        (keyCause? known key).map (Fault.mk [.field key]) := by
    rw [List.filterMap_map]
    rfl
  unfold onlyKnown
  rw [hcauses, hcauses, hnames]

theorem hasBrokenKey_congr (hnames : fields'.map (·.1) = fields.map (·.1)) :
    hasBrokenKey fields' = hasBrokenKey fields := by
  have hkeys (fields : Fields) : hasBrokenKey fields =
      (fields.map (·.1)).any fun key => key.text?.any Text.hasHalf := by
    rw [List.any_map]
    rfl
  rw [hkeys, hkeys, hnames]

/-- A list in a field is read if that of related members, in another order, is, and what is read
    is related and in another order too. -/
theorem listField_of_alike {read : Reader α} {S : α → α → Prop}
    (h : Value.EntriesAlike name (Value.ReorderedList R) fields fields')
    (hread : ∀ v v' x, R v v' → read v = .passed x → ∃ x', read v' = .passed x' ∧ S x x')
    {xs : List α} (hxs : field name [] (list read) fields = .passed xs) :
    ∃ xs', field name [] (list read) fields' = .passed xs' ∧ Reordered S xs xs' := by
  unfold field at hxs ⊢
  obtain ⟨hnone, hnone'⟩ | ⟨v, v', hv, hv', items, items', hitems, hitems', hreordered⟩ :=
    h.get?_name
  · rw [hnone] at hxs
    rw [hnone']
    cases hxs
    exact ⟨[], rfl, [], .nil, .nil⟩
  · have hlist : list read v = itemsFrom read 0 items := by
      unfold list
      rw [hitems]
    have hlist' : list read v' = itemsFrom read 0 items' := by
      unfold list
      rw [hitems']
    rw [hv] at hxs
    rw [hv']
    dsimp only at hxs ⊢
    rw [hlist] at hxs
    rw [hlist']
    have hfound := itemsFrom_eq_passed_iff.mp (Checked.under_eq_passed_iff.mp hxs)
    obtain ⟨xs', hfound', hrelated⟩ := hreordered.forall₂ hfound hread
    exact ⟨xs', Checked.under_eq_passed_iff.mpr (itemsFrom_eq_passed_iff.mpr hfound'), hrelated⟩

theorem field_of_alike (h : Value.EntriesAlike name R fields fields') {other : String}
    (hne : other ≠ name) (default : α) (read : Reader α) :
    field other default read fields' = field other default read fields := by
  unfold field
  rw [h.get?_of_ne hne]

theorem required_of_alike (h : Value.EntriesAlike name R fields fields') {other : String}
    (hne : other ≠ name) (read : Reader α) :
    required other read fields' = required other read fields := by
  unfold required
  rw [h.get?_of_ne hne]

end Reader

open Reader

/-- The data of an entity with the attributes in another order is read as such an entity. -/
theorem Entity.read_of_rearranged {v v' : Value} {e : Entity} (hv : v.EntityRearranged v')
    (h : Entity.read v = .passed e) : ∃ e', Entity.read v' = .passed e' ∧ e.Rearranges e' := by
  obtain ⟨fields, fields', hopened, hopened', hfields⟩ := hv
  obtain ⟨_, hobject, hbroken, honly, ⟨className, table, attributes⟩, hbody, hbuild⟩ :=
    object_eq_passed_iff.mp h
  cases hopened.symm.trans hobject
  simp only [Checked.seq_eq_passed_iff, Checked.map_eq_passed_iff] at hbody
  obtain ⟨_, _, ⟨_, _, ⟨_, hname, rfl⟩, htable, rfl⟩, hattributes, heq⟩ := hbody
  cases heq
  have hread : ∀ w w' a, w = w' → Attribute.read w = .passed a →
      ∃ a', Attribute.read w' = .passed a' ∧ a = a' := by
    rintro w _ a rfl ha
    exact ⟨a, ha, rfl⟩
  obtain ⟨attributes', hattributes', hperm⟩ := listField_of_alike hfields hread hattributes
  obtain ⟨e', hbuild', he'⟩ := Entity.build_of_perm hbuild (Reordered.eq_iff_perm.mp hperm)
  refine ⟨e', object_eq_passed_iff.mpr
    ⟨fields', hopened', ?_, ?_, (className, table, attributes'), ?_, hbuild'⟩, he'⟩
  · rw [hasBrokenKey_congr hfields.names_eq, hbroken]
  · rw [onlyKnown_congr hfields.names_eq, honly]
  · rw [required_of_alike hfields (by decide), hname, optionalField,
      field_of_alike hfields (by decide), ← optionalField, htable, hattributes']
    rfl

/-- **Rearranged data of a model is read as a rearranged model.** -/
theorem Model.read_of_rearranged {v v' : Value} {m : Model} (hv : v.ModelRearranged v')
    (h : Model.read v = .passed m) : ∃ m', Model.read v' = .passed m' ∧ m.Rearranges m' := by
  obtain ⟨fields, fields', hopened, hopened', hfields⟩ := hv
  obtain ⟨_, hobject, hbroken, honly, ⟨modelName, entities⟩, hbody, hbuild⟩ :=
    object_eq_passed_iff.mp h
  cases hopened.symm.trans hobject
  simp only [Checked.seq_eq_passed_iff, Checked.map_eq_passed_iff] at hbody
  obtain ⟨_, _, ⟨_, hname, rfl⟩, hentities, heq⟩ := hbody
  cases heq
  have hread : ∀ w w' e, w.EntityRearranged w' → Entity.read w = .passed e →
      ∃ e', Entity.read w' = .passed e' ∧ e.Rearranges e' :=
    fun _ _ _ hw he => Entity.read_of_rearranged hw he
  obtain ⟨entities', hentities', hreordered⟩ := listField_of_alike hfields hread hentities
  obtain ⟨m', hbuild', hm'⟩ := Model.build_of_reordered hbuild hreordered
  refine ⟨m', object_eq_passed_iff.mpr
    ⟨fields', hopened', ?_, ?_, (modelName, entities'), ?_, hbuild'⟩, hm'⟩
  · rw [hasBrokenKey_congr hfields.names_eq, hbroken]
  · rw [onlyKnown_congr hfields.names_eq, honly]
  · rw [field_of_alike hfields (by decide), hname, hentities']
    rfl

end Typewright
