/-
  Readers give back what was written.

  A value is read back if the reader of its kind gives it back from the data that is written of it.
  For most kinds this holds of every value.  Some readers accept less than the type holds: a name
  has to be a string, a decimal has to be one that can be held, and the names of entries are told
  apart.  These are the conditions under which such a value is read back, and whatever is read meets
  them.

  The fields of an object are read one by one, each under its own name.  So all that a reader has to
  be told about an object is which fields it shows (`Shows`); and an object with just the known
  fields is read as they are (`object_of_fields`).
-/
import Typewright.Model.Reading
import Typewright.Model.Writing
import Typewright.Proofs.DecimalText
import Typewright.Proofs.Lookup
import Typewright.Proofs.Pairing

namespace Typewright

/-! ## Texts without halves -/

namespace Text

/-- A text is a string. -/
def IsString (s : Text) : Prop := ∃ t, string? s = some t

theorem hasHalf_ofString (s : String) : hasHalf (ofString s) = false := by
  simp [hasHalf, ofString, ofChars, CodePoint.isHalf, CodePoint.char?]

theorem hasHalf_repaired (s : Text) : hasHalf (repaired s) = false := by
  induction s with
  | nil => rfl
  | cons c rest ih =>
    have hsplit : repaired (c :: rest) =
        (if c.isHalf then List.replicate 3 (.char '\ufffd') else [c]) ++ repaired rest := rfl
    rw [hsplit, hasHalf, List.any_append]
    rw [hasHalf] at ih
    rw [ih, Bool.or_false]
    cases hc : c.isHalf with
    | true => rfl
    | false => simp [hc]

theorem repaired_eq_self {s : Text} (h : hasHalf s = false) : repaired s = s := by
  induction s with
  | nil => rfl
  | cons c rest ih =>
    rw [hasHalf, List.any_cons, Bool.or_eq_false_iff] at h
    have hsplit : repaired (c :: rest) =
        (if c.isHalf then List.replicate 3 (.char '\ufffd') else [c]) ++ repaired rest := rfl
    rw [hsplit, h.1, ih h.2]
    rfl

end Text

namespace Reader

variable {α β : Type}

/-! ## Scalars -/

@[simp] theorem text_text (s : Text) : text (.text s) = .passed s := rfl

@[simp] theorem bool_bool (b : Bool) : bool (.bool b) = .passed b := rfl

theorem member_spelling [Vocabulary α] (a : α) :
    member (.text (Vocabulary.spelling a : String)) = .passed a := by
  simp [member, unbroken, spelled]

@[simp] theorem optional_text_ofText? (s : Option Text) :
    optional text (.ofText? s) = .passed s := by
  cases s <;> rfl

@[simp] theorem optional_size_ofText? (s : Option Text) :
    optional size (.ofText? s) = .passed s := by
  cases s <;> rfl

@[simp] theorem optional_int_ofInt? (n : Option Int) : optional int (.ofInt? n) = .passed n := by
  cases n <;> rfl

@[simp] theorem optional_nat_ofNat? (n : Option Nat) : optional nat (.ofNat? n) = .passed n := by
  cases n with
  | none => rfl
  | some n =>
    have hn : ¬ (n : Int) < 0 := by omega
    simp [Value.ofNat?, Value.ofInt?, optional, nat, int, hn]

/-- A name is read back if it is a string. -/
theorem name_text {s : Text} (hne : s ≠ []) (h : Text.IsString s) :
    name (.text s) = .passed ⟨s, hne⟩ := by
  obtain ⟨t, ht⟩ := h
  simp [name, unbroken, ht, hne]

/-- Only strings are read as names. -/
theorem isString_of_name {v : Value} {n : Name} (h : name v = .passed n) : Text.IsString n.val := by
  unfold name at h
  obtain ⟨s, -, h⟩ := Checked.andThen_eq_passed_iff.mp h
  obtain ⟨t, ht, h⟩ := Checked.andThen_eq_passed_iff.mp h
  split at h
  next hs =>
    cases h
    unfold unbroken at ht
    split at ht
    next u hu => exact ⟨u, hu⟩
    next => cases ht
  next => cases h

/-- A decimal is read back if it can be held. -/
theorem optional_decimal_ofDecimal? {d : Option Decimal} (h : ∀ x ∈ d, x.inRange = true) :
    optional decimal (.ofDecimal? d) = .passed d := by
  cases d with
  | none => rfl
  | some d =>
    have hread := Decimal.read_scientificChars (h d rfl)
    have hchars : Text.chars? (Text.ofString d.scientific) = some d.scientificChars := by
      rw [Text.ofString, Text.chars?_ofChars, Decimal.toList_scientific]
    simp [Value.ofDecimal?, optional, decimal, decimalOfText, hchars, hread]

/-- Only decimals that can be held are read. -/
theorem inRange_of_decimal {v : Value} {d : Decimal} (h : decimal v = .passed d) :
    d.inRange = true := by
  have htext : ∀ s, decimalOfText s = .passed d → d.inRange = true := by
    intro s hs
    unfold decimalOfText at hs
    split at hs
    next x hx =>
      cases hs
      exact Decimal.inRange_of_read hx
    all_goals cases hs
  unfold decimal at h
  split at h
  next =>
    simp only at h
    split at h
    next hrange =>
      cases h
      exact hrange
    next => cases h
  next => exact htext _ h
  next =>
    split at h
    · exact htext _ h
    · cases h
  next => cases h

/-! ## Members of a vocabulary -/

/-- A flag is read back from its word. -/
@[simp] theorem triState_word (t : TriState) : triState (.text t.word) = .passed t := by
  have hfolded : folded (t.word : String) = (t.word : String) := by cases t <;> decide +kernel
  have hne : Text.ofString t.word ≠ [] := by cases t <;> decide +kernel
  have hread : Vocabulary.read (Text.ofString t.word) = .ok t := Vocabulary.read_spelling t
  simp only [triState, triStateOf, hfolded, if_neg hne, hread, Checked.ofExcept]

/-- A strategy is read back from its word. -/
@[simp] theorem strategy_word (s : GenerationStrategy) (default : GenerationStrategy) :
    foldedMemberOr default (.text s.word) = .passed s := by
  have hfolded : folded (s.word : String) = (s.word : String) := by cases s <;> decide +kernel
  show member (.text (folded (s.word : String))) = _
  rw [hfolded]
  exact member_spelling s

/-- A kind of attribute is read back from its word. -/
@[simp] theorem neutralType_word (t : NeutralType) : member (.text t.word) = .passed t :=
  member_spelling t

/-- A part of a temporal value is read back from its word. -/
@[simp] theorem dateType_word (t default : DateType) :
    memberOr default (.text t.word) = .passed t := member_spelling t

/-! ## Absent and repeated values -/

theorem optional_eq_passed {read : Reader α} {v : Value} {o : Option α}
    (h : optional read v = .passed o) : ∀ a ∈ o, read v = .passed a := by
  unfold optional at h
  split at h
  · cases h
    simp
  · obtain ⟨x, hx, rfl⟩ := Checked.map_eq_passed_iff.mp h
    rintro a ha
    cases ha
    exact hx

/-- Something that may be absent is read back if it is not written as nothing. -/
theorem optional_ofOption {read : Reader α} {write : α → Value} {o : Option α}
    (h : ∀ a ∈ o, write a ≠ .null ∧ read (write a) = .passed a) :
    optional read (.ofOption write o) = .passed o := by
  cases o with
  | none => rfl
  | some a =>
    obtain ⟨hnull, hread⟩ := h a rfl
    show optional read (write a) = _
    unfold optional
    split
    next heq => exact absurd heq hnull
    next => rw [hread, Checked.map_passed]

theorem itemsFrom_map {read : Reader α} {write : α → Value} {xs : List α} (index : Nat)
    (h : ∀ x ∈ xs, read (write x) = .passed x) :
    itemsFrom read index (xs.map write) = .passed xs := by
  induction xs generalizing index with
  | nil => rfl
  | cons x rest ih =>
    obtain ⟨hx, hrest⟩ := List.forall_mem_cons.mp h
    simp [itemsFrom, hx, ih (index + 1) hrest]

/-- A list is read back if its members are. -/
theorem list_map {read : Reader α} {write : α → Value} {xs : List α}
    (h : ∀ x ∈ xs, read (write x) = .passed x) :
    list read (.list (xs.map write)) = .passed xs := itemsFrom_map 0 h

/-- Members are read one by one. -/
theorem itemsFrom_eq_passed_iff {read : Reader α} {index : Nat} {items : List Value}
    {xs : List α} : itemsFrom read index items = .passed xs ↔
      List.Forall₂ (fun v x => read v = .passed x) items xs := by
  induction items generalizing index xs with
  | nil => cases xs <;> simp [itemsFrom]
  | cons v rest ih =>
    simp only [itemsFrom, Checked.seq_eq_passed_iff, Checked.map_eq_passed_iff,
      Checked.under_eq_passed_iff, ih]
    constructor
    · rintro ⟨_, _, ⟨x, hx, rfl⟩, hmore, rfl⟩
      exact .cons hx hmore
    · rintro (_ | ⟨hx, hmore⟩)
      exact ⟨_, _, ⟨_, hx, rfl⟩, hmore, rfl⟩

/-- The members of a list were read from values. -/
theorem list_eq_passed {read : Reader α} {v : Value} {xs : List α}
    (h : list read v = .passed xs) : ∀ x ∈ xs, ∃ v, read v = .passed x := by
  have hmembers {items : List Value} (h : itemsFrom read 0 items = .passed xs) :
      ∀ x ∈ xs, ∃ v, read v = .passed x := by
    intro x hx
    obtain ⟨w, -, hw⟩ := exists_of_forall₂ (itemsFrom_eq_passed_iff.mp h) hx
    exact ⟨w, hw⟩
  unfold list at h
  split at h
  · exact hmembers h
  · exact hmembers h
  · exact hmembers h
  · cases h

/-! ## Named entries -/

/-- Names of entries are told apart, and none of them holds half a pair of surrogates. -/
structure EntriesReadable (entries : List (Text × Text)) : Prop where
  distinct : (entries.map (·.1)).Nodup
  whole : ∀ n ∈ entries.map (·.1), Text.hasHalf n = false

theorem entries_ofTexts {es : List (Text × Text)}
    (h : ∀ n ∈ es.map (·.1), Text.hasHalf n = false) :
    entries entryName text (Fields.ofTexts es) = .passed es := by
  induction es with
  | nil => rfl
  | cons entry rest ih =>
    obtain ⟨hname, hrest⟩ := List.forall_mem_cons.mp h
    have hkey : entryName (.text entry.1) = .passed entry.1 := by
      rw [entryName, text_text, Checked.map_passed, Text.repaired_eq_self hname]
    have hmore := ih hrest
    rw [Fields.ofTexts] at hmore
    simp [Fields.ofTexts, entries, Key.toValue, hkey, hmore]

/-- Texts by name are read back if their names are told apart. -/
theorem mapping_ofTexts {es : List (Text × Text)} (h : EntriesReadable es) :
    mapping entryName text (.object (Fields.ofTexts es)) = .passed es := by
  show Index.ofEntries <$> entries entryName text (Fields.ofTexts es) = _
  rw [entries_ofTexts h.whole, Checked.map_passed, Index.ofEntries_of_nodup h.distinct]

theorem whole_of_entries {fields : Fields} {es : List (Text × Text)}
    (h : entries entryName text fields = .passed es) :
    ∀ n ∈ es.map (·.1), Text.hasHalf n = false := by
  induction fields generalizing es with
  | nil =>
    cases h
    simp
  | cons field rest ih =>
    obtain ⟨f, more, hfirst, hrest, rfl⟩ := Checked.seq_eq_passed_iff.mp h
    obtain ⟨g, b, hname, -, rfl⟩ := Checked.seq_eq_passed_iff.mp hfirst
    obtain ⟨k, hk, rfl⟩ := Checked.map_eq_passed_iff.mp hname
    have hkey := Checked.under_eq_passed_iff.mp (Checked.under_eq_passed_iff.mp hk)
    obtain ⟨s, -, rfl⟩ := Checked.map_eq_passed_iff.mp hkey
    exact List.forall_mem_cons.mpr ⟨Text.hasHalf_repaired s, ih hrest⟩

/-- Only such texts are read. -/
theorem readable_of_mapping {v : Value} {es : List (Text × Text)}
    (h : mapping entryName text v = .passed es) : EntriesReadable es := by
  unfold mapping at h
  split at h
  · obtain ⟨found, hfound, rfl⟩ := Checked.map_eq_passed_iff.mp h
    have hempty : (([] : List (Text × Text)).map (·.1)).Nodup := List.nodup_nil
    obtain ⟨hnodup, hmem⟩ := Index.foldl_store_keys found hempty
    refine ⟨hnodup, fun n hn => ?_⟩
    rcases hmem n hn with hnone | hname
    · cases hnone
    · exact whole_of_entries hfound n hname
  · cases h

/-! ## Objects -/

/-- An object shows these fields. -/
def Shows (fields entries : Fields) : Prop :=
  ∀ entry ∈ entries, fields.lookup entry.1 = some entry.2

/-- An object whose names are told apart shows all its fields. -/
theorem shows_self {fields : Fields} {known : List String} (hknown : known.Nodup)
    (hnames : fields.map (·.1) = known.map fun n : String => Key.text n) : Shows fields fields := by
  have hinjective : Function.Injective fun n : String => Key.text n :=
    fun _ _ h => Text.ofString_inj.mp (Key.text.inj h)
  have hnodup : (fields.map (·.1)).Nodup := by
    rw [hnames]
    exact hknown.map hinjective
  exact fun _ hentry => (lookup_eq_some_iff_mem hnodup).mpr hentry

theorem shows_cons (fields : Fields) (name : Text) (v : Value) (rest : Fields) :
    Shows fields ((.text name, v) :: rest) ↔ fields.get? name = some v ∧ Shows fields rest := by
  simp [Shows, Fields.get?]

theorem shows_append (fields some others : Fields) :
    Shows fields (some ++ others) ↔ Shows fields some ∧ Shows fields others :=
  List.forall_mem_append

/-- An object is read if no name in it is refused, its fields are read, and then the whole is
    settled. -/
theorem object_eq_passed_iff {type : String} {known : List String} {body : Fields → Checked α}
    {finish : α → Except Objection β} {v : Value} {b : β} :
    object type known body finish v = .passed b ↔
      ∃ fields, v.opened = .object fields ∧ hasBrokenKey fields = false ∧
        onlyKnown known fields = .passed () ∧ ∃ a, body fields = .passed a ∧ finish a = .ok b := by
  unfold object
  split
  next fields hopened =>
    simp only [hopened, Value.object.injEq, exists_eq_left']
    cases hasBrokenKey fields with
    | true => simp [Checked.fault]
    | false =>
      simp only [Bool.false_eq_true, if_false, Checked.andThen_eq_passed_iff,
        Checked.seq_eq_passed_iff, Checked.map_eq_passed_iff, true_and]
      constructor
      · rintro ⟨_, ⟨_, _, ⟨a, hbody, rfl⟩, honly, rfl⟩, hfinish⟩
        refine ⟨honly, a, hbody, ?_⟩
        cases hsettled : finish a <;> rw [hsettled] at hfinish <;> cases hfinish
        rfl
      · rintro ⟨honly, a, hbody, hfinish⟩
        refine ⟨a, ⟨_, (), ⟨a, hbody, rfl⟩, honly, rfl⟩, ?_⟩
        rw [hfinish]
        rfl
  next hopened =>
    refine iff_of_false (by simp [Checked.fault]) ?_
    rintro ⟨fields, hfields, -⟩
    exact hopened fields hfields

/-- An object with just the known fields is read as any that shows them is. -/
theorem object_of_fields {type : String} {known : List String} {body : Fields → Checked α}
    {finish : α → Except Objection β} {fields : Fields} {a : α} {b : β}
    (hknown : known.Nodup) (hnames : fields.map (·.1) = known.map fun n : String => Key.text n)
    (hbody : ∀ shown, Shows shown fields → body shown = .passed a) (hfinish : finish a = .ok b) :
    object type known body finish (.object fields) = .passed b := by
  have hmem : ∀ entry ∈ fields, ∃ n ∈ known, entry.1 = .text n := by
    intro entry hentry
    have hname : entry.1 ∈ known.map fun n : String => Key.text n :=
      hnames ▸ List.mem_map_of_mem hentry
    obtain ⟨n, hn, heq⟩ := List.mem_map.mp hname
    exact ⟨n, hn, heq.symm⟩
  have hbroken : hasBrokenKey fields = false := by
    refine List.any_eq_false.mpr fun entry hentry => ?_
    obtain ⟨n, -, hname⟩ := hmem entry hentry
    simp [hname, Key.text?, Text.hasHalf_ofString]
  have honly : onlyKnown known fields = .passed () := by
    have hcauses : (fields.filterMap fun entry =>
        (keyCause? known entry.1).map (Fault.mk [.field entry.1])) = [] := by
      refine List.filterMap_eq_nil_iff.mpr fun entry hentry => ?_
      obtain ⟨n, hn, hname⟩ := hmem entry hentry
      simp [hname, keyCause?, hn]
    rw [onlyKnown, hcauses]
  exact object_eq_passed_iff.mpr
    ⟨fields, rfl, hbroken, honly, a, hbody fields (shows_self hknown hnames), hfinish⟩

/-- An object that is read has its fields read, and then the whole is settled. -/
theorem object_eq_passed {type : String} {known : List String} {body : Fields → Checked α}
    {finish : α → Except Objection β} {v : Value} {b : β}
    (h : object type known body finish v = .passed b) :
    ∃ fields a, body fields = .passed a ∧ finish a = .ok b := by
  obtain ⟨fields, -, -, -, a, hbody, hfinish⟩ := object_eq_passed_iff.mp h
  exact ⟨fields, a, hbody, hfinish⟩

theorem field_eq_passed {name : String} {default : α} {read : Reader α} {fields : Fields} {a : α}
    (h : field name default read fields = .passed a) : a = default ∨ ∃ v, read v = .passed a := by
  unfold field at h
  split at h
  next v _ => exact .inr ⟨v, Checked.under_eq_passed_iff.mp h⟩
  next => exact .inl (by cases h; rfl)

/-- Only decimals that can be held are read from a field. -/
theorem inRange_of_optionalField {name : String} {fields : Fields} {o : Option Decimal}
    (h : optionalField name decimal fields = .passed o) : ∀ d ∈ o, d.inRange = true := by
  rcases field_eq_passed h with rfl | ⟨v, hv⟩
  · simp
  · exact fun d hd => inRange_of_decimal (optional_eq_passed hv d hd)

theorem required_eq_passed {name : String} {read : Reader α} {fields : Fields} {a : α}
    (h : required name read fields = .passed a) : ∃ v, read v = .passed a := by
  unfold required at h
  split at h
  next v _ => exact ⟨v, Checked.under_eq_passed_iff.mp h⟩
  next => cases h

/-- The members of a list in a field were read from values. -/
theorem mem_of_listField {name : String} {read : Reader α} {fields : Fields} {xs : List α} {x : α}
    (h : field name [] (list read) fields = .passed xs) (hx : x ∈ xs) :
    ∃ v, read v = .passed x := by
  rcases field_eq_passed h with rfl | ⟨v, hv⟩
  · cases hx
  · exact list_eq_passed hv x hx

theorem isString_of_required {field : String} {fields : Fields} {n : Name}
    (h : required field name fields = .passed n) : Text.IsString n.val := by
  obtain ⟨v, hv⟩ := required_eq_passed h
  exact isString_of_name hv

end Reader

end Typewright
