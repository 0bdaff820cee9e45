/-
  The names of accessors.

  An accessor has a verb in front, `is` or `get` if it reads and `set` if it writes, and behind the
  verb the name of the attribute with its first character in upper case.  Upper case can make one
  character of two, and then two attributes share their accessors.

    attributes     getters             setters
    name active    getName isActive    setName setActive
    name Name      getName getName     setName setName

  This cannot happen in an entity whose attributes have names in camel case.  These begin with small
  letters of ASCII, and each of them is got back from its capital (`uncapitalize_capitalize`).  So
  an accessor tells which attribute it is for (`accessed_of_isAccessor`).  Two getters of one name
  would be for one attribute, whichever of the two verbs they have; and a getter is told from a
  setter by its first letter.
-/
import Typewright.Proofs.CaseMapping
import Typewright.Proofs.Identifier
import Typewright.Proofs.Pairing
import Typewright.Proofs.Store

namespace Typewright

namespace Text

/-! ## Verbs and names -/

/-- The verbs of what reads an attribute. -/
def readingVerbs : List Text := ["is", "get"]

/-- The verb of what writes an attribute. -/
def writingVerbs : List Text := ["set"]

/-- One of these verbs, and behind it a word that is the name once its first character is in lower
    case. -/
def IsAccessor (verbs : List Text) (name accessor : Text) : Prop :=
  ∃ verb ∈ verbs, ∃ word, accessor = verb ++ word ∧ uncapitalize word = name

variable {name accessor : Text}

/-- A name in camel case is got back from its capitalised form. -/
theorem uncapitalize_capitalize (h : isCamelCase name = true) :
    uncapitalize (capitalize name) = name := by
  cases name with
  | nil => rfl
  | cons c rest =>
    have hfirst : c.is isSmallLetter = true := by
      simp only [isCamelCase, hasShape, Bool.and_eq_true] at h
      exact h.1
    cases c with
    | half n => cases hfirst
    | char x =>
      obtain ⟨capital, -, hupper, hlower⟩ := upperChar_smallLetter hfirst
      have hcapital : capitalize (.char x :: rest) = .char capital :: rest := by
        rw [capitalize, CodePoint.images, hupper]
        rfl
      rw [hcapital, uncapitalize, CodePoint.images, hlower]
      rfl

theorem isAccessor_getterName (h : isCamelCase name = true) (primitiveBoolean : Bool) :
    IsAccessor readingVerbs name (getterName name primitiveBoolean) := by
  have hname := uncapitalize_capitalize h
  cases primitiveBoolean with
  | true => exact ⟨"is", .head _, capitalize name, rfl, hname⟩
  | false => exact ⟨"get", .tail _ (.head _), capitalize name, rfl, hname⟩

theorem isAccessor_setterName (h : isCamelCase name = true) :
    IsAccessor writingVerbs name (setterName name) :=
  ⟨"set", .head _, capitalize name, rfl, uncapitalize_capitalize h⟩

/-- The name that an accessor is for, which is told by what stands behind the verb.  Of the verbs
    only `is` begins with an `i`, and it has two letters where the others have three. -/
def accessed (accessor : Text) : Text :=
  uncapitalize (accessor.drop (if accessor.head? = some (.char 'i') then 2 else 3))

theorem accessed_of_isAccessor
    (h : IsAccessor readingVerbs name accessor ∨ IsAccessor writingVerbs name accessor) :
    accessed accessor = name := by
  rcases h with ⟨verb, hverb, word, rfl, hname⟩ | ⟨verb, hverb, word, rfl, hname⟩
  · rcases List.mem_pair.mp hverb with rfl | rfl
    · exact hname
    · exact hname
  · obtain rfl := List.mem_singleton.mp hverb
    exact hname

/-- What reads does not write. -/
theorem not_isAccessor_of_isAccessor {name' : Text} (h : IsAccessor readingVerbs name accessor) :
    ¬ IsAccessor writingVerbs name' accessor := by
  rintro ⟨verb', hverb', word', hsame, -⟩
  obtain ⟨verb, hverb, word, rfl, -⟩ := h
  obtain rfl := List.mem_singleton.mp hverb'
  have hset : (ofString "set" ++ word').head? = some (.char 's') := rfl
  rw [← hsame] at hset
  rcases List.mem_pair.mp hverb with rfl | rfl
  · have his : (ofString "is" ++ word).head? = some (.char 'i') := rfl
    exact absurd (his.symm.trans hset) (by decide)
  · have hget : (ofString "get" ++ word).head? = some (.char 'g') := rfl
    exact absurd (hget.symm.trans hset) (by decide)

end Text

/-! ## Names that pass -/

namespace Model

variable {m : Model} {e : Entity} {a : Attribute}

/-- If the check of names reports neither of its two findings, the name is in camel case. -/
theorem isCamelCase_of_not_reported (he : e ∈ m.entities) (ha : a ∈ e.attributes)
    (hinvalid : ¬ Finding.Reported m.attributeNameFindings "INVALID_ATTRIBUTE_NAME" e a)
    (hodd : ¬ Finding.Reported m.attributeNameFindings "ATTRIBUTE_NAME_NOT_CAMEL_CASE" e a) :
    Text.isCamelCase a.name = true := by
  have hmem : ∀ f ∈ e.nameFindings a, f ∈ m.attributeNameFindings := fun f hf =>
    List.mem_flatMap.mpr ⟨e, he, List.mem_append_right _ (List.mem_flatMap.mpr ⟨a, ha, hf⟩)⟩
  by_cases hidentifier : Text.isIdentifier a.name = true
  · by_contra hcamel
    refine hodd ⟨.attributeNotCamelCase e.className a.name, hmem _ ?_, rfl, rfl, rfl⟩
    rw [Bool.not_eq_true] at hcamel
    simp [Entity.nameFindings, hidentifier, hcamel]
  · refine absurd ⟨.invalidAttributeName e.className a.name, hmem _ ?_, rfl, rfl, rfl⟩ hinvalid
    simp [Entity.nameFindings, hidentifier]

end Model

/-! ## The accessors of an entity -/

namespace Context

theorem getterName_of_getter {c : Context} {g : Text} (h : c.getter = .ok g) :
    ∃ primitiveBoolean, g = Text.getterName c.name primitiveBoolean := by
  unfold getter at h
  split at h
  next =>
    cases hprimitive : c.isPrimitive with
    | error failure =>
      rw [hprimitive] at h
      cases h
    | ok primitive =>
      rw [hprimitive] at h
      exact ⟨primitive, (Except.ok.inj h).symm⟩
  next => exact ⟨false, (Except.ok.inj h).symm⟩

section Names

variable {m : Model} {env : Environment} {e : Entity} {cs : List Context}

/-- The contexts of an entity have the names of its attributes. -/
theorem map_name_eq (hcs : (openedOf m env e).outcome = .ok (cs.map asOpened)) :
    cs.map name = e.attributes.map (·.name) := by
  rw [← map_subject_openedOf hcs, List.map_map, List.map_map]
  rfl

theorem isCamelCase_name (hcs : (openedOf m env e).outcome = .ok (cs.map asOpened))
    (hattributes : ∀ a ∈ e.attributes, Text.isCamelCase a.name = true) {c : Context}
    (hc : c ∈ cs) : Text.isCamelCase c.name = true := by
  have hname : c.name ∈ e.attributes.map (·.name) := by
    rw [← map_name_eq hcs]
    exact List.mem_map_of_mem hc
  obtain ⟨a, ha, hsame⟩ := List.mem_map.mp hname
  rw [← hsame]
  exact hattributes a ha

end Names

/-- **In an entity whose attributes have names in camel case no two accessors have one name**, and
    the name of the attribute is got back from each of them.  The contexts are those of the entity,
    some of which may show full names by now. -/
theorem accessors_distinct {m : Model} {e : Entity} (he : e ∈ m.entities)
    (hnames : ∀ a ∈ e.attributes,
      ¬ Finding.Reported m.attributeNameFindings "INVALID_ATTRIBUTE_NAME" e a ∧
      ¬ Finding.Reported m.attributeNameFindings "ATTRIBUTE_NAME_NOT_CAMEL_CASE" e a)
    {env : Environment} {cs : List Context}
    (hcs : (openedOf m env e).outcome = .ok (cs.map asOpened))
    {getters : List Text} (hgetters : List.Forall₂ (fun c g => c.getter = .ok g) cs getters) :
    (getters ++ cs.map setter).Nodup ∧
      List.Forall₂ (fun c g => Text.IsAccessor Text.readingVerbs c.name g) cs getters ∧
      ∀ c ∈ cs, Text.IsAccessor Text.writingVerbs c.name c.setter := by
  have hnodup : (cs.map name).Nodup := by
    rw [map_name_eq hcs]
    exact e.distinct
  have hcamel : ∀ c ∈ cs, Text.isCamelCase c.name = true := fun c hc =>
    isCamelCase_name hcs (fun a ha =>
      Model.isCamelCase_of_not_reported he ha (hnames a ha).1 (hnames a ha).2) hc
  have hreads : List.Forall₂ (fun c g => Text.IsAccessor Text.readingVerbs c.name g) cs
      getters := by
    refine ((List.forall₂_and_left cs getters).mpr ⟨hcamel, hgetters⟩).imp ?_
    rintro c g ⟨hname, hg⟩
    obtain ⟨primitiveBoolean, rfl⟩ := getterName_of_getter hg
    exact Text.isAccessor_getterName hname primitiveBoolean
  have hwrites : ∀ c ∈ cs, Text.IsAccessor Text.writingVerbs c.name c.setter :=
    fun c hc => Text.isAccessor_setterName (hcamel c hc)
  refine ⟨?_, hreads, hwrites⟩
  -- either list of accessors gives back the names, which are distinct
  have hread : getters.map Text.accessed = cs.map name :=
    (map_eq_of_forall₂ hreads fun _ _ h => (Text.accessed_of_isAccessor (.inl h)).symm).symm
  have hwritten : (cs.map setter).map Text.accessed = cs.map name := by
    rw [List.map_map]
    exact List.map_congr_left fun c hc => Text.accessed_of_isAccessor (.inr (hwrites c hc))
  have hgettersNodup : getters.Nodup := .of_map Text.accessed (hread ▸ hnodup)
  have hsettersNodup : (cs.map setter).Nodup := .of_map Text.accessed (hwritten ▸ hnodup)
  refine hgettersNodup.append hsettersNodup ?_
  intro accessor hgetter hsetter
  obtain ⟨c, -, hc⟩ := exists_of_forall₂ hreads hgetter
  obtain ⟨c', hc', rfl⟩ := List.mem_map.mp hsetter
  exact Text.not_isAccessor_of_isAccessor hc (hwrites c' hc')

/-- Names that are not in camel case can share their accessors. -/
example : Text.setterName "name" = Text.setterName "Name" := by decide

end Context

namespace Model

open Context

/-- An account, whose first attribute is read by an accessor with `is`. -/
def account : Entity where
  className := "Account"
  table := none
  attributes :=
    [{ Attribute.plain ⟨"active", by decide⟩ .boolean with hints := ⟨true, false, false⟩ },
      .plain ⟨"name", by decide⟩ .string]
  className_ne := by decide
  distinct := by decide
  composite := by decide

/-- A model of nothing but accounts. -/
def bank : Model where
  name := "bank"
  entities := [account]
  name_ne := by decide
  distinct := by decide

/-- How the attributes of an account are read. -/
def accountGetters : List Text := ["isActive", "getName"]

theorem accessors_distinct_account :
    account ∈ bank.entities ∧ bank.attributeNameFindings = [] ∧
      ∃ cs, (openedOf bank .standard account).outcome = .ok cs ∧
        List.Forall₂ (fun c g => c.getter = .ok g) cs accountGetters ∧
        (accountGetters ++ cs.map setter).Nodup := by
  have hmem : account ∈ bank.entities := .head _
  have hnone : bank.attributeNameFindings = [] := by decide +kernel
  have hnames : ∀ a ∈ account.attributes,
      ¬ Finding.Reported bank.attributeNameFindings "INVALID_ATTRIBUTE_NAME" account a ∧
      ¬ Finding.Reported bank.attributeNameFindings "ATTRIBUTE_NAME_NOT_CAMEL_CASE" account a := by
    simp [Finding.Reported, hnone]
  obtain ⟨cs, hcs⟩ : ∃ cs, (openedOf bank .standard account).outcome = .ok cs := ⟨_, rfl⟩
  have hgetters : List.Forall₂ (fun c g => c.getter = .ok g) cs accountGetters := by
    cases hcs
    refine .cons ?_ (.cons ?_ .nil)
    · decide +kernel
    · decide +kernel
  have hopened : (openedOf bank .standard account).outcome = .ok (cs.map asOpened) := by
    rw [map_asOpened_openedOf hcs]
    exact hcs
  exact ⟨hmem, hnone, cs, hcs, hgetters, (accessors_distinct hmem hnames hopened hgetters).1⟩

end Model

end Typewright
