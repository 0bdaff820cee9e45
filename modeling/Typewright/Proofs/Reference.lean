/-
  Following references.

  Following the reference of an attribute ends in one of three ways, told apart by the recorded
  name without the blanks around it: it is empty, it is the class name of an entity of the model,
  or neither.  Everything else about references is read off from that (`follow_cases`).

  The recorded name is trimmed and the class names are not.  So the class name of an entity, when it
  is recorded as it stands, leads back to that entity exactly if it has no blank at an end; a class
  name with a blank there leads to another entity or to none.
-/
import Typewright.Model.Reference
import Typewright.Proofs.Lookup
import Typewright.Proofs.Trimming

namespace Typewright

namespace Model

variable {m : Model} {owner : Text} {a : Attribute} {e : Entity}

@[simp] theorem outcome_noteDisagreement (owner : Text) (a : Attribute) :
    (noteDisagreement owner a).outcome = .ok () := by
  unfold noteDisagreement
  cases a.disagreement? <;> rfl

/-! ## The three ways to end -/

theorem follow_of_no_reference (h : a.reference = []) :
    (m.follow owner a).outcome = .error (.noReference owner a.name) := by
  unfold follow
  rw [if_pos h, Traced.outcome_fail]

theorem follow_of_entity (h : m.entity? a.reference = some e) :
    (m.follow owner a).outcome = .ok e := by
  -- no entity has an empty name
  have hne : a.reference ≠ [] := (entity?_eq_some_iff.mp h).2 ▸ e.className_ne
  unfold follow
  rw [if_neg hne, Traced.outcome_bind, outcome_noteDisagreement]
  simp [h, Except.bind]

theorem follow_of_no_entity (hne : a.reference ≠ []) (h : m.entity? a.reference = none) :
    (m.follow owner a).outcome = .error (.danglingReference owner a.name a.reference m.name) := by
  unfold follow
  rw [if_neg hne, Traced.outcome_bind, outcome_noteDisagreement]
  simp [h, Except.bind]

/-- How following a reference can end: without a recorded name, at the entity of that name, or at
    no entity. -/
theorem follow_cases (m : Model) (owner : Text) (a : Attribute) :
    (a.reference = [] ∧ (m.follow owner a).outcome = .error (.noReference owner a.name)) ∨
    (∃ e ∈ m.entities, e.className = a.reference ∧ (m.follow owner a).outcome = .ok e) ∨
    (a.reference ≠ [] ∧ m.hasEntity a.reference = false ∧
      (m.follow owner a).outcome =
        .error (.danglingReference owner a.name a.reference m.name)) := by
  by_cases hne : a.reference = []
  · exact .inl ⟨hne, follow_of_no_reference hne⟩
  · cases h : m.entity? a.reference with
    | some e =>
      obtain ⟨he, hname⟩ := entity?_eq_some_iff.mp h
      exact .inr (.inl ⟨e, he, hname, follow_of_entity h⟩)
    | none => exact .inr (.inr ⟨hne, by simp [hasEntity, h], follow_of_no_entity hne h⟩)

/-- Following a reference gives an entity exactly if it is the one with the trimmed name. -/
theorem follow_eq_ok_iff :
    (m.follow owner a).outcome = .ok e ↔ e ∈ m.entities ∧ e.className = a.reference := by
  constructor
  · intro h
    obtain ⟨-, hf⟩ | ⟨e', he', hname, hf⟩ | ⟨-, -, hf⟩ := follow_cases m owner a
    · rw [hf] at h; cases h
    · rw [hf] at h; cases h; exact ⟨he', hname⟩
    · rw [hf] at h; cases h
  · rintro ⟨he, hname⟩
    exact follow_of_entity (entity?_eq_some_iff.mpr ⟨he, hname⟩)

/-! ## Recorded class names -/

/-- **A recorded class name leads back to its entity exactly if no blank stands at an end of it.** -/
theorem follow_recorded_iff (m : Model) (owner : Text) (a : Attribute) (e : Entity)
    (he : e ∈ m.entities) (ha : a.keys.references = some e.className) :
    (m.follow owner a).outcome = .ok e ↔
      (∀ c ∈ e.className.head?, c.is Text.isBlankChar = false) ∧
        (∀ c ∈ e.className.getLast?, c.is Text.isBlankChar = false) := by
  have hreference : a.reference = Text.trimmed e.className := by simp [Attribute.reference, ha]
  rw [follow_eq_ok_iff, and_iff_right he, hreference, eq_comm, Text.trimmed_eq_self_iff]

/-- An attribute that records a name. -/
def recording (name : Name) (reference : Text) : Attribute :=
  { Attribute.plain name .int with keys := ⟨false, true, false, some reference, []⟩ }

/-- An entity without attributes. -/
def bareEntity (className : Name) : Entity where
  className := className.val
  table := none
  attributes := []
  className_ne := className.ne
  distinct := by simp
  composite := by simp

def plainItem : Entity := bareEntity ⟨"Item", by decide⟩

def paddedItem : Entity := bareEntity ⟨" Item ", by decide⟩

def lineItem : Attribute := recording ⟨"item", by decide⟩ " Item "

def linePlainItem : Attribute := recording ⟨"plainItem", by decide⟩ "Item"

/-- An entity that refers to two others, whose names are told apart by blanks. -/
def line : Entity where
  className := "Line"
  table := none
  attributes := [lineItem, linePlainItem]
  className_ne := by decide
  distinct := by decide
  composite := by decide

def paddedNames : Model where
  name := "padded"
  entities := [plainItem, paddedItem, line]
  name_ne := by decide
  distinct := by decide

theorem follow_recorded_iff_item :
    plainItem ∈ paddedNames.entities ∧
    linePlainItem.keys.references = some plainItem.className ∧
    ((paddedNames.follow "Line" linePlainItem).outcome = .ok plainItem ↔
      (∀ c ∈ plainItem.className.head?, c.is Text.isBlankChar = false) ∧
        (∀ c ∈ plainItem.className.getLast?, c.is Text.isBlankChar = false)) :=
  ⟨.head _, rfl, follow_recorded_iff paddedNames "Line" linePlainItem plainItem (.head _) rfl⟩

/-- Not every class name that is recorded as it stands leads back to its entity: one with blanks
    at its ends leads to the entity that is named without them. -/
theorem follow_padded :
    ¬ ∀ (m : Model), ∀ owner ∈ m.entities, ∀ a ∈ owner.attributes, ∀ e ∈ m.entities,
      a.keys.references = some e.className → (m.follow owner.className a).outcome = .ok e := by
  intro h
  have hpadded := h paddedNames line (.tail _ (.tail _ (.head _))) lineItem (.head _) paddedItem
    (.tail _ (.head _)) rfl
  rw [follow_eq_ok_iff] at hpadded
  exact absurd hpadded.2 (by decide)

end Model

end Typewright
