/-
  What the figures of a report add up to.

  A run counts by what it asks of an attribute: whether it is part of the key, whether its value is
  generated, whether it had a reference to follow.  A snapshot shows other things: which part the
  attribute plays in foreign keys, and the strategy in force.  That both come to the same is read
  off one row (`shows_of_row`, `account_of_row`), since a foreign key is what plays a part in one,
  and a value is generated exactly if a strategy is in force for it.

  A foreign key either has the entity that it refers to in its row, or it is complained about.  So
  the complaints and the references that were found make up all foreign keys.
-/
import Typewright.Proofs.Row

namespace Typewright

/-! ## What is read off an attribute -/

namespace Attribute

/-- An attribute is a foreign key exactly if it plays a part in one. -/
theorem isForeignKey_eq (a : Attribute) :
    a.isForeignKey = (a.foreignKeyKind.word != "none") := by
  unfold isForeignKey KeyRole.foreign foreignKeyKind
  cases a.keys.simple <;> cases a.keys.composite <;> decide

/-- A value is generated exactly if a strategy is in force for it. -/
theorem generated_eq (a : Attribute) :
    a.generatedValue.generated = (a.generatedValue.effective.word != "") := by
  cases hgenerated : a.generatedValue.generated with
  | false => simp [GeneratedValue.effective, hgenerated, GenerationStrategy.word]
  | true =>
    simp only [GeneratedValue.effective, hgenerated]
    cases a.generatedValue.strategy <;> decide

end Attribute

/-! ## What is read off a row -/

namespace Session

variable {m : Model} {env : Environment} {p : Entity × Attribute} {r : Row}

/-- A row shows its attribute. -/
structure Shows (p : Entity × Attribute) (r : Row) : Prop where
  entity : r.snapshot.entity = p.1.className
  name : r.snapshot.name = p.2.name
  key : r.snapshot.isKey = p.2.isKey
  foreignKey : (r.snapshot.foreignKey.word != "none") = p.2.isForeignKey
  generated : r.snapshot.generated = p.2.generatedValue.generated
  strategy : (r.snapshot.strategy.word != "") = p.2.generatedValue.generated

theorem shows_of_row (h : (rowOf m env p).outcome = .ok r) : Shows p r := by
  obtain ⟨e, a⟩ := p
  obtain ⟨c, ⟨rfl, rfl, rfl, rfl, -⟩, hrow⟩ := rowOf_eq_ok_iff.mp h
  obtain ⟨type, getter, hs⟩ := snapshot_eq_ok (row_eq_ok_iff.mp hrow).1
  constructor
  case foreignKey => rw [hs, c.subject.isForeignKey_eq]; rfl
  case strategy => rw [hs, c.subject.generated_eq]; rfl
  all_goals rw [hs]; rfl

/-- A reference that was found is the class name of an entity, and that of a foreign key. -/
theorem entityName_of_row (h : (rowOf m env p).outcome = .ok r)
    (hname : r.reference.entityName ≠ []) :
    (∃ e ∈ m.entities, e.className = r.reference.entityName) ∧
      r.snapshot.foreignKey.word ≠ "none" := by
  obtain ⟨-, href⟩ | ⟨-, -, href⟩ | ⟨hfk, -, hhas, href⟩ := account_of_row h
  · simp [href, ReferenceOutcome.entityName] at hname
  · simp [href, ReferenceOutcome.entityName] at hname
  · obtain ⟨e, he⟩ := Option.isSome_iff_exists.mp hhas
    have hplays : (r.snapshot.foreignKey.word != "none") = true :=
      (shows_of_row h).foreignKey.trans hfk
    rw [href]
    exact ⟨⟨e, Model.entity?_eq_some_iff.mp he⟩, bne_iff_ne.mp hplays⟩

/-- A reference that was asked for is complained about or was found, and not both. -/
theorem asked_eq_or (h : (rowOf m env p).outcome = .ok r) :
    (r.reference != .notAsked) =
        (r.reference.complaint?.isSome || r.reference.entityName != []) ∧
      (r.reference.complaint?.isSome && r.reference.entityName != []) = false := by
  obtain ⟨-, href⟩ | ⟨-, -, href⟩ | ⟨-, hne, -, href⟩ := account_of_row h
  · simp [href, ReferenceOutcome.complaint?, ReferenceOutcome.entityName]
  · simp [href, ReferenceOutcome.complaint?, ReferenceOutcome.entityName]
  · have hname : (p.2.reference != []) = true := bne_iff_ne.mpr hne
    have hasked : (ReferenceOutcome.found p.2.reference != .notAsked) = true :=
      bne_iff_ne.mpr (by simp)
    simp [href, ReferenceOutcome.complaint?, ReferenceOutcome.entityName, hname, hasked]

/-! ## Adding up -/

/-- What is counted falls into two sorts. -/
theorem countP_eq_add {α : Type} {xs : List α} {p q r : α → Bool}
    (h : ∀ x ∈ xs, p x = (q x || r x) ∧ (q x && r x) = false) :
    xs.countP p = xs.countP q + xs.countP r := by
  induction xs with
  | nil => rfl
  | cons x rest ih =>
    obtain ⟨⟨hor, hand⟩, hrest⟩ := List.forall_mem_cons.mp h
    rw [List.countP_cons, List.countP_cons, List.countP_cons, ih hrest, hor]
    cases hq : q x <;> cases hr : r x
    case true.true => simp [hq, hr] at hand
    all_goals grind

section Rows

variable {found : List Row}
variable (hrows : List.Forall₂ (fun p r => (rowOf m env p).outcome = .ok r)
  m.owned found)

include hrows

/-- What was asked of an attribute and what its row shows are the same foreign keys. -/
theorem countP_asked : found.countP (·.reference != .notAsked) =
    found.countP (·.snapshot.foreignKey.word != "none") := by
  have hshown := countP_eq_of_forall₂ hrows fun p r hp => (shows_of_row hp).foreignKey.symm
  have hasked := countP_eq_of_forall₂ (g := (·.reference != .notAsked)) hrows fun p r hp => by
    show p.2.isForeignKey = _
    obtain ⟨hfk, href⟩ | ⟨hfk, -, href⟩ | ⟨hfk, -, -, href⟩ := account_of_row hp <;>
      simp [hfk, href]
  exact hasked.symm.trans hshown

/-- The complaints and the references that were found make up all that was asked for. -/
theorem countP_asked_eq_add : found.countP (·.reference != .notAsked) =
    (found.filterMap (·.reference.complaint?)).length +
      found.countP (·.reference.entityName != []) := by
  rw [List.length_filterMap_eq_countP]
  refine countP_eq_add fun r hr => ?_
  obtain ⟨p, -, hp⟩ := exists_of_forall₂ hrows hr
  exact asked_eq_or hp

end Rows

/-- What a report of a successful run accounts for. -/
structure Accounts (m : Model) (env : Environment) (report : Report) : Prop where
  /-- There is one row for every attribute, in the order of the model. -/
  rows : (report.rows.map fun r => (r.snapshot.entity, r.snapshot.name)) =
    m.owned.map fun p => (p.1.className, p.2.name)
  /-- The snapshots are those of the attributes. -/
  snapshots : (report.rows.map fun r => Except.ok r.snapshot) =
    m.owned.map fun p => (Context.opened m env p.1 p.2 >>= Context.snapshot).outcome
  attributes : report.counts.attributes = (m.entities.map (·.attributes.length)).sum
  keys : report.counts.keys = report.rows.countP (·.snapshot.isKey)
  keyNames : report.counts.keys = (m.entities.map (·.keyNames.length)).sum
  foreignKeys : report.counts.foreignKeys =
    report.rows.countP (·.snapshot.foreignKey.word != "none")
  strategies : report.counts.generated = report.rows.countP (·.snapshot.strategy.word != "")
  generated : report.counts.generated = report.rows.countP (·.snapshot.generated)
  /-- A reference that was found is the class name of an entity, and that of a foreign key. -/
  references : ∀ r ∈ report.rows, r.reference.entityName ≠ [] →
    (∃ e ∈ m.entities, e.className = r.reference.entityName) ∧
      r.snapshot.foreignKey.word ≠ "none"
  /-- Every foreign key is complained about, or its reference was found. -/
  balance : report.counts.foreignKeys =
    report.complaints.length + report.rows.countP (·.reference.entityName != [])

/-- **The figures of a successful run add up.** -/
theorem accounts_of_success (m : Model) (env : Environment) (strict : Bool)
    (ops : List Operation) (report : Report)
    (h : ((start m env strict).after ops).resolve.1.outcome = .ok report)
    (hsuccess : report.success = true) : Accounts m env report := by
  obtain ⟨issues, found, -, hrows, rfl⟩ := rows_of_success h hsuccess
  have hshows : List.Forall₂ Shows m.owned found := hrows.imp fun _ _ => shows_of_row
  constructor
  case rows =>
    exact (map_eq_of_forall₂ hshows fun p r hs => by rw [hs.entity, hs.name]).symm
  case snapshots =>
    refine (map_eq_of_forall₂ hrows fun p r hp => ?_).symm
    obtain ⟨c, hfresh, hrow⟩ := rowOf_eq_ok_iff.mp hp
    rw [Traced.outcome_bind, Context.opened_eq_ok_iff.mpr hfresh]
    exact (row_eq_ok_iff.mp hrow).1
  case attributes =>
    show (found.length : Int) = _
    rw [← hrows.length_eq, Model.owned, List.length_flatMap]
    simp
  case keys => rfl
  case keyNames =>
    have hkeys := countP_eq_of_forall₂ hshows fun p r hs => hs.key.symm
    show (found.countP (·.snapshot.isKey) : Int) = _
    rw [← hkeys, Model.countP_owned]
    simp [Entity.keyNames, Entity.keyAttributes, List.countP_eq_length_filter]
  case foreignKeys => exact congrArg Nat.cast (countP_asked hrows)
  case strategies =>
    have hgenerated := countP_eq_of_forall₂ hshows fun p r hs => hs.generated.symm
    have hstrategy := countP_eq_of_forall₂ hshows fun p r hs => hs.strategy.symm
    exact congrArg Nat.cast (hgenerated.symm.trans hstrategy)
  case generated => rfl
  case references =>
    intro r hr hname
    obtain ⟨p, -, hp⟩ := exists_of_forall₂ hrows hr
    exact entityName_of_row hp hname
  case balance => exact congrArg Nat.cast (countP_asked_eq_add hrows)

end Session

namespace Model

/-- A key that the database counts. -/
def shelfNumber : Attribute :=
  { Attribute.plain ⟨"id", by decide⟩ .long with
    column := ⟨none, none, none, none, none, false, true, none, none, none⟩
    keys := ⟨true, false, false, none, []⟩ }

/-- A foreign key that records no entity. -/
def looseBatch : Attribute :=
  { Attribute.plain ⟨"batch", by decide⟩ .int with keys := ⟨false, true, false, none, []⟩ }

/-- An entity with a generated key, a reference that is found and one that is missing. -/
def shelf : Entity where
  className := "Shelf"
  table := none
  attributes := [shelfNumber, partOwner, looseBatch]
  className_ne := by decide
  distinct := by decide
  composite := by decide

def depot : Model where
  name := "depot"
  entities := [plainItem, shelf]
  name_ne := by decide
  distinct := by decide

end Model

namespace Session

theorem accounts_of_depot :
    ∃ report,
      ((start Model.depot .standard false).after
          [.allContexts, .useFullNames 1]).resolve.1.outcome = .ok report ∧
        report.success = true ∧ report.counts = ⟨2, 3, 1, 2, 1⟩ ∧
          Accounts Model.depot .standard report :=
  ⟨_, rfl, rfl, by decide +kernel,
    accounts_of_success Model.depot .standard false [.allContexts, .useFullNames 1] _ rfl rfl⟩

end Session

end Typewright
