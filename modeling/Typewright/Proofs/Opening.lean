/-
  Which contexts can be opened.

  To open a context is to put the bounds of its attribute into words, so it can be opened exactly if
  these have texts (`Constraints.HaveTexts`).  The context that is opened is then the one of this
  attribute in its surroundings, about which nothing is told yet (`opened_eq_ok_iff`).

  Work on one thing after another comes to results exactly if it does so on each of them, and fails
  as it does on the first one on which it fails (`Traced.each_eq_ok_iff`, `each_eq_error_iff`).  So
  the contexts of a model can all be opened or the first attribute without texts decides, whether
  they are opened entity by entity or one after another (`outcome_openedContexts`).
-/
import Typewright.Proofs.Pairing
import Typewright.Resolution.Context

namespace Typewright

/-! ## Work on one thing after another -/

namespace Traced

theorem not_succeeds_iff {α : Type} {t : Traced α} :
    ¬ t.Succeeds ↔ ∃ failure, t.outcome = .error failure := by
  unfold Succeeds
  cases t.outcome <;> simp

section Each

variable {α β γ : Type} {work : α → Traced β} {x : α} {xs : List α} {ys : List β}
variable {failure : Failure}

theorem outcome_each_cons (work : α → Traced β) (x : α) (rest : List α) :
    (each work (x :: rest)).outcome =
      (work x).outcome.bind fun y => (each work rest).outcome.map (y :: ·) := by
  rw [each, outcome_bind]
  refine congrArg _ (funext fun y => ?_)
  rw [outcome_bind]
  cases (each work rest).outcome <;> rfl

/-- There are results exactly if they are those of the things, paired off in order. -/
theorem each_eq_ok_iff : (each work xs).outcome = .ok ys ↔
    List.Forall₂ (fun x y => (work x).outcome = .ok y) xs ys := by
  induction xs generalizing ys with
  | nil => cases ys <;> simp [each]
  | cons x rest ih =>
    simp only [outcome_each_cons, bind_eq_ok_iff, map_eq_ok_iff, ih]
    constructor
    · rintro ⟨first, hfirst, more, hmore, rfl⟩
      exact .cons hfirst hmore
    · rintro (_ | ⟨hfirst, hmore⟩)
      exact ⟨_, hfirst, _, hmore, rfl⟩

theorem each_succeeds (h : ∀ x ∈ xs, (work x).Succeeds) : (each work xs).Succeeds := by
  induction xs with
  | nil => exact ⟨[], rfl⟩
  | cons x rest ih =>
    obtain ⟨⟨first, hfirst⟩, hrest⟩ := List.forall_mem_cons.mp h
    obtain ⟨more, hmore⟩ := ih hrest
    exact ⟨first :: more, each_eq_ok_iff.mpr (.cons hfirst (each_eq_ok_iff.mp hmore))⟩

/-- The work fails exactly if it fails so on some thing, and on none before. -/
theorem each_eq_error_iff : (each work xs).outcome = .error failure ↔
    ∃ before x after, xs = before ++ x :: after ∧ (∀ b ∈ before, (work b).Succeeds) ∧
      (work x).outcome = .error failure := by
  constructor
  · intro h
    induction xs with
    | nil => cases h
    | cons x rest ih =>
      rw [outcome_each_cons, bind_eq_error_iff] at h
      rcases h with hx | ⟨first, hfirst, hlater⟩
      · exact ⟨[], x, rest, rfl, List.forall_mem_nil _, hx⟩
      · obtain ⟨before, y, after, rfl, hbefore, hy⟩ := ih (map_eq_error_iff.mp hlater)
        exact ⟨x :: before, y, after, rfl,
          List.forall_mem_cons.mpr ⟨⟨first, hfirst⟩, hbefore⟩, hy⟩
  · rintro ⟨before, x, after, rfl, hbefore, hx⟩
    -- what comes after is never looked at, so the induction leaves it alone
    induction before with
    | nil =>
      rw [List.nil_append, outcome_each_cons, hx]
      rfl
    | cons b rest ih =>
      obtain ⟨⟨first, hfirst⟩, hrest⟩ := List.forall_mem_cons.mp hbefore
      rw [List.cons_append, outcome_each_cons, hfirst]
      exact map_eq_error_iff.mpr (ih hrest)

theorem each_map (work : α → Traced β) (f : γ → α) (zs : List γ) :
    each work (zs.map f) = each (fun z => work (f z)) zs := by
  induction zs with
  | nil => rfl
  | cons z rest ih => rw [List.map_cons, each, each, ih]

theorem outcome_each_append (work : α → Traced β) (xs more : List α) :
    (each work (xs ++ more)).outcome =
      (each work xs).outcome.bind fun ys => (each work more).outcome.map (ys ++ ·) := by
  induction xs with
  | nil => cases hmore : (each work more).outcome <;> simp [each, hmore, Except.bind, Except.map]
  | cons x rest ih =>
    rw [List.cons_append, outcome_each_cons, outcome_each_cons, ih]
    cases (work x).outcome <;> cases (each work rest).outcome <;>
      cases (each work more).outcome <;> rfl

/-- What is done in portions comes to the same as what is done at once. -/
theorem outcome_each_flatMap (work : α → Traced β) (portion : γ → List α) (zs : List γ) :
    (each work (zs.flatMap portion)).outcome =
      (each (fun z => each work (portion z)) zs).outcome.map List.flatten := by
  induction zs with
  | nil => rfl
  | cons z rest ih =>
    rw [List.flatMap_cons, outcome_each_append, outcome_each_cons, ih]
    cases (each work (portion z)).outcome <;>
      cases (each (fun z => each work (portion z)) rest).outcome <;> rfl

/-- Two rounds of work come to the same as one round, if the first of them does not fail. -/
theorem outcome_each_each {next : β → Traced γ} (h : ∀ x ∈ xs, (work x).Succeeds) :
    ((each work xs).outcome.bind fun ys => (each next ys).outcome) =
      (each (fun x => work x >>= next) xs).outcome := by
  induction xs with
  | nil => rfl
  | cons x rest ih =>
    obtain ⟨⟨first, hfirst⟩, hrest⟩ := List.forall_mem_cons.mp h
    obtain ⟨more, hmore⟩ := each_succeeds hrest
    have hlater := ih hrest
    rw [hmore] at hlater
    rw [outcome_each_cons, outcome_each_cons, outcome_bind, hfirst, hmore, ← hlater]
    exact outcome_each_cons next first more

end Each

end Traced

/-! ## Bounds with texts -/

/-- A number or a text is too long. -/
def Failure.IsOversize (failure : Failure) : Prop :=
  failure.kind = .value ∨ failure.kind = .memory

namespace Constraints

/-- The bounds have texts: those on the length have no more digits than can be written, and the
    plain texts of those on the value are no longer than a text can be. -/
structure HaveTexts (k : Constraints) : Prop where
  minLength : ∀ n ∈ k.minLength, (Decimal.digits n).length ≤ maxDigits
  maxLength : ∀ n ∈ k.maxLength, (Decimal.digits n).length ≤ maxDigits
  minValue : ∀ d ∈ k.minValue, d.plainChars.length ≤ maxCharacters
  maxValue : ∀ d ∈ k.maxValue, d.plainChars.length ≤ maxCharacters

variable {k : Constraints} {failure : Failure}

/-- Nothing is in the way of putting the bounds into words exactly if they have texts. -/
theorem obstacle?_eq_none_iff_haveTexts : k.obstacle? = none ↔ k.HaveTexts := by
  have hlengths : k.lengthsWritable = true ↔
      (∀ n ∈ k.minLength, (Decimal.digits n).length ≤ maxDigits) ∧
        ∀ n ∈ k.maxLength, (Decimal.digits n).length ≤ maxDigits := by
    simp [lengthsWritable, isWritable_iff, Option.all_eq_true]
  have hvalues : k.valuesShowable = true ↔
      (∀ d ∈ k.minValue, d.plainChars.length ≤ maxCharacters) ∧
        ∀ d ∈ k.maxValue, d.plainChars.length ≤ maxCharacters := by
    simp [valuesShowable, Decimal.isShowable, Decimal.length_plainChars, Option.all_eq_true]
  rw [obstacle?_eq_none_iff, hlengths, hvalues]
  exact ⟨fun ⟨⟨hmin, hmax⟩, hlow, hhigh⟩ => ⟨hmin, hmax, hlow, hhigh⟩,
    fun h => ⟨⟨h.minLength, h.maxLength⟩, h.minValue, h.maxValue⟩⟩

/-- What is in the way is a number or a text that is too long. -/
theorem isOversize_of_obstacle (h : k.obstacle? = some failure) : failure.IsOversize := by
  unfold obstacle? at h
  split at h
  · cases h
    exact .inl rfl
  · split at h
    · cases h
      exact .inr rfl
    · cases h

end Constraints

/-- The bounds of all attributes of an entity have texts. -/
def Entity.HaveTexts (e : Entity) : Prop := ∀ a ∈ e.attributes, a.constraints.HaveTexts

/-- The bounds of all attributes of a model have texts. -/
def Model.HaveTexts (m : Model) : Prop := ∀ e ∈ m.entities, e.HaveTexts

/-! ## One context -/

namespace Context

variable {m : Model} {env : Environment} {e : Entity} {a : Attribute} {c c' : Context}
variable {cs : List Context} {failure : Failure}

/-- The context of an attribute in its surroundings, before anything was asked. -/
structure IsFresh (m : Model) (env : Environment) (e : Entity) (a : Attribute) (c : Context) :
    Prop where
  model : c.model = m
  environment : c.environment = env
  entity : c.entity = e
  subject : c.subject = a
  fullNames : c.fullNames = false

theorem isFresh_fresh (showable : a.constraints.obstacle? = none) :
    (fresh m env e a showable).IsFresh m env e a := ⟨rfl, rfl, rfl, rfl, rfl⟩

/-- An attribute has one such context at most. -/
theorem IsFresh.eq (h : c.IsFresh m env e a) (h' : c'.IsFresh m env e a) : c = c' := by
  obtain ⟨_, _, _, _, _, _⟩ := c
  obtain ⟨_, _, _, _, _, _⟩ := c'
  obtain ⟨rfl, rfl, rfl, rfl, rfl⟩ := h
  obtain ⟨rfl, rfl, rfl, rfl, rfl⟩ := h'
  rfl

theorem opened_of_obstacle (h : a.constraints.obstacle? = some failure) :
    (opened m env e a).outcome = .error failure := by
  unfold opened
  split
  next hnone => rw [hnone] at h; cases h
  next hsome =>
    rw [hsome] at h
    cases h
    rfl

/-- What is opened is the context of the attribute. -/
theorem opened_eq_ok_iff : (opened m env e a).outcome = .ok c ↔ c.IsFresh m env e a := by
  unfold opened
  split
  next hnone =>
    constructor
    · rintro ⟨⟩
      exact isFresh_fresh hnone
    · intro h
      exact congrArg Except.ok ((isFresh_fresh hnone).eq h)
  next hsome =>
    constructor
    · rintro ⟨⟩
    · rintro ⟨rfl, rfl, rfl, rfl, -⟩
      rw [c.showable] at hsome
      cases hsome

/-- The context of an attribute can be opened exactly if its bounds have texts. -/
theorem opened_succeeds_iff : (opened m env e a).Succeeds ↔ a.constraints.HaveTexts := by
  rw [← Constraints.obstacle?_eq_none_iff_haveTexts]
  constructor
  · rintro ⟨c, hc⟩
    have hfresh := opened_eq_ok_iff.mp hc
    rw [← hfresh.subject]
    exact c.showable
  · exact fun h => ⟨_, opened_eq_ok_iff.mpr (isFresh_fresh h)⟩

/-- Otherwise it fails for a number or a text that is too long. -/
theorem isOversize_of_opened (h : (opened m env e a).outcome = .error failure) :
    failure.IsOversize := by
  cases hobstacle : a.constraints.obstacle? with
  | none =>
    rw [opened_eq_ok_iff.mpr (isFresh_fresh hobstacle)] at h
    cases h
  | some obstacle =>
    rw [opened_of_obstacle hobstacle] at h
    cases h
    exact Constraints.isOversize_of_obstacle hobstacle

/-! ## Several contexts -/

section Several

variable {ps : List (Entity × Attribute)}

/-- The contexts of several attributes can be opened one after another exactly if all their bounds
    have texts. -/
theorem each_opened_succeeds_iff :
    (Traced.each (fun p => opened m env p.1 p.2) ps).Succeeds ↔
      ∀ p ∈ ps, p.2.constraints.HaveTexts := by
  constructor
  · rintro ⟨cs, hcs⟩ p hp
    obtain ⟨c, -, hc⟩ := exists_of_forall₂ (Traced.each_eq_ok_iff.mp hcs).flip hp
    exact opened_succeeds_iff.mp ⟨c, hc⟩
  · intro h
    exact Traced.each_succeeds fun p hp => opened_succeeds_iff.mpr (h p hp)

theorem isOversize_of_each_opened
    (h : (Traced.each (fun p => opened m env p.1 p.2) ps).outcome = .error failure) :
    failure.IsOversize := by
  obtain ⟨-, p, -, -, -, hp⟩ := Traced.each_eq_error_iff.mp h
  exact isOversize_of_opened hp

theorem each_opened_fails_iff :
    (∃ failure, (Traced.each (fun p => opened m env p.1 p.2) ps).outcome = .error failure ∧
      failure.IsOversize) ↔ ¬ ∀ p ∈ ps, p.2.constraints.HaveTexts := by
  have hsucceeds : (Traced.each (fun p => opened m env p.1 p.2) ps).Succeeds ↔ _ :=
    each_opened_succeeds_iff
  rw [← hsucceeds, Traced.not_succeeds_iff]
  exact exists_congr fun failure => and_iff_left_of_imp isOversize_of_each_opened

end Several

/-! ### Those of an entity -/

theorem openedOf_eq_each (m : Model) (env : Environment) (e : Entity) : openedOf m env e =
    Traced.each (fun p => opened m env p.1 p.2) (e.attributes.map (Prod.mk e)) := by
  rw [Traced.each_map]
  rfl

theorem openedOf_eq_ok_iff : (openedOf m env e).outcome = .ok cs ↔
    List.Forall₂ (fun a c => c.IsFresh m env e a) e.attributes cs := by
  simp only [openedOf, Traced.each_eq_ok_iff, opened_eq_ok_iff]

theorem openedOf_succeeds_iff : (openedOf m env e).Succeeds ↔ e.HaveTexts := by
  rw [openedOf_eq_each, each_opened_succeeds_iff, List.forall_mem_map]
  rfl

theorem isOversize_of_openedOf (h : (openedOf m env e).outcome = .error failure) :
    failure.IsOversize := by
  rw [openedOf_eq_each] at h
  exact isOversize_of_each_opened h

theorem openedOf_fails_iff :
    (∃ failure, (openedOf m env e).outcome = .error failure ∧ failure.IsOversize) ↔
      ¬ e.HaveTexts := by
  rw [openedOf_eq_each, each_opened_fails_iff, List.forall_mem_map]
  rfl

end Context

/-! ## The contexts of a model -/

namespace Model

/-- All attributes with their entities, in the order of the model. -/
def owned (m : Model) : List (Entity × Attribute) :=
  m.entities.flatMap fun e => e.attributes.map (Prod.mk e)

/-- The contexts of all attributes before anything was asked, opened one after another. -/
def openedContexts (m : Model) (env : Environment) : Traced (List Context) :=
  Traced.each (fun p => Context.opened m env p.1 p.2) m.owned

/-- Opening them entity by entity comes to the same. -/
theorem outcome_openedContexts (m : Model) (env : Environment) :
    (m.openedContexts env).outcome =
      (Traced.each (Context.openedOf m env) m.entities).outcome.map List.flatten := by
  rw [openedContexts, owned, Traced.outcome_each_flatMap, funext (Context.openedOf_eq_each m env)]

variable {m : Model} {env : Environment} {cs : List Context}

theorem openedContexts_eq_ok_iff : (m.openedContexts env).outcome = .ok cs ↔
    List.Forall₂ (fun p c => c.IsFresh m env p.1 p.2) m.owned cs := by
  simp only [openedContexts, Traced.each_eq_ok_iff, Context.opened_eq_ok_iff]

theorem mem_owned {p : Entity × Attribute} :
    p ∈ m.owned ↔ p.1 ∈ m.entities ∧ p.2 ∈ p.1.attributes := by
  obtain ⟨e, a⟩ := p
  simp only [owned, List.mem_flatMap, List.mem_map, Prod.mk.injEq]
  constructor
  · rintro ⟨e', he, a', ha, rfl, rfl⟩
    exact ⟨he, ha⟩
  · rintro ⟨he, ha⟩
    exact ⟨e, he, a, ha, rfl, rfl⟩

theorem haveTexts_iff : m.HaveTexts ↔ ∀ p ∈ m.owned, p.2.constraints.HaveTexts := by
  constructor
  · intro h p hp
    obtain ⟨he, ha⟩ := mem_owned.mp hp
    exact h p.1 he p.2 ha
  · intro h e he a ha
    exact h (e, a) (mem_owned.mpr ⟨he, ha⟩)

theorem openedContexts_succeeds_iff : (m.openedContexts env).Succeeds ↔ m.HaveTexts := by
  rw [haveTexts_iff]
  exact Context.each_opened_succeeds_iff

theorem openedContexts_fails_iff :
    (∃ failure, (m.openedContexts env).outcome = .error failure ∧ failure.IsOversize) ↔
      ¬ m.HaveTexts := by
  rw [haveTexts_iff]
  exact Context.each_opened_fails_iff

/-! ## A bound without a text -/

/-- An attribute whose upper bound is a one with so many zeros behind it that no text can hold
    them. -/
def worth : Attribute :=
  { Attribute.plain ⟨"worth", by decide⟩ .decimal with
    constraints := ⟨false, false, false, false, none, none, none, none,
      some ⟨false, 1, 999999999999999999⟩, none, none, none, none⟩ }

/-- What has such a worth. -/
def treasure : Entity where
  className := "Treasure"
  table := none
  attributes := [worth]
  className_ne := by decide
  distinct := by decide
  composite := by decide

/-- A model in which the context of the only attribute cannot be opened. -/
def hoard : Model where
  name := "hoard"
  entities := [treasure]
  name_ne := by decide
  distinct := by decide

theorem worth_obstacle : worth.constraints.obstacle? = some .oversizedText := by decide +kernel

theorem treasure_mem : treasure ∈ hoard.entities := .head _

theorem not_haveTexts_treasure : ¬ treasure.HaveTexts := by
  intro h
  have hnone := Constraints.obstacle?_eq_none_iff_haveTexts.mpr (h worth (.head _))
  rw [worth_obstacle] at hnone
  cases hnone

theorem not_haveTexts_hoard : ¬ hoard.HaveTexts := fun h =>
  not_haveTexts_treasure (h _ treasure_mem)

end Model

end Typewright
