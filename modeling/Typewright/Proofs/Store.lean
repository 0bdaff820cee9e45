/-
  The store of a session: what is in it at any moment of a session's life.

  Two things change a store.  An entity that is not open can be opened, if all of its contexts can,
  which puts them behind those that are there; and a context that is there can be told to show full
  names.  Every operation is made of these (`perform_cases`), so whatever both of them keep holds in
  every session that operations lead to.

  What they keep is `Coherent`: apart from the names they show, the contexts in the store are those
  of the open entities as they were when they were opened, each at one place, and the places that are
  listed for an open entity are those of its contexts, in the order of its attributes.  And nothing
  is ever taken back: `Extends`.
-/
import Mathlib.Data.List.Induction
import Mathlib.Data.List.Nodup
import Typewright.Proofs.Lookup
import Typewright.Proofs.Opening
import Typewright.Resolution.Session

namespace Typewright

/-! ## Contexts as they were opened -/

namespace Context

/-- The context as it was when it was opened. -/
def asOpened (c : Context) : Context := { c with fullNames := false }

theorem isFresh_asOpened (c : Context) :
    c.asOpened.IsFresh c.model c.environment c.entity c.subject := ⟨rfl, rfl, rfl, rfl, rfl⟩

variable {m : Model} {env : Environment} {e : Entity} {a : Attribute} {c : Context}
variable {cs : List Context}

theorem IsFresh.asOpened_eq (h : c.IsFresh m env e a) : c.asOpened = c := by
  refine IsFresh.eq ?_ h
  obtain ⟨rfl, rfl, rfl, rfl, -⟩ := h
  exact c.isFresh_asOpened

/-- What is opened for an entity are the contexts of its attributes. -/
theorem isFresh_of_mem_openedOf (h : (openedOf m env e).outcome = .ok cs) (hc : c ∈ cs) :
    ∃ a ∈ e.attributes, c.IsFresh m env e a :=
  exists_of_forall₂ (openedOf_eq_ok_iff.mp h) hc

theorem map_asOpened_openedOf (h : (openedOf m env e).outcome = .ok cs) :
    cs.map asOpened = cs := by
  have hfresh : ∀ c ∈ cs, c.asOpened = id c := by
    intro c hc
    obtain ⟨a, -, ha⟩ := isFresh_of_mem_openedOf h hc
    exact ha.asOpened_eq
  rw [List.map_congr_left hfresh, List.map_id]

theorem map_subject_openedOf (h : (openedOf m env e).outcome = .ok cs) :
    cs.map subject = e.attributes := by
  have hsubjects := map_eq_of_forall₂ (openedOf_eq_ok_iff.mp h) (f := id)
    fun a c hc => hc.subject.symm
  rw [← hsubjects, List.map_id]

theorem openedOf_nodup (h : (openedOf m env e).outcome = .ok cs) : cs.Nodup :=
  .of_map subject (map_subject_openedOf h ▸ e.attributes_nodup)

end Context

namespace Session

variable {s t u : Session} {e : Entity} {cs : List Context}

/-- The contexts of the store as they were when they were opened. -/
def baseline (s : Session) : List Context := s.store.map Context.asOpened

/-- The entity is open. -/
def IsOpen (s : Session) (e : Entity) : Prop := ∃ places, s.opened.lookup e.className = some places

@[simp] theorem length_baseline (s : Session) : s.baseline.length = s.store.length := by
  simp [baseline]

theorem baseline_getElem? (s : Session) (place : ContextPlace) :
    s.baseline[place]? = (s.contextAt? place).map Context.asOpened := by
  simp [baseline, contextAt?]

/-- Opening an entity puts its contexts behind the others. -/
theorem baseline_opening (h : (Context.openedOf s.model s.environment e).outcome = .ok cs) :
    (s.opening e cs).baseline = s.baseline ++ cs := by
  rw [baseline, opening, List.map_append, Context.map_asOpened_openedOf h, ← baseline]

/-- Telling a context to show full names leaves what is at every other place. -/
theorem contextAt?_useFullNames_of_ne {place other : ContextPlace} (h : other ≠ place) :
    (s.useFullNames place).contextAt? other = s.contextAt? other :=
  List.getElem?_modify_ne Context.useFullNames s.store h.symm

theorem contextAt?_useFullNames (s : Session) (place : ContextPlace) :
    (s.useFullNames place).contextAt? place = (s.contextAt? place).map Context.useFullNames :=
  List.getElem?_modify_eq Context.useFullNames place s.store

/-- Showing full names is no part of how a context was opened. -/
@[simp] theorem baseline_useFullNames (s : Session) (place : ContextPlace) :
    (s.useFullNames place).baseline = s.baseline := by
  apply List.ext_getElem?
  intro other
  rw [baseline_getElem?, baseline_getElem?]
  by_cases h : other = place
  · subst h
    rw [contextAt?_useFullNames, Option.map_map]
    rfl
  · rw [contextAt?_useFullNames_of_ne h]

/-! ## Openings -/

/-- One session leads to another by opening entities of the model, one after another. -/
inductive OpensTo (s : Session) : Session → Prop where
  | refl : OpensTo s s
  | opening {t : Session} {e : Entity} {cs : List Context} : OpensTo s t → e ∈ t.model.entities →
      t.opened.lookup e.className = none →
      (Context.openedOf t.model t.environment e).outcome = .ok cs → OpensTo s (t.opening e cs)

theorem OpensTo.trans (h : OpensTo s t) (h' : OpensTo t u) : OpensTo s u := by
  induction h' with
  | refl => exact h
  | opening _ he hnew hcs ih => exact ih.opening he hnew hcs

/-- Asking for the contexts of an entity opens it if it has to be opened and can be. -/
theorem contextsFor_opensTo (s : Session) (entity : Text) : OpensTo s (s.contextsFor entity).2 := by
  unfold contextsFor
  cases hopen : s.opened.lookup entity with
  | some places => exact .refl
  | none =>
    cases he : s.model.entity? entity with
    | none => exact .refl
    | some e =>
      obtain ⟨hmem, rfl⟩ := Model.entity?_eq_some_iff.mp he
      cases hcs : (Context.openedOf s.model s.environment e).outcome with
      | error failure => simpa only [hcs] using .refl
      | ok cs => simpa only [hcs] using .opening .refl hmem hopen hcs

theorem contextsForEach_of_error (rest : List Entity) {failure : Failure}
    (h : (s.contextsFor e.className).1.outcome = .error failure) :
    (s.contextsForEach (e :: rest)).1.outcome = .error failure ∧
      (s.contextsForEach (e :: rest)).2 = (s.contextsFor e.className).2 := by
  rcases hfirst : s.contextsFor e.className with ⟨first, next⟩
  replace h : first.outcome = .error failure := by rw [hfirst] at h; exact h
  constructor <;> simp only [contextsForEach, hfirst, h]

theorem contextsForEach_of_ok (rest : List Entity) {places : List ContextPlace}
    (h : (s.contextsFor e.className).1.outcome = .ok places) :
    (s.contextsForEach (e :: rest)).1.outcome =
        ((s.contextsFor e.className).2.contextsForEach rest).1.outcome.map (places ++ ·) ∧
      (s.contextsForEach (e :: rest)).2 =
        ((s.contextsFor e.className).2.contextsForEach rest).2 := by
  rcases hfirst : s.contextsFor e.className with ⟨first, next⟩
  replace h : first.outcome = .ok places := by rw [hfirst] at h; exact h
  constructor <;> simp only [contextsForEach, hfirst, h]

theorem contextsForEach_opensTo (s : Session) (es : List Entity) :
    OpensTo s (s.contextsForEach es).2 := by
  induction es generalizing s with
  | nil => exact .refl
  | cons e rest ih =>
    have hfirst := s.contextsFor_opensTo e.className
    cases h : (s.contextsFor e.className).1.outcome with
    | error failure => rw [(contextsForEach_of_error rest h).2]; exact hfirst
    | ok places => rw [(contextsForEach_of_ok rest h).2]; exact hfirst.trans (ih _)

theorem allContexts_opensTo (s : Session) : OpensTo s s.allContexts.2 :=
  s.contextsForEach_opensTo s.model.entities

theorem resolve_opensTo (s : Session) : OpensTo s s.resolve.2 := by
  unfold resolve
  split
  · exact .refl
  · exact s.allContexts_opensTo

/-- All that an operation does to a session: it has one context show full names, or else it opens
    entities. -/
theorem perform_cases (s : Session) (op : Operation) :
    (∃ place, op = .useFullNames place ∧ s.perform op = s.useFullNames place) ∨
      (∀ place, op ≠ .useFullNames place) ∧ OpensTo s (s.perform op) := by
  cases op with
  | useFullNames place => exact .inl ⟨place, rfl, rfl⟩
  | contextsFor entity => exact .inr ⟨by simp, s.contextsFor_opensTo entity⟩
  | allContexts => exact .inr ⟨by simp, s.allContexts_opensTo⟩
  | validate => exact .inr ⟨by simp, .refl⟩
  | resolve => exact .inr ⟨by simp, s.resolve_opensTo⟩

/-! ## What operations keep -/

/-- Nothing that a session has given out is taken back in another one. -/
structure Extends (s t : Session) : Prop where
  model : t.model = s.model
  environment : t.environment = s.environment
  strict : t.strict = s.strict
  /-- The places of the contexts of an open entity stay. -/
  keeps : ∀ name places, s.opened.lookup name = some places → t.opened.lookup name = some places
  /-- The contexts at these places stay. -/
  baseline : s.baseline <+: t.baseline

theorem Extends.refl (s : Session) : Extends s s :=
  ⟨rfl, rfl, rfl, fun _ _ h => h, List.prefix_refl _⟩

theorem Extends.trans (h : Extends s t) (h' : Extends t u) : Extends s u where
  model := h'.model.trans h.model
  environment := h'.environment.trans h.environment
  strict := h'.strict.trans h.strict
  keeps := fun name places hl => h'.keeps name places (h.keeps name places hl)
  baseline := h.baseline.trans h'.baseline

theorem lookup_opening (s : Session) (e : Entity) (cs : List Context) (name : Text) :
    (s.opening e cs).opened.lookup name =
      if name = e.className then some (s.nextPlaces e) else s.opened.lookup name := by
  rw [opening, List.lookup_cons]
  by_cases h : name = e.className
  · simp [h]
  · rw [beq_eq_false_iff_ne.mpr h, if_neg h]

theorem extends_opening (hnew : s.opened.lookup e.className = none)
    (hcs : (Context.openedOf s.model s.environment e).outcome = .ok cs) :
    Extends s (s.opening e cs) where
  model := rfl
  environment := rfl
  strict := rfl
  keeps := by
    intro name places hl
    have hne : name ≠ e.className := by
      rintro rfl
      rw [hnew] at hl
      cases hl
    rw [lookup_opening, if_neg hne, hl]
  baseline := by
    rw [baseline_opening hcs]
    exact List.prefix_append _ _

theorem extends_useFullNames (s : Session) (place : ContextPlace) :
    Extends s (s.useFullNames place) where
  model := rfl
  environment := rfl
  strict := rfl
  keeps := fun _ _ hl => hl
  baseline := ⟨[], by rw [List.append_nil, baseline_useFullNames]⟩

theorem OpensTo.extends (h : OpensTo s t) : Extends s t := by
  induction h with
  | refl => exact .refl s
  | opening _ _ hnew hcs ih => exact ih.trans (extends_opening hnew hcs)

/-- What is at a place of the store stays there. -/
theorem Extends.baseline_eq (h : Extends s t) {place : ContextPlace} {c : Context}
    (hc : s.baseline[place]? = some c) : t.baseline[place]? = some c := by
  obtain ⟨more, hmore⟩ := h.baseline
  have hlt : place < s.baseline.length := (List.getElem?_eq_some_iff.mp hc).1
  rw [← hmore, List.getElem?_append_left hlt, hc]

/-- What is at several places of the store stays there. -/
theorem Extends.map_baseline_eq (h : Extends s t) {places : List ContextPlace} {cs : List Context}
    (hcs : places.map (s.baseline[·]?) = cs.map some) :
    places.map (t.baseline[·]?) = cs.map some := by
  rw [← hcs]
  apply List.map_congr_left
  intro place hplace
  -- every one of the places holds a context already
  have hsome : s.baseline[place]? ∈ cs.map some := hcs ▸ List.mem_map_of_mem hplace
  obtain ⟨c, -, hc⟩ := List.mem_map.mp hsome
  rw [h.baseline_eq hc.symm, ← hc]

/-! ## The invariant -/

/-- What the store of a session holds at any moment. -/
structure Coherent (s : Session) : Prop where
  /-- The places listed under a name are those of the contexts of the entity with that name. -/
  placed : ∀ name places, s.opened.lookup name = some places →
    ∃ e ∈ s.model.entities, e.className = name ∧
      ∃ cs, (Context.openedOf s.model s.environment e).outcome = .ok cs ∧
        places.map (s.baseline[·]?) = cs.map some
  /-- Every context in the store is one of an open entity. -/
  owned : ∀ c ∈ s.baseline, ∃ e a, s.IsOpen e ∧ c.IsFresh s.model s.environment e a
  /-- No two places hold one context. -/
  distinct : s.baseline.Nodup

theorem coherent_start (m : Model) (env : Environment) (strict : Bool) :
    Coherent (start m env strict) where
  placed := by intro name places hl; cases hl
  owned := by intro c hc; cases hc
  distinct := List.nodup_nil

theorem isOpen_opening (s : Session) (e : Entity) (cs : List Context) :
    (s.opening e cs).IsOpen e :=
  ⟨s.nextPlaces e, by rw [lookup_opening, if_pos rfl]⟩

theorem Extends.isOpen (h : Extends s t) (he : s.IsOpen e) : t.IsOpen e := by
  obtain ⟨places, hl⟩ := he
  exact ⟨places, h.keeps _ _ hl⟩

/-- The contexts of an entity that is not open are not in the store. -/
theorem Coherent.disjoint (h : Coherent s) (hnew : s.opened.lookup e.className = none)
    (hcs : (Context.openedOf s.model s.environment e).outcome = .ok cs) :
    s.baseline.Disjoint cs := by
  intro c hold hc
  obtain ⟨e', a', ⟨places, hopen⟩, hfresh'⟩ := h.owned c hold
  obtain ⟨a, -, hfresh⟩ := Context.isFresh_of_mem_openedOf hcs hc
  rw [← hfresh'.entity, hfresh.entity, hnew] at hopen
  cases hopen

theorem nextPlaces_baseline (hcs : (Context.openedOf s.model s.environment e).outcome = .ok cs) :
    (s.nextPlaces e).map ((s.opening e cs).baseline[·]?) = cs.map some := by
  have hlength : e.attributes.length = cs.length := (Context.openedOf_eq_ok_iff.mp hcs).length_eq
  rw [baseline_opening hcs, nextPlaces, ← s.length_baseline, hlength]
  apply List.ext_getElem
  · simp
  · intro i hi _
    simp [List.getElem_range', List.getElem?_append_right]

theorem Coherent.opening (h : Coherent s) (he : e ∈ s.model.entities)
    (hnew : s.opened.lookup e.className = none)
    (hcs : (Context.openedOf s.model s.environment e).outcome = .ok cs) :
    Coherent (s.opening e cs) where
  placed := by
    intro name places hl
    rw [lookup_opening] at hl
    split at hl
    -- the name under which the entity is opened, or one that was listed before
    next heq =>
      cases hl
      exact ⟨e, he, heq.symm, cs, hcs, nextPlaces_baseline hcs⟩
    next hne =>
      obtain ⟨e', he', hname, cs', hcs', hplaces⟩ := h.placed name places hl
      exact ⟨e', he', hname, cs', hcs', (extends_opening hnew hcs).map_baseline_eq hplaces⟩
  owned := by
    intro c hc
    rw [baseline_opening hcs, List.mem_append] at hc
    rcases hc with hold | hnow
    · obtain ⟨e', a, hopen, hfresh⟩ := h.owned c hold
      exact ⟨e', a, (extends_opening hnew hcs).isOpen hopen, hfresh⟩
    · obtain ⟨a, -, hfresh⟩ := Context.isFresh_of_mem_openedOf hcs hnow
      exact ⟨e, a, s.isOpen_opening e cs, hfresh⟩
  distinct := by
    rw [baseline_opening hcs]
    exact h.distinct.append (Context.openedOf_nodup hcs) (h.disjoint hnew hcs)

theorem Coherent.useFullNames (h : Coherent s) (place : ContextPlace) :
    Coherent (s.useFullNames place) where
  placed := by rw [baseline_useFullNames]; exact h.placed
  owned := by rw [baseline_useFullNames]; exact h.owned
  distinct := by rw [baseline_useFullNames]; exact h.distinct

theorem Coherent.opensTo (h : Coherent s) (hst : OpensTo s t) : Coherent t := by
  induction hst with
  | refl => exact h
  | opening _ he hnew hcs ih => exact ih.opening he hnew hcs

/-! ## Runs -/

theorem after_append (s : Session) (ops more : List Operation) :
    s.after (ops ++ more) = (s.after ops).after more := List.foldl_append ..

theorem after_concat (s : Session) (ops : List Operation) (op : Operation) :
    s.after (ops ++ [op]) = (s.after ops).perform op := s.after_append ops [op]

theorem extends_perform (s : Session) (op : Operation) : Extends s (s.perform op) := by
  obtain ⟨place, -, hflag⟩ | ⟨-, hopens⟩ := s.perform_cases op
  · rw [hflag]; exact s.extends_useFullNames place
  · exact hopens.extends

theorem extends_after (s : Session) (ops : List Operation) : Extends s (s.after ops) := by
  induction ops generalizing s with
  | nil => exact .refl s
  | cons op rest ih => exact (s.extends_perform op).trans (ih (s.perform op))

theorem Coherent.perform (h : Coherent s) (op : Operation) : Coherent (s.perform op) := by
  obtain ⟨place, -, hflag⟩ | ⟨-, hopens⟩ := s.perform_cases op
  · rw [hflag]; exact h.useFullNames place
  · exact h.opensTo hopens

/-- **Every session that operations lead to is coherent.** -/
theorem coherent_after (m : Model) (env : Environment) (strict : Bool) (ops : List Operation) :
    Coherent ((start m env strict).after ops) := by
  induction ops using List.reverseRecOn with
  | nil => exact coherent_start m env strict
  | append_singleton ops op ih => rw [after_concat]; exact ih.perform op

/-! ## The places of contexts -/

/-- The places of the contexts of an entity, as they are listed. -/
def placesOf (s : Session) (e : Entity) : List ContextPlace :=
  (s.opened.lookup e.className).getD []

theorem Extends.placesOf_eq (h : Extends s t) (ho : s.IsOpen e) : t.placesOf e = s.placesOf e := by
  obtain ⟨places, hl⟩ := ho
  rw [placesOf, placesOf, hl, h.keeps _ _ hl]

/-- The places that are listed for an open entity are those of its contexts, in the order of its
    attributes. -/
theorem Coherent.map_placesOf (h : Coherent s) (he : e ∈ s.model.entities) (ho : s.IsOpen e) :
    ∃ cs, (Context.openedOf s.model s.environment e).outcome = .ok cs ∧
      (s.placesOf e).map (s.baseline[·]?) = cs.map some := by
  obtain ⟨places, hl⟩ := ho
  obtain ⟨e', he', hname, cs, hcs, hplaces⟩ := h.placed _ _ hl
  obtain rfl := Model.eq_of_className_eq he' he hname
  exact ⟨cs, hcs, by rw [placesOf, hl, Option.getD_some, hplaces]⟩

/-! ## What the operations answer -/

theorem contextsFor_of_isOpen {places : List ContextPlace} {entity : Text}
    (h : s.opened.lookup entity = some places) : s.contextsFor entity = (.done places, s) := by
  simp only [contextsFor, h]

/-- Under a name that no entity has nothing is found, and nothing is changed. -/
theorem Coherent.contextsFor_of_unknown (h : Coherent s) {entity : Text}
    (hnone : ∀ e ∈ s.model.entities, e.className ≠ entity) :
    s.contextsFor entity = (.fail (.unknownEntity entity s.model.name), s) := by
  have hclosed : s.opened.lookup entity = none := by
    cases hl : s.opened.lookup entity with
    | none => rfl
    | some places =>
      obtain ⟨e, he, hname, -⟩ := h.placed _ _ hl
      exact absurd hname (hnone e he)
  simp only [contextsFor, hclosed, Model.entity?_eq_none_iff.mpr hnone]

/-- Asking for the contexts of an entity that can be opened gives their places, and the entity is
    open from then on. -/
theorem contextsFor_of_mem (he : e ∈ s.model.entities)
    (hcs : (Context.openedOf s.model s.environment e).outcome = .ok cs) :
    (s.contextsFor e.className).1.outcome = .ok ((s.contextsFor e.className).2.placesOf e) ∧
      (s.contextsFor e.className).2.IsOpen e := by
  cases hl : s.opened.lookup e.className with
  | some places =>
    rw [contextsFor_of_isOpen hl]
    exact ⟨by rw [placesOf, hl, Option.getD_some, Traced.outcome_done], ⟨places, hl⟩⟩
  | none =>
    have hopens : (s.contextsFor e.className).2 = s.opening e cs := by
      simp only [contextsFor, hl, Model.entity?_of_mem he, hcs]
    have hplaces : (s.opening e cs).placesOf e = s.nextPlaces e := by
      rw [placesOf, lookup_opening, if_pos rfl, Option.getD_some]
    rw [hopens, hplaces]
    exact ⟨by simp only [contextsFor, hl, Model.entity?_of_mem he, hcs], s.isOpen_opening e cs⟩

/-- Asking for those of an entity that cannot be opened fails, and changes nothing. -/
theorem Coherent.contextsFor_of_error (h : Coherent s) (he : e ∈ s.model.entities)
    {failure : Failure}
    (hfailure : (Context.openedOf s.model s.environment e).outcome = .error failure) :
    (s.contextsFor e.className).1.outcome = .error failure ∧ (s.contextsFor e.className).2 = s := by
  have hclosed : s.opened.lookup e.className = none := by
    by_contra hopen
    obtain ⟨places, hl⟩ := Option.ne_none_iff_exists'.mp hopen
    obtain ⟨cs, hcs, -⟩ := h.map_placesOf he ⟨places, hl⟩
    rw [hfailure] at hcs
    cases hcs
  constructor <;> simp only [contextsFor, hclosed, Model.entity?_of_mem he, hfailure]

theorem contextsForEach_of_mem {es : List Entity} (hes : ∀ e ∈ es, e ∈ s.model.entities)
    (htexts : ∀ e ∈ es, e.HaveTexts) :
    (s.contextsForEach es).1.outcome = .ok (es.flatMap (s.contextsForEach es).2.placesOf) ∧
      ∀ e ∈ es, (s.contextsForEach es).2.IsOpen e := by
  induction es generalizing s with
  | nil => exact ⟨rfl, by simp⟩
  | cons e rest ih =>
    obtain ⟨he, hrest⟩ := List.forall_mem_cons.mp hes
    obtain ⟨htext, hmore⟩ := List.forall_mem_cons.mp htexts
    obtain ⟨cs, hcs⟩ := Context.openedOf_succeeds_iff.mpr htext
    obtain ⟨hfirst, hopen⟩ := contextsFor_of_mem he hcs
    obtain ⟨houtcome, hlast⟩ := contextsForEach_of_ok rest hfirst
    have hmodel := (s.contextsFor_opensTo e.className).extends.model
    obtain ⟨hplaces, hothers⟩ := ih (s := (s.contextsFor e.className).2) (by rwa [hmodel]) hmore
    -- what is opened later leaves the places of the first entity as they are
    have hextends := ((s.contextsFor e.className).2.contextsForEach_opensTo rest).extends
    rw [houtcome, hplaces, hlast]
    refine ⟨?_, List.forall_mem_cons.mpr ⟨hextends.isOpen hopen, hothers⟩⟩
    rw [List.flatMap_cons, hextends.placesOf_eq hopen]
    rfl

/-- Asking for the contexts of several entities ends at the first that cannot be opened. -/
theorem Coherent.contextsForEach_of_error (h : Coherent s) {es : List Entity} {failure : Failure}
    (hes : ∀ e ∈ es, e ∈ s.model.entities)
    (hfailure : (Traced.each (Context.openedOf s.model s.environment) es).outcome =
      .error failure) : (s.contextsForEach es).1.outcome = .error failure := by
  induction es generalizing s with
  | nil => cases hfailure
  | cons e rest ih =>
    obtain ⟨he, hrest⟩ := List.forall_mem_cons.mp hes
    rw [Traced.outcome_each_cons, bind_eq_error_iff] at hfailure
    rcases hfailure with hfirst | ⟨cs, hcs, hlater⟩
    · exact (Session.contextsForEach_of_error rest (h.contextsFor_of_error he hfirst).1).1
    · have hnext := s.contextsFor_opensTo e.className
      obtain ⟨hmodel, henv, -, -, -⟩ := hnext.extends
      rw [(contextsForEach_of_ok rest (contextsFor_of_mem he hcs).1).1, map_eq_error_iff]
      refine ih (h.opensTo hnext) (by rwa [hmodel]) ?_
      rw [hmodel, henv]
      exact map_eq_error_iff.mp hlater

/-- Asking for all contexts gives the places of the contexts of one entity after another, and opens
    every entity, if all can be opened. -/
theorem allContexts_eq (htexts : s.model.HaveTexts) :
    s.allContexts.1.outcome = .ok (s.model.entities.flatMap s.allContexts.2.placesOf) ∧
      ∀ e ∈ s.model.entities, s.allContexts.2.IsOpen e :=
  contextsForEach_of_mem (fun _ he => he) htexts

/-- Otherwise it fails as opening the contexts of all attributes does. -/
theorem Coherent.allContexts_of_error (h : Coherent s) {failure : Failure}
    (hfailure : (s.model.openedContexts s.environment).outcome = .error failure) :
    s.allContexts.1.outcome = .error failure := by
  rw [Model.outcome_openedContexts, map_eq_error_iff] at hfailure
  exact h.contextsForEach_of_error (fun _ he => he) hfailure

end Session

end Typewright
