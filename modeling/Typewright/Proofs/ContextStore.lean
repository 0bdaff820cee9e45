/-
  What can be relied on about the contexts that a session gives out.

  One assignment of places to entities serves a whole run: every call that gives out contexts gives
  those, whenever it comes, and they are the contexts of the attributes, one for each, in their
  order.  A name that no entity has is refused and changes nothing.  So is an entity with an
  attribute whose bounds have no texts: none of its contexts is ever given out.

  A context shows full names exactly if it was told to, it and no other, at some earlier moment of
  the run (`AskedFullNames`).  The invariant behind that is `FlagsMatch`: opening an entity brings in
  contexts that nobody could have told anything yet, and telling a context marks its own place only,
  which is the only one with its entity and attribute.
-/
import Typewright.Proofs.Question
import Typewright.Proofs.Store

namespace Typewright

namespace Session

variable {s t : Session} {e : Entity} {a : Attribute} {place : ContextPlace}

/-! ## What a place is about -/

/-- The entity and the attribute of the context at a place. -/
def subjectAt? (s : Session) (place : ContextPlace) : Option (Entity × Attribute) :=
  (s.contextAt? place).map fun c => (c.entity, c.subject)

theorem subjectAt?_eq_baseline (s : Session) (place : ContextPlace) :
    s.subjectAt? place = (s.baseline[place]?).map fun c => (c.entity, c.subject) := by
  rw [baseline_getElem?, subjectAt?, Option.map_map]
  rfl

theorem Coherent.surroundings (h : Coherent s) {c : Context} (hc : s.contextAt? place = some c) :
    c.model = s.model ∧ c.environment = s.environment := by
  have hopened : c.asOpened ∈ s.baseline := List.mem_map_of_mem (List.mem_of_getElem? hc)
  obtain ⟨e, a, -, hfresh⟩ := h.owned _ hopened
  exact ⟨hfresh.model, hfresh.environment⟩

/-- A place is about an attribute exactly if the context that was opened there is the one of this
    attribute. -/
theorem Coherent.subjectAt?_eq_some_iff (h : Coherent s) : s.subjectAt? place = some (e, a) ↔
    ∃ c, s.baseline[place]? = some c ∧ c.IsFresh s.model s.environment e a := by
  rw [subjectAt?_eq_baseline, Option.map_eq_some_iff]
  refine exists_congr fun c => and_congr_right fun hc => ?_
  constructor
  · rintro ⟨⟩
    obtain ⟨e, a, -, hfresh⟩ := h.owned c (List.mem_of_getElem? hc)
    rw [hfresh.entity, hfresh.subject]
    exact hfresh
  · rintro ⟨-, -, rfl, rfl, -⟩
    rfl

/-- No two places are about the same attribute of the same entity. -/
theorem Coherent.place_unique (h : Coherent s) {place' : ContextPlace}
    (hplace : s.subjectAt? place = some (e, a)) (hplace' : s.subjectAt? place' = some (e, a)) :
    place = place' := by
  obtain ⟨c, hc, hfresh⟩ := h.subjectAt?_eq_some_iff.mp hplace
  obtain ⟨c', hc', hfresh'⟩ := h.subjectAt?_eq_some_iff.mp hplace'
  obtain rfl := hfresh.eq hfresh'
  obtain ⟨hlt, hc⟩ := List.getElem?_eq_some_iff.mp hc
  obtain ⟨hlt', hc'⟩ := List.getElem?_eq_some_iff.mp hc'
  exact (h.distinct.getElem_inj_iff).mp (hc.trans hc'.symm)

theorem Extends.subjectAt?_eq (h : Extends s t) (hplace : s.subjectAt? place = some (e, a)) :
    t.subjectAt? place = some (e, a) := by
  rw [subjectAt?_eq_baseline] at hplace ⊢
  obtain ⟨c, hc, heq⟩ := Option.map_eq_some_iff.mp hplace
  rw [h.baseline_eq hc, Option.map_some, heq]

/-- The places of an open entity are about its attributes, one for each, in their order. -/
theorem Coherent.map_subjectAt? (h : Coherent s) (he : e ∈ s.model.entities) (ho : s.IsOpen e) :
    (s.placesOf e).map s.subjectAt? = e.attributes.map fun a => some (e, a) := by
  obtain ⟨cs, hcs, hplaces⟩ := h.map_placesOf he ho
  have hbaseline : s.subjectAt? =
      (Option.map fun c : Context => (c.entity, c.subject)) ∘ (s.baseline[·]?) :=
    funext s.subjectAt?_eq_baseline
  rw [hbaseline, ← List.map_map, hplaces, List.map_map]
  refine (map_eq_of_forall₂ (Context.openedOf_eq_ok_iff.mp hcs) fun a c hc => ?_).symm
  rw [Function.comp_apply, Option.map_some, hc.entity, hc.subject]

/-- A place that is listed for an entity is about one of its attributes. -/
theorem Coherent.subjectAt?_of_mem (h : Coherent s) (he : e ∈ s.model.entities)
    (hplace : place ∈ s.placesOf e) : ∃ a, s.subjectAt? place = some (e, a) := by
  have hopen : s.IsOpen e := by
    cases hl : s.opened.lookup e.className with
    | some places => exact ⟨places, hl⟩
    | none =>
      rw [placesOf, hl] at hplace
      cases hplace
  have hsubject : s.subjectAt? place ∈ e.attributes.map fun a => some (e, a) := by
    rw [← h.map_subjectAt? he hopen]
    exact List.mem_map_of_mem hplace
  obtain ⟨a, -, ha⟩ := List.mem_map.mp hsubject
  exact ⟨a, ha.symm⟩

theorem Coherent.placesOf_nodup (h : Coherent s) (he : e ∈ s.model.entities) :
    (s.placesOf e).Nodup := by
  cases hl : s.opened.lookup e.className with
  | none =>
    rw [placesOf, hl]
    exact List.nodup_nil
  | some places =>
    apply List.Nodup.of_map s.subjectAt?
    rw [h.map_subjectAt? he ⟨places, hl⟩]
    exact e.attributes_nodup.map fun a a' hsame => (Prod.mk.inj (Option.some.inj hsame)).2

/-- All places that are listed differ. -/
theorem Coherent.places_nodup (h : Coherent s) : (s.model.entities.flatMap s.placesOf).Nodup := by
  refine List.nodup_flatMap.mpr ⟨fun e he => h.placesOf_nodup he, ?_⟩
  have hdistinct : s.model.entities.Nodup := s.model.distinct.of_map _
  refine hdistinct.imp_of_mem fun {e e'} he he' hne place hplace hplace' => hne ?_
  -- a place is about an attribute of one entity only
  obtain ⟨a, ha⟩ := h.subjectAt?_of_mem he hplace
  obtain ⟨a', ha'⟩ := h.subjectAt?_of_mem he' hplace'
  exact (Prod.mk.inj (Option.some.inj (ha.symm.trans ha'))).1

/-! ## Full names -/

/-- Among the operations that a session starts with is one that told the context of this attribute
    to show full names. -/
def AskedFullNames (s : Session) (ops : List Operation) (e : Entity) (a : Attribute) : Prop :=
  ∃ earlier place later, ops = earlier ++ .useFullNames place :: later ∧
    (s.after earlier).subjectAt? place = some (e, a)

/-- One operation more makes a difference only if it tells a context to show full names. -/
theorem askedFullNames_concat {ops : List Operation} {op : Operation} :
    s.AskedFullNames (ops ++ [op]) e a ↔
      s.AskedFullNames ops e a ∨
        ∃ place, op = .useFullNames place ∧ (s.after ops).subjectAt? place = some (e, a) := by
  constructor
  · rintro ⟨earlier, place, later, hops, hplace⟩
    -- the operation in question is the last one, or it was among the others before
    rcases List.eq_nil_or_concat' later with rfl | ⟨front, last, rfl⟩
    · obtain ⟨rfl, hop⟩ := List.append_inj' hops rfl
      cases hop
      exact .inr ⟨place, rfl, hplace⟩
    · rw [← List.cons_append, ← List.append_assoc] at hops
      exact .inl ⟨earlier, place, front, (List.append_inj' hops rfl).1, hplace⟩
  · rintro (⟨earlier, place, later, rfl, hplace⟩ | ⟨place, rfl, hplace⟩)
    · exact ⟨earlier, place, later ++ [op], by simp, hplace⟩
    · exact ⟨ops, place, [], rfl, hplace⟩

/-- The contexts that show full names are those that `asked` says were told to. -/
structure FlagsMatch (s : Session) (asked : Entity → Attribute → Prop) : Prop where
  shown : ∀ place c, s.contextAt? place = some c → (c.fullNames = true ↔ asked c.entity c.subject)
  /-- Only contexts that are there were told anything. -/
  known : ∀ e a, asked e a → ∃ place, s.subjectAt? place = some (e, a)

theorem flagsMatch_start (m : Model) (env : Environment) (strict : Bool) :
    FlagsMatch (start m env strict) fun _ _ => False where
  shown := by intro place c hc; cases hc
  known := fun _ _ h => h.elim

/-- The contexts of an entity that is opened have not been told anything. -/
theorem FlagsMatch.opening {asked : Entity → Attribute → Prop} {cs : List Context}
    (h : FlagsMatch s asked) (hs : Coherent s) (hnew : s.opened.lookup e.className = none)
    (hcs : (Context.openedOf s.model s.environment e).outcome = .ok cs) :
    FlagsMatch (s.opening e cs) asked where
  shown := by
    intro place c hc
    rw [contextAt?, Session.opening, List.getElem?_append] at hc
    split at hc
    · exact h.shown place c hc
    -- the place is new, and nobody can have named it before
    · have hnow : c ∈ cs := List.mem_of_getElem? hc
      obtain ⟨a, -, hfresh⟩ := Context.isFresh_of_mem_openedOf hcs hnow
      have hnever : ¬ asked e a := by
        intro hasked
        obtain ⟨place', hplace'⟩ := h.known e a hasked
        obtain ⟨c', hc', hfresh'⟩ := hs.subjectAt?_eq_some_iff.mp hplace'
        obtain rfl := hfresh.eq hfresh'
        exact hs.disjoint hnew hcs (List.mem_of_getElem? hc') hnow
      rw [hfresh.entity, hfresh.subject, hfresh.fullNames]
      exact iff_of_false Bool.false_ne_true hnever
  known := by
    intro e' a hasked
    obtain ⟨place, hplace⟩ := h.known e' a hasked
    exact ⟨place, (extends_opening hnew hcs).subjectAt?_eq hplace⟩

theorem FlagsMatch.opensTo {asked : Entity → Attribute → Prop} (h : FlagsMatch s asked)
    (hs : Coherent s) (hst : OpensTo s t) : FlagsMatch t asked := by
  induction hst with
  | refl => exact h
  | opening hst' _ hnew hcs ih => exact ih.opening (hs.opensTo hst') hnew hcs

/-- Telling a context to show full names adds its own attribute to those that were asked for. -/
theorem FlagsMatch.useFullNames {asked : Entity → Attribute → Prop} (h : FlagsMatch s asked)
    (hs : Coherent s) (place : ContextPlace) :
    FlagsMatch (s.useFullNames place)
      fun e a => asked e a ∨ s.subjectAt? place = some (e, a) where
  shown := by
    intro other c hc
    by_cases heq : other = place
    · subst heq
      rw [contextAt?_useFullNames] at hc
      obtain ⟨c', hc', rfl⟩ := Option.map_eq_some_iff.mp hc
      have hsubject : s.subjectAt? other = some (c'.entity, c'.subject) := by
        rw [subjectAt?, hc', Option.map_some]
      exact iff_of_true rfl (.inr hsubject)
    · rw [contextAt?_useFullNames_of_ne heq] at hc
      have hsubject : s.subjectAt? other = some (c.entity, c.subject) := by
        rw [subjectAt?, hc, Option.map_some]
      -- the place that was told is about another attribute
      have hother : s.subjectAt? place ≠ some (c.entity, c.subject) :=
        fun hplace => heq (hs.place_unique hsubject hplace)
      rw [h.shown other c hc, or_iff_left hother]
  known := by
    rintro e a (hasked | hplace)
    · obtain ⟨place', hplace'⟩ := h.known e a hasked
      exact ⟨place', (s.extends_useFullNames place).subjectAt?_eq hplace'⟩
    · exact ⟨place, (s.extends_useFullNames place).subjectAt?_eq hplace⟩

/-- **A context shows full names exactly if it was told to.** -/
theorem flagsMatch_after (m : Model) (env : Environment) (strict : Bool) (ops : List Operation) :
    FlagsMatch ((start m env strict).after ops) ((start m env strict).AskedFullNames ops) := by
  induction ops using List.reverseRecOn with
  | nil =>
    have hnone : (start m env strict).AskedFullNames [] = fun _ _ => False := by
      funext e a
      simp [AskedFullNames]
    rw [hnone]
    exact flagsMatch_start m env strict
  | append_singleton ops op ih =>
    have hs := coherent_after m env strict ops
    have hasked : (start m env strict).AskedFullNames (ops ++ [op]) = fun e a =>
        (start m env strict).AskedFullNames ops e a ∨ ∃ place, op = .useFullNames place ∧
          ((start m env strict).after ops).subjectAt? place = some (e, a) :=
      funext fun e => funext fun a => propext askedFullNames_concat
    rw [after_concat, hasked]
    obtain ⟨place, rfl, hflag⟩ | ⟨hother, hopens⟩ :=
      ((start m env strict).after ops).perform_cases op
    · rw [hflag]
      simpa using ih.useFullNames hs place
    · simpa [hother] using ih.opensTo hs hopens

/-! ## Calls that give out contexts -/

/-- A call for the contexts of an entity fails as opening them would, if it does. -/
theorem Coherent.contextsFor_error_iff (h : Coherent s) (he : e ∈ s.model.entities)
    {failure : Failure} : (s.contextsFor e.className).1.outcome = .error failure ↔
      (Context.openedOf s.model s.environment e).outcome = .error failure := by
  cases hcs : (Context.openedOf s.model s.environment e).outcome with
  | error first => simp [(h.contextsFor_of_error he hcs).1]
  | ok cs => simp [(contextsFor_of_mem he hcs).1]

/-- A call for all contexts fails as opening all of them would, if it does. -/
theorem Coherent.allContexts_error_iff (h : Coherent s) {failure : Failure} :
    s.allContexts.1.outcome = .error failure ↔
      (s.model.openedContexts s.environment).outcome = .error failure := by
  cases hcs : (s.model.openedContexts s.environment).outcome with
  | error first => simp [h.allContexts_of_error hcs]
  | ok cs => simp [(allContexts_eq (Model.openedContexts_succeeds_iff.mp ⟨cs, hcs⟩)).1]

theorem Coherent.contextsFor_refused_iff (h : Coherent s) (name : Text) :
    (∃ failure, (s.contextsFor name).1.outcome = .error failure ∧ failure.kind = .usage) ↔
      ∀ e ∈ s.model.entities, e.className ≠ name := by
  constructor
  · rintro ⟨failure, hfailure, hkind⟩ e he rfl
    rw [h.contextsFor_error_iff he] at hfailure
    rcases Context.isOversize_of_openedOf hfailure with hother | hother
    · rw [hkind] at hother
      cases hother
    · rw [hkind] at hother
      cases hother
  · intro hnone
    rw [h.contextsFor_of_unknown hnone]
    exact ⟨.unknownEntity name s.model.name, rfl, rfl⟩

theorem Coherent.contextsFor_obstructed_iff (h : Coherent s) (he : e ∈ s.model.entities) :
    (∃ failure, (s.contextsFor e.className).1.outcome = .error failure ∧ failure.IsOversize) ↔
      ¬ e.HaveTexts := by
  simp only [h.contextsFor_error_iff he, Context.openedOf_fails_iff]

theorem Coherent.allContexts_obstructed_iff (h : Coherent s) :
    (∃ failure, s.allContexts.1.outcome = .error failure ∧ failure.IsOversize) ↔
      ¬ s.model.HaveTexts := by
  simp only [h.allContexts_error_iff, Model.openedContexts_fails_iff]

/-- A call that fails leaves the session as it was. -/
theorem Coherent.contextsFor_failed (h : Coherent s) {name : Text} {failure : Failure}
    (hfailure : (s.contextsFor name).1.outcome = .error failure) : (s.contextsFor name).2 = s := by
  by_cases hknown : ∃ e ∈ s.model.entities, e.className = name
  · obtain ⟨e, he, rfl⟩ := hknown
    exact (h.contextsFor_of_error he ((h.contextsFor_error_iff he).mp hfailure)).2
  · push Not at hknown
    rw [h.contextsFor_of_unknown hknown]

theorem after_split (s : Session) (earlier later : List Operation) (op : Operation) :
    s.after (earlier ++ op :: later) = ((s.after earlier).perform op).after later :=
  s.after_append earlier (op :: later)

/-- The places that were given for an entity are the ones listed for it ever after. -/
theorem contextsFor_lasting (earlier later : List Operation)
    (he : e ∈ (s.after earlier).model.entities) (htexts : e.HaveTexts)
    (ht : Extends (s.after (earlier ++ .contextsFor e.className :: later)) t) :
    ((s.after earlier).contextsFor e.className).1.outcome = .ok (t.placesOf e) ∧
      (s.after (earlier ++ .contextsFor e.className :: later)).IsOpen e := by
  rw [after_split] at ht ⊢
  obtain ⟨cs, hcs⟩ := Context.openedOf_succeeds_iff.mpr htexts
  obtain ⟨hplaces, hopen⟩ := contextsFor_of_mem he hcs
  have hlater := extends_after ((s.after earlier).contextsFor e.className).2 later
  rw [(hlater.trans ht).placesOf_eq hopen]
  exact ⟨hplaces, hlater.isOpen hopen⟩

theorem allContexts_lasting (earlier later : List Operation)
    (htexts : (s.after earlier).model.HaveTexts)
    (ht : Extends (s.after (earlier ++ .allContexts :: later)) t) :
    (s.after earlier).allContexts.1.outcome =
        .ok ((s.after earlier).model.entities.flatMap t.placesOf) ∧
      ∀ e ∈ (s.after earlier).model.entities,
        (s.after (earlier ++ .allContexts :: later)).IsOpen e := by
  rw [after_split] at ht ⊢
  obtain ⟨hplaces, hopen⟩ := allContexts_eq htexts
  have hlater := extends_after (s.after earlier).allContexts.2 later
  refine ⟨?_, fun e he => hlater.isOpen (hopen e he)⟩
  rw [hplaces]
  exact congrArg Except.ok
    (List.flatMap_congr fun e he => ((hlater.trans ht).placesOf_eq (hopen e he)).symm)

/-! ## The contract -/

/-- What holds of a session `now` that some operations have led to from a session `first` in which
    nothing was done yet, if `placesOf` tells the places of the contexts of an entity. -/
structure StoreContract (first : Session) (ops : List Operation) (now : Session)
    (placesOf : Entity → List ContextPlace) : Prop where
  /-- Asking for the contexts of an entity is refused as misuse exactly if no entity has the
      name. -/
  refused_iff : ∀ name,
    (∃ failure, (now.contextsFor name).1.outcome = .error failure ∧ failure.kind = .usage) ↔
      ∀ e ∈ first.model.entities, e.className ≠ name
  /-- For an entity of the model the call fails exactly if the bounds of some attribute have no
      text. -/
  obstructed_iff : ∀ e ∈ first.model.entities,
    (∃ failure, (now.contextsFor e.className).1.outcome = .error failure ∧ failure.IsOversize) ↔
      ¬ e.HaveTexts
  /-- The call for all contexts fails in this way and in no other. -/
  obstructedAll_iff : (∃ failure, now.allContexts.1.outcome = .error failure ∧ failure.IsOversize) ↔
    ¬ first.model.HaveTexts
  /-- A call that fails leaves the session as it was. -/
  unchanged : ∀ name failure, (now.contextsFor name).1.outcome = .error failure →
    (now.contextsFor name).2 = now
  /-- Every other call for the contexts of an entity gave the same ones, and these are the contexts
      of its attributes, in their order. -/
  given : ∀ e ∈ first.model.entities, e.HaveTexts →
    ∀ earlier later, ops = earlier ++ .contextsFor e.className :: later →
      ((first.after earlier).contextsFor e.className).1.outcome = .ok (placesOf e) ∧
        (placesOf e).map now.subjectAt? = e.attributes.map fun a => some (e, a)
  /-- Every call for all contexts gave those of one entity after another, the same ones again. -/
  givenAll : first.model.HaveTexts → ∀ earlier later, ops = earlier ++ .allContexts :: later →
    (first.after earlier).allContexts.1.outcome = .ok (first.model.entities.flatMap placesOf) ∧
      ∀ e ∈ first.model.entities,
        (placesOf e).map now.subjectAt? = e.attributes.map fun a => some (e, a)
  /-- No context is given out for two attributes. -/
  separate : (first.model.entities.flatMap placesOf).Nodup
  /-- The contexts see the model and the environment of the session. -/
  surroundings : ∀ place c, now.contextAt? place = some c →
    c.model = first.model ∧ c.environment = first.environment
  /-- A context shows full names exactly if the context of its attribute was told to. -/
  shown_iff : ∀ place c, now.contextAt? place = some c →
    (c.fullNames = true ↔ first.AskedFullNames ops c.entity c.subject)
  /-- It says so, and shows its type by the full name then and by the short one otherwise. -/
  names : ∀ place c, now.contextAt? place = some c →
    c.ask "uses_full_type" = some (Context.ofBool c.fullNames) ∧
      c.ask "type" = if c.fullNames then c.ask "full_type" else c.ask "simple_type"
  /-- Telling a context to show full names changes no other one. -/
  others : ∀ place other, other ≠ place →
    (now.useFullNames place).contextAt? other = now.contextAt? other
  /-- On the context itself it changes the answers to two questions and two methods at most. -/
  own : ∀ place c, now.contextAt? place = some c →
    ∃ told, (now.useFullNames place).contextAt? place = some told ∧
      (∀ question, question ≠ "uses_full_type" → question ≠ "type" →
        told.ask question = c.ask question) ∧
      ∀ method, (∀ width, method ≠ .paddedType width) → method ≠ .declaration →
        told.call method = c.call method

end Session

end Typewright
