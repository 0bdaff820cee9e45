/-
  Sessions: one model in one environment, with the contexts that were asked for so far.

  The contexts of an entity are opened once, which is when the decisions about generated values are
  reported, and the same ones are given out ever after.  If one of them cannot be opened, none is
  kept.  A session stores them in the order in which they were opened, and a context is known by its
  place in that store: two answers mean the same context if they name the same place.  The one thing
  that can be changed in a context is that it shows full names from some moment on.

  An operation gives what it reports and its outcome, and the session after it.
-/
import Typewright.Check.Suite
import Typewright.Resolution.Report

namespace Typewright

/-- The place of a context in the store of a session, counted from zero. -/
abbrev ContextPlace := Nat

/-- A model in an environment, and what was done with its contexts. -/
structure Session where
  model : Model
  environment : Environment
  /-- A model with errors is not resolved. -/
  strict : Bool
  /-- All contexts that are open, the oldest first. -/
  store : List Context
  /-- The places of the contexts of every entity that is open, by its class name. -/
  opened : List (Text × List ContextPlace)

namespace Session

/-- A session in which nothing was done yet. -/
def start (model : Model) (environment : Environment) (strict : Bool) : Session :=
  ⟨model, environment, strict, [], []⟩

/-! ## Contexts -/

/-- The context at a place, as it is now. -/
def contextAt? (s : Session) (place : ContextPlace) : Option Context := s.store[place]?

/-- The contexts at some places, as they are now. -/
def contextsAt (s : Session) (places : List ContextPlace) : List Context :=
  places.filterMap s.contextAt?

/-- The places that the contexts of an entity get when it is opened. -/
def nextPlaces (s : Session) (e : Entity) : List ContextPlace :=
  List.range' s.store.length e.attributes.length

/-- The session in which an entity is open: its contexts come behind those that are there. -/
def opening (s : Session) (e : Entity) (contexts : List Context) : Session :=
  { s with
    store := s.store ++ contexts
    opened := (e.className, s.nextPlaces e) :: s.opened }

/-- The places of the contexts of the entity with this name, which is opened if it is not open. -/
def contextsFor (s : Session) (entity : Text) : Traced (List ContextPlace) × Session :=
  match s.opened.lookup entity with
  | some places => (.done places, s)
  | none =>
    match s.model.entity? entity with
    | some e =>
      let opened := Context.openedOf s.model s.environment e
      match opened.outcome with
      | .ok contexts => (⟨opened.records, .ok (s.nextPlaces e)⟩, s.opening e contexts)
      | .error failure => (⟨opened.records, .error failure⟩, s)
    | none => (.fail (.unknownEntity entity s.model.name), s)

/-- The places of the contexts of one entity after another, up to the first failure. -/
def contextsForEach (s : Session) : List Entity → Traced (List ContextPlace) × Session
  | [] => (.done [], s)
  | e :: rest =>
    let (first, next) := s.contextsFor e.className
    match first.outcome with
    | .error failure => (⟨first.records, .error failure⟩, next)
    | .ok places =>
      let (more, last) := next.contextsForEach rest
      (⟨first.records ++ more.records, more.outcome.map (places ++ ·)⟩, last)

/-- The places of the contexts of all entities, in the order of the model. -/
def allContexts (s : Session) : Traced (List ContextPlace) × Session :=
  s.contextsForEach s.model.entities

/-- From now on the context at this place shows full names. -/
def useFullNames (s : Session) (place : ContextPlace) : Session :=
  { s with store := s.store.modify place Context.useFullNames }

/-! ## Runs -/

/-- The issues that the checks report. -/
def validate (s : Session) : Traced Issues := s.model.validate (some s.environment)

/-- How the reference of an attribute comes out.  A missing one is a complaint and does not end the
    run; any other failure does. -/
def referenceOutcome (c : Context) : Traced ReferenceOutcome :=
  if !c.subject.isForeignKey then .done .notAsked
  else
    let followed := c.referenced
    match followed.outcome with
    | .ok e => ⟨followed.records, .ok (.found e.className)⟩
    | .error (.noReference owner name) =>
      let reason : Failure := .noReference owner name
      ⟨followed.records ++ [⟨.warning, .resolver, reason.message⟩], .ok (.absent reason)⟩
    | .error failure => ⟨followed.records, .error failure⟩

/-- What a run finds out about an attribute. -/
def row (c : Context) : Traced Row := do
  let snapshot ← c.snapshot
  let reference ← referenceOutcome c
  pure ⟨snapshot, reference⟩

/-- What a run finds out about one attribute after another, up to the first failure. -/
def rows : List Context → Traced (List Row) := Traced.each row

/-- The report of a run that stops after the checks. -/
def checkedReport (s : Session) (issues : Issues) : Report :=
  { Report.empty with
    modelName := s.model.name
    language := s.environment.language.word
    database := (s.environment.dialect.map Dialect.word).getD ""
    counts := { Report.empty.counts with entities := s.model.entities.length }
    errors := issues.errors.map (·.message)
    warnings := issues.warnings.map (·.message) }

/-- The report of a run over all attributes. -/
def fullReport (s : Session) (issues : Issues) (rows : List Row) : Report :=
  { s.checkedReport issues with
    success := true
    counts := Counts.ofRows s.model.entities.length rows
    complaints := rows.filterMap (·.reference.complaint?)
    rows := rows }

/-- Reports that a model is not resolved because of its errors. -/
def noteSkipped (s : Session) (issues : Issues) : Traced Unit :=
  .note .error .resolver
    ("Resolution of '" ++ s.model.name ++ "' skipped: " ++ toString issues.errors.length ++
      " validation error(s).")

/-- A run ends with the checks: they have failed, or the session is strict and the model has
    errors. -/
def skips (s : Session) : Bool :=
  match s.validate.outcome with
  | .ok issues => s.strict && !issues.isValid
  | .error _ => true

/-- Checks the model and resolves its attributes; in a strict session only if there are no
    errors. -/
def resolve (s : Session) : Traced Report × Session :=
  if s.skips then
    (do
      let issues ← s.validate
      s.noteSkipped issues
      pure (s.checkedReport issues), s)
  else
    let (places, next) := s.allContexts
    (do
      let issues ← s.validate
      let found ← rows (next.contextsAt (← places))
      pure (s.fullReport issues found), next)

/-! ## Sequences of operations -/

/-- What can be done with a session. -/
inductive Operation where
  | contextsFor (entity : Text)
  | allContexts
  | validate
  | resolve
  | useFullNames (place : ContextPlace)

/-- The session after an operation, whether the operation fails or not. -/
def perform (s : Session) : Operation → Session
  | .contextsFor entity => (s.contextsFor entity).2
  | .allContexts => s.allContexts.2
  | .validate => s
  | .resolve => s.resolve.2
  | .useFullNames place => s.useFullNames place

/-- The session after some operations, one after another. -/
def after (s : Session) (operations : List Operation) : Session := operations.foldl perform s

/-! ## Texts -/

/-- The short text of a session. -/
def summary (s : Session) : Text :=
  "<ModelResolver " ++ s.model.name ++ " (" ++ s.environment.language.word ++ "/" ++
    s.environment.databaseWord ++ ")>"

end Session

end Typewright
