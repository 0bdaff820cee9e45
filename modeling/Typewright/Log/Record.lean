/-
  Log records: what a run reports while it works, beside its results.

  A record has a level and comes from one part of the library, its channel.  Work that reports and
  may fail is `Traced`: it carries its records in order, and the records written before a failure
  stay.
-/
import Typewright.Failure

namespace Typewright

namespace Log

/-- How much a record matters. -/
inductive Level where
  | debug | info | warning | error | critical
  deriving DecidableEq, Repr

/-- The word for a level. -/
def Level.word : Level → String
  | debug => "DEBUG"
  | info => "INFO"
  | warning => "WARNING"
  | error => "ERROR"
  | critical => "CRITICAL"

/-- The number by which levels are compared. -/
def Level.number : Level → Nat
  | debug => 10
  | info => 20
  | warning => 30
  | error => 40
  | critical => 50

/-- The level that a word stands for: its own word, or a short one for warnings and another one for
    what is critical. -/
def Level.ofWord? (word : String) : Option Level :=
  match word with
  | "WARN" => some warning
  | "FATAL" => some critical
  | _ => [debug, info, warning, error, critical].find? (·.word == word)

/-- The parts of the library that report. -/
inductive Channel where
  | models | sqlTypes | references | generation | checks | resolver
  deriving DecidableEq, Repr

/-- The name under which the whole library reports. -/
def rootName : String := "neutralgen"

/-- The name under which a part reports. -/
def Channel.name : Channel → String
  | models => rootName ++ ".models"
  | sqlTypes => rootName ++ ".sql_types"
  | references => rootName ++ ".foreign_keys"
  | generation => rootName ++ ".generated_values"
  | checks => rootName ++ ".validators"
  | resolver => rootName ++ ".resolver"

/-- One report. -/
structure Record where
  level : Level
  channel : Channel
  message : Text
  deriving DecidableEq, Repr

end Log

/-- Work that reports, and gives a result or fails. -/
structure Traced (α : Type) where
  /-- The records, in order. -/
  records : List Log.Record
  outcome : Except Failure α

namespace Traced

variable {α β : Type}

/-- Work without reports. -/
def ofExcept (outcome : Except Failure α) : Traced α := ⟨[], outcome⟩

/-- A result without reports. -/
def done (a : α) : Traced α := ⟨[], .ok a⟩

/-- A failure without reports. -/
def fail (e : Failure) : Traced α := ⟨[], .error e⟩

/-- A report and nothing else. -/
def note (level : Log.Level) (channel : Log.Channel) (message : Text) : Traced Unit :=
  ⟨[⟨level, channel, message⟩], .ok ()⟩

/-- Continues with a result; a failure ends the work. -/
def andThen (t : Traced α) (next : α → Traced β) : Traced β :=
  match t.outcome with
  | .ok a => ⟨t.records ++ (next a).records, (next a).outcome⟩
  | .error e => ⟨t.records, .error e⟩

/-- The work has a result. -/
def Succeeds (t : Traced α) : Prop := ∃ a, t.outcome = .ok a

instance : Monad Traced where
  pure := done
  bind := andThen

/-- Work on one thing after another, up to the first failure. -/
def each (work : α → Traced β) : List α → Traced (List β)
  | [] => pure []
  | a :: rest => do
    let first ← work a
    let more ← each work rest
    pure (first :: more)

@[simp] theorem outcome_done (a : α) : (done a).outcome = .ok a := rfl

@[simp] theorem outcome_fail (e : Failure) : (fail e : Traced α).outcome = .error e := rfl

@[simp] theorem outcome_note (l : Log.Level) (c : Log.Channel) (m : Text) :
    (note l c m).outcome = .ok () := rfl

@[simp] theorem outcome_ofExcept (o : Except Failure α) : (ofExcept o).outcome = o := rfl

@[simp] theorem outcome_pure (a : α) : (pure a : Traced α).outcome = .ok a := rfl

/-- The result of work in two parts: that of the second, if the first has one. -/
@[simp] theorem outcome_bind (t : Traced α) (next : α → Traced β) :
    (t >>= next).outcome = t.outcome.bind fun a => (next a).outcome := by
  show (t.andThen next).outcome = _
  unfold andThen
  cases t.outcome <;> rfl

@[simp] theorem succeeds_done (a : α) : (done a).Succeeds := ⟨a, rfl⟩

theorem succeeds_ofExcept {o : Except Failure α} {a : α} (h : o = .ok a) : (ofExcept o).Succeeds :=
  ⟨a, h⟩

/-- Work in two parts has a result if both parts do. -/
theorem Succeeds.bind {t : Traced α} {next : α → Traced β} (h : t.Succeeds)
    (hnext : ∀ a, t.outcome = .ok a → (next a).Succeeds) : (t >>= next).Succeeds := by
  obtain ⟨a, ha⟩ := h
  obtain ⟨b, hb⟩ := hnext a ha
  exact ⟨b, by rw [outcome_bind, ha]; exact hb⟩

end Traced

/-! ## Outcomes in parts -/

section Outcomes

variable {α β : Type} {outcome : Except Failure α} {failure : Failure}

theorem map_eq_ok_iff {f : α → β} {b : β} :
    outcome.map f = .ok b ↔ ∃ a, outcome = .ok a ∧ f a = b := by
  cases outcome <;> simp [Except.map]

@[simp] theorem map_eq_error_iff {f : α → β} :
    outcome.map f = .error failure ↔ outcome = .error failure := by
  cases outcome <;> simp [Except.map]

theorem bind_eq_ok_iff {next : α → Except Failure β} {b : β} :
    outcome.bind next = .ok b ↔ ∃ a, outcome = .ok a ∧ next a = .ok b := by
  cases outcome <;> simp [Except.bind]

theorem bind_eq_error_iff {next : α → Except Failure β} :
    outcome.bind next = .error failure ↔
      outcome = .error failure ∨ ∃ a, outcome = .ok a ∧ next a = .error failure := by
  cases outcome <;> simp [Except.bind]

end Outcomes

end Typewright
