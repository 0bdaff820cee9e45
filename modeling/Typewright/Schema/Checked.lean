/-
  Checking that does not stop at the first fault.

  A checked value is either a value or the faults that were found.  Two checks side by side keep
  the faults of both, the first one's in front; a check that follows another runs only if that one
  found nothing.
-/
import Typewright.Schema.Fault

namespace Typewright

/-- A value, or what is wrong with its description. -/
inductive Checked (α : Type) where
  /-- Nothing is wrong. -/
  | passed (a : α)
  /-- These faults were found, in order. -/
  | failed (faults : List Fault)

namespace Checked

variable {α β : Type}

/-- One fault at the description itself. -/
def fault (cause : Cause) : Checked α := .failed [⟨[], cause⟩]

/-- Rejects the description as a whole. -/
def object (reason : Objection) : Checked α := fault (.objection reason)

/-- Changes the value. -/
def map (f : α → β) : Checked α → Checked β
  | passed a => passed (f a)
  | failed faults => failed faults

/-- Applies a checked function to a checked value, keeping the faults of both. -/
def apply : Checked (α → β) → Checked α → Checked β
  | passed f, passed a => passed (f a)
  | passed _, failed faults => failed faults
  | failed faults, passed _ => failed faults
  | failed faults, failed more => failed (faults ++ more)

/-- A check that is made only if nothing was wrong so far. -/
def andThen : Checked α → (α → Checked β) → Checked β
  | passed a, next => next a
  | failed faults, _ => failed faults

/-- The same check of a part, seen from the whole. -/
def under (step : PathStep) : Checked α → Checked α
  | passed a => passed a
  | failed faults => failed (faults.map (Fault.under step))

/-- The outcome of a check that gives an objection. -/
def ofExcept : Except Objection α → Checked α
  | .ok a => passed a
  | .error reason => object reason

/-- The outcome of a check. -/
def toExcept : Checked α → Except (List Fault) α
  | passed a => .ok a
  | failed faults => .error faults

instance : Applicative Checked where
  map := map
  pure := passed
  seq f a := f.apply (a ())

@[simp] theorem map_passed (f : α → β) (a : α) : f <$> passed a = passed (f a) := rfl

@[simp] theorem seq_passed (f : α → β) (a : α) : passed f <*> passed a = passed (f a) := rfl

@[simp] theorem pure_eq (a : α) : (pure a : Checked α) = passed a := rfl

@[simp] theorem andThen_passed (a : α) (next : α → Checked β) :
    (passed a).andThen next = next a := rfl

@[simp] theorem under_passed (step : PathStep) (a : α) :
    (passed a).under step = passed a := rfl

theorem seq_eq_passed_iff {f : Checked (α → β)} {a : Checked α} {b : β} :
    f <*> a = passed b ↔ ∃ g x, f = passed g ∧ a = passed x ∧ g x = b := by
  show f.apply a = passed b ↔ _
  cases f <;> cases a <;> simp [apply]

theorem map_eq_passed_iff {f : α → β} {a : Checked α} {b : β} :
    f <$> a = passed b ↔ ∃ x, a = passed x ∧ f x = b := by
  show a.map f = passed b ↔ _
  cases a <;> simp [map]

theorem andThen_eq_passed_iff {a : Checked α} {next : α → Checked β} {b : β} :
    a.andThen next = passed b ↔ ∃ x, a = passed x ∧ next x = passed b := by
  cases a <;> simp [andThen]

theorem under_eq_passed_iff {step : PathStep} {a : Checked α} {b : α} :
    a.under step = passed b ↔ a = passed b := by
  cases a <;> simp [under]

end Checked

end Typewright
