/-
  The check of the constraints on values: bounds that cross, dates that are to be past and future
  at once, and constraints that mean nothing for the kind of the attribute.

  Bounds that cross are named in what is found, so the check fails if one of them cannot be written.
-/
import Typewright.Check.Naming

namespace Typewright

/-- Two bounds of which the lower one lies above the upper one. -/
def crossing {α : Type} (above : α → α → Bool) : Option α → Option α → Option (α × α)
  | some low, some high => if above low high then some (low, high) else none
  | _, _ => none

/-- The bounds on the length, if no length can satisfy them. -/
def Constraints.crossingLengths (c : Constraints) : Option (Nat × Nat) :=
  crossing (fun low high => high < low) c.minLength c.maxLength

/-- The same, if both of them can be written. -/
def Constraints.writtenCrossing (c : Constraints) : Option (Writable × Writable) := do
  let (low, high) ← c.crossingLengths
  pure (← Writable.ofInt? low, ← Writable.ofInt? high)

/-- The bounds on the length cross, and there are no words for that. -/
def Constraints.crossUnwritably (c : Constraints) : Bool :=
  c.crossingLengths.isSome && c.writtenCrossing.isNone

/-- The bounds on the value, if no number can satisfy them. -/
def Constraints.crossingValues (c : Constraints) : Option (Decimal × Decimal) :=
  crossing (fun low high => high.less low) c.minValue c.maxValue

/-- Something is said about when the value has to lie. -/
def Temporal.isConstrained (t : Temporal) : Bool :=
  t.past || t.future || t.before.getD [] ≠ [] || t.after.getD [] ≠ []

/-- A literal is given for a truth value. -/
def BooleanLiterals.isGiven (l : BooleanLiterals) : Bool :=
  l.whenTrue.getD [] ≠ [] || l.whenFalse.getD [] ≠ []

/-- What there is to say about the constraints of an attribute, and can be said. -/
def Entity.constraintFindings (e : Entity) (a : Attribute) : List Finding :=
  (a.constraints.writtenCrossing.map fun (low, high) =>
      .lengthsCross e.className a.name low high).toList ++
    (a.constraints.crossingValues.map fun (low, high) =>
      .valuesCross e.className a.name low high).toList ++
    findingIf (a.temporal.past && a.temporal.future) (.pastAndFuture e.className a.name) ++
    findingIf (a.temporal.isConstrained && !a.type.isTemporal)
      (.temporalConstraint e.className a.name a.type) ++
    findingIf (a.literals.isGiven && a.type ≠ .boolean)
      (.booleanLiteral e.className a.name a.type) ++
    findingIf (a.constraints.longText && a.type ≠ .string) (.longText e.className a.name a.type)

/-- The bounds on the length of some attribute cross, and there are no words for that. -/
def Model.crossesUnwritably (m : Model) : Bool :=
  m.entities.any fun e => e.attributes.any fun a => a.constraints.crossUnwritably

/-- The findings about constraints. -/
def Model.constraintFindings (m : Model) : Except Failure (List Finding) :=
  if m.crossesUnwritably then .error .unwritableNumber
  else .ok (m.eachAttribute Entity.constraintFindings)

end Typewright
