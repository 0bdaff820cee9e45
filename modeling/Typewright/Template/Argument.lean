/-
  What templates hand to helpers, and what they get back.

  An argument is data or the contexts of attributes.  A list of either is a collection, and so are
  the characters of a text and the names of an object.
-/
import Typewright.Data.Display
import Typewright.Resolution.Context

namespace Typewright.Template

/-- An argument of a helper. -/
inductive Argument where
  /-- Data. -/
  | value (v : Value)
  /-- Attributes in their contexts. -/
  | contexts (cs : List Context)

/-- A member of a collection. -/
inductive Item where
  | value (v : Value)
  | context (c : Context)

/-- What a helper gives back. -/
inductive Result where
  | value (v : Value)
  | items (is : List Item)

/-- A member of a collection as data: a context by its short text. -/
def Item.toValue : Item → Value
  | value v => v
  | context c => .text c.summary

/-- A result as data. -/
def Result.toValue : Result → Value
  | value v => v
  | items is => .list (is.map Item.toValue)

namespace Argument

/-- An argument as a result. -/
def toResult : Argument → Result
  | value v => .value v
  | contexts cs => .items (cs.map .context)

/-- An argument as text. -/
def display : Argument → Text
  | value v => v.display
  | contexts cs => "[" ++ Text.join ", " (cs.map Context.summary) ++ "]"

/-- Nothing is given. -/
def isNull : Argument → Bool
  | value .null => true
  | _ => false

/-- Counts as something. -/
def isSomething : Argument → Bool
  | value v => v.isSomething
  | contexts cs => !cs.isEmpty

/-- The members of a collection. -/
def items? : Argument → Option (List Item)
  | contexts cs => some (cs.map .context)
  | value (.list vs) => some (vs.map .value)
  | value (.text s) => some (s.map fun c => .value (.text [c]))
  | value (.object fields) => some (fields.map fun entry => .value entry.1.toValue)
  | value _ => none

/-- The members of a list; a text or an object is none, and neither is nothing at all. -/
def sequence (helper : String) : Argument → Except Failure (List Item)
  | contexts cs => .ok (cs.map .context)
  | value (.list vs) => .ok (vs.map .value)
  | value .null => .error (.noList helper)
  | value _ => .error (.notList helper)

/-- The contexts in a collection of contexts; nothing if it has other members. -/
def contexts? (a : Argument) : Option (List Context) :=
  a.items?.bind fun is => is.mapM fun
    | .context c => some c
    | .value _ => none

/-- Contexts that may be absent. -/
def optionalContexts? : Argument → Option (Option (List Context))
  | value .null => some none
  | a => a.contexts?.map some

/-- A text that may be absent. -/
def optionalText? : Argument → Option (Option Text)
  | value .null => some none
  | value (.text s) => some (some s)
  | _ => none

/-- A text. -/
def text? (a : Argument) : Option Text := a.optionalText?.bind id

/-- A whole number; a truth value counts as one or zero. -/
def int? : Argument → Option Int
  | value (.int n) => some n
  | value (.bool b) => some (if b then 1 else 0)
  | _ => none

/-- The number of members of a collection. -/
def length? (a : Argument) : Option Nat := a.items?.map List.length

/-- A number, or the number of members of a collection. -/
def count? (a : Argument) : Option Int := a.int?.or (a.length?.map fun n => (n : Int))

/-- A number is given that is at most as large as a whole number; nothing if no number is given. -/
def atMost? (a : Argument) (n : Int) : Option Bool :=
  match a with
  | value (.real x) => some (x.leInt n)
  | _ => a.int?.map fun m => m ≤ n

end Argument

end Typewright.Template
