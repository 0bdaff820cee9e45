/-
  Data as a document holds it: the scalars, lists and objects that descriptions of models and
  environments are read from, and that answers are written as.

  The entries of an object are named.  A name is a text nearly always, but some documents may use
  any scalar.  Two names are one if they are equal as scalars, where a truth value counts as one or
  zero, numbers are compared by value, and moments of known times are compared as such.

  Some documents hold data of other kinds, which no description asks for: days and moments, octets,
  sets, and pairs.  A list or an object may even contain itself.  It then is a loop, with a mark in
  every place inside where it would stand again, and `opened` puts it there.
-/
import Typewright.Data.Moment
import Typewright.Number.Binary64
import Typewright.Text.CodePoint

namespace Typewright

/-- The name of an entry of an object. -/
inductive Key where
  /-- No value. -/
  | null
  /-- A truth value. -/
  | bool (b : Bool)
  /-- A whole number. -/
  | int (n : Int)
  /-- A number of the binary format. -/
  | real (x : Binary64)
  /-- An undefined number that differs from all others, told apart by where it comes from. -/
  | strayNumber (origin : Nat)
  /-- A text. -/
  | text (s : Text)
  /-- A day. -/
  | day (d : Day)
  /-- A moment. -/
  | moment (m : Moment)
  /-- Octets. -/
  | octets (bytes : List UInt8)
  deriving DecidableEq, Repr

instance : Coe Text Key := ⟨.text⟩

instance : Coe String Key := ⟨fun s => .text s⟩

namespace Key

/-- The text that a name is, if it is one. -/
def text? : Key → Option Text
  | text s => some s
  | _ => none

/-- The whole number that a name stands for, if there is one. -/
def whole? : Key → Option Int
  | bool b => some (if b then 1 else 0)
  | int n => some n
  | real x => x.toInt?
  | _ => none

/-- The time that a name stands for, in microseconds, if it is a moment of a known time. -/
def time? : Key → Option Int
  | moment m => m.time?
  | _ => none

/-- Two names are one. -/
def same (a b : Key) : Bool :=
  match a.whole?, b.whole?, a.time?, b.time? with
  | some m, some n, _, _ => m == n
  | _, _, some s, some t => s == t
  | _, _, _, _ => a == b

@[simp] theorem same_text (s t : Text) : same (text s) (text t) = (s == t) := by
  rw [Bool.eq_iff_iff]
  simp [same, whole?, time?]

/-! ## Entries -/

variable {α : Type}

/-- Stores something under a name: a name that is there keeps its place and its spelling. -/
def store (entries : List (Key × α)) (key : Key) (a : α) : List (Key × α) :=
  if entries.any (·.1.same key) then
    entries.map fun entry => if entry.1.same key then (entry.1, a) else entry
  else entries ++ [(key, a)]

/-- Entries one after another, a repeated name keeping its first place and its last value. -/
def storeAll (entries : List (Key × α)) : List (Key × α) :=
  entries.foldl (fun stored entry => store stored entry.1 entry.2) []

end Key

/-- A piece of data.  A whole number and a number of the binary format are different data, also
    when they have one value. -/
inductive Value where
  /-- No value. -/
  | null
  /-- A truth value. -/
  | bool (b : Bool)
  /-- A whole number of any size. -/
  | int (n : Int)
  /-- A number written with a fraction or an exponent. -/
  | real (x : Binary64)
  /-- A text. -/
  | text (s : Text)
  /-- Values in order. -/
  | list (items : List Value)
  /-- Named values in order. -/
  | object (fields : List (Key × Value))
  /-- A day. -/
  | day (d : Day)
  /-- A moment. -/
  | moment (m : Moment)
  /-- Octets. -/
  | octets (bytes : List UInt8)
  /-- Scalars, each of them once. -/
  | set (members : List Key)
  /-- Two values. -/
  | pair (first second : Value)
  /-- A list or an object that contains itself, with a number of its own. -/
  | loop (id : Nat) (body : Value)
  /-- Stands inside a loop for the loop with a number. -/
  | again (id : Nat) (isObject : Bool)

/-- The entries of an object. -/
abbrev Fields := List (Key × Value)

namespace Fields

/-- The value stored under a text. -/
def get? (fields : Fields) (name : Text) : Option Value := fields.lookup (.text name)

/-- The entries of texts by name. -/
def ofTexts (entries : List (Text × Text)) : Fields :=
  entries.map fun (name, s) => (.text name, .text s)

end Fields

/-- A name of an entry as a value. -/
def Key.toValue : Key → Value
  | null => .null
  | bool b => .bool b
  | int n => .int n
  | real x => .real x
  | strayNumber _ => .real .undefined
  | text s => .text s
  | day d => .day d
  | moment m => .moment m
  | octets bytes => .octets bytes

namespace Value

/-- A scalar as the name of an entry; a collection names none. -/
def toKey? : Value → Option Key
  | null => some .null
  | bool b => some (.bool b)
  | int n => some (.int n)
  | real x => some (.real x)
  | text s => some (.text s)
  | day d => some (.day d)
  | moment m => some (.moment m)
  | octets bytes => some (.octets bytes)
  | list _ | object _ | set _ | pair .. | loop .. | again .. => none

/-- A text, or no value. -/
def ofText? : Option Text → Value
  | some s => .text s
  | none => .null

/-- A whole number, or no value. -/
def ofInt? : Option Int → Value
  | some n => .int n
  | none => .null

/-- Counts as something: not empty, not zero, not false and not absent. -/
def isSomething : Value → Bool
  | null => false
  | bool b => b
  | int n => n != 0
  | real (.finite _ m _) => m != 0
  | real _ => true
  | text s => !s.isEmpty
  | list items => !items.isEmpty
  | object fields => !fields.isEmpty
  | octets bytes => !bytes.isEmpty
  | set members => !members.isEmpty
  | day _ | moment _ | pair .. | loop .. | again .. => true

/-! ## Loops -/

mutual

/-- Puts a value in the places of the marks with a number. -/
def fill (id : Nat) (whole : Value) : Value → Value
  | again other isObject => if other = id then whole else again other isObject
  | list items => list (fillItems id whole items)
  | object fields => object (fillFields id whole fields)
  | pair first second => pair (fill id whole first) (fill id whole second)
  | loop other body => loop other (fill id whole body)
  | v => v

/-- Puts a value in the places of marks in the members of a list. -/
def fillItems (id : Nat) (whole : Value) : List Value → List Value
  | [] => []
  | v :: rest => fill id whole v :: fillItems id whole rest

/-- Puts a value in the places of marks in the entries of an object. -/
def fillFields (id : Nat) (whole : Value) : List (Key × Value) → List (Key × Value)
  | [] => []
  | (key, v) :: rest => (key, fill id whole v) :: fillFields id whole rest

end

/-- The list or the object that a loop is, with the loop itself in the places of its marks. -/
def opened : Value → Value
  | loop id body => fill id (loop id body) body
  | v => v

end Value

end Typewright
