/-
  Closed vocabularies: finite types whose members are named in documents.  Each member has one
  spelling, and no two members share one, so that reading a spelling gives the member back.
-/
import Typewright.Text.Quoted

namespace Typewright

/-- A finite type with a spelling for every member. -/
class Vocabulary (α : Type) where
  /-- The name of the type in messages. -/
  family : String
  /-- All members, in the order in which messages list them. -/
  members : List α
  /-- How a member is written. -/
  spelling : α → String
  /-- The first member with the spelling of `a` is `a`. -/
  find_spelling : ∀ a : α, members.find? (fun b => spelling b == spelling a) = some a

/-- Something that names no member of a vocabulary. -/
structure UnknownMember where
  /-- The literal of what was given. -/
  literal : String
  /-- The vocabulary it was looked up in. -/
  family : String
  deriving DecidableEq, Repr

/-- The message for something that names no member. -/
def UnknownMember.message (e : UnknownMember) : String :=
  e.literal ++ " is not a valid " ++ e.family

namespace Vocabulary

variable {α : Type} [Vocabulary α]

/-- The member with a given spelling. -/
def ofSpelling? (s : String) : Option α := (members (α := α)).find? fun a => spelling a == s

/-- The member with a given spelling, or the reason why there is none. -/
def read (s : Text) : Except UnknownMember α :=
  match (Text.string? s).bind ofSpelling? with
  | some a => .ok a
  | none => .error ⟨Text.quoted s, family α⟩

/-- The spellings of all members, in order. -/
def spellings (α : Type) [Vocabulary α] : List String := (members (α := α)).map spelling

@[simp] theorem ofSpelling?_spelling (a : α) : ofSpelling? (spelling a) = some a :=
  find_spelling a

@[simp] theorem read_spelling (a : α) : read (spelling a : String) = .ok a := by
  simp [read]

theorem mem_members (a : α) : a ∈ members (α := α) := List.mem_of_find?_eq_some (find_spelling a)

end Vocabulary

end Typewright
