/-
  Indexes: things under names, each name once.

  An index is filled entry by entry.  Where a name is there already it keeps its place, and what was
  stored under it gives way to the new thing.
-/

namespace Typewright

/-- Things under names, in the order in which the names came. -/
abbrev Index (κ α : Type) := List (κ × α)

namespace Index

variable {κ α : Type} [BEq κ]

/-- Stores an entry: a name that is there keeps its place. -/
def store (index : Index κ α) (entry : κ × α) : Index κ α :=
  if index.any (·.1 == entry.1) then
    index.map fun old => if old.1 == entry.1 then (old.1, entry.2) else old
  else index ++ [entry]

/-- Each name once, at its first place and with its last value. -/
def ofEntries (entries : List (κ × α)) : Index κ α := entries.foldl store []

/-- Things under the names that they have. -/
def ofList (name : α → κ) (things : List α) : Index κ α :=
  ofEntries (things.map fun x => (name x, x))

end Index

end Typewright
