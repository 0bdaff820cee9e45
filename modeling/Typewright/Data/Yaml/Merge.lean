/-
  Merge keys of YAML mappings.

  A merge key stands for the entries of another mapping, or of several mappings in a sequence.
  These go in front of the own entries, so that the own ones win where they share a name.  The other
  mappings have their merge keys put in order before, in their places in the graph, so that a
  mapping may even be merged into itself.
-/
import Typewright.Data.Yaml.Graph

namespace Typewright.Yaml.Graph

/-- The entry of a mapping merges others into it. -/
def isMerge (g : Graph) (entry : Place × Place) : Bool := g.tagAt entry.1 == some .merge

/-- The number of entries in all mappings that merge others into theirs. -/
def mergeCount (g : Graph) : Nat :=
  g.foldl
    (fun count cell =>
      match cell.content with
      | .mapping entries => count + entries.countP g.isMerge
      | _ => count)
    0

/-- Gives the mapping at a place other entries. -/
def withEntries (g : Graph) (p : Place) (entries : List (Place × Place)) : Graph :=
  g.modify p fun cell => { cell with content := .mapping entries }

/-- Default keys among these become texts. -/
def settleDefaults (g : Graph) (entries : List (Place × Place)) : Graph :=
  entries.foldl
    (fun g entry =>
      if g.tagAt entry.1 == some .default then
        g.modify entry.1 fun cell => { cell with tag := some .text }
      else g)
    g

/-- Puts the entries that merge keys stand for in front of the others of their mapping, from an
    index on and behind the entries `found` for those in front of it.  Of several mappings the last
    one comes first, so that the earlier ones win where they share a name; each has its own merge
    keys put in order before.  Every step takes a merge key out of the graph, so their number bounds
    the steps. -/
def mergeFrom? : Nat → Graph → Place → Nat → List (Place × Place) → Option Graph
  | 0, _, _, _, _ => none
  | steps + 1, g, p, index, found =>
    let entries := g.entriesAt p
    match (entries.drop index).findIdx? g.isMerge with
    | none => some ((g.settleDefaults entries).withEntries p (found ++ entries))
    | some ahead => do
      let index := index + ahead
      let (_, source) ← entries[index]?
      let g := g.withEntries p (entries.eraseIdx index)
      let (g, parts) ← match g.contentAt? source with
        | some (.mapping _) => do
          let g ← mergeFrom? steps g source 0 []
          pure (g, [g.entriesAt source])
        | some (.sequence items) =>
          items.foldlM
            (fun (g, parts) item => do
              let .mapping _ ← g.contentAt? item | none
              let g ← mergeFrom? steps g item 0 []
              pure (g, g.entriesAt item :: parts))
            (g, [])
        | _ => none
      mergeFrom? steps g p index (found ++ parts.flatten)

/-- The graph in which the mapping at a place has no merge keys and no default keys. -/
def merged? (g : Graph) (p : Place) : Option Graph := mergeFrom? (g.mergeCount + 1) g p 0 []

end Typewright.Yaml.Graph
