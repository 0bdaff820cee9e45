/-
  The texts of YAML block scalars: lines that stand deeper than their block.

  A header says whether lines are folded, what becomes of the line ends behind the text, and how
  deep the lines stand; without the last, the first line that is not empty decides.  In a folded
  text a line end between two lines that do not start with a blank counts as a space, or as nothing
  if empty lines follow it.
-/
import Typewright.Data.Yaml.ScalarText

namespace Typewright.Yaml

open Spot

/-- What becomes of the line ends behind the text of a block scalar. -/
inductive Chomping where
  /-- The first one stays. -/
  | clip
  /-- None stays. -/
  | strip
  /-- All stay. -/
  | keep
  deriving DecidableEq, Repr

/-- The header of a block scalar. -/
structure BlockHeader where
  folded : Bool
  chomping : Chomping
  /-- By how many columns the lines stand deeper than the block. -/
  increment : Option Nat
  deriving DecidableEq, Repr

/-! ## Headers -/

/-- The sign for what becomes of the line ends. -/
def chomping? (c : Char) : Option Chomping := [('+', .keep), ('-', .strip)].lookup c

/-- The digit for how deep the lines stand. -/
def increment? (c : Char) : Option Nat :=
  if '1' ≤ c ∧ c ≤ '9' then some (c.toNat - '0'.toNat) else none

/-- Drops the first character if something was made of it. -/
def dropIf {α : Type} (found : Option α) (s : List Spot) : List Spot :=
  if found.isSome then s.drop 1 else s

/-- The rest of the line of a header, which may be a comment, and its end. -/
def headerEnd? (s : List Spot) : Option (List Spot) :=
  let isOver (spot : Spot) : Bool := isBreak spot.char || spot.char == endMark
  let s := s.dropWhile (·.char == ' ')
  let s := if charAt s == '#' then s.dropWhile fun spot => !isOver spot else s
  match s with
  | b :: rest =>
    if isBreak b.char then some rest else if b.char == endMark then some (b :: rest) else none
  | [] => none

/-- A header from behind its first character, and what follows its line.  The sign and the digit may
    stand in either order. -/
def blockHeader? (folded : Bool) (s : List Spot) : Option (BlockHeader × List Spot) :=
  let before := chomping? (charAt s)
  let s := dropIf before s
  let increment := increment? (charAt s)
  let s := dropIf increment s
  let behind := if before.isNone && increment.isSome then chomping? (charAt s) else none
  let s := dropIf behind s
  if atSeparator s && charAt s != '\t' then
    (headerEnd? s).map fun rest => (⟨folded, (before.or behind).getD .clip, increment⟩, rest)
  else none

/-! ## Lines -/

/-- Drops spaces and empty lines, and gives the ends of the empty lines and the largest column that
    the spaces reach. -/
def leadingLines : List Spot → List Char × Nat × List Spot
  | [] => ([], 0, [])
  | s :: rest =>
    if s.char == ' ' then
      let (breaks, column, after) := leadingLines rest
      (breaks, max (s.column + 1) column, after)
    else if isBreak s.char then
      let (breaks, column, after) := leadingLines rest
      (breakText s.char :: breaks, column, after)
    else ([], 0, s :: rest)

/-- Drops spaces in front of a column and the empty lines among them, and gives the ends of
    these. -/
def linesBefore (indent : Nat) : List Spot → List Char × List Spot
  | [] => ([], [])
  | s :: rest =>
    if s.char == ' ' && s.column < indent then linesBefore indent rest
    else if isBreak s.char then
      let (breaks, after) := linesBefore indent rest
      (breakText s.char :: breaks, after)
    else ([], s :: rest)

/-- A line of the text starts here. -/
def atLine (indent : Nat) (s : List Spot) : Bool := columnAt s == indent && charAt s != endMark

/-- What stays of the line ends behind the text. -/
def Chomping.apply (ended breaks : List Char) : Chomping → List Char
  | .clip => ended
  | .strip => []
  | .keep => ended ++ breaks

/-- The lines of a text from the start of one on, with what stays of the ends behind them. -/
def blockLines (h : BlockHeader) (indent : Nat) : Nat → List Spot → List Char × List Spot
  | 0, s => ([], s)
  | fuel + 1, s =>
    let line := s.takeWhile fun spot => !(isBreak spot.char || spot.char == endMark)
    let (ended, after) :=
      match s.drop line.length with
      | b :: rest => if isBreak b.char then ([breakText b.char], rest) else ([], b :: rest)
      | [] => ([], [])
    let (breaks, rest) := linesBefore indent after
    let text := line.map (·.char)
    if atLine indent rest then
      let isFolded := h.folded && ended == ['\n'] && !isSpaceOrTab (charAt s) &&
        !isSpaceOrTab (charAt rest)
      let joint := if !isFolded then ended else if breaks.isEmpty then [' '] else []
      let (more, rest) := blockLines h indent fuel rest
      (text ++ joint ++ breaks ++ more, rest)
    else (text ++ h.chomping.apply ended breaks, rest)

/-- The text of a block scalar from behind its first character; `indent` is the column of the block
    that it belongs to. -/
def blockText? (folded : Bool) (indent : Option Nat) (s : List Spot) :
    Option (List Char × List Spot) := do
  let (h, rest) ← blockHeader? folded s
  let least := (indent.map (· + 1)).getD 1
  let (breaks, column, first) :=
    match h.increment with
    | some n =>
      let (breaks, first) := linesBefore (least + n - 1) rest
      (breaks, least + n - 1, first)
    | none =>
      let (breaks, column, first) := leadingLines rest
      (breaks, max least column, first)
  if atLine column first then
    let (text, rest) := blockLines h column (first.length + 1) first
    pure (breaks ++ text, rest)
  else pure (h.chomping.apply [] breaks, first)

end Typewright.Yaml
