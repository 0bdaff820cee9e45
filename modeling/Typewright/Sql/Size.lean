/-
  Sizes of SQL types.

  A native type takes its size in parentheses, if its family has one.  A template holds a
  placeholder for the size, usually in parentheses of its own: with a size every placeholder is
  filled, and without one every placeholder goes, together with the parentheses and the blanks
  around it when it stands alone in them.
-/
import Typewright.Text.Blank
import Typewright.Text.Case

namespace Typewright.Sql

open Typewright.Text

/-! ## Native types -/

/-- `part` occurs in `s`. -/
def occursIn (part : Text) : Text → Bool
  | [] => part.isEmpty
  | c :: rest => part.isPrefixOf (c :: rest) || occursIn part rest

/-- The names that mark a family of native types with a size, in upper case. -/
def sizedMarkers : List String := ["VARCHAR", "CHAR", "DECIMAL", "NUMERIC", "NUMBER"]

/-- The native type belongs to a family with a size: one of the markers occurs in its name, in any
    case. -/
def needsSize (type : Text) : Bool :=
  sizedMarkers.any fun marker => occursIn marker (toUpperCase type)

/-- A native type with its size, where it has one and one is given. -/
def withSize (type : Text) (size : Option Text) : Text :=
  let base := trimmed type
  let size := trimmed (size.getD [])
  if base ≠ [] && needsSize base && size ≠ [] then base ++ "(" ++ size ++ ")" else base

/-! ## Templates -/

/-- Replaces every placeholder by a text. -/
def fill (size : Text) : Text → Text
  | .char '%' :: .char 's' :: rest => size ++ fill size rest
  | c :: rest => c :: fill size rest
  | [] => []

/-- A placeholder occurs. -/
def hasPlaceholder : Text → Bool
  | .char '%' :: .char 's' :: _ => true
  | _ :: rest => hasPlaceholder rest
  | [] => false

/-- What follows a placeholder that stands alone in parentheses, blanks before and inside them
    included, if the text starts with one. -/
def afterGroup? (s : Text) : Option Text :=
  match trimStart s with
  | .char '(' :: inner =>
    match trimStart inner with
    | .char '%' :: .char 's' :: rest =>
      match trimStart rest with
      | .char ')' :: after => some after
      | _ => none
    | _ => none
  | _ => none

theorem length_trimStart_le (s : Text) : (trimStart s).length ≤ s.length :=
  (List.dropWhile_sublist _).length_le

theorem length_of_afterGroup? {s after : Text} (h : afterGroup? s = some after) :
    after.length < s.length := by
  unfold afterGroup? at h
  split at h
  · rename_i inner h₁
    split at h
    · rename_i rest h₂
      split at h
      · rename_i after' h₃
        cases h
        have l₁ := length_trimStart_le s
        have l₂ := length_trimStart_le inner
        have l₃ := length_trimStart_le rest
        rw [h₁] at l₁
        rw [h₂] at l₂
        rw [h₃] at l₃
        simp at l₁ l₂ l₃
        omega
      · cases h
    · cases h
  · cases h

/-- Removes, from left to right, every placeholder that stands alone in parentheses. -/
def dropGroups (s : Text) : Text :=
  match _h : afterGroup? s with
  | some after => dropGroups after
  | none =>
    match s with
    | [] => []
    | c :: rest => c :: dropGroups rest
termination_by s.length
decreasing_by
  · exact length_of_afterGroup? _h
  · simp

/-- Fills the placeholders of a template, or drops them where there is no size or an empty one. -/
def apply (template : Text) (size : Option Text) : Text :=
  let size := size.getD []
  if !hasPlaceholder template then trimmed template
  else if size ≠ [] then trimmed (fill size template)
  else trimmed (fill [] (dropGroups template))

end Typewright.Sql
