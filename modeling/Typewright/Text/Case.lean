/-
  Upper and lower case over the whole character set.

  A character may map to several (a sharp s becomes two capitals), so mapping a character gives a
  list.  Upper-casing a text maps each character by itself.  Lower-casing does too, with one
  exception: a capital sigma becomes a final sigma when it ends a word, so the lower-casing of a
  text remembers whether a letter stood before, and looks ahead for one.
-/
import Typewright.Text.Case.Table
import Typewright.Text.Case.Cased
import Typewright.Text.CodePoint

namespace Typewright.Text

/-! ## One character -/

/-- The image of a code point under a run of shifted code points. -/
def Shift.image? (n : Nat) : Shift → Option Nat
  | (first, last, step, image) =>
    if first ≤ n ∧ n ≤ last ∧ (n - first) % step = 0 then some (image + (n - first)) else none

/-- The image of a character under a case mapping given by its shifts and its expansions. -/
def mapCase (shifts : List Shift) (expansions : List (Nat × List Nat)) (c : Char) : List Char :=
  match expansions.lookup c.toNat with
  | some images => images.map Char.ofNat
  | none =>
    match shifts.findSome? (Shift.image? c.toNat) with
    | some image => [Char.ofNat image]
    | none => [c]

/-- The upper-case form of a character. -/
def upperChar (c : Char) : List Char := mapCase upperShifts upperExpansions c

/-- The lower-case form of a character that stands alone. -/
def lowerChar (c : Char) : List Char := mapCase lowerShifts lowerExpansions c

/-! ## Texts -/

/-- The text in upper case. -/
def toUpperCase (s : Text) : Text := s.flatMap (CodePoint.images upperChar)

/-- The next code point that is not case-ignorable belongs to a word. -/
def continuesWord (s : Text) : Bool :=
  match s.dropWhile (CodePoint.is isCaseIgnorable) with
  | [] => false
  | c :: _ => c.is isCased

/-- Whether a letter stands before the next code point, ignoring what is case-ignorable. -/
def wordBefore (before : Bool) (c : CodePoint) : Bool :=
  if c.is isCaseIgnorable then before else c.is isCased

/-- The lower-case form of `c`, between a word (`before`) and the text `rest`. -/
def lowerBetween (before : Bool) (c : CodePoint) (rest : Text) : Text :=
  if c = 'Σ' then [if before && !continuesWord rest then .char 'ς' else .char 'σ']
  else c.images lowerChar

/-- Lower-cases a text of which a part was read already; `before` says whether that part ended
    inside a word. -/
def lowerFrom (before : Bool) : Text → Text
  | [] => []
  | c :: rest => lowerBetween before c rest ++ lowerFrom (wordBefore before c) rest

/-- The text in lower case. -/
def toLowerCase (s : Text) : Text := lowerFrom false s

/-- The text with its first character in upper case. -/
def capitalize : Text → Text
  | [] => []
  | c :: rest => c.images upperChar ++ rest

/-- The text with its first character in lower case. -/
def uncapitalize : Text → Text
  | [] => []
  | c :: rest => c.images lowerChar ++ rest

theorem toUpperCase_append (s t : Text) :
    toUpperCase (s ++ t) = toUpperCase s ++ toUpperCase t := by
  simp [toUpperCase]

end Typewright.Text
