/-
  Texts as sequences of code points.

  A code point is a character or half of a pair of surrogates.  Only the two halves of a pair
  together make a character, but a document can name one without the other, and it then takes one
  place of the text like any character.  A text without halves is a string, and every string is a
  text.
-/

namespace Typewright

/-- One place of a text. -/
inductive CodePoint where
  /-- A character. -/
  | char (c : Char)
  /-- Half of a pair of surrogates, counted from the first one on. -/
  | half (n : Fin 2048)
  deriving DecidableEq, Repr

namespace CodePoint

instance : Coe Char CodePoint := ⟨char⟩

/-- The number of the first half. -/
def firstHalf : Nat := 0xD800

/-- The number of a code point. -/
def toNat : CodePoint → Nat
  | char c => c.toNat
  | half n => firstHalf + n

/-- The code point with a number; the numbers behind the last one belong to none. -/
def ofNat? (n : Nat) : Option CodePoint :=
  if h : firstHalf ≤ n ∧ n < firstHalf + 2048 then some (half ⟨n - firstHalf, by omega⟩)
  else if n ≤ 0x10FFFF then some (char (Char.ofNat n))
  else none

/-- The character that a code point is, if it is one. -/
def char? : CodePoint → Option Char
  | char c => some c
  | half _ => none

/-- A half and no character. -/
def isHalf (c : CodePoint) : Bool := c.char?.isNone

/-- A character of a class; a half belongs to none. -/
def is (p : Char → Bool) : CodePoint → Bool
  | char c => p c
  | half _ => false

/-- The images of a character; a half is its own image. -/
def images (f : Char → List Char) : CodePoint → List CodePoint
  | char c => (f c).map char
  | half n => [half n]

/-- The first half of a pair has this number. -/
def isHigh (n : Nat) : Bool := 0xD800 ≤ n && n ≤ 0xDBFF

/-- The second half of a pair has this number. -/
def isLow (n : Nat) : Bool := 0xDC00 ≤ n && n ≤ 0xDFFF

/-- The number of the character that two halves make. -/
def pairNumber (high low : Nat) : Nat := 0x10000 + (high - 0xD800) * 0x400 + (low - 0xDC00)

theorem is_char (p : Char → Bool) (c : Char) : (char c).is p = p c := rfl

/-- An image of a code point is one of the character, or the half itself. -/
theorem mem_images {f : Char → List Char} {c d : CodePoint} (h : d ∈ c.images f) :
    (∃ x, c = char x ∧ ∃ y ∈ f x, d = char y) ∨ ∃ n, c = half n ∧ d = half n := by
  cases c with
  | char x =>
    obtain ⟨y, hy, rfl⟩ := List.mem_map.mp h
    exact .inl ⟨x, rfl, y, hy, rfl⟩
  | half n => exact .inr ⟨n, rfl, List.mem_singleton.mp h⟩

/-- The number of a code point tells which one it is. -/
theorem ofNat?_toNat (c : CodePoint) : ofNat? c.toNat = some c := by
  cases c with
  | half n =>
    have hn : firstHalf ≤ firstHalf + n.val ∧ firstHalf + n.val < firstHalf + 2048 := by omega
    show ofNat? (firstHalf + n.val) = _
    unfold ofNat?
    rw [dif_pos hn]
    simp
  | char c =>
    have hv : c.toNat < 0xD800 ∨ 0xDFFF < c.toNat ∧ c.toNat < 0x110000 := c.valid
    have hn : ¬(firstHalf ≤ c.toNat ∧ c.toNat < firstHalf + 2048) := by
      unfold firstHalf; omega
    show ofNat? c.toNat = _
    unfold ofNat?
    rw [dif_neg hn, if_pos (by omega), Char.ofNat_toNat]

end CodePoint

/-- Code points in order. -/
abbrev Text := List CodePoint

namespace Text

/-- Characters as a text. -/
def ofChars (cs : List Char) : Text := cs.map .char

/-- A string as a text. -/
def ofString (s : String) : Text := ofChars s.toList

instance : Coe String Text := ⟨ofString⟩

/-- The characters of a text without halves. -/
def chars? (s : Text) : Option (List Char) := s.mapM CodePoint.char?

/-- The string that a text without halves is. -/
def string? (s : Text) : Option String := (chars? s).map String.ofList

/-- A half occurs. -/
def hasHalf (s : Text) : Bool := s.any CodePoint.isHalf

/-- A text without halves: every half gives way to three replacement characters, one for each octet
    that it would take in a string. -/
def repaired (s : Text) : Text :=
  s.flatMap fun c => if c.isHalf then List.replicate 3 (.char '\ufffd') else [c]

/-- Texts in a row, with another one between them. -/
def join (separator : Text) (parts : List Text) : Text := separator.intercalate parts

/-- The order of texts: that of the numbers of their code points, the first difference deciding. -/
def le : Text → Text → Bool
  | [], _ => true
  | _ :: _, [] => false
  | c :: s, d :: t => c.toNat < d.toNat || (c == d && le s t)

theorem chars?_ofChars (cs : List Char) : chars? (ofChars cs) = some cs := by
  induction cs with
  | nil => rfl
  | cons c cs ih =>
    unfold ofChars chars? at ih
    simp [ofChars, chars?, CodePoint.char?, ih]

/-- A string is the text that it makes. -/
@[simp] theorem string?_ofString (s : String) : string? (ofString s) = some s := by
  simp [string?, ofString, chars?_ofChars]

theorem ofString_inj {s t : String} : ofString s = ofString t ↔ s = t := by
  constructor
  · intro h
    simpa using congrArg string? h
  · rintro rfl; rfl

@[simp] theorem ofChars_append (s t : List Char) : ofChars (s ++ t) = ofChars s ++ ofChars t := by
  simp [ofChars]

@[simp] theorem ofString_append (s t : String) :
    ofString (s ++ t) = ofString s ++ ofString t := by
  simp [ofString]

end Text

end Typewright
