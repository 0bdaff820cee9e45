/-
  Texts made safe for another syntax: references for the five special characters of markup, and a
  backslash in front of one chosen character.
-/
import Typewright.Text.CodePoint

namespace Typewright.Text

/-- Replaces every occurrence of one code point by a text. -/
def substitute (c : CodePoint) (image s : Text) : Text :=
  s.flatMap fun d => if d = c then image else [d]

/-- Replaces the special characters of markup by references.  The ampersand goes first: the
    references that the later steps write hold ampersands of their own. -/
def escapeMarkup (s : Text) : Text :=
  s |> substitute '&' "&amp;"
    |> substitute '>' "&gt;"
    |> substitute '<' "&lt;"
    |> substitute '\x22' "&quot;"
    |> substitute '\x27' "&apos;"

/-- The text with a backslash in front of every occurrence of `c`. -/
def protect (c : CodePoint) (s : Text) : Text := substitute c ['\\', c] s

theorem substitute_append (c : CodePoint) (image s t : Text) :
    substitute c image (s ++ t) = substitute c image s ++ substitute c image t := by
  simp [substitute]

/-- What treats texts in a row one by one replaces every code point by its image. -/
theorem eq_flatMap_of_append {f : Text → Text} (hnil : f [] = [])
    (happend : ∀ s t, f (s ++ t) = f s ++ f t) (s : Text) : f s = s.flatMap fun c => f [c] := by
  induction s with
  | nil => exact hnil
  | cons c rest ih => rw [← List.singleton_append, happend, ih]; rfl

end Typewright.Text
