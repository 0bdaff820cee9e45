/-
  Octets written with sixty-four characters.

  Four characters write three octets.  Characters that are none of the sixty-four are passed over.
  Equals signs that fill up a group of four end the text; without them the last group has to be
  full.
-/

namespace Typewright.Base64

/-- The characters, in the order of their values. -/
def alphabet : List Char :=
  "ABCDEFGHIJKLMNOPQRSTUVWXYZabcdefghijklmnopqrstuvwxyz0123456789+/".toList

/-- The value of a character. -/
def value? (c : Char) : Option Nat := alphabet.idxOf? c

/-- The octets of a text; `place` characters of the group were read, the last of them left `carry`
    over, and `pads` equals signs followed it. -/
def octetsFrom? (place carry pads : Nat) : List Char → Option (List UInt8)
  | [] => if place = 0 then some [] else none
  | c :: rest =>
    if c = '=' then
      if 2 ≤ place then
        if 4 ≤ place + pads + 1 then some [] else octetsFrom? place carry (pads + 1) rest
      else octetsFrom? place carry pads rest
    else
      match value? c, place with
      | none, _ => octetsFrom? place carry pads rest
      | some v, 0 => octetsFrom? 1 v 0 rest
      | some v, 1 =>
        (octetsFrom? 2 (v % 16) 0 rest).map (UInt8.ofNat (carry * 4 + v / 16) :: ·)
      | some v, 2 =>
        (octetsFrom? 3 (v % 4) 0 rest).map (UInt8.ofNat (carry * 16 + v / 4) :: ·)
      | some v, _ => (octetsFrom? 0 0 0 rest).map (UInt8.ofNat (carry * 64 + v) :: ·)

/-- The octets that a text writes. -/
def octets? (s : List Char) : Option (List UInt8) := octetsFrom? 0 0 0 s

end Typewright.Base64
