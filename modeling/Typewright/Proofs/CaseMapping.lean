/-
  What case mappings make of a character.

  A case mapping is a table of shifts and expansions.  The numbers that it moves are one set, and
  those that it moves them to are another.  If the two have nothing in common, the mapping is done
  in one step: what it makes of a character stays as it is (`Settled.mapCase_of_mem`).  This is so
  for upper case (`upper_settled`), although a character may have up to three capitals, and for lower
  case (`lower_settled`).

  A set of numbers is kept in the bits of one number here, since two of these show with one
  operation whether they have a bit in common (`notMem_of_bitSet`).

  Upper case makes no separator of another character and leaves no small letter of ASCII, each of
  which has a capital that goes back to it (`upperChar_smallLetter`).
-/
import Mathlib.Data.List.Basic
import Typewright.Proofs.CharacterClass
import Typewright.Text.Words

namespace Typewright.Text

/-! ## Sets of numbers -/

/-- The numbers of several runs, as the bits of one number. -/
def bitSet (runs : List (List Nat)) : Nat :=
  runs.foldr (fun run set => run.foldr (fun n set => 1 <<< n ||| set) 0 ||| set) 0

theorem testBit_run {run : List Nat} {n : Nat} :
    (run.foldr (fun n set => 1 <<< n ||| set) 0).testBit n = true ↔ n ∈ run := by
  induction run with
  | nil => simp
  | cons m run ih =>
    rw [List.foldr_cons, Nat.testBit_or, Bool.or_eq_true, ih, List.mem_cons, Nat.shiftLeft_eq,
      Nat.one_mul, Nat.testBit_two_pow, decide_eq_true_eq, eq_comm]

theorem testBit_bitSet {runs : List (List Nat)} {n : Nat} :
    (bitSet runs).testBit n = true ↔ n ∈ runs.flatten := by
  induction runs with
  | nil => simp [bitSet]
  | cons run runs ih =>
    unfold bitSet at ih ⊢
    rw [List.foldr_cons, Nat.testBit_or, Bool.or_eq_true, testBit_run, ih, List.flatten_cons,
      List.mem_append]

/-- Sets without a bit in common have no number in common. -/
theorem notMem_of_bitSet {runs others : List (List Nat)} {n : Nat}
    (h : bitSet runs &&& bitSet others = 0) (hn : n ∈ others.flatten) : n ∉ runs.flatten := by
  intro hmem
  have hbit : (bitSet runs &&& bitSet others).testBit n = true := by
    rw [Nat.testBit_and, testBit_bitSet.mpr hmem, testBit_bitSet.mpr hn]
    rfl
  rw [h, Nat.zero_testBit] at hbit
  cases hbit

/-- The numbers of a range. -/
def Span.numbers (s : Span) : List Nat := List.range' s.1 (s.2 + 1 - s.1)

theorem mem_numbers_of_covers {spans : List Span} {c : Char} (h : covers spans c = true) :
    c.toNat ∈ (spans.map Span.numbers).flatten := by
  obtain ⟨s, hs, hlow, hhigh⟩ := covers_iff.mp h
  refine List.mem_flatten.mpr ⟨s.numbers, List.mem_map_of_mem hs, ?_⟩
  refine List.mem_range'.mpr ⟨c.toNat - s.1, ?_, ?_⟩ <;> omega

/-! ## Tables -/

/-- The numbers that a shift moves. -/
def Shift.sources : Shift → List Nat
  | (first, last, step, _) => List.range' first ((last - first) / step + 1) step

/-- The numbers that a shift moves them to. -/
def Shift.targets : Shift → List Nat
  | (first, last, step, image) => List.range' image ((last - first) / step + 1) step

theorem Shift.image?_eq_some {s : Shift} {n m : Nat} (h : Shift.image? n s = some m) :
    n ∈ s.sources ∧ m ∈ s.targets := by
  obtain ⟨first, last, step, image⟩ := s
  simp only [Shift.image?, Option.ite_none_right_eq_some, Option.some_inj] at h
  obtain ⟨⟨hlow, hhigh, hstep⟩, rfl⟩ := h
  have hcount : (n - first) / step < (last - first) / step + 1 :=
    Nat.lt_succ_of_le (Nat.div_le_div_right (by omega))
  have hsteps : n - first = step * ((n - first) / step) :=
    (Nat.mul_div_cancel' (Nat.dvd_of_mod_eq_zero hstep)).symm
  constructor
  · exact List.mem_range'.mpr ⟨_, hcount, by omega⟩
  · exact List.mem_range'.mpr ⟨_, hcount, by omega⟩

section Table

variable {shifts : List Shift} {expansions : List (Nat × List Nat)} {c d : Char} {n : Nat}

/-- The numbers that a case mapping moves. -/
def sources (shifts : List Shift) (expansions : List (Nat × List Nat)) : List (List Nat) :=
  shifts.map Shift.sources ++ expansions.map fun e => [e.1]

/-- The numbers that a case mapping moves them to. -/
def targets (shifts : List Shift) (expansions : List (Nat × List Nat)) : List (List Nat) :=
  shifts.map Shift.targets ++ expansions.map (·.2)

theorem mem_sources : n ∈ (sources shifts expansions).flatten ↔
    (∃ s ∈ shifts, n ∈ s.sources) ∨ ∃ e ∈ expansions, n = e.1 := by
  simp only [sources, List.flatten_append, List.mem_append, List.mem_flatten, List.mem_map,
    exists_exists_and_eq_and, List.mem_singleton]

theorem mem_targets : n ∈ (targets shifts expansions).flatten ↔
    (∃ s ∈ shifts, n ∈ s.targets) ∨ ∃ e ∈ expansions, n ∈ e.2 := by
  simp only [targets, List.flatten_append, List.mem_append, List.mem_flatten, List.mem_map,
    exists_exists_and_eq_and]

/-- A character is moved by the first row of the table that knows it, or else stays. -/
theorem mapCase_cases (shifts : List Shift) (expansions : List (Nat × List Nat)) (c : Char) :
    (∃ e ∈ expansions, c.toNat = e.1 ∧ mapCase shifts expansions c = e.2.map Char.ofNat) ∨
    (∃ s ∈ shifts, c.toNat ∈ s.sources ∧
      ∃ n ∈ s.targets, mapCase shifts expansions c = [Char.ofNat n]) ∨
    mapCase shifts expansions c = [c] := by
  unfold mapCase
  split
  next images hlookup =>
    obtain ⟨front, behind, hsplit, -⟩ := List.lookup_eq_some_iff.mp hlookup
    have hmem : (c.toNat, images) ∈ expansions := by simp [hsplit]
    exact .inl ⟨(c.toNat, images), hmem, rfl, rfl⟩
  next =>
    split
    next n hfound =>
      obtain ⟨front, s, behind, hsplit, himage, -⟩ := List.findSome?_eq_some_iff.mp hfound
      have hmem : s ∈ shifts := by simp [hsplit]
      obtain ⟨hsource, htarget⟩ := Shift.image?_eq_some himage
      exact .inr (.inl ⟨s, hmem, hsource, n, htarget, rfl⟩)
    next => exact .inr (.inr rfl)

/-- What is not moved stays. -/
theorem mapCase_eq_self (h : c.toNat ∉ (sources shifts expansions).flatten) :
    mapCase shifts expansions c = [c] := by
  rw [mem_sources, not_or] at h
  rcases mapCase_cases shifts expansions c with ⟨e, he, hc, -⟩ | ⟨s, hs, hc, -⟩ | hself
  · exact absurd ⟨e, he, hc⟩ h.2
  · exact absurd ⟨s, hs, hc⟩ h.1
  · exact hself

/-- What a character is mapped to is among the targets, or is the character that stays. -/
theorem target_of_mem (h : d ∈ mapCase shifts expansions c) :
    (∃ n ∈ (targets shifts expansions).flatten, d = Char.ofNat n) ∨
      d = c ∧ mapCase shifts expansions c = [c] := by
  rcases mapCase_cases shifts expansions c with
    ⟨e, he, -, himages⟩ | ⟨s, hs, -, n, hn, himage⟩ | hself
  · rw [himages] at h
    obtain ⟨n, hn, rfl⟩ := List.mem_map.mp h
    exact .inl ⟨n, mem_targets.mpr (.inr ⟨e, he, hn⟩), rfl⟩
  · rw [himage] at h
    exact .inl ⟨n, mem_targets.mpr (.inl ⟨s, hs, hn⟩), List.mem_singleton.mp h⟩
  · rw [hself] at h
    exact .inr ⟨List.mem_singleton.mp h, hself⟩

/-- The number of a character: not that of a half of a pair, and not too large. -/
def isCharacter (n : Nat) : Bool := Nat.blt n 0xD800 || Nat.blt 0xDFFF n && Nat.blt n 0x110000

theorem toNat_ofNat (h : isCharacter n = true) : (Char.ofNat n).toNat = n := by
  simp only [isCharacter, Bool.or_eq_true, Bool.and_eq_true, Nat.blt_eq] at h
  have hvalid : n.isValidChar := h
  rw [Char.ofNat, dif_pos hvalid]
  rfl

/-- A table that has a character for everything that it moves, and moves none of them again. -/
structure Settled (shifts : List Shift) (expansions : List (Nat × List Nat)) : Prop where
  characters : ((targets shifts expansions).all fun run => run.all isCharacter) = true
  nonempty : (expansions.all fun e => !e.2.isEmpty) = true
  apart : bitSet (sources shifts expansions) &&& bitSet (targets shifts expansions) = 0

namespace Settled

theorem toNat_ofNat (h : Settled shifts expansions) (hn : n ∈ (targets shifts expansions).flatten) :
    (Char.ofNat n).toNat = n := by
  obtain ⟨run, hrun, hn⟩ := List.mem_flatten.mp hn
  exact Text.toNat_ofNat (List.all_eq_true.mp (List.all_eq_true.mp h.characters run hrun) n hn)

/-- **What a settled table makes of a character stays as it is.** -/
theorem mapCase_of_mem (h : Settled shifts expansions) (hd : d ∈ mapCase shifts expansions c) :
    mapCase shifts expansions d = [d] := by
  rcases target_of_mem hd with ⟨n, hn, rfl⟩ | ⟨rfl, hself⟩
  · apply mapCase_eq_self
    rw [h.toNat_ofNat hn]
    exact notMem_of_bitSet h.apart hn
  · exact hself

/-- Something is made of every character. -/
theorem mapCase_ne_nil (h : Settled shifts expansions) (c : Char) :
    mapCase shifts expansions c ≠ [] := by
  rcases mapCase_cases shifts expansions c with
    ⟨e, he, -, himages⟩ | ⟨s, hs, -, n, hn, himage⟩ | hself
  · rw [himages, Ne, List.map_eq_nil_iff]
    simpa using List.all_eq_true.mp h.nonempty e he
  · rw [himage]
    exact List.cons_ne_nil _ _
  · rw [hself]
    exact List.cons_ne_nil _ _

/-- What a settled table makes of a code point stays as it is, too. -/
theorem images_of_mem (h : Settled shifts expansions) {c d : CodePoint}
    (hd : d ∈ c.images (mapCase shifts expansions)) :
    d.images (mapCase shifts expansions) = [d] := by
  rcases CodePoint.mem_images hd with ⟨x, rfl, y, hy, rfl⟩ | ⟨n, rfl, rfl⟩
  · rw [CodePoint.images, h.mapCase_of_mem hy, List.map_singleton]
  · rfl

theorem images_ne_nil (h : Settled shifts expansions) (c : CodePoint) :
    c.images (mapCase shifts expansions) ≠ [] := by
  cases c with
  | half n => exact List.cons_ne_nil _ _
  | char x =>
    rw [CodePoint.images, Ne, List.map_eq_nil_iff]
    exact h.mapCase_ne_nil x

/-- Ranges that hold no target get no character from elsewhere. -/
theorem covers_of_mem (h : Settled shifts expansions) {spans : List Span}
    (hspans : bitSet (targets shifts expansions) &&& bitSet (spans.map Span.numbers) = 0)
    (hd : d ∈ mapCase shifts expansions c) (hcovers : covers spans d = true) : d = c := by
  rcases target_of_mem hd with ⟨n, hn, rfl⟩ | ⟨rfl, -⟩
  · have hmem := mem_numbers_of_covers hcovers
    rw [h.toNat_ofNat hn] at hmem
    exact absurd hn (notMem_of_bitSet hspans hmem)
  · rfl

end Settled

end Table

/-! ## Upper case and lower case -/

/-- The upper case of a character is reached in one step. -/
theorem upper_settled : Settled upperShifts upperExpansions where
  characters := by decide +kernel
  nonempty := by decide +kernel
  apart := by decide +kernel

/-- So is the lower case of a character that stands alone. -/
theorem lower_settled : Settled lowerShifts lowerExpansions where
  characters := by decide +kernel
  nonempty := by decide +kernel
  apart := by decide +kernel

variable {c d : Char}

/-- What a character is in upper case is in upper case itself. -/
theorem upperChar_of_mem (h : d ∈ upperChar c) : upperChar d = [d] :=
  upper_settled.mapCase_of_mem h

/-- Ranges that hold all separators. -/
def separatorSpans : List Span := (0x5F, 0x5F) :: wordlessSpans

theorem covers_of_isSeparator (h : isSeparator c = true) : covers separatorSpans c = true := by
  rw [isSeparator, Bool.or_eq_true] at h
  rcases h with hblank | hunderscore
  · have hwordless := wordless_of_isBlankChar hblank
    rw [covers, separatorSpans, List.any_cons, Bool.or_eq_true]
    exact .inr hwordless
  · rw [beq_iff_eq.mp hunderscore]
    decide

/-- Upper case makes no separators. -/
theorem isSeparator_of_mem_upperChar (h : d ∈ upperChar c) (hc : isSeparator c = false) :
    isSeparator d = false := by
  refine Bool.eq_false_iff.mpr fun hd => ?_
  have hsame : d = c := upper_settled.covers_of_mem (by decide +kernel) h (covers_of_isSeparator hd)
  rw [hsame, hc] at hd
  cases hd

/-- Every small letter of ASCII has a capital, which has it for its small letter. -/
theorem upperChar_smallLetter (h : isSmallLetter c = true) :
    ∃ d, isCapitalLetter d = true ∧ upperChar c = [d] ∧ lowerChar d = [c] := by
  simp only [isSmallLetter, Bool.and_eq_true, decide_eq_true_eq, Char.le_def,
    UInt32.le_iff_toNat_le] at h
  have hlow : 97 ≤ c.toNat := h.1
  have hhigh : c.toNat ≤ 122 := h.2
  have htable : ∀ i : Fin 26, isCapitalLetter (Char.ofNat (65 + i)) = true ∧
      upperChar (Char.ofNat (97 + i)) = [Char.ofNat (65 + i)] ∧
      lowerChar (Char.ofNat (65 + i)) = [Char.ofNat (97 + i)] := by
    decide +kernel
  have hletter := htable ⟨c.toNat - 97, by omega⟩
  have hc : Char.ofNat (97 + (c.toNat - 97)) = c := by
    rw [Nat.add_sub_cancel' hlow, Char.ofNat_toNat]
  simp only [hc] at hletter
  exact ⟨_, hletter⟩

theorem isSmallLetter_of_isCapitalLetter (h : isCapitalLetter c = true) :
    isSmallLetter c = false := by
  simp only [isCapitalLetter, Bool.and_eq_true, decide_eq_true_eq, Char.le_def,
    UInt32.le_iff_toNat_le] at h
  have hhigh : c.val.toNat ≤ 90 := h.2
  simp only [isSmallLetter, Bool.and_eq_false_iff, decide_eq_false_iff_not, Char.le_def,
    UInt32.le_iff_toNat_le]
  exact .inl fun (hlow : 97 ≤ c.val.toNat) => by omega

/-- Upper case leaves no small letter of ASCII. -/
theorem isSmallLetter_of_mem_upperChar (h : d ∈ upperChar c) : isSmallLetter d = false := by
  refine Bool.eq_false_iff.mpr fun hsmall => ?_
  obtain ⟨capital, hcapital, hupper, -⟩ := upperChar_smallLetter hsmall
  -- a small letter would stay as it is and be its own capital
  have hself : d = capital := by
    simpa [upperChar_of_mem h] using hupper
  rw [← hself] at hcapital
  rw [isSmallLetter_of_isCapitalLetter hcapital] at hsmall
  cases hsmall

/-! ## Texts in upper case -/

theorem mem_toUpperCase {s : Text} {d : CodePoint} :
    d ∈ toUpperCase s ↔ ∃ c ∈ s, d ∈ c.images upperChar :=
  List.mem_flatMap

/-- **Upper case is reached in one step.** -/
theorem toUpperCase_toUpperCase (s : Text) : toUpperCase (toUpperCase s) = toUpperCase s := by
  have hstay : ∀ d ∈ toUpperCase s, d.images upperChar = [d] := fun d hd => by
    obtain ⟨c, -, hc⟩ := mem_toUpperCase.mp hd
    exact upper_settled.images_of_mem hc
  calc toUpperCase (toUpperCase s)
      = (toUpperCase s).flatMap fun d => [d] := List.flatMap_congr hstay
    _ = toUpperCase s := List.flatMap_singleton' _

theorem toUpperCase_flatten (parts : List Text) :
    toUpperCase parts.flatten = (parts.map toUpperCase).flatten := by
  induction parts with
  | nil => rfl
  | cons s parts ih =>
    rw [List.flatten_cons, toUpperCase_append, ih, List.map_cons, List.flatten_cons]

theorem toUpperCase_ne_nil {s : Text} (h : s ≠ []) : toUpperCase s ≠ [] := by
  obtain ⟨c, rest, rfl⟩ := List.exists_cons_of_ne_nil h
  exact List.append_ne_nil_of_left_ne_nil (upper_settled.images_ne_nil c) _

/-- A text without separators has none in upper case. -/
theorem isSeparator_of_mem_toUpperCase {s : Text} (h : ∀ c ∈ s, c.is isSeparator = false)
    {d : CodePoint} (hd : d ∈ toUpperCase s) : d.is isSeparator = false := by
  obtain ⟨c, hc, himage⟩ := mem_toUpperCase.mp hd
  rcases CodePoint.mem_images himage with ⟨x, rfl, y, hy, rfl⟩ | ⟨n, rfl, rfl⟩
  · exact isSeparator_of_mem_upperChar hy (h _ hc)
  · rfl

/-- A text in upper case has no small letter of ASCII. -/
theorem isSmallLetter_of_mem_toUpperCase {s : Text} {d : CodePoint} (hd : d ∈ toUpperCase s) :
    d.is isSmallLetter = false := by
  obtain ⟨c, hc, himage⟩ := mem_toUpperCase.mp hd
  rcases CodePoint.mem_images himage with ⟨x, rfl, y, hy, rfl⟩ | ⟨n, rfl, rfl⟩
  · exact isSmallLetter_of_mem_upperChar hy
  · rfl

end Typewright.Text
