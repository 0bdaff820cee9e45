/-
  The words of a label.

  A text consists of words and of gaps around them, which hold nothing but blanks and underscores.
  A word ends where a gap begins, and it ends in front of a capital that directly follows a small
  letter; it ends nowhere else (`HasWords`).

    text            words
    firstName       first Name
      line__item    line item
    xmlHTTPRequest  xml HTTPRequest

  Words are found in two rounds of splitting, and the second must cut where the first has put a
  space and nowhere else.  It does, since what the first round leaves has no blanks of its own.  And
  no start of a word is passed over, although spaces are put between pairs that do not overlap: a
  capital is no small letter, so that the second of a pair is never the first of another
  (`spaced_cons_cons`).  So the words that are found are the words of the text, and those of no
  other cut (`words_eq_iff`).

  The upper-snake-case form of a text is made of the words in upper case, and these are its own
  words again: upper case makes no separators and leaves no small letters.
-/
import Mathlib.Data.List.Chain
import Mathlib.Data.List.TakeWhile
import Typewright.Proofs.CaseMapping

namespace Typewright.Text

/-! ## Words and gaps -/

/-- Nothing but separators. -/
def IsGap (s : Text) : Prop := ∀ c ∈ s, c.is isSeparator = true

/-- One word: there is something in it, but no separator and no capital behind a small letter. -/
structure SingleWord (w : Text) : Prop where
  nonempty : w ≠ []
  solid : ∀ c ∈ w, c.is isSeparator = false
  unbroken : w.IsChain fun c d => startsWord c d = false

/-- In front of `rest` a word is over: the text ends there, a separator follows, or the next word
    does. -/
def EndsBefore (w rest : Text) : Prop :=
  ∀ d ∈ rest.head?, d.is isSeparator = true ∨ ∃ c ∈ w.getLast?, startsWord c d = true

/-- A text consists of these words, with gaps in front of them and between them and at the end. -/
inductive HasWords : Text → List Text → Prop where
  | done {gap : Text} (hgap : IsGap gap) : HasWords gap []
  | word {gap w rest : Text} {ws : List Text} (hgap : IsGap gap) (hword : SingleWord w)
      (hends : EndsBefore w rest) (hrest : HasWords rest ws) :
      HasWords (gap ++ (w ++ rest)) (w :: ws)

/-! ## Splitting at a class -/

/-- A run of a class at the front of a list, and behind it what is not of the class or nothing. -/
theorem exists_run {α : Type} (q : α → Bool) (l : List α) :
    ∃ run rest, l = run ++ rest ∧ (∀ x ∈ run, q x = true) ∧ ∀ x ∈ rest.head?, q x = false := by
  refine ⟨l.takeWhile q, l.dropWhile q, List.takeWhile_append_dropWhile.symm,
    fun x hx => List.mem_takeWhile_imp hx, fun x hx => ?_⟩
  simpa [Option.mem_def.mp hx] using List.head?_dropWhile_not q l

section Splitting

variable {p : Char → Bool} {s : Text}

theorem fields_cons {c : CodePoint} (h : c.is p = true) (s : Text) :
    fields p (c :: s) = fields p s := by
  unfold fields
  rw [pieces, h]
  split
  next hfalse => cases hfalse
  next =>
    split
    next => rfl
    next => rfl

/-- Members of the class in front belong to no piece. -/
theorem fields_append_gap {gap : Text} (h : ∀ c ∈ gap, c.is p = true) (s : Text) :
    fields p (gap ++ s) = fields p s := by
  induction gap with
  | nil => rfl
  | cons c gap ih =>
    obtain ⟨hc, hgap⟩ := List.forall_mem_cons.mp h
    rw [List.cons_append, fields_cons hc, ih hgap]

/-- The first piece is empty where a member of the class stands in front, or nothing at all. -/
theorem exists_pieces (h : ∀ c ∈ s.head?, c.is p = true) : ∃ more, pieces p s = [] :: more := by
  induction s with
  | nil => exact ⟨[], rfl⟩
  | cons c rest ih =>
    have hc : c.is p = true := h c rfl
    by_cases hrun : rest.head?.any (CodePoint.is p) = true
    · obtain ⟨more, hmore⟩ := ih fun d hd => by simpa [Option.mem_def.mp hd] using hrun
      exact ⟨more, by simp [pieces, hc, hrun, hmore]⟩
    · exact ⟨pieces p rest, by simp [pieces, hc, hrun]⟩

theorem pieces_append {run : Text} (h : ∀ c ∈ run, c.is p = false) (s : Text) :
    pieces p (run ++ s) = (pieces p s).modifyHead (run ++ ·) := by
  induction run with
  | nil =>
    have hsame : (([] : Text) ++ ·) = id := funext fun piece => List.nil_append piece
    rw [List.nil_append, hsame, List.modifyHead_id]
    rfl
  | cons c run ih =>
    obtain ⟨hc, hrun⟩ := List.forall_mem_cons.mp h
    simp [pieces, hc, ih hrun, List.modifyHead_modifyHead, Function.comp_def]

/-- A run of others is a piece, up to where a member of the class follows or nothing at all. -/
theorem fields_append {run : Text} (hne : run ≠ []) (h : ∀ c ∈ run, c.is p = false)
    (hs : ∀ c ∈ s.head?, c.is p = true) : fields p (run ++ s) = run :: fields p s := by
  obtain ⟨more, hmore⟩ := exists_pieces hs
  simp [fields, pieces_append h, hmore, hne]

end Splitting

/-! ## Spaces at the starts of words -/

/-- A small letter is no capital, so the second of a pair starts no other pair. -/
theorem spaced_cons_of_not_small {c : CodePoint} (h : c.is isSmallLetter = false) (s : Text) :
    spaced (c :: s) = c :: spaced s := by
  cases s with
  | nil => rfl
  | cons d rest => simp [spaced, startsWord, h]

theorem startsWord_capital {c d : CodePoint} (h : startsWord c d = true) :
    d.is isSmallLetter = false := by
  cases d with
  | half n => rfl
  | char x =>
    rw [startsWord, Bool.and_eq_true] at h
    exact isSmallLetter_of_isCapitalLetter h.2

/-- Between two neighbours there is a space exactly if the second starts a word. -/
theorem spaced_cons_cons (c d : CodePoint) (s : Text) : spaced (c :: d :: s) =
    if startsWord c d then c :: .char ' ' :: spaced (d :: s) else c :: spaced (d :: s) := by
  rw [spaced]
  split
  next hstart => rw [spaced_cons_of_not_small (startsWord_capital hstart)]
  next => rfl

/-- A word gets no spaces. -/
theorem spaced_unbroken {w : Text} (h : w.IsChain fun c d => startsWord c d = false) :
    spaced w = w := by
  induction w with
  | nil => rfl
  | cons c w ih =>
    cases w with
    | nil => rfl
    | cons d w =>
      obtain ⟨hcd, hw⟩ := List.isChain_cons_cons.mp h
      rw [spaced_cons_cons, hcd, ih hw]
      rfl

/-- A word gets a space behind it where the next one starts. -/
theorem spaced_append {w rest : Text} {d : CodePoint}
    (h : w.IsChain fun c d => startsWord c d = false)
    (hlast : ∃ c ∈ w.getLast?, startsWord c d = true) :
    spaced (w ++ d :: rest) = w ++ .char ' ' :: spaced (d :: rest) := by
  induction w with
  | nil =>
    obtain ⟨c, hc, -⟩ := hlast
    cases hc
  | cons c w ih =>
    cases w with
    | nil =>
      obtain ⟨c', hc', hstart⟩ := hlast
      obtain rfl : c = c' := by simpa using hc'
      rw [List.singleton_append, spaced_cons_cons, if_pos hstart]
      rfl
    | cons e w =>
      obtain ⟨hce, hw⟩ := List.isChain_cons_cons.mp h
      have hrest := ih hw (by simpa using hlast)
      rw [List.cons_append, List.cons_append, spaced_cons_cons, hce]
      rw [List.cons_append] at hrest
      rw [hrest]
      rfl

/-! ## The words that are found -/

theorem isBlankChar_of_not_separator {c : CodePoint} (h : c.is isSeparator = false) :
    c.is isBlankChar = false := by
  cases c with
  | half n => rfl
  | char x =>
    rw [CodePoint.is, isSeparator, Bool.or_eq_false_iff] at h
    exact h.1

theorem words_append_gap {gap : Text} (h : IsGap gap) (s : Text) : words (gap ++ s) = words s := by
  rw [words, words, fields_append_gap h]

/-- What stands in front of a separator, or of nothing, goes through the second round by itself. -/
theorem words_append_piece {piece behind : Text} (h : ∀ c ∈ piece, c.is isSeparator = false)
    (hbehind : ∀ c ∈ behind.head?, c.is isSeparator = true) :
    words (piece ++ behind) = fields isBlankChar (spaced piece) ++ words behind := by
  by_cases hne : piece = []
  · subst hne
    rfl
  · rw [words, fields_append hne h hbehind, List.flatMap_cons]
    rfl

/-- In the second round a word comes off the front of its piece. -/
theorem fields_spaced_append {w close : Text} (hw : SingleWord w)
    (hclose : ∀ c ∈ close, c.is isSeparator = false) (hends : EndsBefore w close) :
    fields isBlankChar (spaced (w ++ close)) = w :: fields isBlankChar (spaced close) := by
  have hblank : ∀ c ∈ w, c.is isBlankChar = false :=
    fun c hc => isBlankChar_of_not_separator (hw.solid c hc)
  cases close with
  | nil =>
    have hlast : fields isBlankChar (w ++ []) = w :: fields isBlankChar [] :=
      fields_append hw.nonempty hblank nofun
    rw [List.append_nil] at hlast ⊢
    rw [spaced_unbroken hw.unbroken, hlast]
    rfl
  | cons d more =>
    -- the next word follows at once, and a space comes in between
    have hstart : ∃ c ∈ w.getLast?, startsWord c d = true := by
      refine (hends d rfl).resolve_left fun hgap => ?_
      rw [hclose d (.head more)] at hgap
      cases hgap
    have hspace : ∀ c ∈ (CodePoint.char ' ' :: spaced (d :: more)).head?,
        c.is isBlankChar = true := by
      intro c hc
      obtain rfl := Option.some.inj hc
      decide
    rw [spaced_append hw.unbroken hstart, fields_append hw.nonempty hblank hspace,
      fields_cons (by decide)]

/-- A word at the start of a text is found, and then those of the rest. -/
theorem words_append_word {w rest : Text} (hw : SingleWord w) (hends : EndsBefore w rest) :
    words (w ++ rest) = w :: words rest := by
  -- what stands close behind the word is in one piece with it
  obtain ⟨close, behind, rfl, hclose, hbehind⟩ := exists_run (fun c => !c.is isSeparator) rest
  simp only [Bool.not_eq_true', Bool.not_eq_false'] at hclose hbehind
  have hpiece : ∀ c ∈ w ++ close, c.is isSeparator = false :=
    List.forall_mem_append.mpr ⟨hw.solid, hclose⟩
  have hnear : EndsBefore w close := fun d hd =>
    hends d (List.mem_head?_append_of_mem_head? hd)
  rw [← List.append_assoc, words_append_piece hpiece hbehind, words_append_piece hclose hbehind,
    fields_spaced_append hw hclose hnear, List.cons_append]

/-- A text that consists of words has them found. -/
theorem words_of_hasWords {s : Text} {ws : List Text} (h : HasWords s ws) : words s = ws := by
  induction h with
  | done hgap =>
    have hnone := words_append_gap hgap []
    rwa [List.append_nil] at hnone
  | word hgap hword hends _ ih => rw [words_append_gap hgap, words_append_word hword hends, ih]

/-- What starts with no separator starts with a word. -/
theorem exists_singleWord {c : CodePoint} (hc : c.is isSeparator = false) (s : Text) :
    ∃ w rest, c :: s = c :: (w ++ rest) ∧ SingleWord (c :: w) ∧ EndsBefore (c :: w) rest := by
  have hone : SingleWord [c] :=
    ⟨List.cons_ne_nil c [], by simpa using hc, List.isChain_singleton c⟩
  induction s generalizing c with
  | nil => exact ⟨[], [], rfl, hone, by simp [EndsBefore]⟩
  | cons d s ih =>
    by_cases hd : d.is isSeparator = true
    · exact ⟨[], d :: s, rfl, hone, by simp [EndsBefore, hd]⟩
    · by_cases hstart : startsWord c d = true
      · exact ⟨[], d :: s, rfl, hone, by simp [EndsBefore, hstart]⟩
      · -- the next word begins with the same letters as the word from `d` on
        rw [Bool.not_eq_true] at hd hstart
        obtain ⟨w, rest, hs, hword, hends⟩ :=
          ih hd ⟨List.cons_ne_nil d [], by simpa using hd, List.isChain_singleton d⟩
        refine ⟨d :: w, rest, by rw [hs]; rfl, ?_, ?_⟩
        · exact ⟨List.cons_ne_nil c _, List.forall_mem_cons.mpr ⟨hc, hword.solid⟩,
            List.isChain_cons_cons.mpr ⟨hstart, hword.unbroken⟩⟩
        · intro e he
          simpa using hends e he

/-- Every text consists of words and gaps. -/
theorem exists_hasWords (s : Text) : ∃ ws, HasWords s ws := by
  induction hn : s.length using Nat.strong_induction_on generalizing s with
  | _ n ih =>
    obtain ⟨gap, behind, rfl, hgap, hbehind⟩ := exists_run (CodePoint.is isSeparator) s
    cases behind with
    | nil => exact ⟨[], by rw [List.append_nil]; exact .done hgap⟩
    | cons c t =>
      obtain ⟨w, rest, hsplit, hword, hends⟩ := exists_singleWord (hbehind c rfl) t
      rw [hsplit] at hn ⊢
      have hlength : rest.length < n := by
        rw [← hn, List.length_append, List.length_cons, List.length_append]
        omega
      obtain ⟨ws, hws⟩ := ih _ hlength rest rfl
      exact ⟨(c :: w) :: ws, .word hgap hword hends hws⟩

theorem hasWords_words (s : Text) : HasWords s (words s) := by
  obtain ⟨ws, hws⟩ := exists_hasWords s
  rwa [words_of_hasWords hws]

/-- **The words that are found are those that the text consists of.** -/
theorem words_eq_iff {s : Text} {ws : List Text} : words s = ws ↔ HasWords s ws := by
  constructor
  · rintro rfl
    exact hasWords_words s
  · exact words_of_hasWords

/-! ## What words are made of -/

namespace HasWords

variable {s : Text} {ws : List Text}

/-- A gap may be put in front. -/
theorem behind_gap {gap : Text} (hgap : IsGap gap) (h : HasWords s ws) :
    HasWords (gap ++ s) ws := by
  cases h with
  | done hfirst => exact .done (List.forall_mem_append.mpr ⟨hgap, hfirst⟩)
  | word hfirst hword hends hrest =>
    rw [← List.append_assoc]
    exact .word (List.forall_mem_append.mpr ⟨hgap, hfirst⟩) hword hends hrest

theorem singleWord (h : HasWords s ws) : ∀ w ∈ ws, SingleWord w := by
  induction h with
  | done => simp
  | word _ hword _ _ ih => exact List.forall_mem_cons.mpr ⟨hword, ih⟩

/-- Words hold all of a text but its separators. -/
theorem flatten_eq (h : HasWords s ws) : ws.flatten = s.filter fun c => !c.is isSeparator := by
  have hgone : ∀ {gap : Text}, IsGap gap → gap.filter (fun c => !c.is isSeparator) = [] :=
    fun hgap => List.filter_eq_nil_iff.mpr fun c hc => by simp [hgap c hc]
  induction h with
  | done hgap => rw [hgone hgap, List.flatten_nil]
  | @word _ w _ _ hgap hword _ _ ih =>
    have hkept : w.filter (fun c => !c.is isSeparator) = w :=
      List.filter_eq_self.mpr fun c hc => by simp [hword.solid c hc]
    rw [List.filter_append, hgone hgap, List.filter_append, hkept, ← ih, List.flatten_cons,
      List.nil_append]

end HasWords

/-- A word in upper case is one word. -/
theorem SingleWord.toUpperCase {w : Text} (h : SingleWord w) : SingleWord (toUpperCase w) where
  nonempty := toUpperCase_ne_nil h.nonempty
  solid := fun _ => isSeparator_of_mem_toUpperCase h.solid
  unbroken := by
    refine (List.pairwise_of_forall_mem_list fun c hc d _ => ?_).isChain
    rw [startsWord, isSmallLetter_of_mem_toUpperCase hc, Bool.false_and]

/-- Words that are joined by underscores are those of the joined text. -/
theorem hasWords_join {ws : List Text} (h : ∀ w ∈ ws, SingleWord w) :
    HasWords (join "_" ws) ws := by
  have hgap : IsGap (ofString "_") := by
    unfold IsGap
    decide
  have hnone : IsGap [] := nofun
  induction ws with
  | nil => exact .done hnone
  | cons w ws ih =>
    obtain ⟨hw, hws⟩ := List.forall_mem_cons.mp h
    cases ws with
    | nil =>
      have hlast : HasWords ([] ++ (w ++ [])) [w] := .word hnone hw nofun (.done hnone)
      rw [List.nil_append, List.append_nil] at hlast
      rwa [join, List.intercalate_singleton]
    | cons w' ws =>
      have hends : EndsBefore w (ofString "_" ++ join "_" (w' :: ws)) := by
        intro d hd
        obtain rfl := Option.some.inj hd
        exact .inl (by decide)
      rw [join, List.intercalate_cons_cons, List.append_assoc]
      exact .word hnone hw hends ((ih hws).behind_gap hgap)

/-! ## Upper-snake case -/

/-- In upper case the words of a text are single words still. -/
theorem singleWord_upperCase (s : Text) : ∀ w ∈ (words s).map toUpperCase, SingleWord w :=
  List.forall_mem_map.mpr fun w hw => ((hasWords_words s).singleWord w hw).toUpperCase

/-- The words of the upper-snake-case form are those of the text, in upper case. -/
theorem words_toUpperSnakeCase (s : Text) :
    words (toUpperSnakeCase s) = (words s).map toUpperCase :=
  words_eq_iff.mpr (hasWords_join (singleWord_upperCase s))

/-- Without its underscores the joined text is what was joined. -/
theorem filter_join {ws : List Text} (h : ∀ w ∈ ws, ∀ c ∈ w, c.is isSeparator = false) :
    (join "_" ws).filter (· != .char '_') = ws.flatten := by
  have hkept : ∀ w ∈ ws, w.filter (· != .char '_') = w := fun w hw => by
    refine List.filter_eq_self.mpr fun c hc => bne_iff_ne.mpr ?_
    rintro rfl
    exact absurd (h w hw _ hc) (by decide)
  induction ws with
  | nil => rfl
  | cons w ws ih =>
    obtain ⟨hw, hws⟩ := List.forall_mem_cons.mp hkept
    cases ws with
    | nil => simpa [join] using hw
    | cons w' ws =>
      have hrest := ih (List.forall_mem_cons.mp h).2 hws
      rw [join] at hrest ⊢
      rw [List.intercalate_cons_cons, List.filter_append, List.filter_append, hw, hrest]
      exact congrArg (· ++ _) (List.append_nil w)

/-- **The upper-snake-case form of a text is made of its words**, which are determined by where the
    gaps are and where a capital follows a small letter: the words in upper case with single
    underscores between them.  So without its underscores it is the text in upper case without its
    separators. -/
theorem upperSnakeCase_of_words (s : Text) :
    (∃ ws, (∀ cut, HasWords s cut ↔ cut = ws) ∧
      toUpperSnakeCase s = join "_" (ws.map toUpperCase)) ∧
    (toUpperSnakeCase s).filter (· != .char '_') =
      toUpperCase (s.filter fun c => !c.is isSeparator) := by
  refine ⟨⟨words s, fun cut => ?_, rfl⟩, ?_⟩
  · rw [← words_eq_iff, eq_comm]
  · have hsolid : ∀ w ∈ (words s).map toUpperCase, ∀ c ∈ w, c.is isSeparator = false :=
      fun w hw => (singleWord_upperCase s w hw).solid
    calc (toUpperSnakeCase s).filter (· != .char '_')
        = ((words s).map toUpperCase).flatten := filter_join hsolid
      _ = toUpperCase (words s).flatten := (toUpperCase_flatten _).symm
      _ = toUpperCase (s.filter fun c => !c.is isSeparator) := by rw [(hasWords_words s).flatten_eq]

example : toUpperSnakeCase "  straßeName__xmlHTTPRequest" = "STRASSE_NAME_XML_HTTPREQUEST" := by
  decide +kernel

/-- **Upper-snake case is reached in one step.** -/
theorem upperSnakeCase_idempotent (s : Text) :
    toUpperSnakeCase (toUpperSnakeCase s) = toUpperSnakeCase s := by
  have hupper : ((words s).map toUpperCase).map toUpperCase = (words s).map toUpperCase := by
    rw [List.map_map]
    exact List.map_congr_left fun w _ => toUpperCase_toUpperCase w
  calc toUpperSnakeCase (toUpperSnakeCase s)
      = join "_" (((words s).map toUpperCase).map toUpperCase) := by
        rw [toUpperSnakeCase, words_toUpperSnakeCase]
    _ = toUpperSnakeCase s := by rw [hupper, toUpperSnakeCase]

end Typewright.Text
