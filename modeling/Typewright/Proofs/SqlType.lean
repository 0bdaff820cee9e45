/-
  What an SQL type depends on.

  Three layers give the SQL type of an attribute: the type that it states, the override for its
  kind, and the types of the dialect.  The first one that applies decides, and nothing that another
  layer looks at has a part in it.

  The size of the column and the bound on the length come in through one door, `sizeFor`.  It is
  closed for kinds without a size; a decimal looks at the size alone, a text at the bound only where
  the size is blank; and of both only the trimmed text matters.
-/
import Typewright.Proofs.CharacterClass
import Typewright.Proofs.Placeholder
import Typewright.Sql.Provider

namespace Typewright.Sql

open Text

/-- A subject with another size of the column and another bound on the length. -/
def Subject.resized (s : Subject) (size : Text) (bound : Length) : Subject :=
  { s with size, maxLength := bound }

/-- A bound below a thousand. -/
def Length.small (n : Fin 1000) : Length := .number (.ofFin n)

/-- A subject of a kind that says nothing about its type. -/
def Subject.plain (type : NeutralType) : Subject where
  name := "label"
  type := type
  explicit := []
  autoIncremented := false
  longText := false
  size := []
  maxLength := .small 0

namespace Provider

/-- A provider with a dialect and overrides for texts and whole numbers. -/
def oracleCodes : Provider := ⟨some .oracle, [(.string, "CHAR(%s)"), (.int, "NUMBER")]⟩

/-- A provider with nothing but the override for texts. -/
def codes : Provider := ⟨none, [(.string, "CHAR(%s)")]⟩

variable {p p' : Provider} {s t : Subject}

/-- What starts with a sign is no bare name. -/
theorem isBareName_of_sign {c : Char} (hblank : isBlankChar c = false)
    (hword : covers wordlessSpans c = true) (rest : Text) :
    isBareName (.char c :: rest) = false := by
  have hchar : CodePoint.is isBlankChar (.char c) = false := hblank
  have hstart : trimStart (.char c :: rest) = .char c :: rest :=
    trimStart_cons_of_not_blank hchar rest
  have htake : (.char c :: rest : Text).takeWhile (CodePoint.is isWordChar) = [] :=
    List.takeWhile_cons_of_neg (by simp [CodePoint.is, isWordChar_of_wordless hword])
  rw [isBareName, hstart, htake]
  rfl

/-! ## Layers -/

/-- A type that an attribute states is its SQL type. -/
theorem sqlType_eq_stated (h : isBlank s.explicit = false) : p.sqlType s = trimmed s.explicit := by
  have hstated : trimmed s.explicit ≠ [] := trimmed_ne_nil_iff.mpr h
  unfold sqlType explicit?
  rw [if_pos hstated]
  rfl

theorem sqlType_of_stated (h : isBlank s.explicit = false) : p'.sqlType s = p.sqlType s := by
  rw [sqlType_eq_stated h, sqlType_eq_stated h]

/-- Before a type that is stated the kind is not even looked up. -/
theorem sqlTypeByWord_of_stated {explicit : Text} (h : isBlank explicit = false) (word : Text)
    (subject : NeutralType → Subject) :
    p.sqlTypeByWord word subject explicit = .ok (trimmed explicit) := by
  unfold sqlTypeByWord
  rw [if_pos (trimmed_ne_nil_iff.mpr h)]

theorem sqlType_eq_inferred (h : isBlank s.explicit = true) : p.sqlType s = (p.inferred s).1 := by
  have hnone : ¬ trimmed s.explicit ≠ [] := not_not.mpr (trimmed_eq_nil_iff.mpr h)
  unfold sqlType explicit?
  rw [if_neg hnone]
  rfl

/-- An override takes the size, and that is all. -/
theorem sqlType_eq_override (h : isBlank s.explicit = true) {entry : Text}
    (hentry : p.override? s.type = some entry) :
    p.sqlType s = render entry .mapping (sizeFor s) := by
  rw [sqlType_eq_inferred h, inferred, templateFor, hentry]

/-- Of a provider only the dialect and the override for the kind matter. -/
theorem sqlType_congr (hdialect : p'.dialect = p.dialect)
    (hoverride : p'.override? s.type = p.override? s.type) : p'.sqlType s = p.sqlType s := by
  unfold sqlType inferred templateFor
  rw [hdialect, hoverride]

/-- **The first layer that applies decides alone.**  A type that is stated counts with every
    provider, and for a kind that is none as well.  Else an override gives the same to all
    subjects of one size, whatever the provider has beside it.  Else no override matters. -/
theorem sqlType_precedence (p : Provider) (s : Subject) :
    (isBlank s.explicit = false →
      p.sqlType s = trimmed s.explicit ∧
        ∀ word subject, p.sqlTypeByWord word subject s.explicit = .ok (trimmed s.explicit)) ∧
    (isBlank s.explicit = true → ∀ entry, p.override? s.type = some entry →
      p.sqlType s = render entry .mapping (sizeFor s) ∧
        ∀ (q : Provider) (t : Subject), isBlank t.explicit = true →
          q.override? t.type = some entry → sizeFor t = sizeFor s → q.sqlType t = p.sqlType s) ∧
    (isBlank s.explicit = true → p.override? s.type = none →
      p.sqlType s = (Provider.mk p.dialect []).sqlType s ∧
        ∀ q : Provider, q.dialect = p.dialect → q.override? s.type = none →
          q.sqlType s = p.sqlType s) := by
  refine ⟨?stated, ?overridden, ?builtIn⟩
  case stated => exact fun h => ⟨sqlType_eq_stated h, fun word subject =>
    sqlTypeByWord_of_stated h word subject⟩
  case overridden =>
    intro h entry hentry
    refine ⟨sqlType_eq_override h hentry, fun q t ht hsame hsize => ?_⟩
    rw [sqlType_eq_override ht hsame, sqlType_eq_override h hentry, hsize]
  case builtIn =>
    intro _ hnone
    exact ⟨sqlType_congr rfl hnone,
      fun q hdialect hq => sqlType_congr hdialect (hq.trans hnone.symm)⟩

/-- A long text in a column that counts by itself, which says its size between blanks. -/
def longCode : Subject :=
  { Subject.plain .string with autoIncremented := true, longText := true, size := " 12 " }

/-- A short text with the same size as a bound on its length. -/
def shortCode : Subject := (Subject.plain .string).resized [] (.small 12)

/-- A stated type of a kind that is none, an override for texts of one size, and the type of a
    dialect behind overrides for other kinds. -/
theorem sqlType_precedence_codes :
    (isBlank " TEXT " = false ∧
      oracleCodes.sqlTypeByWord "uuid" Subject.plain " TEXT " = .ok "TEXT") ∧
    (isBlank shortCode.explicit = true ∧ isBlank longCode.explicit = true ∧
      oracleCodes.override? .string = some "CHAR(%s)" ∧ codes.override? .string = some "CHAR(%s)" ∧
      sizeFor longCode = sizeFor shortCode ∧
      codes.sqlType longCode = oracleCodes.sqlType shortCode) ∧
    (isBlank (Subject.plain .decimal).explicit = true ∧ oracleCodes.override? .decimal = none ∧
      oracleCodes.sqlType (Subject.plain .decimal) =
        (Provider.mk (some .oracle) []).sqlType (Subject.plain .decimal)) := by
  have hsize : sizeFor longCode = sizeFor shortCode := by decide
  have htrimmed : trimmed " TEXT " = "TEXT" := by decide
  obtain ⟨hstated, -, -⟩ :=
    sqlType_precedence oracleCodes { Subject.plain .int with explicit := " TEXT " }
  obtain ⟨-, hentry, -⟩ := sqlType_precedence oracleCodes shortCode
  obtain ⟨-, -, hnone⟩ := sqlType_precedence oracleCodes (Subject.plain .decimal)
  refine ⟨⟨by decide, ?_⟩, ⟨rfl, rfl, by decide, by decide, hsize, ?_⟩, rfl, by decide, ?_⟩
  · rw [(hstated (by decide)).2 "uuid" Subject.plain, htrimmed]
  · exact (hentry rfl "CHAR(%s)" (by decide)).2 codes longCode rfl (by decide) hsize
  · exact (hnone rfl (by decide)).1

/-! ## Sizes -/

/-- A size is shown as it is: trimmed, and not empty. -/
theorem trimmed_of_sizeFor {size : Text} (h : sizeFor s = some size) :
    trimmed size = size ∧ size ≠ [] := by
  simp only [sizeFor] at h
  split at h
  · cases h
  split at h
  next hsize =>
    cases h
    exact ⟨trimmed_trimmed _, hsize⟩
  split at h
  next hbound =>
    cases h
    simp only [Bool.and_eq_true, decide_eq_true_eq] at hbound
    exact ⟨trimmed_trimmed _, hbound.2⟩
  · cases h

theorem isBlank_of_sizeFor {size : Text} (h : sizeFor s = some size) : isBlank size = false := by
  obtain ⟨htrimmed, hne⟩ := trimmed_of_sizeFor h
  exact trimmed_ne_nil_iff.mp (htrimmed.symm ▸ hne)

/-- There is no size if the kind has none, or if neither the column nor, for a text, the bound on
    the length says one. -/
theorem sizeFor_eq_none_iff : sizeFor s = none ↔
    s.type.isSized = false ∨
      (isBlank s.size = true ∧ (s.type = .string → isBlank s.maxLength.toText = true)) := by
  simp only [sizeFor]
  cases s.type.isSized with
  | false => simp
  | true => simp [trimmed_eq_nil_iff, ite_eq_iff]

/-- Only texts and decimals have a size. -/
theorem isSized_eq_false {type : NeutralType} (hstring : type ≠ .string)
    (hdecimal : type ≠ .decimal) : type.isSized = false := by
  cases type with
  | string => exact absurd rfl hstring
  | decimal => exact absurd rfl hdecimal
  | _ => rfl

/-- Two subjects of one kind have the same size if their columns agree but for blanks at the ends,
    and where these say none and the kind is text, their bounds do. -/
theorem sizeFor_congr (htype : t.type = s.type) (hsize : trimmed t.size = trimmed s.size)
    (hbound : s.type = .string → isBlank s.size = true →
      trimmed t.maxLength.toText = trimmed s.maxLength.toText) : sizeFor t = sizeFor s := by
  simp only [sizeFor, htype, hsize]
  by_cases hblank : trimmed s.size = []
  · by_cases hstring : s.type = .string
    · rw [hbound hstring (trimmed_eq_nil_iff.mp hblank)]
    · simp [hstring]
  · simp [hblank]

variable {size size' : Text} {bound bound' : Length}

/-- What else a subject says does not change with its bounds. -/
theorem sqlType_resized_congr (p : Provider)
    (h : sizeFor (s.resized size bound) = sizeFor (s.resized size' bound')) :
    p.sqlType (s.resized size bound) = p.sqlType (s.resized size' bound') := by
  unfold sqlType inferred
  rw [h]
  rfl

/-- A provider that shows the sizes of all subjects of a kind. -/
def showing (type : NeutralType) : Provider := ⟨none, [(type, "<%s>")]⟩

theorem apply_showing {given : Option Text} (h : given ≠ some []) :
    apply "<%s>" given = .char '<' :: (given.getD [] ++ [.char '>']) := by
  cases given with
  | none =>
    have hplace : emptied "%s>" = emptied ">" := emptied_placeholder (List.forall_mem_nil _) ">"
    have hlast : emptied ">" = ">" := by
      rw [emptied_eq_self_iff]
      rfl
    have hfirst : emptied "<%s>" = .char '<' :: emptied "%s>" :=
      emptied_cons_of_ne (by decide) (by decide) (by decide) "%s>"
    rw [apply_none, hfirst, hplace, hlast]
    decide
  | some size =>
    have hne : size ≠ [] := fun hnil => h (congrArg some hnil)
    rw [apply_some hne]
    exact stripped_enclosed (by decide) (by decide) size

theorem eq_of_getD_eq {given given' : Option Text} (h : given ≠ some []) (h' : given' ≠ some [])
    (hsame : given.getD [] = given'.getD []) : given = given' := by
  cases given with
  | none =>
    cases given' with
    | none => rfl
    | some size => exact absurd (congrArg some hsame.symm) h'
  | some size =>
    cases given' with
    | none => exact absurd (congrArg some hsame) h
    | some size' => exact congrArg some hsame

/-- With a provider that shows them different sizes give different types. -/
theorem sizeFor_eq_of_showing (hs : isBlank s.explicit = true) (ht : isBlank t.explicit = true)
    (htype : t.type = s.type) (hsame : (showing s.type).sqlType t = (showing s.type).sqlType s) :
    sizeFor t = sizeFor s := by
  have hne : ∀ r : Subject, sizeFor r ≠ some [] := fun r hr => (trimmed_of_sizeFor hr).2 rfl
  have hshown : ∀ r : Subject, isBlank r.explicit = true → r.type = s.type →
      (showing s.type).sqlType r = .char '<' :: ((sizeFor r).getD [] ++ [.char '>']) := by
    intro r hr hkind
    have hentry : (showing s.type).override? r.type = some "<%s>" := by
      simp [showing, override?, hkind]
    have hname : isBareName "<%s>" = false := isBareName_of_sign (by decide) (by decide) "%s>"
    rw [sqlType_eq_override hr hentry, render, hname, Bool.and_false, if_neg Bool.false_ne_true,
      apply_showing (hne r)]
  rw [hshown t ht htype, hshown s hs rfl] at hsame
  exact eq_of_getD_eq (hne t) (hne s) (by simpa using hsame)

/-- **Sizes have a part in the types of texts and decimals only.**  A decimal has no use for the
    bound on the length, a text has none where the column says a size, and blanks at the ends of a
    size do not count.  What is the same to every provider is the same size. -/
theorem sqlType_resized (s : Subject) (size size' : Text) (bound bound' : Length) :
    (∀ p : Provider,
      (s.type ≠ .string → s.type ≠ .decimal →
        p.sqlType (s.resized size bound) = p.sqlType (s.resized size' bound')) ∧
      (s.type = .decimal →
        p.sqlType (s.resized size bound) = p.sqlType (s.resized size bound')) ∧
      (s.type = .string → isBlank size = false →
        p.sqlType (s.resized size bound) = p.sqlType (s.resized size bound')) ∧
      (trimmed size = trimmed size' →
        p.sqlType (s.resized size bound) = p.sqlType (s.resized size' bound))) ∧
    (isBlank s.explicit = true →
      ((∀ p : Provider, p.sqlType (s.resized size bound) = p.sqlType (s.resized size' bound')) ↔
        sizeFor (s.resized size bound) = sizeFor (s.resized size' bound'))) := by
  constructor
  · intro p
    refine ⟨?unsized, ?decimal, ?text, ?blanks⟩
    case unsized =>
      intro hstring hdecimal
      have hnone : ∀ size bound, sizeFor (s.resized size bound) = none := fun _ _ =>
        sizeFor_eq_none_iff.mpr (.inl (isSized_eq_false hstring hdecimal))
      exact sqlType_resized_congr p ((hnone _ _).trans (hnone _ _).symm)
    case decimal =>
      intro hdecimal
      refine sqlType_resized_congr p (sizeFor_congr rfl rfl fun hstring => ?_)
      cases hdecimal.symm.trans hstring
    case text =>
      intro _ hgiven
      refine sqlType_resized_congr p (sizeFor_congr rfl rfl fun _ hblank => ?_)
      cases hgiven.symm.trans hblank
    case blanks =>
      exact fun hsame => sqlType_resized_congr p (sizeFor_congr rfl hsame fun _ _ => rfl)
  · intro hnone
    exact ⟨fun hall => sizeFor_eq_of_showing hnone hnone rfl (hall _),
      fun hsize p => sqlType_resized_congr p hsize⟩

/-- A bare name for whole numbers, a decimal with a bound on its length, a text with a size, and a
    size between blanks. -/
theorem sqlType_resized_codes :
    (Subject.plain .int).type ≠ .string ∧ (Subject.plain .int).type ≠ .decimal ∧
      oracleCodes.sqlType ((Subject.plain .int).resized "10" (.small 3)) =
        oracleCodes.sqlType ((Subject.plain .int).resized [] (.small 0)) ∧
      oracleCodes.sqlType ((Subject.plain .decimal).resized "10,2" (.small 3)) =
        oracleCodes.sqlType ((Subject.plain .decimal).resized "10,2" (.small 0)) ∧
      isBlank "10" = false ∧
      oracleCodes.sqlType ((Subject.plain .string).resized "10" (.small 3)) =
        oracleCodes.sqlType ((Subject.plain .string).resized "10" (.small 0)) ∧
      trimmed "10" = trimmed " 10 " ∧
      oracleCodes.sqlType ((Subject.plain .string).resized "10" (.small 3)) =
        oracleCodes.sqlType ((Subject.plain .string).resized " 10 " (.small 3)) ∧
      isBlank (Subject.plain .string).explicit = true ∧
      ¬ ∀ p : Provider, p.sqlType ((Subject.plain .string).resized [] (.small 3)) =
        p.sqlType ((Subject.plain .string).resized [] (.small 4)) := by
  have hint := (sqlType_resized (Subject.plain .int) "10" [] (.small 3) (.small 0)).1 oracleCodes
  have hdecimal :=
    (sqlType_resized (Subject.plain .decimal) "10,2" [] (.small 3) (.small 0)).1 oracleCodes
  have htext :=
    (sqlType_resized (Subject.plain .string) "10" " 10 " (.small 3) (.small 0)).1 oracleCodes
  have hsizes := (sqlType_resized (Subject.plain .string) [] [] (.small 3) (.small 4)).2
  have hblanks : trimmed "10" = trimmed " 10 " := by decide
  refine ⟨by decide, by decide, hint.1 (by decide) (by decide), hdecimal.2.1 rfl, by decide,
    htext.2.2.1 rfl (by decide), hblanks, htext.2.2.2 hblanks, rfl, fun hall => ?_⟩
  exact absurd ((hsizes rfl).mp hall) (by decide)

end Provider

end Typewright.Sql
