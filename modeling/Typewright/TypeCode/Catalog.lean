/-
  Catalogs of type codes: which name and which kind of attribute stand behind the vendor-neutral
  number of a native database type.

  A code stands for one entry, so the codes of a catalog are distinct; `Catalog.build` refuses
  entries that repeat a code and names the first code that does, if it can be written.  An unknown
  code is no error: it has no entry, and its name is empty.
-/
import Typewright.Model.Kind
import Typewright.Number.Limit

namespace Typewright

/-- One entry of a catalog. -/
structure TypeCode where
  code : Int
  /-- The symbolic name of the native type. -/
  name : Text
  /-- The kind of attribute it recommends, if any. -/
  type : Option NeutralType
  deriving DecidableEq, Repr

/-- The first code that occurs in `seen` or earlier in the list. -/
def firstRepeat (seen : List Int) : List Int → Option Int
  | [] => none
  | c :: rest => if c ∈ seen then some c else firstRepeat (c :: seen) rest

theorem firstRepeat_eq_none_iff {codes : List Int} : ∀ {seen : List Int},
    firstRepeat seen codes = none ↔ codes.Nodup ∧ ∀ c ∈ codes, c ∉ seen := by
  induction codes with
  | nil => simp [firstRepeat]
  | cons c rest ih =>
    intro seen
    by_cases h : c ∈ seen
    · simp [firstRepeat, h]
    · simp only [firstRepeat, h, if_false, ih, List.nodup_cons, List.mem_cons, not_or]
      constructor
      · rintro ⟨hn, hr⟩
        exact ⟨⟨fun hc => (hr c hc).1 rfl, hn⟩, by
          rintro d (rfl | hd)
          · exact h
          · exact (hr d hd).2⟩
      · rintro ⟨⟨hc, hn⟩, hr⟩
        exact ⟨hn, fun d hd => ⟨fun e => hc (e ▸ hd), hr d (Or.inr hd)⟩⟩

/-- A catalog of type codes. -/
structure Catalog where
  entries : List TypeCode
  /-- No two entries share a code. -/
  distinct : (entries.map (·.code)).Nodup
  deriving DecidableEq

/-- A reason why entries form no catalog. -/
inductive CatalogError where
  /-- This code occurs twice. -/
  | duplicate (code : Writable)
  /-- A code occurs twice that has too many digits to be written. -/
  | unwritableDuplicate
  /-- An entry recommends a kind of attribute that does not exist. -/
  | unknownType (word : UnknownMember)
  deriving DecidableEq, Repr

/-- The complaint about a code that occurs twice. -/
def CatalogError.ofRepeat (code : Int) : CatalogError :=
  match Writable.ofInt? code with
  | some code => .duplicate code
  | none => .unwritableDuplicate

/-- The words for a reason. -/
def CatalogError.message : CatalogError → String
  | duplicate code => "Duplicate type code in catalog: " ++ code.digits
  | unwritableDuplicate => unwritableWords
  | unknownType word => word.message

namespace Catalog

/-- Builds a catalog, or names the first code that repeats an earlier one. -/
def build (entries : List TypeCode) : Except CatalogError Catalog :=
  match h : firstRepeat [] (entries.map (·.code)) with
  | some code => .error (.ofRepeat code)
  | none => .ok ⟨entries, (firstRepeat_eq_none_iff.1 h).1⟩

/-- An entry with its recommendation given by a word. -/
def readEntry (code : Int) (name : Text) : Option Text → Except CatalogError TypeCode
  | none => .ok ⟨code, name, none⟩
  | some word =>
    match Vocabulary.read word with
    | .ok type => .ok ⟨code, name, some type⟩
    | .error e => .error (.unknownType e)

/-- Entries with their recommendations given by words, up to the first that cannot be read or
    repeats a code of `seen` or of an earlier entry. -/
def readEntries (seen : List Int) :
    List (Int × Text × Option Text) → Except CatalogError (List TypeCode)
  | [] => .ok []
  | (code, name, word) :: rest => do
    let entry ← readEntry code name word
    if code ∈ seen then .error (.ofRepeat code)
    else
      let more ← readEntries (code :: seen) rest
      pure (entry :: more)

/-- Builds a catalog from entries whose recommendations are given by words. -/
def read (rows : List (Int × Text × Option Text)) : Except CatalogError Catalog := do
  build (← readEntries [] rows)

/-- The entry of a code. -/
def get? (c : Catalog) (code : Option Int) : Option TypeCode :=
  code.bind fun n => c.entries.find? (·.code == n)

/-- The symbolic name of a code, empty for an unknown one. -/
def nameFor (c : Catalog) (code : Option Int) : Text := ((c.get? code).map (·.name)).getD []

/-- The kind of attribute that a code recommends. -/
def typeFor (c : Catalog) (code : Option Int) : Option NeutralType :=
  (c.get? code).bind (·.type)

/-- Some entry has this code. -/
def contains (c : Catalog) (code : Option Int) : Bool := (c.get? code).isSome

/-- The number of entries. -/
def size (c : Catalog) : Nat := c.entries.length

/-- The entries by ascending code. -/
def sorted (c : Catalog) : List TypeCode := c.entries.mergeSort fun a b => a.code ≤ b.code

/-- The short text of a catalog. -/
def summary (c : Catalog) : String := "<TypeCodeCatalog " ++ toString c.size ++ " codes>"

end Catalog

end Typewright
