/-
  What a context answers, and which answers depend on the names that it shows.

  The questions have distinct names, so that putting them in order does not change what is answered
  to any of them, and the groups in which they are defined can be used instead (`ask_eq_lookup`).

  Showing full names changes two answers, those to `uses_full_type` and `type`, and two methods,
  the padded type and the declaration.  Every other answer, and the snapshot with it, is the same
  before and after.
-/
import Mathlib.Data.List.Nodup
import Typewright.Proofs.Lookup
import Typewright.Resolution.Query

namespace Typewright

namespace Context

variable (c : Context)

/-! ## Questions by name -/

/-- No two questions have one name. -/
theorem groupedQuestions_nodup : (c.groupedQuestions.map (·.1)).Nodup := by
  simp only [groupedQuestions, valueQuestions, typeQuestions, columnQuestions, keyQuestions,
    generationQuestions, List.cons_append, List.nil_append, List.map_cons, List.map_nil]
  decide +kernel

/-- A question is answered as its group says. -/
theorem ask_eq_lookup (question : String) : c.ask question = c.groupedQuestions.lookup question :=
  (lookup_eq_of_perm (List.mergeSort_perm _ _).symm c.groupedQuestions_nodup question).symm

theorem ask_eq_some_iff {question : String} {answer : Traced Answer} :
    c.ask question = some answer ↔ (question, answer) ∈ c.groupedQuestions := by
  rw [ask_eq_lookup, lookup_eq_some_iff_mem c.groupedQuestions_nodup]

/-! ## Full names -/

theorem ask_uses_full_type : c.ask "uses_full_type" = some (ofBool c.fullNames) :=
  c.ask_eq_some_iff.mpr (by simp [groupedQuestions, typeQuestions])

theorem ask_type : c.ask "type" = some (ofResolved c.typeName) :=
  c.ask_eq_some_iff.mpr (by simp [groupedQuestions, typeQuestions])

theorem ask_simple_type : c.ask "simple_type" = some (ofResolved c.simpleType) :=
  c.ask_eq_some_iff.mpr (by simp [groupedQuestions, typeQuestions])

theorem ask_full_type : c.ask "full_type" = some (ofResolved c.fullType) :=
  c.ask_eq_some_iff.mpr (by simp [groupedQuestions, typeQuestions])

/-- The type is answered by its full name exactly if full names are shown. -/
theorem ask_type_eq :
    c.ask "type" = if c.fullNames then c.ask "full_type" else c.ask "simple_type" := by
  rw [ask_type, ask_full_type, ask_simple_type]
  unfold typeName fullType simpleType
  cases c.fullNames <;> rfl

/-- Showing full names changes the answers to two questions at most. -/
theorem ask_useFullNames {question : String} (hflag : question ≠ "uses_full_type")
    (htype : question ≠ "type") : c.useFullNames.ask question = c.ask question := by
  have hflag : (question == "uses_full_type") = false := beq_eq_false_iff_ne.mpr hflag
  have htype : (question == "type") = false := beq_eq_false_iff_ne.mpr htype
  -- both stand in front of the questions about types, and all others are the same ones
  have htypes : c.useFullNames.typeQuestions.lookup question =
      c.typeQuestions.lookup question := by
    simp only [typeQuestions, List.lookup_cons, hflag, htype]
    rfl
  rw [ask_eq_lookup, ask_eq_lookup]
  simp only [groupedQuestions, List.lookup_append, htypes]
  rfl

/-- Showing full names changes what two methods give at most. -/
theorem call_useFullNames {method : Method} (hpadded : ∀ width, method ≠ .paddedType width)
    (hdeclaration : method ≠ .declaration) : c.useFullNames.call method = c.call method := by
  cases method with
  | paddedType width => exact absurd rfl (hpadded width)
  | declaration => exact absurd rfl hdeclaration
  | _ => rfl

end Context

end Typewright
