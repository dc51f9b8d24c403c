import Mathlib.Data.List.TakeWhile
import MarkupAudit.Proofs.Number.FloatLiteral
import MarkupAudit.Proofs.Spec.IntegerTypes

namespace MarkupAudit

namespace Number

/-- A text is a float literal followed by one of some units, which has no digit and no point. -/
structure Measures (s : String) (units : List String) (number unit : String) : Prop where
  parts : s = number ++ unit
  literal : isFloat number = true
  allowed : unit ∈ units
  plain : ∀ c ∈ unit.toList, c.isDigit = false ∧ c ≠ '.'

theorem endsNumber_eq_true_iff (c : Char) : endsNumber c = true ↔ c.isDigit = true ∨ c = '.' := by
  simp [endsNumber]

theorem endsNumber_eq_false_iff (c : Char) :
    endsNumber c = false ↔ c.isDigit = false ∧ c ≠ '.' := by
  simp [endsNumber]

/-- A float literal ends in a digit or a point. -/
theorem unitless_of_isFloat {s : String} (hfloat : isFloat s = true) : Unitless s := by
  obtain ⟨q, hwrites⟩ := (isFloat_iff s).mp hfloat
  exact hwrites.endsNumber_getLast?

/-- A unit has neither digits nor points. -/
theorem plain_unit (s : String) :
    ∀ c ∈ (splitUnit s).unit.toList, c.isDigit = false ∧ c ≠ '.' := by
  intro c hc
  have htaken : c ∈ s.toList.reverse.takeWhile fun c => !endsNumber c := by
    simpa [splitUnit] using hc
  rw [← endsNumber_eq_false_iff]
  simpa using List.mem_takeWhile_imp htaken

/-- The number and the unit are found by cutting the text. -/
theorem Measures.splitUnit_eq {s number unit : String} {units : List String}
    (hmeasures : Measures s units number unit) : splitUnit s = ⟨number, unit⟩ := by
  rw [hmeasures.parts]
  apply splitUnit_append
  · exact unitless_of_isFloat hmeasures.literal
  · intro c hc
    exact (endsNumber_eq_false_iff c).mpr (hmeasures.plain c hc)

/-- A text can be cut into a number and a unit in one way only. -/
theorem Measures.unique {s number unit otherNumber otherUnit : String} {units : List String}
    (hfirst : Measures s units number unit) (hsecond : Measures s units otherNumber otherUnit) :
    number = otherNumber ∧ unit = otherUnit := by
  have hsame := hfirst.splitUnit_eq.symm.trans hsecond.splitUnit_eq
  exact Quantity.mk.inj hsame

/-- The cut behind the last digit or point finds a number and a unit whenever there are any. -/
theorem hasUnit_iff (s : String) (units : List String) :
    hasUnit s units = true ↔ ∃ number unit, Measures s units number unit := by
  constructor
  · intro hunit
    rw [hasUnit, Bool.and_eq_true_iff] at hunit
    obtain ⟨hfloat, hallowed⟩ := hunit
    exact ⟨_, _, (number_append_unit s).symm, hfloat, List.contains_iff_mem.mp hallowed,
      plain_unit s⟩
  · rintro ⟨number, unit, hmeasures⟩
    have hsplit := hmeasures.splitUnit_eq
    rw [hasUnit, hsplit, Bool.and_eq_true_iff]
    exact ⟨hmeasures.literal, List.contains_iff_mem.mpr hmeasures.allowed⟩

/-- What stands before the unit is empty or ends in a digit or a point. -/
theorem number_eq_empty_or (s : String) :
    (splitUnit s).number = "" ∨
      ∃ c, (splitUnit s).number.toList.getLast? = some c ∧ (c.isDigit = true ∨ c = '.') := by
  cases hlast : (splitUnit s).number.toList.getLast? with
  | none =>
    refine .inl ?_
    rw [← String.toList_eq_nil_iff]
    exact List.getLast?_eq_none_iff.mp hlast
  | some c => exact .inr ⟨c, rfl, (endsNumber_eq_true_iff c).mp (unitless_number s c hlast)⟩

end Number

namespace Verdict

open Number

/-- None of the units of angles has a digit or a point. -/
theorem hasUnit_angleUnits_iff (s : String) :
    hasUnit s angleUnits = true ↔
      ∃ number unit, s = number ++ unit ∧ isFloat number = true ∧
        unit ∈ ["deg", "grad", "rad", "turn"] := by
  rw [hasUnit_iff]
  constructor
  · rintro ⟨number, unit, hmeasures⟩
    exact ⟨number, unit, hmeasures.parts, hmeasures.literal, hmeasures.allowed⟩
  · rintro ⟨number, unit, hparts, hliteral, hallowed⟩
    have hplain : ∀ unit ∈ angleUnits, ∀ c ∈ unit.toList, c.isDigit = false ∧ c ≠ '.' := by
      simp [angleUnits]
    exact ⟨number, unit, hparts, hliteral, hallowed, hplain unit hallowed⟩

/-- A text counts as a number with a unit exactly if it is a float literal followed by an allowed
unit without digits and points, and then in one way only. Any text is cut into two parts, the second
without digits and points and the first empty or with one of them at its end. Hence an angle, where
its attribute is judged at all, is a float literal followed by one of four units. -/
theorem unitTypes_accept :
    (∀ s units, hasUnit s units = true ↔ ∃ number unit, Measures s units number unit) ∧
    (∀ s units number unit otherNumber otherUnit, Measures s units number unit →
      Measures s units otherNumber otherUnit → number = otherNumber ∧ unit = otherUnit) ∧
    (∀ s, (splitUnit s).number ++ (splitUnit s).unit = s ∧
      (∀ c ∈ (splitUnit s).unit.toList, c.isDigit = false ∧ c ≠ '.') ∧
      ((splitUnit s).number = "" ∨
        ∃ c, (splitUnit s).number.toList.getLast? = some c ∧ (c.isDigit = true ∨ c = '.'))) ∧
    ∀ (l : Locale) (name s : String) (custom : Bool) (decl : AttributeDecl),
      ofAttribute l name s custom (some { decl with type := .named .angle }) = pure .valid ↔
        (custom = false ∧ isDelegated name = true) ∨
          ∃ number unit, s = number ++ unit ∧ isFloat number = true ∧
            unit ∈ ["deg", "grad", "rad", "turn"] := by
  refine ⟨hasUnit_iff, fun _ _ _ _ _ _ => Measures.unique, fun s => ?_,
    fun l name s custom decl => ?_⟩
  · exact ⟨number_append_unit s, plain_unit s, number_eq_empty_or s⟩
  · rw [ofAttribute_eq_valid_iff, complaint?, namedComplaint?, expect_eq_none_iff,
      hasUnit_angleUnits_iff]

-- A unit with a digit is never found: the text is cut behind the digit.
example : splitUnit "5m2" = ⟨"5m2", ""⟩ ∧ hasUnit "5m2" ["m2"] = false := by
  decide +kernel

end Verdict

end MarkupAudit
