import MarkupAudit.Proofs.Number.RationalBounds
import MarkupAudit.Proofs.Spec.IntegerTypes

namespace MarkupAudit.Verdict

open Number

/-- A check of float literals against the numbers from zero to `max`. It may err only on values that
are out of bounds by less than the least positive double below, or by less than `step` above. -/
structure ChecksUpTo (max step : ℚ) (accepts : String → Prop) : Prop where
  literal : ∀ s, accepts s → ∃ q, WritesFloat s.toList q
  inside : ∀ s q, WritesFloat s.toList q → 0 ≤ q → q ≤ max → accepts s
  below : ∀ s q, WritesFloat s.toList q → q ≤ -2 ^ (-1074 : Int) → ¬accepts s
  above : ∀ s q, WritesFloat s.toList q → max + step ≤ q → ¬accepts s

/-- Whether a value of a named type is found valid in custom mode, where every attribute is
judged. -/
def Accepts (l : Locale) (name : String) (decl : AttributeDecl) (type : NamedType) (s : String) :
    Prop :=
  ofAttribute l name s true (some { decl with type := .named type }) = pure .valid

/-- Bounds on doubles are exact but for what lies between the bound and the next double. -/
theorem checksUpTo_textInRange (max bits : Nat) (hbits : bits ≤ 1074)
    (hmax : max * 2 ^ bits + 1 < 2 ^ 53) :
    ChecksUpTo max (2 ^ (-bits : Int)) fun s => textInRange s 0 max = true := by
  have hless : max < 2 ^ 53 := lt_of_mul_two_pow_lt hmax
  constructor
  · intro s hin
    exact exists_writesFloat_of_textInRange hin
  · intro s q hwrites hq hle
    exact textInRange_of_le hwrites hless hq hle
  · intro s q hwrites hle
    exact not_textInRange_of_le_neg hwrites hless hle
  · intro s q hwrites hge
    exact not_textInRange_of_ge hwrites hbits hmax hge

theorem unitless_of_textInRange {s : String} {min max : Nat} (hin : textInRange s min max = true) :
    Unitless s := by
  obtain ⟨q, hwrites⟩ := exists_writesFloat_of_textInRange hin
  exact hwrites.endsNumber_getLast?

theorem not_unitless_append_percent (f : String) : ¬Unitless (f ++ "%") := by
  intro hunitless
  have hpercent := hunitless '%' (by simp)
  exact absurd hpercent (by decide)

/-- An opacity is a number up to one, or a number up to a hundred in front of a percent sign. -/
theorem isOpacity_iff (s : String) :
    isOpacity s = true ↔
      (Unitless s ∧ textInRange s 0 1 = true) ∨ ∃ f, s = f ++ "%" ∧ textInRange f 0 100 = true := by
  constructor
  · intro hopacity
    have happend := number_append_unit s
    rw [isOpacity] at hopacity
    split at hopacity
    next hpercent =>
      rw [hpercent] at happend
      exact .inr ⟨_, happend.symm, hopacity⟩
    next =>
      split at hopacity
      next hnone =>
        rw [hnone, String.append_empty] at happend
        rw [happend] at hopacity
        exact .inl ⟨happend ▸ unitless_number s, hopacity⟩
      next => cases hopacity
  · rintro (⟨hunitless, hin⟩ | ⟨f, rfl, hin⟩)
    · have hsplit := splitUnit_append hunitless "" (by simp)
      rw [String.append_empty] at hsplit
      simpa [isOpacity, hsplit] using hin
    · have hsplit := splitUnit_append (unitless_of_textInRange hin) "%" (by simp [endsNumber])
      simpa [isOpacity, hsplit] using hin

section

variable (l : Locale) (name : String) (decl : AttributeDecl) (s : String)

theorem accepts_zeroToOne_iff : Accepts l name decl .zeroToOne s ↔ textInRange s 0 1 = true :=
  (ofAttribute_custom_eq_valid_iff l name s _).trans (expect_eq_none_iff l name _ _)

theorem accepts_opacity_iff : Accepts l name decl .opacity s ↔ isOpacity s = true :=
  (ofAttribute_custom_eq_valid_iff l name s _).trans (expect_eq_none_iff l name _ _)

/-- A percentage is judged by its number, which may go up to a hundred. -/
theorem accepts_opacity_percent_iff :
    Accepts l name decl .opacity (s ++ "%") ↔ textInRange s 0 100 = true := by
  rw [accepts_opacity_iff, isOpacity_iff]
  constructor
  · rintro (⟨hunitless, _⟩ | ⟨f, hsame, hin⟩)
    · exact absurd hunitless (not_unitless_append_percent s)
    · have hf : s = f := by simpa [← String.toList_inj] using hsame
      rwa [hf]
  · intro hin
    exact .inr ⟨s, rfl, hin⟩

end

/-- A number between zero and one is accepted by its exact value, but for what lies less than a
double beyond a bound, and nothing but float literals is accepted. An opacity without a unit is
accepted as such a number is; in front of a percent sign the bounds are zero and a hundred; no other
text is an opacity. -/
theorem fractionTypes_accept (l : Locale) (name : String) (decl : AttributeDecl) :
    ChecksUpTo 1 (2 ^ (-52 : Int)) (Accepts l name decl .zeroToOne) ∧
    (∀ s, Unitless s → (Accepts l name decl .opacity s ↔ Accepts l name decl .zeroToOne s)) ∧
    ChecksUpTo 100 (2 ^ (-46 : Int)) (fun f => Accepts l name decl .opacity (f ++ "%")) ∧
    (∀ s, Accepts l name decl .opacity s →
      Unitless s ∨ ∃ f q, s = f ++ "%" ∧ WritesFloat f.toList q) := by
  refine ⟨?_, ?_, ?_, ?_⟩
  · have haccepts : Accepts l name decl .zeroToOne = fun s => textInRange s 0 1 = true :=
      funext fun s => propext (accepts_zeroToOne_iff l name decl s)
    rw [haccepts]
    exact_mod_cast checksUpTo_textInRange 1 52 (by decide) (by decide)
  · intro s hunitless
    rw [accepts_opacity_iff, accepts_zeroToOne_iff, isOpacity_iff]
    constructor
    · rintro (⟨_, hin⟩ | ⟨f, rfl, _⟩)
      · exact hin
      · exact absurd hunitless (not_unitless_append_percent f)
    · intro hin
      exact .inl ⟨hunitless, hin⟩
  · simp only [accepts_opacity_percent_iff]
    exact_mod_cast checksUpTo_textInRange 100 46 (by decide) (by decide)
  · intro s hopacity
    rw [accepts_opacity_iff, isOpacity_iff] at hopacity
    rcases hopacity with ⟨hunitless, _⟩ | ⟨f, rfl, hin⟩
    · exact .inl hunitless
    · obtain ⟨q, hwrites⟩ := exists_writesFloat_of_textInRange hin
      exact .inr ⟨f, q, rfl, hwrites⟩

-- A value just beyond one is accepted: the double nearest to it is one.
example : textInRange "1.0000000000000001" 0 1 = true ∧
    textInRange "1.0000000000000003" 0 1 = false := by
  decide +kernel

end MarkupAudit.Verdict
