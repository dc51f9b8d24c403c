import MarkupAudit.Proofs.Number.Integer
import MarkupAudit.Proofs.Spec.Complaints

namespace MarkupAudit.Verdict

open Number

/-- The types whose values are integers. -/
inductive IntegerType where
  | integer
  | nonNegative
  | positive
  | columnSpan
  | rowSpan
  | tabIndex
  deriving DecidableEq, Repr

namespace IntegerType

/-- The type among the named ones. -/
def named : IntegerType → NamedType
  | .integer => .integer
  | .nonNegative => .nonNegative
  | .positive => .positive
  | .columnSpan => .columnSpan
  | .rowSpan => .rowSpan
  | .tabIndex => .tabIndex

/-- The integers that the type is for. -/
def Admits : IntegerType → Int → Prop
  | .integer, _ => True
  | .nonNegative, z => 0 ≤ z
  | .positive, z => 0 < z
  | .columnSpan, z => 0 ≤ z ∧ z ≤ 1000
  | .rowSpan, z => 0 ≤ z ∧ z ≤ 65534
  | .tabIndex, z => -1 ≤ z

end IntegerType

section

variable (l : Locale) (name s : String)

/-- There is a complaint unless the value is as expected. -/
theorem expect_eq_none_iff (ok : Bool) (expected : String) :
    expect l ok name expected = none ↔ ok = true := by
  cases ok <;> simp [expect]

/-- A check of integers that looks at nothing but the value accepts exactly the integers that it is
true of. -/
theorem eq_true_iff_exists {ok : Bool} {Admits : Int → Prop}
    (hinteger : ok = true → isInteger s = true)
    (hvalue : ∀ z, WritesInteger s.toList z → (ok = true ↔ Admits z)) :
    ok = true ↔ ∃ z, WritesInteger s.toList z ∧ Admits z := by
  constructor
  · intro hok
    obtain ⟨z, hz⟩ := (isInteger_iff s).mp (hinteger hok)
    exact ⟨z, hz, (hvalue z hz).mp hok⟩
  · rintro ⟨z, hz, hadmits⟩
    exact (hvalue z hz).mpr hadmits

/-- Values between zero and a bound: the check on doubles is exact for integers. -/
theorem boundedInteger?_eq_none_iff {max : Nat} (hmax : max + 1 < 2 ^ 53) :
    boundedInteger? l name s max = none ↔ ∃ z, WritesInteger s.toList z ∧ 0 ≤ z ∧ z ≤ max := by
  unfold boundedInteger?
  split
  next hinteger =>
    rw [expect_eq_none_iff]
    refine eq_true_iff_exists s (fun _ => hinteger) fun z hz => ?_
    exact textInRange_iff hz (by decide) hmax
  next hinteger =>
    simp only [reduceCtorEq, false_iff, not_exists, not_and]
    intro z hz
    exact absurd ((isInteger_iff s).mpr ⟨z, hz⟩) hinteger

/-- An integer is complained about from minus two downwards. -/
theorem tabIndex?_of_writesInteger {z : Int} (hz : WritesInteger s.toList z) :
    tabIndex? l name s = if z ≤ -2 then some (tooLow l name) else none := by
  have hinteger : isInteger s = true := (isInteger_iff s).mpr ⟨z, hz⟩
  have hrange := inRange_upTo_minus_two_iff hz
  rw [tabIndex?, if_pos hinteger]
  dsimp only
  by_cases hlow : z ≤ -2
  · rw [if_pos (hrange.mpr hlow), if_pos hlow]
    rfl
  · rw [if_neg (fun h => hlow (hrange.mp h)), if_neg hlow]

/-- What is no integer is complained about as such. -/
theorem tabIndex?_of_not_isInteger (hinteger : isInteger s = false) :
    tabIndex? l name s = some (shouldBe l name (l.expand Message.Phrase.integer [])) := by
  rw [tabIndex?, hinteger]
  rfl

/-- The values without a complaint are the integers from minus one upwards. -/
theorem tabIndex?_eq_none_iff :
    tabIndex? l name s = none ↔ ∃ z, WritesInteger s.toList z ∧ -1 ≤ z := by
  constructor
  · intro hnone
    cases hinteger : isInteger s with
    | false =>
      rw [tabIndex?_of_not_isInteger l name s hinteger] at hnone
      cases hnone
    | true =>
      obtain ⟨z, hz⟩ := (isInteger_iff s).mp hinteger
      rw [tabIndex?_of_writesInteger l name s hz] at hnone
      split at hnone
      · cases hnone
      · exact ⟨z, hz, by omega⟩
  · rintro ⟨z, hz, hle⟩
    rw [tabIndex?_of_writesInteger l name s hz, if_neg (by omega)]

/-- Each type takes the texts of the integers that it admits. -/
theorem complaint?_eq_none_iff (type : IntegerType) :
    complaint? l name s (.named type.named) = none ↔
      ∃ z, WritesInteger s.toList z ∧ type.Admits z := by
  cases type with
  | integer =>
    refine (expect_eq_none_iff l name _ _).trans (eq_true_iff_exists s id fun z hz => ?_)
    exact iff_of_true ((isInteger_iff s).mpr ⟨z, hz⟩) trivial
  | nonNegative =>
    refine (expect_eq_none_iff l name _ _).trans (eq_true_iff_exists s ?_ fun z hz => ?_)
    · intro hok
      exact (Bool.and_eq_true_iff.mp hok).1
    · exact isNonNegative_iff hz
  | positive =>
    refine (expect_eq_none_iff l name _ _).trans (eq_true_iff_exists s ?_ fun z hz => ?_)
    · intro hok
      exact (Bool.and_eq_true_iff.mp (Bool.and_eq_true_iff.mp hok).1).1
    · exact isPositive_iff hz
  | columnSpan => exact boundedInteger?_eq_none_iff l name s (by decide)
  | rowSpan => exact boundedInteger?_eq_none_iff l name s (by decide)
  | tabIndex => exact tabIndex?_eq_none_iff l name s

/-- In custom mode the verdict is the complaint about the value, if there is one. -/
theorem ofAttribute_custom (decl : AttributeDecl) :
    ofAttribute l name s true (some decl) =
      (complaint? l name s decl.type).elim (pure .valid) (reject .invalidValue) := by
  unfold ofAttribute
  dsimp only [Bool.not_true, Bool.false_and]
  cases complaint? l name s decl.type with
  | none => rfl
  | some message => rfl

theorem reject_ne_valid (fault : Fault) (message : String) : reject fault message ≠ pure .valid :=
  fun hsame => nomatch congrArg Guarded.value hsame

/-- A declared attribute is valid if it is delegated, or if there is no complaint about its
value. -/
theorem ofAttribute_eq_valid_iff (custom : Bool) (decl : AttributeDecl) :
    ofAttribute l name s custom (some decl) = pure .valid ↔
      (custom = false ∧ isDelegated name = true) ∨ complaint? l name s decl.type = none := by
  rw [ofAttribute]
  by_cases hdelegated : (!custom && isDelegated name) = true
  · rw [if_pos hdelegated]
    exact iff_of_true rfl (.inl (by simpa using hdelegated))
  · rw [if_neg hdelegated]
    have hjudged : ¬(custom = false ∧ isDelegated name = true) := by simpa using hdelegated
    cases complaint? l name s decl.type with
    | none => simp
    | some message => simp [hjudged, reject_ne_valid]

/-- By a custom declaration an attribute is valid if its value is not complained about. -/
theorem ofAttribute_custom_eq_valid_iff (decl : AttributeDecl) :
    ofAttribute l name s true (some decl) = pure .valid ↔ complaint? l name s decl.type = none := by
  simp [ofAttribute_eq_valid_iff]

/-- A complaint that has words is returned in every build. -/
theorem run_ofAttribute_custom_iff {message : String} (hwords : message ≠ "")
    (decl : AttributeDecl) (b : Build) :
    (ofAttribute l name s true (some decl)).run b = .ok (.invalid .invalidValue message) ↔
      complaint? l name s decl.type = some message := by
  rw [ofAttribute_custom]
  constructor
  · intro hrun
    have hvalue := Guarded.value_of_run_eq_ok hrun
    cases hcomplaint : complaint? l name s decl.type with
    | none => simp [hcomplaint] at hvalue
    | some found => simpa [hcomplaint, reject] using hvalue
  · intro hcomplaint
    rw [hcomplaint]
    exact Guarded.run_of_none ((defect?_reject _ _).trans (if_neg hwords))

/-- The English complaint about values that are too low. -/
def tooLowText : String :=
  "The \"" ++ name ++ "\" attribute" ++ " behaves the same as -1 when it is less than -1"

/-- In English a value that should be something else is not said to be too low. -/
theorem english_shouldBe_ne_tooLowText (expected : String) :
    shouldBe Locale.english name expected ≠ tooLowText name := by
  intro hsame
  rw [english_shouldBe_eq, tooLowText, String.append_assoc] at hsame
  have hrest := congrArg String.toList hsame
  simp only [String.toList_append, List.append_cancel_left_eq] at hrest
  simp at hrest

/-- A tab index is said to be too low exactly if it is an integer below minus one. -/
theorem tabIndex?_english_iff :
    tabIndex? Locale.english name s = some (tooLowText name) ↔
      ∃ z, WritesInteger s.toList z ∧ z ≤ -2 := by
  constructor
  · intro htext
    rcases tabIndex?_cases htext with ⟨_, hsame⟩ | ⟨hinteger, _⟩
    · exact absurd hsame.symm (english_shouldBe_ne_tooLowText name _)
    · obtain ⟨z, hz⟩ := (isInteger_iff s).mp hinteger
      rw [tabIndex?_of_writesInteger Locale.english name s hz] at htext
      split at htext
      next hlow => exact ⟨z, hz, hlow⟩
      next => cases htext
  · rintro ⟨z, hz, hlow⟩
    rw [tabIndex?_of_writesInteger Locale.english name s hz, if_pos hlow]
    exact congrArg some (english_tooLow name)

/-- Each type of integers accepts exactly the texts that write an integer it is for: an optional
sign and one or more ASCII digits, as many as there may be. The complaint about a tab index that is
too low is made exactly of the integers below minus one, and in English no other complaint about a
tab index has its words. -/
theorem integerTypes_accept (decl : AttributeDecl) :
    (∀ type : IntegerType,
      ofAttribute l name s true (some { decl with type := .named type.named }) = pure .valid ↔
        ∃ z, WritesInteger s.toList z ∧ type.Admits z) ∧
    (∀ z, WritesInteger s.toList z →
      ofAttribute l name s true (some { decl with type := .named .tabIndex }) =
        if z ≤ -2 then reject .invalidValue (tooLow l name) else pure .valid) ∧
    ((∀ z, ¬WritesInteger s.toList z) →
      ofAttribute l name s true (some { decl with type := .named .tabIndex }) =
        reject .invalidValue (shouldBe l name (l.expand Message.Phrase.integer []))) ∧
    (∀ b, (ofAttribute Locale.english name s true
        (some { decl with type := .named .tabIndex })).run b =
          .ok (.invalid .invalidValue (tooLowText name)) ↔
      ∃ z, WritesInteger s.toList z ∧ z ≤ -2) := by
  refine ⟨fun type => ?_, fun z hz => ?_, fun hnone => ?_, fun b => ?_⟩
  · rw [ofAttribute_custom_eq_valid_iff]
    exact complaint?_eq_none_iff l name s type
  · rw [ofAttribute_custom]
    change (tabIndex? l name s).elim _ _ = _
    rw [tabIndex?_of_writesInteger l name s hz]
    split
    · rfl
    · rfl
  · rw [ofAttribute_custom]
    change (tabIndex? l name s).elim _ _ = _
    rw [tabIndex?_of_not_isInteger]
    · rfl
    · exact Bool.eq_false_iff.mpr fun hinteger => (isInteger_iff s).mp hinteger |>.elim hnone
  · rw [run_ofAttribute_custom_iff _ _ _ (by simp [tooLowText])]
    exact tabIndex?_english_iff name s

end

end MarkupAudit.Verdict
