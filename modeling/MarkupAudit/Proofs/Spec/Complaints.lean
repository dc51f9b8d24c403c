import MarkupAudit.Proofs.Message.Bundled
import MarkupAudit.Spec.Verdict

namespace MarkupAudit.Verdict

open Message

section

variable (l : Locale) (name value : String)

/-- The complaint that values below minus one are taken for minus one. -/
def tooLow : String :=
  l.expand Phrase.sameBelow [subject l name, "-1"]

/-- What a value is expected to be that is no integer from zero to a bound. -/
def expectedUpTo (max : Nat) : String :=
  if Number.isInteger value then l.expand Phrase.integerBetween ["0", toString max]
  else l.expand Phrase.integer []

/-- What a value is expected to be that is not of a named type, if the type can reject it. -/
def expectedOfNamed? : NamedType → Option String
  | .nonEmptyString => some (l.expand Phrase.nonEmptyString [])
  | .integer => some (l.expand Phrase.integer [])
  | .nonNegative => some (l.expand Phrase.nonNegativeInteger [])
  | .float => some (l.expand Phrase.floatingPoint [])
  | .positive => some (l.expand Phrase.positiveInteger [])
  | .zeroToOne => some (l.expand Phrase.numberBetween ["0", "1"])
  | .columnSpan => some (expectedUpTo l value maxColumnSpan)
  | .rowSpan => some (expectedUpTo l value maxRowSpan)
  | .tabIndex => if Number.isInteger value then none else some (l.expand Phrase.integer [])
  | .referrerPolicy => some (l.expand Phrase.either [l.list referrerPolicies])
  | .blendMode => some (l.expand Phrase.either [l.list blendModes])
  | .angle => some (l.expand Phrase.angle [l.list angleUnits])
  | .opacity => some (l.expand Phrase.orElse
      [l.expand Phrase.numberBetween ["0", "1"],
        l.expand Phrase.percentageBetween ["0%", "100%"]])
  | .fragment => some (l.expand Phrase.fragment ["\"#\""])
  | _ => none

/-- What a value is expected to be that is not of a type, if the type can reject it. -/
def expected? : ValueType → Option String
  | .oneOf literals => some (l.expand Phrase.either [l.list literals])
  | .named type => expectedOfNamed? l value type

/-- The faults of an attribute, each with the template and the arguments of the complaint. -/
inductive Complains : Option AttributeDecl → Fault → String → List String → Prop
  /-- An attribute that is not declared does not exist. -/
  | undeclared : Complains none .nonExistent Phrase.disallowed [name]
  /-- A value that is rejected should be something else. -/
  | unexpected {d : AttributeDecl} {expected : String}
      (hrejected : (complaint? l name value d.type).isSome)
      (hexpected : expected? l value d.type = some expected) :
      Complains (some d) .invalidValue Phrase.shouldBe [subject l name, expected]
  /-- A tab index that is rejected is an integer below minus one. -/
  | below {d : AttributeDecl} (hrejected : (complaint? l name value d.type).isSome)
      (htype : d.type = .named .tabIndex) (hinteger : Number.isInteger value = true) :
      Complains (some d) .invalidValue Phrase.sameBelow [subject l name, "-1"]

end

section

variable {l : Locale} {name value message : String}

/-- A value that is not as expected should be something else. -/
theorem eq_shouldBe_of_expect {ok : Bool} {expected : String}
    (hexpect : expect l ok name expected = some message) : message = shouldBe l name expected := by
  unfold expect at hexpect
  split at hexpect
  · cases hexpect
  · exact (Option.some.inj hexpect).symm

/-- A bounded integer should be an integer first, and then one within the bounds. -/
theorem eq_shouldBe_of_boundedInteger? {max : Nat}
    (hbounded : boundedInteger? l name value max = some message) :
    message = shouldBe l name (expectedUpTo l value max) := by
  unfold boundedInteger? at hbounded
  unfold expectedUpTo
  split at hbounded
  next hinteger => rw [if_pos hinteger, eq_shouldBe_of_expect hbounded]
  next hinteger => rw [if_neg hinteger, Option.some.inj hbounded]

/-- A tab index should be an integer first, and is then too low. -/
theorem tabIndex?_cases (htabIndex : tabIndex? l name value = some message) :
    Number.isInteger value = false ∧ message = shouldBe l name (l.expand Phrase.integer []) ∨
      Number.isInteger value = true ∧ message = tooLow l name := by
  unfold tabIndex? at htabIndex
  split at htabIndex
  next hinteger =>
    dsimp only at htabIndex
    split at htabIndex
    · exact .inr ⟨hinteger, (Option.some.inj htabIndex).symm⟩
    · cases htabIndex
  next hinteger => exact .inl ⟨by simpa using hinteger, (Option.some.inj htabIndex).symm⟩

/-- A value is rejected because it should be something else, or as a tab index that is too low. -/
theorem complaint?_cases {type : ValueType}
    (hcomplaint : complaint? l name value type = some message) :
    (∃ expected, expected? l value type = some expected ∧ message = shouldBe l name expected) ∨
      type = .named .tabIndex ∧ Number.isInteger value = true ∧ message = tooLow l name := by
  cases type with
  | oneOf literals => exact .inl ⟨_, rfl, eq_shouldBe_of_expect hcomplaint⟩
  | named type =>
    change namedComplaint? l name value type = some message at hcomplaint
    cases type
    case tabIndex =>
      rcases tabIndex?_cases hcomplaint with ⟨hinteger, hmessage⟩ | ⟨hinteger, hmessage⟩
      · exact .inl ⟨_, by simp [expected?, expectedOfNamed?, hinteger], hmessage⟩
      · exact .inr ⟨rfl, hinteger, hmessage⟩
    case columnSpan => exact .inl ⟨_, rfl, eq_shouldBe_of_boundedInteger? hcomplaint⟩
    case rowSpan => exact .inl ⟨_, rfl, eq_shouldBe_of_boundedInteger? hcomplaint⟩
    case nonEmptyString | integer | nonNegative | float | positive | zeroToOne | referrerPolicy |
        blendMode | angle | opacity | fragment =>
      exact .inl ⟨_, rfl, eq_shouldBe_of_expect hcomplaint⟩
    all_goals cases hcomplaint

/-- An integer that is a tab index is not expected to be anything else. -/
theorem expected?_tabIndex_eq_none (hinteger : Number.isInteger value = true) :
    expected? l value (.named .tabIndex) = none := by
  simp [expected?, expectedOfNamed?, hinteger]

/-- What is said about a value that is rejected. -/
theorem complaint?_eq_some_iff {d : AttributeDecl} :
    complaint? l name value d.type = some message ↔
      ∃ template args, Complains l name value (some d) .invalidValue template args ∧
        message = l.expand template args := by
  constructor
  · intro hcomplaint
    have hrejected : (complaint? l name value d.type).isSome := by simp [hcomplaint]
    rcases complaint?_cases hcomplaint with
      ⟨expected, hexpected, hmessage⟩ | ⟨htype, hinteger, hmessage⟩
    · exact ⟨_, _, .unexpected hrejected hexpected, hmessage⟩
    · exact ⟨_, _, .below hrejected htype hinteger, hmessage⟩
  · rintro ⟨template, args, hcomplains, hmessage⟩
    rw [hmessage]
    cases hcomplains with
    | unexpected hrejected hexpected =>
      obtain ⟨found, hfound⟩ := Option.isSome_iff_exists.mp hrejected
      rcases complaint?_cases hfound with ⟨other, hother, heq⟩ | ⟨htype, hinteger, _⟩
      · cases hexpected.symm.trans hother
        rw [hfound, heq, shouldBe]
      · rw [htype, expected?_tabIndex_eq_none hinteger] at hexpected
        cases hexpected
    | below hrejected htype hinteger =>
      obtain ⟨found, hfound⟩ := Option.isSome_iff_exists.mp hrejected
      rcases complaint?_cases hfound with ⟨other, hother, _⟩ | ⟨_, _, heq⟩
      · rw [htype, expected?_tabIndex_eq_none hinteger] at hother
        cases hother
      · rw [hfound, heq, tooLow]

variable {custom : Bool} {decl : Option AttributeDecl} {fault : Fault}

/-- An attribute is valid, or it is rejected. -/
theorem ofAttribute_cases (l : Locale) (name value : String) (custom : Bool)
    (decl : Option AttributeDecl) :
    ofAttribute l name value custom decl = pure .valid ∨
      ∃ fault message, ofAttribute l name value custom decl = reject fault message := by
  unfold ofAttribute
  split
  · exact .inl rfl
  · cases decl with
    | none => exact .inr ⟨_, _, rfl⟩
    | some d =>
      dsimp only
      cases complaint? l name value d.type with
      | none => exact .inl rfl
      | some message => exact .inr ⟨_, _, rfl⟩

/-- Which attributes are not valid, and what is said about them. -/
theorem value_ofAttribute_eq_invalid_iff :
    (ofAttribute l name value custom decl).value = .invalid fault message ↔
      (!custom && isDelegated name) = false ∧
        (decl = none ∧ fault = .nonExistent ∧ message = l.expand Phrase.disallowed [name] ∨
          ∃ d, decl = some d ∧ fault = .invalidValue ∧
            complaint? l name value d.type = some message) := by
  unfold ofAttribute
  cases !custom && isDelegated name with
  | true => simp
  | false =>
    cases decl with
    | none => simp [reject, eq_comm]
    | some d =>
      cases hcomplaint : complaint? l name value d.type with
      | none => simp [hcomplaint]
      | some found => simp [hcomplaint, reject, eq_comm]

/-- What is said about an attribute is made from a template with its arguments. -/
theorem value_ofAttribute_eq_invalid_iff_complains :
    (ofAttribute l name value custom decl).value = .invalid fault message ↔
      (!custom && isDelegated name) = false ∧
        ∃ template args, Complains l name value decl fault template args ∧
          message = l.expand template args := by
  rw [value_ofAttribute_eq_invalid_iff]
  refine and_congr_right fun _ => ⟨?_, ?_⟩
  · rintro (⟨rfl, rfl, hmessage⟩ | ⟨d, rfl, rfl, hcomplaint⟩)
    · exact ⟨_, _, .undeclared, hmessage⟩
    · exact complaint?_eq_some_iff.mp hcomplaint
  · rintro ⟨template, args, hcomplains, hmessage⟩
    cases hcomplains with
    | undeclared => exact .inl ⟨rfl, rfl, hmessage⟩
    | unexpected hrejected hexpected =>
      exact .inr ⟨_, rfl, rfl,
        complaint?_eq_some_iff.mpr ⟨_, _, .unexpected hrejected hexpected, hmessage⟩⟩
    | below hrejected htype hinteger =>
      exact .inr ⟨_, rfl, rfl,
        complaint?_eq_some_iff.mpr ⟨_, _, .below hrejected htype hinteger, hmessage⟩⟩

/-- A rejection is stopped exactly if it does not say why. -/
theorem defect?_reject (fault : Fault) (message : String) :
    (reject fault message).defect? = if message = "" then some .emptyMessage else none := by
  by_cases hempty : message = ""
  · simp [reject, hempty]
  · simp [reject, hempty]

/-- A verdict is stopped exactly if it is a complaint without words. -/
theorem defect?_ofAttribute_eq_some_iff {defect : Defect} :
    (ofAttribute l name value custom decl).defect? = some defect ↔
      defect = .emptyMessage ∧
        ∃ fault, (ofAttribute l name value custom decl).value = .invalid fault "" := by
  rcases ofAttribute_cases l name value custom decl with hvalid | ⟨fault, message, hreject⟩
  · simp [hvalid]
  · rw [hreject, defect?_reject]
    simp [reject, eq_comm, and_comm]

/-- A verdict is not stopped if every complaint has words. -/
theorem defect?_ofAttribute_eq_none
    (hwords : ∀ fault template args, Complains l name value decl fault template args →
      l.expand template args ≠ "") :
    (ofAttribute l name value custom decl).defect? = none := by
  refine Option.eq_none_iff_forall_ne_some.mpr fun defect hdefect => ?_
  obtain ⟨_, fault, hinvalid⟩ := defect?_ofAttribute_eq_some_iff.mp hdefect
  obtain ⟨_, template, args, hcomplains, hempty⟩ :=
    value_ofAttribute_eq_invalid_iff_complains.mp hinvalid
  exact hwords fault template args hcomplains hempty.symm

end

/-- Literals as English lists them: each in double quotes, in their order. -/
def englishList (literals : List String) : String :=
  Locale.joined ", " " or " ", or " (literals.map Locale.quote)

/-- What English says a value of a named type should be. -/
def englishOfNamed? (value : String) : NamedType → Option String
  | .nonEmptyString => some "a non-empty string"
  | .integer => some "an integer"
  | .nonNegative => some "a non-negative integer"
  | .float => some "a floating-point number"
  | .positive => some "a positive integer"
  | .zeroToOne => some "a number between 0 and 1"
  | .columnSpan =>
    some (if Number.isInteger value then "an integer between 0 and 1000" else "an integer")
  | .rowSpan =>
    some (if Number.isInteger value then "an integer between 0 and 65534" else "an integer")
  | .tabIndex => if Number.isInteger value then none else some "an integer"
  | .referrerPolicy => some ("either " ++ englishList referrerPolicies)
  | .blendMode => some ("either " ++ englishList blendModes)
  | .angle => some "an angle in \"deg\", \"grad\", \"rad\", or \"turn\""
  | .opacity => some "a number between 0 and 1 or a percentage between 0% and 100%"
  | .fragment => some "a fragment starting with \"#\""
  | _ => none

/-- What English says a value of a type should be. -/
def english? (value : String) : ValueType → Option String
  | .oneOf literals => some ("either " ++ englishList literals)
  | .named type => englishOfNamed? value type

section

open MarkupAudit.Locale

/-- A list of alternatives goes on inside the sentence. -/
theorem english_alternatives (literals : List String) :
    decapitalize (english.expand Phrase.either [english.list literals]) =
      "either " ++ englishList literals := by
  rw [english_joinsWith.list_eq, english_either]
  apply String.toList_injective
  rw [toList_decapitalize, String.toList_append, String.toList_append]
  rfl

/-- English says of every type what it expects. -/
theorem map_expected? (value : String) (type : ValueType) :
    (expected? english value type).map decapitalize = english? value type := by
  cases type with
  | oneOf literals => exact congrArg some (english_alternatives literals)
  | named type =>
    change (expectedOfNamed? english value type).map _ = englishOfNamed? value type
    cases type
    case referrerPolicy => exact congrArg some (english_alternatives referrerPolicies)
    case blendMode => exact congrArg some (english_alternatives blendModes)
    case columnSpan | rowSpan =>
      simp only [expectedOfNamed?, expectedUpTo, englishOfNamed?, Option.map_some]
      split
      · decide +kernel
      · decide +kernel
    case tabIndex =>
      simp only [expectedOfNamed?, englishOfNamed?]
      split
      · rfl
      · exact congrArg some (by decide +kernel)
    case nonEmptyString | integer | nonNegative | float | positive | zeroToOne | angle | opacity |
        fragment =>
      exact congrArg some (by decide +kernel)
    all_goals rfl

/-- A text that starts with a lower-case character. -/
def StartsLower (s : String) : Prop :=
  ∃ c, s.toList.head? = some c ∧ Text.isLowercase c = true

theorem startsLower_append {s : String} (hs : StartsLower s) (t : String) :
    StartsLower (s ++ t) := by
  obtain ⟨c, hc, hlower⟩ := hs
  exact ⟨c, by simp [hc], hlower⟩

/-- What is expected is worded so that it can stand inside a sentence. -/
theorem startsLower_of_english? {value expectation : String} {type : ValueType}
    (hexpectation : english? value type = some expectation) : StartsLower expectation := by
  have heither : StartsLower "either " := ⟨'e', rfl, rfl⟩
  have hinteger : StartsLower "an integer" := ⟨'a', rfl, rfl⟩
  cases type with
  | oneOf literals =>
    cases hexpectation
    exact startsLower_append heither _
  | named type =>
    change englishOfNamed? value type = some expectation at hexpectation
    cases type
    case columnSpan | rowSpan =>
      cases hexpectation
      split
      · exact ⟨'a', rfl, rfl⟩
      · exact hinteger
    case tabIndex =>
      simp only [englishOfNamed?] at hexpectation
      split at hexpectation
      · cases hexpectation
      · cases hexpectation
        exact hinteger
    case referrerPolicy | blendMode =>
      cases hexpectation
      exact startsLower_append heither _
    case nonEmptyString | integer | nonNegative | float | positive | zeroToOne | angle | opacity |
        fragment =>
      cases hexpectation
      exact ⟨_, rfl, rfl⟩
    all_goals cases hexpectation

variable (name : String)

theorem english_subject : subject english name = "The \"" ++ name ++ "\" attribute" :=
  english_theAttribute name

theorem head?_english_subject : (subject english name).toList.head? = some 'T' := by
  rw [english_subject]
  simp

/-- The English complaint about a value. -/
theorem english_shouldBe_eq (expected : String) :
    shouldBe english name expected =
      "The \"" ++ name ++ "\" attribute" ++ " should be " ++ decapitalize expected := by
  rw [shouldBe, english_shouldBe (head?_english_subject name), english_subject]

/-- The English complaint about a value below the least. -/
theorem english_tooLow :
    tooLow english name =
      "The \"" ++ name ++ "\" attribute" ++
        " behaves the same as -1 when it is less than -1" := by
  rw [tooLow, english_sameBelow (head?_english_subject name), english_subject]
  simp [String.append_assoc]

theorem japanese_subject : subject japanese name = "「" ++ name ++ "」属性" :=
  japanese_theAttribute name

theorem head?_japanese_subject : (subject japanese name).toList.head? = some '「' := by
  rw [japanese_subject]
  simp

/-- What Japanese says behind the name of an attribute. -/
def japaneseRest (value : String) : Option AttributeDecl → String
  | none => "属性は許可されていません"
  | some d =>
    match expected? japanese value d.type with
    | some expected => "属性は" ++ decapitalize (japanese.keyword expected) ++ "にしてください"
    | none => "属性は-1未満の場合-1と同じ動作をします"

/-- The Japanese complaint about a value. -/
theorem japanese_shouldBe_eq (expected : String) :
    shouldBe japanese name expected =
      "「" ++ name ++ "」" ++
        ("属性は" ++ decapitalize (japanese.keyword expected) ++ "にしてください") := by
  rw [shouldBe, japanese_shouldBe (head?_japanese_subject name), japanese_subject]
  apply String.toList_injective
  simp

/-- The Japanese complaint about a value below the least. -/
theorem japanese_tooLow :
    tooLow japanese name = "「" ++ name ++ "」" ++ "属性は-1未満の場合-1と同じ動作をします" := by
  have hbound : japanese.keyword "-1" = "-1" := by decide +kernel
  rw [tooLow, japanese_sameBelow (head?_japanese_subject name), japanese_subject, hbound]
  apply String.toList_injective
  simp

end

/-- A text that has a name between two quotes. -/
def Quotes (opening name closing text : String) : Prop :=
  ∃ before after, text = before ++ opening ++ name ++ closing ++ after

/-- What a complaint about an attribute says in English. -/
def EnglishComplaint (name value text : String) : Option AttributeDecl → Prop
  | none => text = "\"" ++ name ++ "\" attribute is disallow"
  | some d =>
    (∃ expectation, english? value d.type = some expectation ∧ StartsLower expectation ∧
      text = "The \"" ++ name ++ "\" attribute" ++ " should be " ++ expectation) ∨
    d.type = .named .tabIndex ∧
      text = "The \"" ++ name ++ "\" attribute" ++
        " behaves the same as -1 when it is less than -1"

/-- Every English complaint quotes the name of the attribute. -/
theorem quotes_of_englishComplaint {name value text : String} {decl : Option AttributeDecl}
    (hcomplaint : EnglishComplaint name value text decl) : Quotes "\"" name "\"" text := by
  cases decl with
  | none =>
    refine ⟨"", " attribute is disallow", hcomplaint.trans (String.toList_injective ?_)⟩
    simp
  | some d =>
    rcases hcomplaint with ⟨expectation, _, _, htext⟩ | ⟨_, htext⟩
    · refine ⟨"The ", " attribute should be " ++ expectation,
        htext.trans (String.toList_injective ?_)⟩
      simp
    · refine ⟨"The ", " attribute behaves the same as -1 when it is less than -1",
        htext.trans (String.toList_injective ?_)⟩
      simp

/-- The attribute does not exist exactly if it is not declared. -/
theorem Complains.nonExistent_iff {l : Locale} {name value template : String}
    {decl : Option AttributeDecl} {fault : Fault} {args : List String}
    (hcomplains : Complains l name value decl fault template args) :
    fault = .nonExistent ↔ decl = none := by
  cases hcomplains with
  | undeclared => simp
  | unexpected => simp
  | below => simp

section

open MarkupAudit.Locale

variable {name value template : String} {decl : Option AttributeDecl} {fault : Fault}
  {args : List String}

/-- The words of a complaint in English, whichever it is. -/
theorem englishComplaint_expand
    (hcomplains : Complains english name value decl fault template args) :
    EnglishComplaint name value (english.expand template args) decl := by
  cases hcomplains with
  | undeclared => exact english_disallowed name
  | @unexpected d expected _ hexpected =>
    have hexpectation := map_expected? value d.type
    rw [hexpected, Option.map_some] at hexpectation
    exact .inl ⟨_, hexpectation.symm, startsLower_of_english? hexpectation.symm,
      english_shouldBe_eq name expected⟩
  | below _ htype _ => exact .inr ⟨htype, english_tooLow name⟩

/-- A complaint in Japanese starts with the name in brackets, whichever it is. -/
theorem japanese_expand_eq
    (hcomplains : Complains japanese name value decl fault template args) :
    japanese.expand template args = "「" ++ name ++ "」" ++ japaneseRest value decl := by
  cases hcomplains with
  | undeclared =>
    rw [japanese_disallowed]
    apply String.toList_injective
    simp [japaneseRest]
  | unexpected _ hexpected =>
    rw [japaneseRest, hexpected]
    exact japanese_shouldBe_eq name _
  | below _ htype hinteger =>
    rw [japaneseRest, htype, expected?_tabIndex_eq_none hinteger]
    exact japanese_tooLow name

end

/-- A text that has something between quotes is not empty. -/
theorem Quotes.ne_empty {opening name closing text : String}
    (hquotes : Quotes opening name closing text) (hopening : opening ≠ "") : text ≠ "" := by
  obtain ⟨before, after, rfl⟩ := hquotes
  simp [hopening]

open MarkupAudit.Locale in
/-- In the bundled locales a complaint has the name of the attribute between quotes, as it is, and
says the rest without regard to the name. The attribute does not exist exactly if it is not
declared. In English the complaint is one of three sentences, and the literals of an enumeration
stand in it in double quotes, as they are and in their order. No verdict is stopped. -/
theorem complaints_quote_name (b : Build) (name value : String) (custom : Bool)
    (decl : Option AttributeDecl) :
    (∃ v, (ofAttribute english name value custom decl).run b = .ok v ∧
      ∀ fault text, v = .invalid fault text →
        (fault = .nonExistent ↔ decl = none) ∧ Quotes "\"" name "\"" text ∧
          EnglishComplaint name value text decl) ∧
    ∃ v, (ofAttribute japanese name value custom decl).run b = .ok v ∧
      ∀ fault text, v = .invalid fault text →
        (fault = .nonExistent ↔ decl = none) ∧
          text = "「" ++ name ++ "」" ++ japaneseRest value decl := by
  have henglish : (ofAttribute english name value custom decl).defect? = none := by
    refine defect?_ofAttribute_eq_none fun fault template args hcomplains => ?_
    exact (quotes_of_englishComplaint (englishComplaint_expand hcomplains)).ne_empty (by simp)
  have hjapanese : (ofAttribute japanese name value custom decl).defect? = none := by
    refine defect?_ofAttribute_eq_none fun fault template args hcomplains => ?_
    rw [japanese_expand_eq hcomplains]
    simp
  refine ⟨⟨_, Guarded.run_of_none henglish, ?_⟩, _, Guarded.run_of_none hjapanese, ?_⟩
  · intro fault text hinvalid
    obtain ⟨_, template, args, hcomplains, htext⟩ :=
      value_ofAttribute_eq_invalid_iff_complains.mp hinvalid
    have hcomplaint := englishComplaint_expand hcomplains
    rw [← htext] at hcomplaint
    exact ⟨hcomplains.nonExistent_iff, quotes_of_englishComplaint hcomplaint, hcomplaint⟩
  · intro fault text hinvalid
    obtain ⟨_, template, args, hcomplains, htext⟩ :=
      value_ofAttribute_eq_invalid_iff_complains.mp hinvalid
    exact ⟨hcomplains.nonExistent_iff, htext.trans (japanese_expand_eq hcomplains)⟩

/-- An attribute whose name and literals look like placeholders. -/
def bracedDecl : AttributeDecl :=
  { name := "x", type := .oneOf ["\x7b0*\x7d", "\x7b1:c\x7d", ""] }

/-- The complaint about it in a locale. -/
def bracedComplaint (l : Locale) : String :=
  shouldBe l "\x7b0\x7d" (l.expand Phrase.either [l.list ["\x7b0*\x7d", "\x7b1:c\x7d", ""]])

theorem complaints_quote_name_braced :
    (ofAttribute Locale.english "\x7b0\x7d" "x" true (some bracedDecl)).run .checked =
        .ok (.invalid .invalidValue (bracedComplaint Locale.english)) ∧
      Quotes "\"" "\x7b0\x7d" "\"" (bracedComplaint Locale.english) ∧
      EnglishComplaint "\x7b0\x7d" "x" (bracedComplaint Locale.english) (some bracedDecl) ∧
      (ofAttribute Locale.japanese "\x7b0\x7d" "x" true (some bracedDecl)).run .checked =
        .ok (.invalid .invalidValue (bracedComplaint Locale.japanese)) ∧
      bracedComplaint Locale.japanese =
        "「" ++ "\x7b0\x7d" ++ "」" ++ japaneseRest "x" (some bracedDecl) := by
  have habsent : ["\x7b0*\x7d", "\x7b1:c\x7d", ""].contains (Text.lowercase "x") = false := by
    decide +kernel
  have hinvalid (l : Locale) : (ofAttribute l "\x7b0\x7d" "x" true (some bracedDecl)).value =
      .invalid .invalidValue (bracedComplaint l) := by
    simp only [ofAttribute, bracedDecl, complaint?, oneOf?, habsent, bracedComplaint]
    rfl
  obtain ⟨⟨v, hv, henglish⟩, w, hw, hjapanese⟩ :=
    complaints_quote_name .checked "\x7b0\x7d" "x" true (some bracedDecl)
  cases (Guarded.value_of_run_eq_ok hv).symm.trans (hinvalid Locale.english)
  cases (Guarded.value_of_run_eq_ok hw).symm.trans (hinvalid Locale.japanese)
  exact ⟨hv, (henglish _ _ rfl).2.1, (henglish _ _ rfl).2.2, hw, (hjapanese _ _ rfl).2⟩

example :
    bracedComplaint Locale.english =
      "The \"\x7b0\x7d\" attribute should be either \"\x7b0*\x7d\", \"\x7b1:c\x7d\", or \"\"" := by
  decide +kernel

end MarkupAudit.Verdict
