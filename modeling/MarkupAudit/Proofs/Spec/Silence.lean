import MarkupAudit.Proofs.Spec.Complaints

namespace MarkupAudit

namespace Text

/-- Capitalising makes no text empty. -/
theorem upperFirst_eq_nil_iff (cs : List Char) : upperFirst cs = [] ↔ cs = [] := by
  cases cs with
  | nil => rfl
  | cons c cs =>
    have hne : upperFirst (c :: cs) ≠ [] := by
      rw [upperFirst]
      split
      · exact List.append_ne_nil_of_left_ne_nil (upperChar_ne_nil c) cs
      · exact List.cons_ne_nil c cs
    exact iff_of_false hne (List.cons_ne_nil c cs)

theorem lowerFirst_eq_nil_iff (cs : List Char) : lowerFirst cs = [] ↔ cs = [] := by
  cases cs with
  | nil => rfl
  | cons c cs =>
    have hne : lowerFirst (c :: cs) ≠ [] := by
      rw [lowerFirst]
      split
      · exact List.append_ne_nil_of_left_ne_nil (lowerChar_ne_nil c) cs
      · exact List.cons_ne_nil c cs
    exact iff_of_false hne (List.cons_ne_nil c cs)

end Text

namespace Locale

open Message

/-- A segment of which nothing is left: a placeholder whose argument is empty, or for whose argument
the keyword table has the empty word. -/
def Drops (l : Locale) (args : List String) : Segment → Prop
  | .char _ => False
  | .placeholder digits .verbatim => args.getD (decimal digits) "" = ""
  | .placeholder digits _ => l.keywordImage (args.getD (decimal digits) "") = ""

/-- The sentence for a template with `count` arguments has a character outside its placeholders. -/
def Speaks (l : Locale) (count : Nat) (template : String) : Prop :=
  ∃ segments c, Dissects count (l.sentence template).toList segments ∧ Segment.char c ∈ segments

/-- What takes the place of a segment is empty only where the argument is dropped. -/
theorem replacement_eq_nil_iff (l : Locale) (args : List String) (s : Segment) :
    l.replacement args s = [] ↔ l.Drops args s := by
  cases s with
  | char c => simp [replacement, Drops]
  | placeholder digits style =>
    cases style with
    | keyword => exact String.toList_eq_nil_iff
    | verbatim => exact String.toList_eq_nil_iff
    | clause => exact (Text.lowerFirst_eq_nil_iff _).trans String.toList_eq_nil_iff

/-- An expansion is without words exactly if nothing is left of any segment of its sentence. -/
theorem expand_eq_empty_iff (l : Locale) {template : String} {args : List String}
    {segments : List Segment}
    (hsegments : Dissects args.length (l.sentence template).toList segments) :
    l.expand template args = "" ↔ ∀ s ∈ segments, l.Drops args s := by
  rw [← String.toList_eq_nil_iff, l.toList_expand hsegments, Text.upperFirst_eq_nil_iff,
    List.flatMap_eq_nil_iff]
  simp only [replacement_eq_nil_iff]

/-- A sentence with a character of its own has words for all arguments. -/
theorem Speaks.expand_ne_empty {l : Locale} {template : String} {args : List String}
    (hspeaks : l.Speaks args.length template) : l.expand template args ≠ "" := by
  obtain ⟨segments, c, hsegments, hc⟩ := hspeaks
  intro hempty
  exact (l.expand_eq_empty_iff hsegments).mp hempty _ hc

/-- A sentence with a character of its own says something, whatever the arguments are. -/
theorem speaks_of_mem_pieces {l : Locale} {count : Nat} {template : String} {c : Char}
    (hc : Piece.char c ∈ pieces count (l.sentence template)) : l.Speaks count template := by
  obtain ⟨segments, hsegments, hpieces⟩ := exists_dissects count (l.sentence template).toList
  rw [pieces, hpieces, List.mem_map] at hc
  obtain ⟨s, hs, hpiece⟩ := hc
  cases s with
  | char d => exact ⟨segments, d, hsegments, hs⟩
  | placeholder digits style => cases hpiece

end Locale

namespace Verdict

open Message

/-- The templates of complaints about attributes, each with the number of its arguments. -/
def complaintTemplates : List (String × Nat) :=
  [(Phrase.disallowed, 1), (Phrase.shouldBe, 2), (Phrase.sameBelow, 2)]

/-- A locale has words for every complaint: each of the sentences has a character of its own. -/
def Worded (l : Locale) : Prop :=
  ∀ t ∈ complaintTemplates, l.Speaks t.2 t.1

/-- English has words for every complaint. -/
theorem worded_english : Worded Locale.english := by
  have hall : ∀ t ∈ complaintTemplates,
      Piece.char 'e' ∈ pieces t.2 (Locale.english.sentence t.1) := by
    decide +kernel
  exact fun t ht => Locale.speaks_of_mem_pieces (hall t ht)

/-- So has Japanese. -/
theorem worded_japanese : Worded Locale.japanese := by
  have hall : ∀ t ∈ complaintTemplates,
      Piece.char 'は' ∈ pieces t.2 (Locale.japanese.sentence t.1) := by
    decide +kernel
  exact fun t ht => Locale.speaks_of_mem_pieces (hall t ht)

section

variable {l : Locale} {name value template : String} {decl : Option AttributeDecl} {fault : Fault}
  {args : List String}

/-- Every complaint is made from one of the three templates. -/
theorem Complains.mem_complaintTemplates
    (hcomplains : Complains l name value decl fault template args) :
    (template, args.length) ∈ complaintTemplates := by
  cases hcomplains with
  | undeclared => simp [complaintTemplates]
  | unexpected => simp [complaintTemplates]
  | below => simp [complaintTemplates]

/-- A locale that has words for every complaint is never stopped. -/
theorem Worded.defect?_ofAttribute (hworded : Worded l) (name value : String) (custom : Bool)
    (decl : Option AttributeDecl) : (ofAttribute l name value custom decl).defect? = none :=
  defect?_ofAttribute_eq_none fun _ _ _ hcomplains =>
    (hworded _ hcomplains.mem_complaintTemplates).expand_ne_empty

end

/-- The complaint about an attribute is without words: nothing is left of any segment of the
sentence for it. -/
def Silent (l : Locale) (name value : String) (decl : Option AttributeDecl) (fault : Fault) :
    Prop :=
  ∃ template args segments, Complains l name value decl fault template args ∧
    Dissects args.length (l.sentence template).toList segments ∧ ∀ s ∈ segments, l.Drops args s

/-- The verdicts that are complaints without words. -/
theorem value_ofAttribute_eq_empty_iff {l : Locale} {name value : String} {custom : Bool}
    {decl : Option AttributeDecl} {fault : Fault} :
    (ofAttribute l name value custom decl).value = .invalid fault "" ↔
      (!custom && isDelegated name) = false ∧ Silent l name value decl fault := by
  rw [value_ofAttribute_eq_invalid_iff_complains]
  refine and_congr_right fun _ => exists_congr fun template => ?_
  constructor
  · rintro ⟨args, hcomplains, hempty⟩
    obtain ⟨segments, hsegments, _⟩ := exists_dissects args.length (l.sentence template).toList
    exact ⟨args, segments, hcomplains, hsegments,
      (l.expand_eq_empty_iff hsegments).mp hempty.symm⟩
  · rintro ⟨args, segments, hcomplains, hsegments, hdrops⟩
    exact ⟨args, hcomplains, ((l.expand_eq_empty_iff hsegments).mpr hdrops).symm⟩

/-- With checks no complaint without words is returned: the check on its words stops the program.
It does so exactly at an attribute of which nothing is left in the sentence for the complaint, and
there the program without checks returns the empty complaint. A locale in which the three sentences
for complaints have characters of their own, as each bundled one is, never stops. -/
theorem complaint_silent_iff (l : Locale) (name value : String) (custom : Bool)
    (decl : Option AttributeDecl) :
    (∀ fault message, (ofAttribute l name value custom decl).run .checked =
      .ok (.invalid fault message) → message ≠ "") ∧
    (∀ defect, (ofAttribute l name value custom decl).run .checked = .error defect ↔
      defect = .emptyMessage ∧ (!custom && isDelegated name) = false ∧
        ∃ fault, Silent l name value decl fault) ∧
    (∀ fault, (ofAttribute l name value custom decl).run .unchecked = .ok (.invalid fault "") ↔
      (!custom && isDelegated name) = false ∧ Silent l name value decl fault) ∧
    (Worded l → ∃ v, (ofAttribute l name value custom decl).run .checked = .ok v) ∧
    Worded Locale.english ∧ Worded Locale.japanese := by
  refine ⟨?_, ?_, ?_, ?_, worded_english, worded_japanese⟩
  · intro fault message hok hempty
    have hvalue := Guarded.value_of_run_eq_ok hok
    have hdefect : (ofAttribute l name value custom decl).defect? = some .emptyMessage :=
      defect?_ofAttribute_eq_some_iff.mpr ⟨rfl, fault, hempty ▸ hvalue⟩
    cases hok.symm.trans (Guarded.run_checked_of_some hdefect)
  · intro defect
    rw [Guarded.run_eq_error_iff, defect?_ofAttribute_eq_some_iff]
    simp only [value_ofAttribute_eq_empty_iff, true_and, exists_and_left]
  · intro fault
    rw [Guarded.run_unchecked, Except.ok.injEq]
    exact value_ofAttribute_eq_empty_iff
  · intro hworded
    exact ⟨_, Guarded.run_of_none (hworded.defect?_ofAttribute name value custom decl)⟩

/-- A locale with the empty sentence for attributes that do not exist. -/
def wordless : Locale where
  tag := "xx"
  sentences := [(Phrase.disallowed, "")]

theorem complaint_silent_iff_wordless :
    Locale.ofJson? (.object [("locale", .string "xx"),
      ("sentences", .object [(Phrase.disallowed, .string "")])]) = some wordless ∧
    Silent wordless "foo" "bar" none .nonExistent ∧
    (ofAttribute wordless "foo" "bar" false none).run .checked = .error .emptyMessage ∧
    (ofAttribute wordless "foo" "bar" false none).run .unchecked =
      .ok (.invalid .nonExistent "") := by
  have hsilent : Silent wordless "foo" "bar" none .nonExistent :=
    ⟨Phrase.disallowed, ["foo"], [], .undeclared, .nil 1, by simp⟩
  have hdelegated : (!false && isDelegated "foo") = false := by decide +kernel
  obtain ⟨_, hstops, hreturns, _⟩ := complaint_silent_iff wordless "foo" "bar" false none
  exact ⟨by decide +kernel, hsilent, (hstops _).mpr ⟨rfl, hdelegated, _, hsilent⟩,
    (hreturns _).mpr ⟨hdelegated, hsilent⟩⟩

-- No sentence is empty here, and all but one attribute is still named.
example :
    let l : Locale :=
      { tag := "xx", keywords := [("foo", "")], sentences := [(Phrase.disallowed, "\x7b0\x7d")] }
    l.expand Phrase.disallowed ["Foo"] = "" ∧ l.expand Phrase.disallowed ["bar"] = "Bar" := by
  decide +kernel

end Verdict

end MarkupAudit
