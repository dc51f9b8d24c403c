import Mathlib.Data.List.Perm.Basic
import MarkupAudit.Proofs.Dictionary
import MarkupAudit.Rule.InvalidAttribute

namespace MarkupAudit

namespace Verdict

variable {l : Locale} {d e : AttributeDecl}

/-- A custom declaration matters only by what it finds wrong with the value. -/
theorem ofToken_custom_congr {a : Attribute}
    (hsame : complaint? l a.name a.value d.type = complaint? l a.name a.value e.type) :
    ofToken l a true (some d) = ofToken l a true (some e) := by
  simp only [ofToken, ofAttribute, hsame]

/-- And the verdict on a value that is known tells what was found wrong with it. -/
theorem complaint?_eq_of_ofToken_eq {name value : String}
    (hsame : ofToken l { name, value } true (some d) = ofToken l { name, value } true (some e)) :
    complaint? l name value d.type = complaint? l name value e.type := by
  have hvalue := congrArg Guarded.value hsame
  simp only [ofToken, ofAttribute, Bool.not_true, Bool.false_and, Bool.false_eq_true,
    if_false] at hvalue
  cases hd : complaint? l name value d.type <;> cases he : complaint? l name value e.type <;>
    simp_all [reject]

end Verdict

namespace InvalidAttribute

/-- The rule with custom declarations that are made one after the other. -/
def declaring (ignoredStarts : List String) (decls : List AttributeDecl) : InvalidAttribute :=
  { decls.foldl declare {} with ignoredStarts }

/-- A further declaration hides those of the same name. -/
theorem custom?_declare (r : InvalidAttribute) (decl : AttributeDecl) (attr : String) :
    (r.declare decl).custom? attr =
      if Text.sameName decl.name attr then some decl else r.custom? attr := by
  unfold custom? declare Text.sameName
  rw [List.lookup_cons]
  by_cases hkey : Text.foldCase decl.name = Text.foldCase attr
  · simp [hkey]
  · have hskip : (Text.foldCase attr == Text.foldCase decl.name) = false :=
      beq_eq_false_iff_ne.mpr (Ne.symm hkey)
    rw [hskip, if_neg (by simp [hkey]), lookup_filter_of_ne (Ne.symm hkey)]

/-- Of the declarations with a name, the last one counts. -/
theorem custom?_foldl_declare (r : InvalidAttribute) (decls : List AttributeDecl) (attr : String) :
    (decls.foldl declare r).custom? attr =
      (decls.reverse.find? fun d => Text.sameName d.name attr).or (r.custom? attr) := by
  induction decls generalizing r with
  | nil => rfl
  | cons d rest ih =>
    rw [List.foldl_cons, ih, custom?_declare, List.reverse_cons, List.find?_append]
    cases rest.reverse.find? fun d => Text.sameName d.name attr with
    | some e => rfl
    | none =>
      by_cases hd : Text.sameName d.name attr = true
      · simp [hd]
      · simp [hd]

theorem severity_foldl_declare (r : InvalidAttribute) (decls : List AttributeDecl) :
    (decls.foldl declare r).severity = r.severity := by
  induction decls generalizing r with
  | nil => rfl
  | cons d rest ih =>
    rw [List.foldl_cons, ih]
    rfl

section

variable {l : Locale} {starts : List String} {decls order order' : List AttributeDecl}

/-- The last declaration of a name counts. -/
theorem custom?_declaring (starts : List String) (decls : List AttributeDecl) (attr : String) :
    (declaring starts decls).custom? attr =
      decls.reverse.find? fun d => Text.sameName d.name attr := by
  have hrun := custom?_foldl_declare {} decls attr
  rwa [show ({} : InvalidAttribute).custom? attr = none from rfl, Option.or_none] at hrun

theorem custom?_declaring_last {decl : AttributeDecl} {attr : String} (before : List AttributeDecl)
    (hname : Text.sameName decl.name attr = true) :
    (declaring starts (before ++ [decl])).custom? attr = some decl := by
  simp [custom?_declaring, hname]

/-- In two orders an attribute has a custom declaration both times or neither time. -/
theorem custom?_reordered (starts : List String) (horder : order.Perm decls)
    (horder' : order'.Perm decls) (attr : String) :
    ((declaring starts order).custom? attr = none ∧ (declaring starts order').custom? attr = none) ∨
      ∃ d ∈ decls, ∃ e ∈ decls, Text.sameName d.name attr = true ∧
        Text.sameName e.name attr = true ∧ (declaring starts order).custom? attr = some d ∧
        (declaring starts order').custom? attr = some e := by
  simp only [custom?_declaring]
  cases hd : order.reverse.find? fun d => Text.sameName d.name attr with
  | none =>
    refine .inl ⟨rfl, List.find?_eq_none.mpr fun e he => ?_⟩
    exact List.find?_eq_none.mp hd e
      (List.mem_reverse.mpr (horder.mem_iff.mpr (horder'.mem_iff.mp (List.mem_reverse.mp he))))
  | some d =>
    have hmem : d ∈ decls := horder.mem_iff.mp (List.mem_reverse.mp (List.mem_of_find?_eq_some hd))
    cases he : order'.reverse.find? fun d => Text.sameName d.name attr with
    | none =>
      exact absurd (List.find?_some hd)
        (List.find?_eq_none.mp he d (List.mem_reverse.mpr (horder'.mem_iff.mpr hmem)))
    | some e =>
      have hmem' : e ∈ decls :=
        horder'.mem_iff.mp (List.mem_reverse.mp (List.mem_of_find?_eq_some he))
      have hdname := List.find?_some hd
      have hename := List.find?_some he
      exact .inr ⟨d, hmem, e, hmem', hdname, hename, rfl, rfl⟩

/-- Declarations whose names meet find the same wrong with every value, in the same words. -/
def JudgeAlike (l : Locale) (decls : List AttributeDecl) : Prop :=
  ∀ d ∈ decls, ∀ e ∈ decls, ∀ name value, Text.sameName d.name name = true →
    Text.sameName e.name name = true →
    Verdict.complaint? l name value d.type = Verdict.complaint? l name value e.type

/-- Declarations that judge alike can change places without a change of the verdict. -/
theorem verdict_reordered (halike : JudgeAlike l decls) (starts : List String)
    (horder : order.Perm decls) (horder' : order'.Perm decls) (specs : SpecLookup) (n : NodeInfo)
    (a : Attribute) :
    (declaring starts order).verdict specs l n a =
      (declaring starts order').verdict specs l n a := by
  unfold verdict
  rcases custom?_reordered starts horder horder' a.name with
    ⟨hnone, hnone'⟩ | ⟨d, hd, e, he, hdname, hename, hcustom, hcustom'⟩
  · rw [hnone, hnone']
  · rw [hcustom, hcustom']
    exact Verdict.ofToken_custom_congr (halike d hd e he a.name a.value hdname hename)

/-- Nor does what is reported about an attribute change. -/
theorem attributeReport_reordered (halike : JudgeAlike l decls) (starts : List String)
    (horder : order.Perm decls) (horder' : order'.Perm decls) (specs : SpecLookup) (n : NodeInfo)
    (a : Attribute) :
    (declaring starts order).attributeReport specs l n a =
      (declaring starts order').attributeReport specs l n a := by
  have hunknown : (declaring starts order).isUnknown specs n a =
      (declaring starts order').isUnknown specs n a := by
    unfold isUnknown
    rcases custom?_reordered starts horder horder' a.name with
      ⟨hnone, hnone'⟩ | ⟨d, _, e, _, _, _, hcustom, hcustom'⟩
    · rw [hnone, hnone']
    · rw [hcustom, hcustom']
      rfl
  have hignored : (declaring starts order).isIgnored a.name =
      (declaring starts order').isIgnored a.name := rfl
  rw [attributeReport, attributeReport, hignored, hunknown,
    verdict_reordered halike starts horder horder']

/-- So the rule finds the same violations. -/
theorem violations_reordered (halike : JudgeAlike l decls) (starts : List String)
    (horder : order.Perm decls) (horder' : order'.Perm decls) (specs : SpecLookup)
    (d : Document) :
    (declaring starts order).rule.violations specs l d =
      (declaring starts order').rule.violations specs l d := by
  have hcheck : (declaring starts order).check specs l =
      (declaring starts order').check specs l := by
    funext n _
    simp only [check, funext (attributeReport_reordered halike starts horder horder' specs n)]
  have hseverity : (declaring starts order).severity = (declaring starts order').severity :=
    (severity_foldl_declare {} order).trans (severity_foldl_declare {} order').symm
  simp only [Rule.violations, rule, hcheck, hseverity]

/-- If no order makes a difference, declarations whose names meet judge alike: either of them can be
the last. -/
theorem judgeAlike_of_verdict_eq
    (hsame : ∀ order order' : List AttributeDecl, order.Perm decls → order'.Perm decls →
      ∀ specs n a, (declaring starts order).verdict specs l n a =
        (declaring starts order').verdict specs l n a) : JudgeAlike l decls := by
  intro d hd e he name value hdname hename
  have hlast : ∀ x ∈ decls, (decls.erase x ++ [x]).Perm decls := fun x hx =>
    (List.perm_append_singleton x _).trans (List.perm_cons_erase hx).symm
  have hverdict := hsame _ _ (hlast d hd) (hlast e he) ⟨fun _ _ => none, fun _ => false⟩
    { kind := .element } { name, value }
  rw [verdict, verdict, custom?_declaring_last _ hdname, custom?_declaring_last _ hename]
    at hverdict
  exact Verdict.complaint?_eq_of_ofToken_eq hverdict

/-- Names that do not meet are judged alike for want of a second declaration. -/
theorem judgeAlike_of_nodup (hnames : (decls.map fun d => Text.foldCase d.name).Nodup) :
    JudgeAlike l decls := by
  intro d hd e he name value hdname hename
  have hfolded : Text.foldCase d.name = Text.foldCase e.name :=
    (beq_iff_eq.mp hdname).trans (beq_iff_eq.mp hename).symm
  rw [List.inj_on_of_nodup_map hnames hd he hfolded]

end

/-- The order of the entries of a table of custom declarations is of no account for the verdicts of
the rule exactly if declarations whose names meet judge alike, as they do where no names meet. Then
all orders lead to the same violations on every document, and to the same stop if there is one. -/
theorem verdict_order_iff (s : RuleSettings) (attrs : Toml) (decls : List AttributeDecl)
    (hattrs : s.options.lookup "attrs" = some attrs) (hdecls : customOfToml? attrs = some decls) :
    ∃ starts, ofSettings s = .ok (declaring starts decls) ∧ ∀ l : Locale,
      ((∀ order order' : List AttributeDecl, order.Perm decls → order'.Perm decls →
          ∀ specs n a, (declaring starts order).verdict specs l n a =
            (declaring starts order').verdict specs l n a) ↔ JudgeAlike l decls) ∧
      ((decls.map fun d => Text.foldCase d.name).Nodup → JudgeAlike l decls) ∧
      (JudgeAlike l decls → ∀ order order' : List AttributeDecl, order.Perm decls →
        order'.Perm decls → ∀ specs d,
          (declaring starts order).rule.violations specs l d =
            (declaring starts order').rule.violations specs l d) := by
  refine ⟨s.strings "ignore_attr_name_prefix", ?_, fun l => ⟨⟨judgeAlike_of_verdict_eq, ?_⟩,
    judgeAlike_of_nodup, ?_⟩⟩
  · simp only [ofSettings, hattrs, hdecls]
    rfl
  · intro halike order order' horder horder'
    exact verdict_reordered halike _ horder horder'
  · intro halike order order' horder horder'
    exact violations_reordered halike _ horder horder'

/-- A table with two declarations that meet: one takes every integer, the other none below zero. -/
def meeting : Toml :=
  .table [("X-Size", .table [("type", .string "Int")]),
    ("x-size", .table [("type", .string "Uint")])]

/-- The declarations of the table. -/
def meetingDecls : List AttributeDecl :=
  [{ name := "X-Size", type := .named .integer },
    { name := "x-size", type := .named .nonNegative }]

theorem verdict_order_iff_meeting :
    customOfToml? meeting = some meetingDecls ∧
      ∃ starts,
        ofSettings { options := [("attrs", meeting)] } = .ok (declaring starts meetingDecls) ∧
        ∀ l : Locale, ¬ ∀ order order' : List AttributeDecl, order.Perm meetingDecls →
          order'.Perm meetingDecls → ∀ specs n a,
            (declaring starts order).verdict specs l n a =
              (declaring starts order').verdict specs l n a := by
  have hdecls : customOfToml? meeting = some meetingDecls := by decide +kernel
  obtain ⟨starts, hrule, horder⟩ :=
    verdict_order_iff { options := [("attrs", meeting)] } meeting meetingDecls rfl hdecls
  refine ⟨hdecls, starts, hrule, fun l hsame => ?_⟩
  have halike := (horder l).1.mp hsame { name := "X-Size", type := .named .integer }
    (by simp [meetingDecls]) { name := "x-size", type := .named .nonNegative }
    (by simp [meetingDecls]) "x-size" "-1" (by decide) (by decide)
  have hinteger : Number.isInteger "-1" = true := by decide
  have hnegative : Number.isNonNegative "-1" = false := by decide
  simp [Verdict.complaint?, Verdict.namedComplaint?, Verdict.expect, hinteger, hnegative] at halike

end InvalidAttribute

end MarkupAudit
