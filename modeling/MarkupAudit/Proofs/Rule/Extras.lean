import Mathlib.Data.List.Sort
import Mathlib.Data.String.Basic
import MarkupAudit.Proofs.Config.Tables
import MarkupAudit.Proofs.Failure
import MarkupAudit.Proofs.Rule.BuiltIn

namespace MarkupAudit.Config

/-- Some enabled table has the name or the code of a rule for its key. -/
def Mentions (tables : List (String × RuleSettings)) (b : BuiltIn) : Prop :=
  ∃ t ∈ tables, t.2.isEnabled = true ∧ BuiltIn.ofKey? t.1 = some b

/-- The rules to add after some tables have been looked at: each once, and those that the tables
mention, outside of the present ones, whose own settings are enabled. -/
structure ExtrasOf (c : Config) (present : List String) (tables : List (String × RuleSettings))
    (extras : List (BuiltIn × RuleSettings)) : Prop where
  nodup : (extras.map (·.1)).Nodup
  mem_iff : ∀ b s, (b, s) ∈ extras ↔
    b.name ∉ present ∧ b.settings? c = some s ∧ s.isEnabled = true ∧ Mentions tables b

/-- A further table mentions a rule if it is enabled and its key means the rule. -/
theorem mentions_append_singleton {tables : List (String × RuleSettings)}
    {t : String × RuleSettings} {b : BuiltIn} :
    Mentions (tables ++ [t]) b ↔
      Mentions tables b ∨ t.2.isEnabled = true ∧ BuiltIn.ofKey? t.1 = some b := by
  simp only [Mentions, List.mem_append, List.mem_singleton, or_and_right, exists_or,
    exists_eq_left]

theorem extrasOf_nil (c : Config) (present : List String) : c.ExtrasOf present [] [] := by
  refine ⟨List.nodup_nil, fun b s => ?_⟩
  simp [Mentions]

/-- All that looking at a table can do. A disabled table is passed over. Any other is that of a
rule, which is either left out, because it is there already or its own settings are absent or
disabled, or added with these settings. -/
theorem addExtra_cases {c : Config} {present : List String}
    {extras found : List (BuiltIn × RuleSettings)} {t : String × RuleSettings}
    (hstep : c.addExtra present extras t = .ok found) :
    (t.2.isEnabled = false ∧ found = extras) ∨
      ∃ b, t.2.isEnabled = true ∧ BuiltIn.ofKey? t.1 = some b ∧
        ((found = extras ∧ (b.name ∈ present ∨ b ∈ extras.map (·.1) ∨
            ∀ s, b.settings? c = some s → s.isEnabled = false)) ∨
          ∃ s, found = extras ++ [(b, s)] ∧ b.name ∉ present ∧ b ∉ extras.map (·.1) ∧
            b.settings? c = some s ∧ s.isEnabled = true) := by
  unfold addExtra at hstep
  cases henabled : t.2.isEnabled with
  | false =>
    simp only [henabled, Bool.not_false, if_true, Except.ok.injEq] at hstep
    exact .inl ⟨rfl, hstep.symm⟩
  | true =>
    cases hkey : BuiltIn.ofKey? t.1 with
    | none => simp [henabled, hkey] at hstep
    | some b =>
      refine .inr ⟨b, rfl, rfl, ?_⟩
      simp only [henabled, hkey, Bool.not_true, Bool.false_eq_true, if_false] at hstep
      have hadded : extras.any (·.1.name == b.name) = true ↔ b ∈ extras.map (·.1) := by
        simp [BuiltIn.name_injective.eq_iff]
      by_cases hpresent : b.name ∈ present
      · simp only [List.contains_iff_mem.mpr hpresent, Bool.true_or, if_true,
          Except.ok.injEq] at hstep
        exact .inl ⟨hstep.symm, .inl hpresent⟩
      · by_cases hthere : b ∈ extras.map (·.1)
        · simp only [hadded.mpr hthere, Bool.or_true, if_true, Except.ok.injEq] at hstep
          exact .inl ⟨hstep.symm, .inr (.inl hthere)⟩
        · have hnew : ¬ (present.contains b.name || extras.any (·.1.name == b.name)) = true := by
            rw [Bool.or_eq_true, hadded, List.contains_iff_mem]
            exact fun h => h.elim hpresent hthere
          rw [if_neg hnew] at hstep
          cases hsettings : b.settings? c with
          | none =>
            simp only [hsettings, Except.ok.injEq] at hstep
            exact .inl ⟨hstep.symm, .inr (.inr (by simp))⟩
          | some s =>
            simp only [hsettings, Except.ok.injEq] at hstep
            cases hs : s.isEnabled with
            | false =>
              simp only [hs, Bool.false_eq_true, if_false] at hstep
              refine .inl ⟨hstep.symm, .inr (.inr ?_)⟩
              intro s' hs'
              obtain rfl := Option.some.inj hs'
              exact hs
            | true =>
              simp only [hs, if_true] at hstep
              exact .inr ⟨s, hstep.symm, hpresent, hthere, rfl, hs⟩

/-- A table is refused if it is enabled and its key is that of no rule. -/
theorem addExtra_eq_error_iff {c : Config} {present : List String}
    {extras : List (BuiltIn × RuleSettings)} {t : String × RuleSettings} {e : RegistryError} :
    c.addExtra present extras t = .error e ↔
      t.2.isEnabled = true ∧ BuiltIn.ofKey? t.1 = none ∧ e = .unknownRule t.1 := by
  unfold addExtra
  cases t.2.isEnabled with
  | false => simp
  | true =>
    cases BuiltIn.ofKey? t.1 with
    | none => simp [eq_comm]
    | some b =>
      simp only [Bool.not_true, Bool.false_eq_true, if_false, reduceCtorEq, false_and, and_false,
        iff_false]
      split
      · simp
      · cases b.settings? c with
        | none => simp
        | some s => simp

/-- Looking at one more table. -/
theorem ExtrasOf.step {c : Config} {present : List String} {tables : List (String × RuleSettings)}
    {extras found : List (BuiltIn × RuleSettings)} {t : String × RuleSettings}
    (hextras : c.ExtrasOf present tables extras) (hstep : c.addExtra present extras t = .ok found) :
    c.ExtrasOf present (tables ++ [t]) found := by
  rcases addExtra_cases hstep with ⟨hdisabled, rfl⟩ |
    ⟨b, henabled, hkey, ⟨rfl, hleft⟩ | ⟨s, rfl, hpresent, hnew, hsettings, hs⟩⟩
  · refine ⟨hextras.nodup, fun b s => ?_⟩
    rw [hextras.mem_iff, mentions_append_singleton]
    simp [hdisabled]
  · refine ⟨hextras.nodup, fun b' s' => ?_⟩
    rw [hextras.mem_iff, mentions_append_singleton]
    constructor
    · rintro ⟨hpresent, hsettings, hs, hmentions⟩
      exact ⟨hpresent, hsettings, hs, .inl hmentions⟩
    · rintro ⟨hpresent, hsettings, hs, hmentions | ⟨_, hkey'⟩⟩
      · exact ⟨hpresent, hsettings, hs, hmentions⟩
      · obtain rfl : b = b' := Option.some.inj (hkey.symm.trans hkey')
        rcases hleft with hpresent' | hthere | hoff
        · exact absurd hpresent' hpresent
        · obtain ⟨⟨_, s''⟩, hmem, rfl⟩ := List.mem_map.mp hthere
          exact ⟨hpresent, hsettings, hs, ((hextras.mem_iff _ s'').mp hmem).2.2.2⟩
        · rw [hoff s' hsettings] at hs
          cases hs
  · refine ⟨?_, fun b' s' => ?_⟩
    · rw [List.map_append, List.map_singleton]
      refine List.nodup_append.mpr ⟨hextras.nodup, List.nodup_singleton _, ?_⟩
      rintro x hx y hy rfl
      obtain rfl := List.mem_singleton.mp hy
      exact hnew hx
    · rw [List.mem_append, List.mem_singleton, hextras.mem_iff, mentions_append_singleton]
      constructor
      · rintro (⟨hpresent', hsettings', hs', hmentions⟩ | heq)
        · exact ⟨hpresent', hsettings', hs', .inl hmentions⟩
        · obtain ⟨rfl, rfl⟩ := Prod.mk.inj heq
          exact ⟨hpresent, hsettings, hs, .inr ⟨henabled, hkey⟩⟩
      · rintro ⟨hpresent', hsettings', hs', hmentions | ⟨_, hkey'⟩⟩
        · exact .inl ⟨hpresent', hsettings', hs', hmentions⟩
        · obtain rfl : b = b' := Option.some.inj (hkey.symm.trans hkey')
          obtain rfl : s = s' := Option.some.inj (hsettings.symm.trans hsettings')
          exact .inr rfl

/-- Looking at the rest of the tables. -/
theorem ExtrasOf.run {c : Config} {present : List String}
    {tables rest : List (String × RuleSettings)} {extras found : List (BuiltIn × RuleSettings)}
    (hextras : c.ExtrasOf present tables extras)
    (hrun : rest.foldlM (c.addExtra present) extras = .ok found) :
    c.ExtrasOf present (tables ++ rest) found := by
  induction rest generalizing tables extras with
  | nil =>
    obtain rfl : extras = found := Except.ok.inj hrun
    rwa [List.append_nil]
  | cons t rest ih =>
    rw [List.foldlM_cons, bind_eq_ok_iff] at hrun
    obtain ⟨next, hstep, hrest⟩ := hrun
    have hfound := ih (hextras.step hstep) hrest
    rwa [List.append_assoc, List.singleton_append] at hfound

/-- Looking at tables fails only at an enabled one whose key is that of no rule. -/
theorem exists_foldlM_addExtra_iff (c : Config) (present : List String)
    (tables : List (String × RuleSettings)) (extras : List (BuiltIn × RuleSettings)) :
    (∃ found, tables.foldlM (c.addExtra present) extras = .ok found) ↔
      ∀ t ∈ tables, t.2.isEnabled = true → (BuiltIn.ofKey? t.1).isSome = true := by
  induction tables generalizing extras with
  | nil => exact ⟨fun _ t ht => absurd ht List.not_mem_nil, fun _ => ⟨extras, rfl⟩⟩
  | cons t rest ih =>
    have hstep : (∃ next, c.addExtra present extras t = .ok next) ↔
        (t.2.isEnabled = true → (BuiltIn.ofKey? t.1).isSome = true) := by
      cases hnext : c.addExtra present extras t with
      | error e =>
        obtain ⟨henabled, hkey, _⟩ := addExtra_eq_error_iff.mp hnext
        simp [henabled, hkey]
      | ok next =>
        rcases addExtra_cases hnext with ⟨hdisabled, _⟩ | ⟨b, _, hkey, _⟩
        · simp [hdisabled]
        · simp [hkey]
    simp only [List.foldlM_cons, bind_eq_ok_iff, List.forall_mem_cons, ← hstep]
    constructor
    · rintro ⟨found, next, hnext, hrest⟩
      exact ⟨⟨next, hnext⟩, (ih next).mp ⟨found, hrest⟩⟩
    · rintro ⟨⟨next, hnext⟩, hknown⟩
      obtain ⟨found, hrest⟩ := (ih next).mpr hknown
      exact ⟨found, next, hnext, hrest⟩

/-- Every enabled table has the name or the code of a rule for its key. -/
def KeysKnown (c : Config) : Prop :=
  ∀ key s, c.Holds key s → s.isEnabled = true → ∃ b : BuiltIn, key = b.name ∨ key = b.code

/-- A rule is configured outside of the present ones, with the given settings. -/
def IsExtra (c : Config) (present : List String) (b : BuiltIn) (s : RuleSettings) : Prop :=
  b.name ∉ present ∧ c.TableOf b.name b.code s ∧ s.isEnabled = true

/-- A rule with an enabled table is mentioned. -/
theorem mentions_of_tableOf {c : Config} {b : BuiltIn} {s : RuleSettings}
    (htable : c.TableOf b.name b.code s) (hs : s.isEnabled = true) : Mentions c.rules b := by
  rcases htable.holds with hname | hcode
  · exact ⟨(b.name, s), hname, hs, b.ofKey?_name⟩
  · exact ⟨(b.code, s), hcode, hs, b.ofKey?_code⟩

/-- Looking at all tables finds the rules that are configured outside of the present ones. -/
theorem ExtrasOf.mem_iff_isExtra {c : Config} {present : List String}
    {found : List (BuiltIn × RuleSettings)} (hfound : c.ExtrasOf present c.rules found)
    (b : BuiltIn) (s : RuleSettings) : (b, s) ∈ found ↔ c.IsExtra present b s := by
  rw [hfound.mem_iff, BuiltIn.settings?, settings?_eq_some_iff]
  constructor
  · rintro ⟨hpresent, htable, hs, _⟩
    exact ⟨hpresent, htable, hs⟩
  · rintro ⟨hpresent, htable, hs⟩
    exact ⟨hpresent, htable, hs, mentions_of_tableOf htable hs⟩

/-- The search succeeds if every enabled table has a known key. -/
theorem exists_foldlM_rules_iff (c : Config) (present : List String) :
    (∃ found, c.rules.foldlM (c.addExtra present) [] = .ok found) ↔ c.KeysKnown := by
  rw [exists_foldlM_addExtra_iff]
  constructor
  · intro hknown key s hs henabled
    exact BuiltIn.isSome_ofKey?_iff.mp (hknown (key, s) hs henabled)
  · intro hknown t ht henabled
    exact BuiltIn.isSome_ofKey?_iff.mpr (hknown t.1 t.2 ht henabled)

/-- Sorting by name puts rules that occur once each in strict order. -/
theorem pairwise_mergeSort_name {found : List (BuiltIn × RuleSettings)}
    (hnodup : (found.map (·.1)).Nodup) :
    (found.mergeSort fun a b => decide (a.1.name ≤ b.1.name)).Pairwise
      fun a b => a.1.name < b.1.name := by
  let le : BuiltIn × RuleSettings → BuiltIn × RuleSettings → Bool :=
    fun a b => decide (a.1.name ≤ b.1.name)
  have htrans : ∀ a b c, le a b = true → le b c = true → le a c = true := by
    intro a b c hab hbc
    exact decide_eq_true (le_trans (of_decide_eq_true hab) (of_decide_eq_true hbc))
  have htotal : ∀ a b, (le a b || le b a) = true := by
    intro a b
    rcases le_total a.1.name b.1.name with h | h
    · simp [le, h]
    · simp [le, h]
  have hsorted := List.pairwise_mergeSort htrans htotal found
  have hdistinct : (found.mergeSort le).Pairwise fun a b => a.1 ≠ b.1 := by
    have hperm := (List.mergeSort_perm found le).map (·.1)
    exact List.pairwise_map.mp (hperm.nodup_iff.mpr hnodup)
  refine (hsorted.and hdistinct).imp ?_
  rintro a b ⟨hle, hne⟩
  exact lt_of_le_of_ne (of_decide_eq_true hle) fun heq => hne (BuiltIn.name_injective heq)

/-- The rules to add are those configured outside of the present ones, in the order of their
names. -/
theorem mem_extras_iff {c : Config} {present : List String}
    {extras : List (BuiltIn × RuleSettings)} (hextras : c.extras present = .ok extras) :
    extras.Pairwise (fun a b => a.1.name < b.1.name) ∧
      ∀ b s, (b, s) ∈ extras ↔ c.IsExtra present b s := by
  rw [Config.extras, bind_eq_ok_iff] at hextras
  obtain ⟨found, hrun, hsort⟩ := hextras
  obtain rfl := Except.ok.inj hsort
  have hfound : c.ExtrasOf present c.rules found := (extrasOf_nil c present).run hrun
  refine ⟨pairwise_mergeSort_name hfound.nodup, fun b s => ?_⟩
  rw [List.mem_mergeSort, hfound.mem_iff_isExtra]

/-- The rules to add are found unless a key is unknown. -/
theorem exists_extras_iff (c : Config) (present : List String) :
    (∃ extras, c.extras present = .ok extras) ↔ c.KeysKnown := by
  rw [← c.exists_foldlM_rules_iff present]
  simp only [Config.extras, bind_eq_ok_iff]
  constructor
  · rintro ⟨_, found, hrun, _⟩
    exact ⟨found, hrun⟩
  · rintro ⟨found, hrun⟩
    exact ⟨_, found, hrun, rfl⟩

/-- A list in strict order of names is determined by its members. -/
theorem eq_of_pairwise_name {xs ys : List (BuiltIn × RuleSettings)}
    (hxs : xs.Pairwise fun a b => a.1.name < b.1.name)
    (hys : ys.Pairwise fun a b => a.1.name < b.1.name)
    (hmem : ∀ b s, (b, s) ∈ xs ↔ (b, s) ∈ ys) : xs = ys := by
  have hirrefl : Std.Irrefl fun a b : BuiltIn × RuleSettings => a.1.name < b.1.name :=
    ⟨fun a => lt_irrefl a.1.name⟩
  have hantisymm : Std.Antisymm fun a b : BuiltIn × RuleSettings => a.1.name < b.1.name :=
    ⟨fun a b hab hba => absurd hba (lt_asymm hab)⟩
  exact hxs.eq_of_mem_iff hys fun (b, s) => hmem b s

/-- What is added are the further rules, each once, in the order of their names. -/
theorem extras_eq_ok_iff {c : Config} {present : List String}
    {extras : List (BuiltIn × RuleSettings)} :
    c.extras present = .ok extras ↔ c.KeysKnown ∧
      extras.Pairwise (fun a b => a.1.name < b.1.name) ∧
      ∀ b s, (b, s) ∈ extras ↔ c.IsExtra present b s := by
  constructor
  · intro hextras
    exact ⟨(c.exists_extras_iff present).mp ⟨extras, hextras⟩, mem_extras_iff hextras⟩
  · rintro ⟨hknown, hsorted, hmem⟩
    obtain ⟨found, hfound⟩ := (c.exists_extras_iff present).mpr hknown
    obtain ⟨hsorted', hmem'⟩ := mem_extras_iff hfound
    have heq : found = extras := by
      refine eq_of_pairwise_name hsorted' hsorted fun b s => ?_
      rw [hmem, hmem']
    rwa [heq] at hfound

end MarkupAudit.Config
