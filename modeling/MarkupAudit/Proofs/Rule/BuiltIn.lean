import Mathlib.Data.List.Nodup
import MarkupAudit.Proofs.Failure
import MarkupAudit.Rule.Registry

namespace MarkupAudit

namespace BuiltIn

@[simp]
theorem ofKey?_name (b : BuiltIn) : ofKey? b.name = some b := by
  cases b <;> decide

@[simp]
theorem ofKey?_code (b : BuiltIn) : ofKey? b.code = some b := by
  cases b <;> decide

/-- A key means a rule by its name or by its code. -/
theorem ofKey?_eq_some_iff {key : String} {b : BuiltIn} :
    ofKey? key = some b ↔ key = b.name ∨ key = b.code := by
  constructor
  · intro hkey
    have hfound := List.find?_some hkey
    simp only [Bool.or_eq_true, beq_iff_eq] at hfound
    exact hfound.imp Eq.symm Eq.symm
  · rintro (rfl | rfl)
    · exact b.ofKey?_name
    · exact b.ofKey?_code

/-- A key means something if it is a name or a code. -/
theorem isSome_ofKey?_iff {key : String} :
    (ofKey? key).isSome = true ↔ ∃ b : BuiltIn, key = b.name ∨ key = b.code := by
  simp only [Option.isSome_iff_exists, ofKey?_eq_some_iff]

theorem name_injective : Function.Injective name := by
  intro a b heq
  have h := congrArg ofKey? heq
  simpa using h

theorem code_injective : Function.Injective code := by
  intro a b heq
  have h := congrArg ofKey? heq
  simpa using h

/-- No rule goes by the code of a rule. -/
theorem name_ne_code (a b : BuiltIn) : a.name ≠ b.code := by
  cases a <;> cases b <;> decide

/-- A rule keeps its name and code, whatever its settings are. -/
theorem create_ids {b : BuiltIn} {s : RuleSettings} {r : Rule} (hcreate : b.create s = .ok r) :
    r.name = b.name ∧ r.code = b.code := by
  cases b with
  | invalidAttribute =>
    obtain ⟨options, _, rfl⟩ := map_eq_ok_iff.mp hcreate
    exact ⟨rfl, rfl⟩
  | classNaming =>
    obtain ⟨options, _, rfl⟩ := map_eq_ok_iff.mp hcreate
    exact ⟨rfl, rfl⟩
  | emptyContent =>
    obtain rfl := Except.ok.inj hcreate
    exact ⟨rfl, rfl⟩
  | duplicateAttribute =>
    obtain rfl := Except.ok.inj hcreate
    exact ⟨rfl, rfl⟩

/-- Making a rule by its name is making that rule. -/
theorem createRule_name_eq_ok_iff {b : BuiltIn} {s : RuleSettings} {r : Rule} :
    createRule b.name s = .ok r ↔ b.create s = .ok r := by
  rw [createRule, ofKey?_name]
  cases hb : b.create s with
  | error e => simp [hb]
  | ok made => simp [hb]

/-- What is made under a name has that name, and the code that belongs to it. -/
theorem createRule_ids {b : BuiltIn} {s : RuleSettings} {r : Rule}
    (hcreate : createRule b.name s = .ok r) : r.name = b.name ∧ r.code = b.code :=
  create_ids (createRule_name_eq_ok_iff.mp hcreate)

end BuiltIn

namespace Preset

/-- A preset is found under its own name only. -/
theorem ofName_eq_ok_iff {s : String} {p : Preset} : ofName s = .ok p ↔ p.name = s := by
  constructor
  · intro h
    unfold ofName at h
    split at h
    · rename_i q hq
      obtain rfl := Except.ok.inj h
      have hname := List.find?_some hq
      simpa using hname
    · cases h
  · rintro rfl
    cases p <;> rfl

theorem name_inj {p q : Preset} : p.name = q.name ↔ p = q := by
  cases p <;> cases q <;> decide

/-- The built-in rules of a preset. -/
def members : Preset → List BuiltIn
  | .recommended => [.invalidAttribute, .emptyContent, .duplicateAttribute]
  | .strict => [.invalidAttribute, .emptyContent, .duplicateAttribute]
  | .minimal => [.invalidAttribute]

/-- The rules of a preset have the names and codes of its members. -/
theorem map_ids_rules (p : Preset) :
    (p.rules.map fun r => (r.name, r.code)) = p.members.map fun b => (b.name, b.code) := by
  cases p <;> rfl

/-- A rule of a preset has the name and the code of a built-in one. -/
theorem exists_builtIn_of_mem {p : Preset} {r : Rule} (hr : r ∈ p.rules) :
    ∃ b : BuiltIn, r.name = b.name ∧ r.code = b.code := by
  have hmem : (r.name, r.code) ∈ p.rules.map fun r => (r.name, r.code) :=
    List.mem_map_of_mem hr
  rw [map_ids_rules] at hmem
  obtain ⟨b, _, hb⟩ := List.mem_map.mp hmem
  obtain ⟨hname, hcode⟩ := Prod.mk.inj hb
  exact ⟨b, hname.symm, hcode.symm⟩

/-- No preset has a rule twice. -/
theorem nodup_names (p : Preset) : (p.rules.map (·.name)).Nodup := by
  have hnames : p.rules.map (·.name) = p.members.map (·.name) := by
    cases p <;> rfl
  rw [hnames]
  refine List.Nodup.map BuiltIn.name_injective ?_
  cases p <;> decide

end Preset

end MarkupAudit
