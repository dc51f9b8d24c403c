import MarkupAudit.Proofs.Spec.IntegerTypes
import MarkupAudit.Proofs.Spec.NormalForm
import MarkupAudit.Rule.InvalidAttribute

namespace MarkupAudit

theorem Toml.listToJson_strings (values : List String) :
    listToJson (values.map .string) = values.map .string := by
  induction values with
  | nil => rfl
  | cons value rest ih => rw [List.map_cons, listToJson, ih, List.map_cons, toJson]

namespace ValueType

/-- Literals in another ASCII case make the same type. -/
theorem enumeration_eq_of_sameName {literals others : List String}
    (hsame : List.Forall₂ (fun s t => Text.sameName s t = true) literals others) :
    enumeration literals = enumeration others := by
  have hlower : literals.map Text.lowercase = others.map Text.lowercase := by
    induction hsame with
    | nil => rfl
    | cons hfirst _ ih =>
      rw [List.map_cons, List.map_cons, Text.lowercase_eq_of_sameName hfirst, ih]
  rw [enumeration, hlower, enumeration]

/-- Literals in a setting are read as they would be declared. -/
theorem typeOfJson?_enum (literals : List String) :
    InvalidAttribute.typeOfJson? (Toml.toJson
      (.table [("type", .table [("enum", .array (literals.map .string))])])) =
      some (enumeration literals) := by
  have hread : ofJson? (.object [("enum", .array (literals.map .string))]) =
      some (enumeration literals) := ofJson?_toJson_oneOf literals
  simp only [Toml.toJson, Toml.entriesToJson, Toml.listToJson_strings]
  simp [InvalidAttribute.typeOfJson?, Json.record?, Json.single?, Json.required, hread]

end ValueType

namespace Verdict

variable (l : Locale) (name : String) (custom : Bool) (decl : AttributeDecl)

/-- Values that are complained about alike are judged alike. -/
theorem ofAttribute_congr {s t : String} {type : ValueType}
    (hcomplaint : complaint? l name s type = complaint? l name t type) :
    ofAttribute l name s custom (some { decl with type }) =
      ofAttribute l name t custom (some { decl with type }) := by
  simp only [ofAttribute, hcomplaint]

/-- A complaint about an enumeration does not depend on the case of ASCII letters. -/
theorem complaint?_enumeration_congr {s t : String} (hsame : Text.sameName s t = true)
    (literals : List String) :
    complaint? l name s (.enumeration literals) = complaint? l name t (.enumeration literals) := by
  simp only [ValueType.enumeration, complaint?, oneOf?, Text.lowercase_eq_of_sameName hsame]

/-- Every literal is accepted as it is declared. -/
theorem complaint?_of_mem {literal : String} {literals : List String} (hmem : literal ∈ literals) :
    complaint? l name literal (.enumeration literals) = none := by
  apply (expect_eq_none_iff l name _ _).mpr
  exact List.contains_iff_mem.mpr (List.mem_map_of_mem hmem)

/-- Neither the case of ASCII letters in a value nor that in the literals of its type has a part in
the verdict or in its words, and it makes no difference whether the type was declared, read from a
table or read from a setting. Every literal is accepted in any ASCII case. -/
theorem enumerations_caseless (literals others : List String) (s t : String)
    (hliterals : List.Forall₂ (fun a b => Text.sameName a b = true) literals others)
    (hvalue : Text.sameName s t = true) :
    ofAttribute l name s custom (some { decl with type := .enumeration literals }) =
      ofAttribute l name t custom (some { decl with type := .enumeration others }) ∧
    (∃ type, ValueType.ofJson? (.object [("enum", Json.ofList Json.string literals)]) = some type ∧
      ofAttribute l name s custom (some { decl with type }) =
        ofAttribute l name s custom (some { decl with type := .enumeration literals })) ∧
    InvalidAttribute.typeOfJson? (Toml.toJson
      (.table [("type", .table [("enum", .array (literals.map .string))])])) =
        some (.enumeration literals) ∧
    ∀ literal ∈ literals, ∀ v, Text.sameName v literal = true →
      ofAttribute l name v custom (some { decl with type := .enumeration literals }) =
        pure .valid := by
  refine ⟨?_, ⟨_, ValueType.ofJson?_toJson_oneOf literals, rfl⟩,
    ValueType.typeOfJson?_enum literals, fun literal hmem v hsame => ?_⟩
  · rw [← ValueType.enumeration_eq_of_sameName hliterals]
    exact ofAttribute_congr l name custom decl (complaint?_enumeration_congr l name hvalue literals)
  · rw [ofAttribute_eq_valid_iff, complaint?_enumeration_congr l name hsame]
    exact .inr (complaint?_of_mem l name hmem)

-- A capital sigma that ends a word becomes another letter than one within a word, and the letter
-- before it decides which.
theorem enumerations_caseless_sigma :
    List.Forall₂ (fun a b => Text.sameName a b = true) ["AΣ", "On"] ["aΣ", "oN"] ∧
    Text.sameName "aΣ" "AΣ" = true ∧
    ofAttribute Locale.english "mode" "aΣ" true
        (some { name := "mode", type := .enumeration ["AΣ", "On"] }) =
      ofAttribute Locale.english "mode" "AΣ" true
        (some { name := "mode", type := .enumeration ["aΣ", "oN"] }) ∧
    ofAttribute Locale.english "mode" "aΣ" true
        (some { name := "mode", type := .enumeration ["AΣ", "On"] }) = pure .valid := by
  have hliterals :
      List.Forall₂ (fun a b => Text.sameName a b = true) ["AΣ", "On"] ["aΣ", "oN"] :=
    .cons (by cbv) (.cons (by cbv) .nil)
  have hvalue : Text.sameName "aΣ" "AΣ" = true := by cbv
  obtain ⟨hsame, _, _, haccepted⟩ := enumerations_caseless Locale.english "mode" true
    { name := "mode", type := .named .string } _ _ _ _ hliterals hvalue
  exact ⟨hliterals, hvalue, hsame, haccepted "AΣ" List.mem_cons_self "aΣ" hvalue⟩

end Verdict

end MarkupAudit
