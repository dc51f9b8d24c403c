import MarkupAudit.Proofs.Json.Decode
import MarkupAudit.Proofs.Text.Lowercase
import MarkupAudit.Spec.Table

namespace MarkupAudit

namespace NamedType

theorem mem_all (t : NamedType) : t ∈ all := by
  cases t <;> decide

/-- Every named type is found under its name. -/
@[simp]
theorem ofName_name (t : NamedType) : ofName t.name = t := by
  have hall : ∀ t ∈ all, ofName t.name = t := by decide +kernel
  exact hall t t.mem_all

end NamedType

namespace ValueType

/-- The literals of an enumeration are in lower case. -/
def IsNormal : ValueType → Prop
  | .oneOf values => ∀ value ∈ values, Text.lowercase value = value
  | .named _ => True

/-- An enumeration is made with its literals in lower case. -/
theorem isNormal_enumeration (values : List String) : (enumeration values).IsNormal := by
  intro value hvalue
  obtain ⟨s, _, rfl⟩ := List.mem_map.mp hvalue
  exact Text.lowercase_lowercase s

/-- Types are read in normal form. -/
theorem isNormal_of_ofJson? {j : Json} {t : ValueType} (hread : ofJson? j = some t) :
    t.IsNormal := by
  unfold ofJson? at hread
  split at hread
  · split at hread
    · next values _ =>
      obtain rfl : enumeration values = t := Option.some.inj hread
      exact isNormal_enumeration values
    · obtain ⟨s, _, rfl⟩ := Option.map_eq_some_iff.mp hread
      trivial
  · cases hread

theorem readable_toJson (t : ValueType) : t.toJson.readable = true := by
  cases t with
  | named type => rfl
  | oneOf values =>
    have hitems : Json.readableItems (values.map Json.string) = true := by
      induction values with
      | nil => rfl
      | cons value rest ih => simpa [Json.readableItems, Json.readable] using ih
    simpa [toJson, Json.ofList, Json.readable, Json.readableMembers] using hitems

theorem literals?_toJson (values : List String) :
    literals? (toJson (.oneOf values)) = some values := by
  simpa [toJson, literals?, Json.single?] using
    Json.list?_ofList_of_mem fun value (_ : value ∈ values) => Json.string?_string value

/-- Written literals are read as they would be declared. -/
theorem ofJson?_toJson_oneOf (values : List String) :
    ofJson? (toJson (.oneOf values)) = some (enumeration values) := by
  rw [ofJson?, if_pos (readable_toJson _)]
  simp only [literals?_toJson]

/-- A type in normal form survives being written and read again. -/
theorem ofJson?_toJson {t : ValueType} (ht : t.IsNormal) : ofJson? t.toJson = some t := by
  cases t with
  | named type =>
    rw [ofJson?, if_pos (readable_toJson _)]
    simp [toJson, literals?, Json.name?]
  | oneOf values =>
    have hlower : values.map Text.lowercase = values :=
      (List.map_congr_left ht).trans (List.map_id values)
    rw [ofJson?_toJson_oneOf, enumeration, hlower]

end ValueType

/-- The type of the attribute is in normal form. -/
def AttributeDecl.IsNormal (a : AttributeDecl) : Prop :=
  a.type.IsNormal

namespace AttributeDecl

/-- Declarations of attributes are read in normal form. -/
theorem isNormal_of_ofJson? {j : Json} {a : AttributeDecl} (hread : ofJson? j = some a) :
    a.IsNormal := by
  unfold ofJson? at hread
  simp only [Option.bind_eq_bind, Option.bind_eq_some_iff] at hread
  obtain ⟨record, _, hread⟩ := hread
  split at hread
  · next _ type _ _ _ =>
    simp only [Option.bind_eq_some_iff] at hread
    obtain ⟨_, _, t, htype, _, _, _, _, hmade⟩ := hread
    obtain ⟨i, _, hi⟩ := Option.bind_eq_some_iff.mp htype
    cases hmade
    exact ValueType.isNormal_of_ofJson? hi
  · cases hread

/-- Attributes that are read as a list, or are none because the list is absent. -/
theorem isNormal_of_mem {field : Option Json} {as : List AttributeDecl}
    (hread : Json.defaulting [] (Json.list? ofJson?) field = some as) : ∀ a ∈ as, a.IsNormal := by
  rcases Json.defaulting_eq_some hread with rfl | ⟨j, hj⟩
  · exact List.forall_mem_nil _
  · intro a ha
    obtain ⟨i, hi⟩ := Json.exists_of_mem_list? hj ha
    exact isNormal_of_ofJson? hi

/-- The declaration of an attribute survives with its type. -/
theorem ofJson?_toJson {a : AttributeDecl} (ha : a.IsNormal) : ofJson? a.toJson = some a := by
  have htype := ValueType.ofJson?_toJson ha
  obtain ⟨name, type, description, deprecated⟩ := a
  -- Whether the last two fields are written at all depends on their values.
  cases description <;> cases deprecated <;>
    simp [ofJson?, toJson, Json.record?, Json.single?, Json.required, Json.optional,
      Json.defaulting, Json.bool?, htype]

end AttributeDecl

/-- The attributes of the element are in normal form. -/
def ElementDecl.IsNormal (e : ElementDecl) : Prop :=
  ∀ a ∈ e.attributes, a.IsNormal

namespace ElementDecl

/-- Declarations of elements are read in normal form. -/
theorem isNormal_of_ofJson? {j : Json} {e : ElementDecl} (hread : ofJson? j = some e) :
    e.IsNormal := by
  unfold ofJson? at hread
  simp only [Option.bind_eq_bind, Option.bind_eq_some_iff] at hread
  obtain ⟨record, _, hread⟩ := hread
  split at hread
  · next attributes _ _ =>
    simp only [Option.bind_eq_some_iff] at hread
    obtain ⟨as, hattributes, _, _, hmade⟩ := hread
    cases hmade
    exact AttributeDecl.isNormal_of_mem hattributes
  · cases hread

/-- The declaration of an element survives with its attributes. -/
theorem ofJson?_toJson {e : ElementDecl} (he : e.IsNormal) : ofJson? e.toJson = some e := by
  have hattributes := Json.list?_ofList_of_mem fun a ha => AttributeDecl.ofJson?_toJson (he a ha)
  simp [ofJson?, toJson, Json.record?, Json.single?, Json.defaulting, Json.bool?, hattributes]

end ElementDecl

namespace SpecTable

/-- A table as reading makes it: all types are in normal form, and no element stands there twice. -/
structure IsNormal (t : SpecTable) : Prop where
  global : ∀ a ∈ t.global, a.IsNormal
  elements : ∀ e ∈ t.elements, e.2.IsNormal
  distinct : (t.elements.map (·.1)).Nodup

/-- Tables are read in normal form: of several elements of one name the last is kept. -/
theorem isNormal_of_ofJson? {j : Json} {t : SpecTable} (hread : ofJson? j = some t) :
    t.IsNormal := by
  unfold ofJson? at hread
  simp only [Option.bind_eq_bind, Option.bind_eq_some_iff] at hread
  obtain ⟨record, _, hread⟩ := hread
  split at hread
  · simp only [Option.bind_eq_some_iff] at hread
    obtain ⟨global, hglobal, elements, helements, hmade⟩ := hread
    cases hmade
    have hattributes := AttributeDecl.isNormal_of_mem hglobal
    rcases Json.defaulting_eq_some helements with rfl | ⟨i, hi⟩
    · exact ⟨hattributes, List.forall_mem_nil _, .nil⟩
    · refine ⟨hattributes, fun e he => ?_, Json.nodup_keys_of_dictionary? hi⟩
      obtain ⟨k, hk⟩ := Json.exists_of_mem_dictionary? hi he
      exact ElementDecl.isNormal_of_ofJson? hk
  · cases hread

/-- A table in normal form survives being written and read again. -/
theorem ofJson?_toJson {t : SpecTable} (ht : t.IsNormal) : ofJson? t.toJson = some t := by
  have hglobal :=
    Json.list?_ofList_of_mem fun a ha => AttributeDecl.ofJson?_toJson (ht.global a ha)
  have helements := Json.dictionary?_object
    (fun e he => ElementDecl.ofJson?_toJson (ht.elements e he)) ht.distinct
  simp [ofJson?, toJson, Json.record?, Json.single?, Json.defaulting, hglobal, helements]

/-- The order of the elements is no matter of normal form. -/
theorem IsNormal.reordered {t : SpecTable} (ht : t.IsNormal) {order : List (String × ElementDecl)}
    (horder : order.Perm t.elements) : ({ t with elements := order } : SpecTable).IsNormal where
  global := ht.global
  elements e he := ht.elements e (horder.mem_iff.mp he)
  distinct := (horder.map (·.1)).nodup_iff.mpr ht.distinct

/-- With distinct names, the order of the elements does not show in lookups. -/
theorem IsNormal.lookup_reordered {t : SpecTable} (ht : t.IsNormal)
    {order : List (String × ElementDecl)} (horder : order.Perm t.elements) :
    ({ t with elements := order } : SpecTable).lookup = t.lookup := by
  have helement : ({ t with elements := order } : SpecTable).element? = t.element? :=
    funext fun element => lookup_eq_of_perm ht.distinct horder (Text.foldCase element)
  simp only [lookup, SpecLookup.mk.injEq]
  constructor
  · funext element attr
    simp only [attribute?, helement]
  · funext element
    simp only [hasElement, helement]

/-- A table that was read is in a stable form. Written and read once more it is the same table. If
its elements are written in another order, the table that is read answers every question alike. -/
theorem ofJson?_stable (j : Json) (t : SpecTable) (hread : ofJson? j = some t) :
    ofJson? t.toJson = some t ∧
      ∀ order : List (String × ElementDecl), order.Perm t.elements →
        ∃ s, ofJson? ({ t with elements := order } : SpecTable).toJson = some s ∧
          s.global = t.global ∧ s.elements.Perm t.elements ∧ s.lookup = t.lookup := by
  have ht := isNormal_of_ofJson? hread
  refine ⟨ofJson?_toJson ht, fun order horder => ?_⟩
  exact ⟨_, ofJson?_toJson (ht.reordered horder), rfl, horder, ht.lookup_reordered horder⟩

/-- A table with one of everything that reading straightens out. -/
def untidy : Json :=
  .object [
    ("note", .unreadable),
    ("elements", .object [
      ("p", .object []),
      ("svg", .array [.array [], .bool false]),
      ("p", .object [("attributes", .array [
        .array [.string "dir", .object [("enum", .array [.string "LTR", .string "ΟΔΟΣ"])]],
        .object [("name", .string "lang"), ("type", .object [("Langue", .null)]),
          ("description", .null), ("deprecated", .bool true)]])])])]

/-- The table that it is read as. -/
def tidy : SpecTable where
  elements :=
    [("svg", { globalAttributes := false }),
     ("p", { attributes := [{ name := "dir", type := .oneOf ["ltr", "οδος"] },
       { name := "lang", type := .named .unknown, deprecated := true }] })]

theorem ofJson?_stable_untidy :
    ofJson? untidy = some tidy ∧ ofJson? tidy.toJson = some tidy ∧
      ∃ s, ofJson? ({ tidy with elements := tidy.elements.reverse } : SpecTable).toJson = some s ∧
        s.global = tidy.global ∧ s.elements.Perm tidy.elements ∧ s.lookup = tidy.lookup := by
  have hread : ofJson? untidy = some tidy := by decide +kernel
  obtain ⟨hagain, horders⟩ := ofJson?_stable untidy tidy hread
  exact ⟨hread, hagain, horders _ (List.reverse_perm _)⟩

end SpecTable

end MarkupAudit
