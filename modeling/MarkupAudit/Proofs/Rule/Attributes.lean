import MarkupAudit.Proofs.Rule.Compositional

namespace MarkupAudit

open Text

/-- What a node is, with its attributes changed. -/
def NodeInfo.mapAttributes (n : NodeInfo) (f : Attribute → Attribute) : NodeInfo :=
  { n with attributes := n.attributes.map f }

section

variable {f : Attribute → Attribute} (hname : ∀ a, foldCase (f a).name = foldCase a.name)

include hname

theorem hasName_comp_of_foldCase_eq (name : String) :
    (fun a : Attribute => a.hasName name) ∘ f = fun a => a.hasName name := by
  funext a
  simp only [Function.comp_apply, Attribute.hasName, sameName, hname]

/-- The attributes of a name are those that had it before. -/
theorem NodeInfo.attributesNamed_mapAttributes (n : NodeInfo) (name : String) :
    (n.mapAttributes f).attributesNamed name = (n.attributesNamed name).map f := by
  rw [attributesNamed, mapAttributes, List.filter_map, hasName_comp_of_foldCase_eq hname]
  rfl

/-- Lookups give the same values. -/
theorem NodeInfo.attribute?_mapAttributes (hvalue : ∀ a, (f a).value = a.value) (n : NodeInfo)
    (name : String) : (n.mapAttributes f).attribute? name = n.attribute? name := by
  have hread : (fun a : Attribute => a.value) ∘ f = fun a => a.value := funext hvalue
  rw [attribute?, mapAttributes, List.find?_map, hasName_comp_of_foldCase_eq hname, Option.map_map,
    hread]
  rfl

/-- So the same elements are exempt. -/
theorem EmptyContent.isExempt_mapAttributes (hvalue : ∀ a, (f a).value = a.value)
    (r : EmptyContent) (n : NodeInfo) : r.isExempt (n.mapAttributes f) = r.isExempt n := by
  simp only [isExempt, isTrue, NodeInfo.hasAttribute,
    NodeInfo.attribute?_mapAttributes hname hvalue]

/-- The same attributes are repeated. -/
theorem DuplicateAttribute.repeated_map (seen : List String) (attributes : List Attribute) :
    repeated seen (attributes.map f) = (repeated seen attributes).map f := by
  induction attributes generalizing seen with
  | nil => rfl
  | cons a rest ih =>
    simp only [List.map_cons, repeated, hname, ih]
    split
    · rfl
    · rfl

end

end MarkupAudit
