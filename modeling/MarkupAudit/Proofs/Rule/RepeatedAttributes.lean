import Mathlib.Algebra.GroupWithZero.Nat
import Mathlib.Data.Finset.Card
import MarkupAudit.Proofs.Rule.Traced

namespace MarkupAudit

open Text

namespace NodeInfo

/-- The attribute at a place repeats one further left: both have the same name, up to ASCII case. -/
def Repeats (n : NodeInfo) (i : Nat) : Prop :=
  ∃ j < i, ∃ a ∈ n.attributes[j]?, ∃ b ∈ n.attributes[i]?, sameName a.name b.name = true

instance (n : NodeInfo) : DecidablePred n.Repeats := fun i =>
  inferInstanceAs (Decidable (∃ j < i, ∃ a ∈ n.attributes[j]?, ∃ b ∈ n.attributes[i]?,
    sameName a.name b.name = true))

/-- The names of the attributes, in lower case. -/
def foldedNames (n : NodeInfo) : List String :=
  n.attributes.map fun a => foldCase a.name

/-- What a node is, with the attributes at some places taken out. -/
def without (n : NodeInfo) (gone : Nat → Prop) [DecidablePred gone] : NodeInfo :=
  { n with attributes := (n.attributes.zipIdx.filter fun x => ¬gone x.2).map (·.1) }

/-- What a node is without the attributes that repeat others. -/
def firstsOnly (n : NodeInfo) : NodeInfo :=
  n.without n.Repeats

/-- An attribute repeats another if its folded name is among those before it. -/
theorem repeats_iff {n : NodeInfo} {i : Nat} {b : Attribute} (hget : n.attributes[i]? = some b) :
    n.Repeats i ↔ foldCase b.name ∈ (n.attributes.take i).map fun a => foldCase a.name := by
  rw [List.mem_map]
  simp only [Repeats, hget, Option.mem_def, Option.some.injEq, exists_eq_left', sameName,
    beq_iff_eq, List.mem_iff_getElem?, List.getElem?_take]
  constructor
  · rintro ⟨j, hj, a, ha, hname⟩
    exact ⟨a, ⟨j, by rw [if_pos hj, ha]⟩, hname⟩
  · rintro ⟨a, ⟨j, ha⟩, hname⟩
    split at ha
    next hj => exact ⟨j, hj, a, ha, hname⟩
    next => cases ha

/-- Taking attributes out leaves the others in order. -/
theorem attributes_without_sublist (n : NodeInfo) (gone : Nat → Prop) [DecidablePred gone] :
    (n.without gone).attributes.Sublist n.attributes := by
  have hsublist := (List.filter_sublist (p := fun x => decide ¬gone x.2)
    (l := n.attributes.zipIdx)).map (·.1)
  rwa [List.zipIdx_map_fst] at hsublist

end NodeInfo

namespace DuplicateAttribute

/-- What the names seen so far decide can be read off the attributes further left. -/
theorem repeated_eq_filter {n : NodeInfo} {before rest : List Attribute} {seen : List String}
    (hattributes : n.attributes = before ++ rest)
    (hseen : ∀ name, name ∈ seen ↔ name ∈ before.map fun a => foldCase a.name) :
    repeated seen rest =
      ((rest.zipIdx before.length).filter fun x => n.Repeats x.2).map (·.1) := by
  induction rest generalizing before seen with
  | nil => rfl
  | cons a rest ih =>
    have hget : n.attributes[before.length]? = some a := by simp [hattributes]
    have hrepeats : n.Repeats before.length ↔ foldCase a.name ∈ seen := by
      rw [NodeInfo.repeats_iff hget, hseen, hattributes, List.take_left]
    have hnext : n.attributes = (before ++ [a]) ++ rest := by simp [hattributes]
    have hmore : ∀ name, name ∈ (before ++ [a]).map (fun b => foldCase b.name) ↔
        name ∈ seen ∨ name = foldCase a.name := by
      intro name
      rw [List.map_append, List.mem_append, ← hseen, List.map_singleton, List.mem_singleton]
    rw [List.zipIdx_cons, repeated]
    by_cases hname : foldCase a.name ∈ seen
    · have hsame : ∀ name, name ∈ seen ↔ name ∈ (before ++ [a]).map fun b => foldCase b.name := by
        intro name
        rw [hmore, or_iff_left_of_imp]
        rintro rfl
        exact hname
      have hrest := ih hnext hsame
      rw [List.length_append, List.length_singleton] at hrest
      simp [hrepeats.mpr hname, hname, hrest]
    · have hgrown : ∀ name, name ∈ foldCase a.name :: seen ↔
          name ∈ (before ++ [a]).map fun b => foldCase b.name := by
        intro name
        rw [hmore, List.mem_cons, or_comm]
      have hrest := ih hnext hgrown
      rw [List.length_append, List.length_singleton] at hrest
      simp [mt hrepeats.mp hname, hname, hrest]

/-- What is found with a memory of names is what repeats when one looks back. -/
theorem repeated_nil (n : NodeInfo) :
    repeated [] n.attributes = (n.attributes.zipIdx.filter fun x => n.Repeats x.2).map (·.1) :=
  repeated_eq_filter (List.nil_append _).symm (by simp)

end DuplicateAttribute

namespace NodeInfo

section

variable (n : NodeInfo)

/-- Of two attributes of one name, the one further right repeats the other. -/
theorem nodup_foldedNames_firstsOnly : n.firstsOnly.foldedNames.Nodup := by
  have hplaces : (n.attributes.zipIdx.map (·.2)).Pairwise (· < ·) := by
    rw [List.zipIdx_map_snd]
    exact List.pairwise_lt_range'
  rw [List.Nodup, foldedNames, List.pairwise_map, firstsOnly, without, List.pairwise_map]
  refine ((List.pairwise_map.mp hplaces).filter _).imp_of_mem ?_
  intro x y hx hy hlt hname
  obtain ⟨hx, _⟩ := List.mem_filter.mp hx
  obtain ⟨hy, hfirst⟩ := List.mem_filter.mp hy
  rw [List.mem_zipIdx_iff_getElem?] at hx hy
  exact of_decide_eq_true hfirst ⟨x.2, hlt, x.1, hx, y.1, hy, beq_iff_eq.mpr hname⟩

/-- The first attribute of a name repeats no other. -/
theorem find?_firstsOnly (name : String) :
    n.firstsOnly.attributes.find? (·.hasName name) = n.attributes.find? (·.hasName name) := by
  cases hfind : n.attributes.find? (·.hasName name) with
  | none =>
    rw [List.find?_eq_none] at hfind ⊢
    exact fun a ha => hfind a ((n.attributes_without_sublist _).subset ha)
  | some a =>
    obtain ⟨hname, before, after, hattributes, hbefore⟩ := List.find?_eq_some_iff_append.mp hfind
    have hget : n.attributes[before.length]? = some a := by simp [hattributes]
    have hfirst : ¬n.Repeats before.length := by
      rw [repeats_iff hget, hattributes, List.take_left, List.mem_map]
      rintro ⟨b, hb, hsame⟩
      have hother : b.hasName name = false := by simpa using hbefore b hb
      rw [Attribute.hasName, sameName, hsame] at hother
      exact Bool.false_ne_true (hother.symm.trans hname)
    have hsplit : n.firstsOnly.attributes =
        ((before.zipIdx.filter fun x => ¬n.Repeats x.2).map (·.1)) ++
          a :: ((after.zipIdx (before.length + 1)).filter fun x => ¬n.Repeats x.2).map (·.1) := by
      rw [firstsOnly, without]
      nth_rewrite 1 [hattributes]
      simp [List.zipIdx_append, hfirst]
    refine List.find?_eq_some_iff_append.mpr ⟨hname, _, _, hsplit, fun b hb => hbefore b ?_⟩
    obtain ⟨x, hx, rfl⟩ := List.mem_map.mp hb
    exact List.fst_mem_of_mem_zipIdx (List.mem_filter.mp hx).1

/-- Lookups answer with the first attribute of a name, which stays. -/
theorem attribute?_firstsOnly (name : String) :
    n.firstsOnly.attribute? name = n.attribute? name := by
  rw [attribute?, find?_firstsOnly]
  rfl

/-- No name is lost. -/
theorem toFinset_foldedNames_firstsOnly :
    n.firstsOnly.foldedNames.toFinset = n.foldedNames.toFinset := by
  ext name
  simp only [List.mem_toFinset, foldedNames, List.mem_map]
  constructor
  · rintro ⟨a, ha, rfl⟩
    exact ⟨a, (n.attributes_without_sublist _).subset ha, rfl⟩
  · rintro ⟨a, ha, rfl⟩
    have hsome : (n.firstsOnly.attributes.find? (·.hasName a.name)).isSome = true := by
      rw [find?_firstsOnly, List.find?_isSome]
      exact ⟨a, ha, beq_self_eq_true _⟩
    obtain ⟨b, hb⟩ := Option.isSome_iff_exists.mp hsome
    have hname : b.hasName a.name = true := by simpa using List.find?_some hb
    exact ⟨b, List.mem_of_find?_eq_some hb, beq_iff_eq.mp hname⟩

/-- One attribute of each name is left. -/
theorem length_firstsOnly : n.firstsOnly.attributes.length = n.foldedNames.toFinset.card := by
  rw [← toFinset_foldedNames_firstsOnly,
    List.toFinset_card_of_nodup n.nodup_foldedNames_firstsOnly, foldedNames, List.length_map]

/-- As many attributes repeat others as there are more attributes than names. -/
theorem length_repeated :
    (DuplicateAttribute.repeated [] n.attributes).length =
      n.attributes.length - n.foldedNames.toFinset.card := by
  have hparts := List.length_eq_countP_add_countP
    (fun x : Attribute × Nat => decide (n.Repeats x.2)) (l := n.attributes.zipIdx)
  have hfirsts := n.length_firstsOnly
  simp only [firstsOnly, without, List.length_map] at hfirsts
  simp only [List.countP_eq_length_filter, List.length_zipIdx, decide_eq_true_eq] at hparts
  rw [DuplicateAttribute.repeated_nil, List.length_map]
  omega

/-- Nothing is repeated any more. -/
theorem repeated_firstsOnly : DuplicateAttribute.repeated [] n.firstsOnly.attributes = [] := by
  have hlength := n.firstsOnly.length_repeated
  rw [toFinset_foldedNames_firstsOnly, ← length_firstsOnly, Nat.sub_self] at hlength
  exact List.eq_nil_of_length_eq_zero hlength

end

end NodeInfo

namespace Document

/-- The attributes of elements with their places: element by element in document order, and from
left to right. -/
def tokens (d : Document) : List (Occurrence × Attribute) :=
  d.entries.toList.zipIdx.flatMap fun x =>
    if x.1.info.kind == .element then x.1.info.attributes.zipIdx.map fun y => (⟨x.2, y.2⟩, y.1)
    else []

/-- The attribute at a place repeats an earlier one of the same node. -/
def Repeats (d : Document) (k : Occurrence) : Prop :=
  ∃ n ∈ d.info? k.node, n.Repeats k.index

instance (d : Document) : DecidablePred d.Repeats := fun k =>
  inferInstanceAs (Decidable (∃ n ∈ d.info? k.node, n.Repeats k.index))

/-- The attributes of elements that repeat an earlier one of their element. -/
def repeats (d : Document) : List (Occurrence × Attribute) :=
  d.tokens.filter fun token => d.Repeats token.1

/-- The document with the attributes at some places taken out. -/
def without (d : Document) (gone : List Occurrence) : Document :=
  { d with
    entries := d.entries.mapIdx fun id e =>
      { e with info := e.info.without fun i => ⟨id, i⟩ ∈ gone } }

/-- The document with what each node is changed. -/
def mapInfos (f : NodeInfo → NodeInfo) (d : Document) : Document :=
  { d with entries := d.entries.map fun e => { e with info := f e.info } }

section

variable {d : Document}

/-- The tokens of a document are the attributes of its elements, by place. -/
theorem mem_tokens_iff {k : Occurrence} {a : Attribute} :
    (k, a) ∈ d.tokens ↔
      ∃ n, d.info? k.node = some n ∧ n.kind = .element ∧ n.attributes[k.index]? = some a := by
  simp only [tokens, List.mem_flatMap, List.mem_zipIdx_iff_getElem?, ← entry?_eq_getElem?, info?,
    Option.map_eq_some_iff]
  constructor
  · rintro ⟨⟨e, id⟩, hentry, htoken⟩
    split at htoken
    next hkind =>
      obtain ⟨y, hy, hpair⟩ := List.mem_map.mp htoken
      cases hpair
      exact ⟨e.info, ⟨e, hentry, rfl⟩, beq_iff_eq.mp hkind, List.mem_zipIdx_iff_getElem?.mp hy⟩
    next => cases htoken
  · rintro ⟨_, ⟨e, hentry, rfl⟩, hkind, hget⟩
    refine ⟨(e, k.node), hentry, ?_⟩
    rw [if_pos (beq_iff_eq.mpr hkind)]
    exact List.mem_map.mpr ⟨(a, k.index), List.mem_zipIdx_iff_getElem?.mpr hget, rfl⟩

/-- The attributes that the rule reports, among those of one node. -/
theorem mem_places_repeats_iff {k : Occurrence} {n : NodeInfo} (hinfo : d.info? k.node = some n) :
    k ∈ d.repeats.map (·.1) ↔ n.kind = .element ∧ n.Repeats k.index := by
  have hrepeats : d.Repeats k ↔ n.Repeats k.index := by simp [Repeats, hinfo]
  rw [List.mem_map, ← hrepeats]
  constructor
  · rintro ⟨⟨k, a⟩, htoken, rfl⟩
    obtain ⟨htoken, hrepeated⟩ := List.mem_filter.mp htoken
    obtain ⟨other, hother, hkind, _⟩ := mem_tokens_iff.mp htoken
    obtain rfl : n = other := Option.some.inj (hinfo.symm.trans hother)
    exact ⟨hkind, of_decide_eq_true hrepeated⟩
  · rintro ⟨hkind, hrepeated⟩
    obtain ⟨_, _, _, _, b, hb, _⟩ := hrepeats.mp hrepeated
    exact ⟨(k, b), List.mem_filter.mpr ⟨mem_tokens_iff.mpr ⟨n, hinfo, hkind, hb⟩,
      decide_eq_true hrepeated⟩, rfl⟩

end

end Document

/-- What a node is without the attributes that repeat others, if it is an element. -/
def NodeInfo.repaired (n : NodeInfo) : NodeInfo :=
  if n.kind = .element then n.firstsOnly else n

theorem NodeInfo.without_congr {n : NodeInfo} {gone gone' : Nat → Prop} [DecidablePred gone]
    [DecidablePred gone'] (hgone : ∀ i, gone i ↔ gone' i) : n.without gone = n.without gone' := by
  simp only [without, hgone]

theorem NodeInfo.without_of_forall_not {n : NodeInfo} {gone : Nat → Prop} [DecidablePred gone]
    (hgone : ∀ i, ¬gone i) : n.without gone = n := by
  have hall : (n.attributes.zipIdx.filter fun x => ¬gone x.2) = n.attributes.zipIdx := by
    simp [hgone]
  rw [without, hall, List.zipIdx_map_fst]

/-- Taking out what is reported changes each element by itself. -/
theorem Document.without_repeats (d : Document) :
    d.without (d.repeats.map (·.1)) = d.mapInfos NodeInfo.repaired := by
  have hnode : ∀ id e, d.entry? id = some e →
      (e.info.without fun i => ⟨id, i⟩ ∈ d.repeats.map (·.1)) = e.info.repaired := by
    intro id e hentry
    have hinfo : d.info? id = some e.info := by rw [info?, hentry]; rfl
    have hplaces : ∀ i, ⟨id, i⟩ ∈ d.repeats.map (·.1) ↔ e.info.kind = .element ∧ e.info.Repeats i :=
      fun i => mem_places_repeats_iff (k := ⟨id, i⟩) hinfo
    rw [NodeInfo.repaired]
    split
    next hkind => exact NodeInfo.without_congr fun i => by rw [hplaces, and_iff_right hkind]
    next hkind => exact NodeInfo.without_of_forall_not fun i hi => hkind ((hplaces i).mp hi).1
  have hentries : d.entries.mapIdx (fun id e =>
      { e with info := e.info.without fun i => ⟨id, i⟩ ∈ d.repeats.map (·.1) }) =
      d.entries.map fun e => { e with info := e.info.repaired } := by
    refine Array.ext_getElem? fun id => ?_
    rw [Array.getElem?_mapIdx, Array.getElem?_map]
    refine Option.map_congr fun e he => ?_
    rw [hnode id e he]
  rw [without, hentries, mapInfos]

namespace DuplicateAttribute

/-- The rule finds the attributes that repeat others, in their order. -/
theorem findings_check (l : Locale) (d : Document) :
    findings (check l) d = d.repeats.map fun token => attributeReport l token.2 := by
  have hnode : ∀ x ∈ d.entries.toList.zipIdx,
      (if x.1.info.kind == .element then check l x.1.info (d.childInfos x.1) else []) =
        ((if x.1.info.kind == .element then
            x.1.info.attributes.zipIdx.map fun y => ((⟨x.2, y.2⟩ : Occurrence), y.1)
          else []).filter fun token => d.Repeats token.1).map fun token =>
            attributeReport l token.2 := by
    intro x hx
    rw [List.mem_zipIdx_iff_getElem?, ← Document.entry?_eq_getElem?] at hx
    have hrepeats : ∀ i, d.Repeats ⟨x.2, i⟩ ↔ x.1.info.Repeats i := by
      simp [Document.Repeats, Document.info?, hx]
    split
    · rw [check, repeated_nil, List.filter_map, List.map_map, List.map_map]
      simp only [Function.comp_def, hrepeats]
    · rfl
  rw [findings_eq_flatMap, Document.repeats, Document.tokens, List.filter_flatMap,
    List.map_flatMap, ← List.flatMap_congr hnode, List.flatMap_map]
  nth_rewrite 1 [← List.zipIdx_map_fst 0 d.entries.toList]
  rw [List.flatMap_map]

/-- The rule is content with a repaired document. -/
theorem findings_check_mapInfos_repaired (l : Locale) (d : Document) :
    findings (check l) (d.mapInfos NodeInfo.repaired) = [] := by
  rw [findings, List.flatMap_eq_nil_iff]
  intro e he
  obtain ⟨hentry, hkind⟩ := List.mem_filter.mp he
  rw [Document.mapInfos, Array.toList_map] at hentry
  obtain ⟨original, _, rfl⟩ := List.mem_map.mp hentry
  have hfirsts : original.info.repaired = original.info.firstsOnly := by
    rw [NodeInfo.repaired]
    split
    next => rfl
    next hother =>
      rw [NodeInfo.repaired, if_neg hother] at hkind
      exact absurd (beq_iff_eq.mp hkind) hother
  simp only [check, hfirsts, NodeInfo.repeated_firstsOnly, List.map_nil]

/-- How many attributes repeat others, in all. -/
theorem length_repeats (d : Document) :
    d.repeats.length =
      (d.elements.map fun e =>
        e.info.attributes.length - e.info.foldedNames.toFinset.card).sum := by
  have hlength := congrArg List.length (findings_check .english d)
  rw [List.length_map, findings, List.length_flatMap] at hlength
  rw [← hlength]
  refine congrArg List.sum (List.map_congr_left fun e _ => ?_)
  rw [check, List.length_map, NodeInfo.length_repeated]

end DuplicateAttribute

namespace Node

mutual

/-- The tree with what each node is changed. -/
def mapInfos (f : NodeInfo → NodeInfo) : Node → Node
  | .mk info children => .mk (f info) (mapInfosAll f children)

/-- The forest with what each node is changed. -/
def mapInfosAll (f : NodeInfo → NodeInfo) : List Node → List Node
  | [] => []
  | n :: rest => n.mapInfos f :: mapInfosAll f rest

end

variable (f : NodeInfo → NodeInfo)

@[simp]
theorem mapInfosAll_nil : mapInfosAll f [] = [] := by
  rw [mapInfosAll]

@[simp]
theorem mapInfosAll_cons (info : NodeInfo) (children rest : List Node) :
    mapInfosAll f (.mk info children :: rest) =
      .mk (f info) (mapInfosAll f children) :: mapInfosAll f rest := by
  rw [mapInfosAll, mapInfos]

/-- Changing what nodes are changes no tree. -/
theorem sizeAll_mapInfosAll (ns : List Node) : sizeAll (mapInfosAll f ns) = sizeAll ns := by
  induction ns using forest_induction with
  | nil => simp
  | cons info children rest ihChildren ihRest => simp [ihChildren, ihRest]

end Node

theorem rootIds_mapInfosAll (f : NodeInfo → NodeInfo) (id : Nat) (ns : List Node) :
    rootIds id (Node.mapInfosAll f ns) = rootIds id ns := by
  induction ns generalizing id with
  | nil => simp [rootIds]
  | cons n rest ih =>
    cases n with
    | mk info children => simp [rootIds, ih, Node.sizeAll_mapInfosAll]

/-- Nor does it change the numbers of nodes. -/
theorem entriesOfAll_mapInfosAll (f : NodeInfo → NodeInfo) (parent : Option Nat) (id : Nat)
    (ns : List Node) :
    entriesOfAll parent id (Node.mapInfosAll f ns) =
      (entriesOfAll parent id ns).map fun e => { e with info := f e.info } := by
  induction ns using Node.forest_induction generalizing parent id with
  | nil => simp
  | cons info children rest ihChildren ihRest =>
    simp [ihChildren, ihRest, rootIds_mapInfosAll, Node.sizeAll_mapInfosAll]

/-- The nodes of a document can as well be changed in its source. -/
theorem Document.mapInfos_ofForest (f : NodeInfo → NodeInfo) (ns : List Node) :
    (ofForest ns).mapInfos f = ofForest (Node.mapInfosAll f ns) := by
  have hentries : (ofForest ns).entries.map (fun e => { e with info := f e.info }) =
      (ofForest (Node.mapInfosAll f ns)).entries := by
    refine Array.toList_inj.mp ?_
    rw [Array.toList_map, toList_entries_ofForest, toList_entries_ofForest,
      entriesOfAll_mapInfosAll]
  have hroots : (ofForest ns).roots = (ofForest (Node.mapInfosAll f ns)).roots := by
    rw [roots_ofForest, roots_ofForest, rootIds_mapInfosAll]
  have hpath : (ofForest ns).path = (ofForest (Node.mapInfosAll f ns)).path := by
    rw [ofForest, ofForest, foldl_addTree, foldl_addTree]
  rw [mapInfos, hentries, hroots, hpath]

/-- No lookup notices that an element has lost what repeats others. -/
theorem NodeInfo.attribute?_repaired (n : NodeInfo) (name : String) :
    n.repaired.attribute? name = n.attribute? name := by
  rw [repaired]
  split
  · exact n.attribute?_firstsOnly name
  · rfl

/-- The rule reports the attributes that repeat an earlier one of their element, and no others; on
each element they are as many as it has attributes beyond its names. Without them the rule has
nothing to report, and every lookup of an attribute answers as before. The attributes may as well be
taken out in the source. -/
theorem DuplicateAttribute.removal_repairs (r : DuplicateAttribute) (specs : SpecLookup)
    (locale : Locale) :
    (∀ d : Document,
      r.rule.run specs locale d =
        pure (.ok (d.repeats.map fun token => attributeReport locale token.2)) ∧
      d.repeats.length = (d.elements.map fun e =>
        e.info.attributes.length - e.info.foldedNames.toFinset.card).sum ∧
      r.rule.run specs locale (d.without (d.repeats.map (·.1))) = pure (.ok []) ∧
      ∀ id name,
        ((d.without (d.repeats.map (·.1))).info? id).map
            (fun n => (n.attribute? name, n.hasAttribute name)) =
          (d.info? id).map fun n => (n.attribute? name, n.hasAttribute name)) ∧
    ∀ ns, (Document.ofForest ns).without ((Document.ofForest ns).repeats.map (·.1)) =
      .ofForest (Node.mapInfosAll NodeInfo.repaired ns) := by
  refine ⟨fun d => ⟨?_, length_repeats d, ?_, fun id name => ?_⟩, fun ns => ?_⟩
  · rw [run_rule, findings_check]
  · rw [run_rule, Document.without_repeats, findings_check_mapInfos_repaired]
  · simp only [Document.without_repeats, Document.mapInfos, Document.info?, Document.entry?,
      Array.getElem?_map, Option.map_map, Function.comp_def, NodeInfo.hasAttribute,
      NodeInfo.attribute?_repaired]
  · rw [Document.without_repeats, Document.mapInfos_ofForest]

end MarkupAudit
