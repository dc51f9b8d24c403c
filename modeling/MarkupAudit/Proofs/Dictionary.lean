import Mathlib.Data.List.Nodup

namespace MarkupAudit

variable {α : Type}

/-- Where keys are distinct, looking a key up finds the one entry under it. -/
theorem lookup_eq_some_iff_mem {entries : List (String × α)} {key : String} {a : α}
    (hdistinct : (entries.map (·.1)).Nodup) :
    entries.lookup key = some a ↔ (key, a) ∈ entries := by
  have hmem : ∀ b, entries.lookup key = some b → (key, b) ∈ entries := by
    intro b hlookup
    obtain ⟨before, after, hentries, _⟩ := List.lookup_eq_some_iff.mp hlookup
    simp [hentries]
  refine ⟨hmem a, fun ha => ?_⟩
  cases hlookup : entries.lookup key with
  | none =>
    have habsent := List.lookup_eq_none_iff.mp hlookup (key, a) ha
    simp at habsent
  | some b =>
    have hsame := List.inj_on_of_nodup_map hdistinct (hmem b hlookup) ha rfl
    rw [(Prod.mk.inj hsame).2]

/-- So the order of the entries does not matter. -/
theorem lookup_eq_of_perm {entries order : List (String × α)}
    (hdistinct : (entries.map (·.1)).Nodup) (horder : order.Perm entries) (key : String) :
    order.lookup key = entries.lookup key := by
  have hdistinct' : (order.map (·.1)).Nodup := (horder.map (·.1)).nodup_iff.mpr hdistinct
  refine Option.ext fun a => ?_
  rw [lookup_eq_some_iff_mem hdistinct', lookup_eq_some_iff_mem hdistinct, horder.mem_iff]

theorem isSome_lookup_iff {entries : List (String × α)} {key : String} :
    (entries.lookup key).isSome = true ↔ key ∈ entries.map (·.1) := by
  rw [← not_iff_not, Option.not_isSome_iff_eq_none, List.lookup_eq_none_iff]
  simp only [bne_iff_ne, List.mem_map, not_exists, not_and]
  exact forall₂_congr fun entry _ => ne_comm

/-- Taking out what stands under another key goes unnoticed. -/
theorem lookup_filter_of_ne {entries : List (String × α)} {key other : String}
    (hne : key ≠ other) : (entries.filter (·.1 != other)).lookup key = entries.lookup key := by
  induction entries with
  | nil => rfl
  | cons entry rest ih =>
    obtain ⟨k, a⟩ := entry
    by_cases hk : k = other
    · have hskip : (key == k) = false := beq_eq_false_iff_ne.mpr (hk ▸ hne)
      rw [List.filter_cons_of_neg (by simp [hk]), ih, List.lookup_cons, hskip]
    · rw [List.filter_cons_of_pos (by simp [hk]), List.lookup_cons, List.lookup_cons, ih]

end MarkupAudit
