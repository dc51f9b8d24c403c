import MarkupAudit.Json.Decode
import MarkupAudit.Proofs.Dictionary
import MarkupAudit.Proofs.Failure

namespace MarkupAudit.Json

variable {α : Type}

theorem optional_of_ne_null (value? : Json → Option α) {j : Json} (hj : j ≠ .null) :
    optional value? (some j) = (value? j).map some := by
  cases j with
  | null => exact absurd rfl hj
  | _ => rfl

/-- The entries of a dictionary, the last of several under one key. -/
def keepLast (entries : List (String × α)) : List (String × α) :=
  entries.foldr (fun entry kept =>
    if (kept.lookup entry.1).isSome then kept else entry :: kept) []

/-- An entry is kept unless a later one has its key. -/
theorem keepLast_cons (entry : String × α) (entries : List (String × α)) :
    keepLast (entry :: entries) =
      if entry.1 ∈ (keepLast entries).map (·.1) then keepLast entries
      else entry :: keepLast entries := by
  simp only [← isSome_lookup_iff]
  rfl

theorem sublist_keepLast (entries : List (String × α)) : (keepLast entries).Sublist entries := by
  induction entries with
  | nil => exact .slnil
  | cons entry entries ih =>
    rw [keepLast_cons]
    split
    · exact ih.cons entry
    · exact ih.cons_cons entry

/-- No key is kept twice. -/
theorem nodup_keys_keepLast (entries : List (String × α)) :
    ((keepLast entries).map (·.1)).Nodup := by
  induction entries with
  | nil => exact .nil
  | cons entry entries ih =>
    rw [keepLast_cons]
    split
    · exact ih
    · next habsent => exact List.nodup_cons.mpr ⟨habsent, ih⟩

/-- Nothing is dropped where keys are distinct. -/
theorem keepLast_eq_self {entries : List (String × α)} (hdistinct : (entries.map (·.1)).Nodup) :
    keepLast entries = entries := by
  induction entries with
  | nil => rfl
  | cons entry entries ih =>
    rw [List.map_cons, List.nodup_cons] at hdistinct
    rw [keepLast_cons, ih hdistinct.2, if_neg hdistinct.1]

/-- A dictionary is read member by member, and the last of each key is kept. -/
theorem dictionary?_eq_some {value? : Json → Option α} {j : Json} {entries : List (String × α)}
    (hread : dictionary? value? j = some entries) :
    ∃ (members : List (String × Json)) (read : List (String × α)),
      List.Forall₂ (fun member entry => value? member.2 = some entry.2) members read ∧
        entries = keepLast read := by
  cases j with
  | object members =>
    obtain ⟨read, hread, hkept⟩ := Option.bind_eq_some_iff.mp hread
    refine ⟨members, read, (mapM_eq_some_iff.mp hread).imp fun member entry hentry => ?_,
      (Option.some.inj hkept).symm⟩
    obtain ⟨a, ha, rfl⟩ := Option.map_eq_some_iff.mp hentry
    exact ha
  | _ => cases hread

/-- What is read as a dictionary has distinct keys. -/
theorem nodup_keys_of_dictionary? {value? : Json → Option α} {j : Json}
    {entries : List (String × α)} (hread : dictionary? value? j = some entries) :
    (entries.map (·.1)).Nodup := by
  obtain ⟨members, read, _, rfl⟩ := dictionary?_eq_some hread
  exact nodup_keys_keepLast read

/-- Every entry of a dictionary was read from some value. -/
theorem exists_of_mem_dictionary? {value? : Json → Option α} {j : Json}
    {entries : List (String × α)} (hread : dictionary? value? j = some entries)
    {entry : String × α} (hentry : entry ∈ entries) : ∃ i, value? i = some entry.2 := by
  obtain ⟨members, read, hall, rfl⟩ := dictionary?_eq_some hread
  obtain ⟨member, _, hvalue⟩ :=
    exists_mem_of_forall₂ hall ((sublist_keepLast read).subset hentry)
  exact ⟨member.2, hvalue⟩

/-- A dictionary with distinct keys survives being written and read again. -/
theorem dictionary?_object {value? : Json → Option α} {write : α → Json}
    {entries : List (String × α)}
    (hvalues : ∀ entry ∈ entries, value? (write entry.2) = some entry.2)
    (hdistinct : (entries.map (·.1)).Nodup) :
    dictionary? value? (.object (entries.map fun entry => (entry.1, write entry.2))) =
      some entries := by
  have hread : (entries.map fun entry => (entry.1, write entry.2)).mapM
      (fun member => (value? member.2).map (member.1, ·)) = some entries := by
    rw [mapM_eq_some_iff, List.forall₂_map_left_iff, List.forall₂_same]
    intro entry hentry
    simp [hvalues entry hentry]
  refine Option.bind_eq_some_iff.mpr ⟨entries, hread, ?_⟩
  exact congrArg some (keepLast_eq_self hdistinct)

/-- Every item of a list was read from some value. -/
theorem exists_of_mem_list? {item? : Json → Option α} {j : Json} {items : List α}
    (hread : list? item? j = some items) {a : α} (ha : a ∈ items) : ∃ i, item? i = some a := by
  cases j with
  | array js =>
    obtain ⟨i, _, hi⟩ := exists_mem_of_forall₂ (mapM_eq_some_iff.mp hread) ha
    exact ⟨i, hi⟩
  | _ => cases hread

/-- A list survives being written and read again if its items do. -/
theorem list?_ofList_of_mem {item? : Json → Option α} {write : α → Json} {items : List α}
    (hitems : ∀ a ∈ items, item? (write a) = some a) :
    list? item? (ofList write items) = some items := by
  rw [ofList, list?, mapM_eq_some_iff, List.forall₂_map_left_iff, List.forall₂_same]
  exact hitems

/-- A field with a default is the default, or it was read. -/
theorem defaulting_eq_some {value : α} {value? : Json → Option α} {field : Option Json} {a : α}
    (hread : defaulting value value? field = some a) : a = value ∨ ∃ j, value? j = some a := by
  cases field with
  | none => exact .inl (Option.some.inj hread).symm
  | some j => exact .inr ⟨j, hread⟩

end MarkupAudit.Json
