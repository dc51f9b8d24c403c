import Mathlib.Data.List.Basic
import MarkupAudit.Proofs.Message.Bundled

namespace MarkupAudit.Locale

/-- What stands before each item of a list, if the list has so many items. -/
def separators (comma pair last : String) : Nat → List String
  | 0 => []
  | 1 => [""]
  | 2 => ["", pair]
  | more + 3 => "" :: (List.replicate (more + 1) comma ++ [last])

/-- A locale writes lists with these texts between the items. -/
structure ListsWith (l : Locale) (comma pair last : String) : Prop where
  none : l.list [] = ""
  one : ∀ item, l.list [item] = quote item
  two : ∀ first second, l.list [first, second] = quote first ++ pair ++ quote second
  more : ∀ items item, 2 ≤ items.length →
    l.list (items ++ [item]) = comma.intercalate (items.map quote) ++ last ++ quote item
  /-- Every item comes once, in its turn and as it is, and there is nothing else in the list. -/
  inTurn : ∀ items, l.list items =
    String.join (List.zipWith (fun separator item => separator ++ quote item)
      (separators comma pair last items.length) items)

/-- All items but the first have the separator before them. -/
theorem intercalate_cons_eq_append_join (comma first : String) (items : List String) :
    comma.intercalate (first :: items) = first ++ String.join (items.map (comma ++ ·)) := by
  induction items generalizing first with
  | nil => simp
  | cons item items ih =>
    rw [String.intercalate_cons_cons, ih item, List.map_cons, String.join_cons]
    simp only [String.append_assoc]

/-- From two items on, the last one is added behind a text of its own. -/
theorem joined_append_singleton (comma pair last : String) {items : List String} (item : String)
    (hitems : 2 ≤ items.length) :
    joined comma pair last (items ++ [item]) = comma.intercalate items ++ last ++ item := by
  match items with
  | first :: second :: rest =>
    have hjoined : joined comma pair last (first :: (second :: rest ++ [item])) =
        comma.intercalate (first :: (second :: rest ++ [item]).dropLast) ++ last ++
          (second :: rest ++ [item]).getLastD "" := by
      cases rest <;> rfl
    rw [List.cons_append, hjoined, List.dropLast_concat, List.getLastD_concat]

theorem zipWith_replicate_length {α β γ : Type} (f : α → β → γ) (a : α) (items : List β) :
    List.zipWith f (List.replicate items.length a) items = items.map (f a) := by
  induction items with
  | nil => rfl
  | cons item items ih =>
    rw [List.length_cons, List.replicate_succ, List.zipWith_cons_cons, ih, List.map_cons]

/-- A list is what its separators and its items make when they take turns. -/
theorem joined_eq_join_zipWith (comma pair last : String) (items : List String) :
    joined comma pair last items =
      String.join (List.zipWith (· ++ ·) (separators comma pair last items.length) items) := by
  match items with
  | [] => rfl
  | [only] => simp [joined, separators]
  | [first, second] => simp [joined, separators, String.append_assoc]
  | first :: second :: third :: rest =>
    obtain ⟨middle, item, hsplit⟩ :=
      (List.eq_nil_or_concat' (third :: rest)).resolve_left (List.cons_ne_nil _ _)
    have hlength : (first :: second :: third :: rest).length = middle.length + 3 := by
      rw [hsplit]
      simp
    have hsame : (List.replicate (middle.length + 1) comma).length = (second :: middle).length := by
      simp
    rw [hlength, hsplit, ← List.cons_append, ← List.cons_append,
      joined_append_singleton comma pair last item (by simp), separators, List.cons_append,
      List.zipWith_cons_cons, List.zipWith_append hsame, intercalate_cons_eq_append_join,
      ← List.length_cons (a := second), zipWith_replicate_length]
    simp [String.append_assoc]

/-- A locale that puts these texts between items writes lists with them. -/
theorem JoinsWith.listsWith {l : Locale} {comma pair last : String}
    (hjoins : JoinsWith l comma pair last) : ListsWith l comma pair last where
  none := rfl
  one _ := rfl
  two first second := hjoins.list_eq [first, second]
  more items item hitems := by
    rw [hjoins.list_eq, List.map_append, List.map_singleton]
    exact joined_append_singleton comma pair last _ (by simpa using hitems)
  inTurn items := by
    rw [hjoins.list_eq, joined_eq_join_zipWith, List.length_map, List.zipWith_map_right]

/-- The texts of a Japanese list. -/
theorem japanese_joinsWith : JoinsWith japanese "、" "または" "、または" where
  next := expand_of_pieces (by cbv)
  pair := expand_of_pieces (by cbv)
  last := expand_of_pieces (by cbv)

/-- In both bundled locales a list of alternatives is an exact join, whatever the alternatives are:
none of them is read as a template, looked up or capitalised on the way. -/
theorem list_joins_quoted :
    ListsWith english ", " " or " ", or " ∧
      ∀ tag, language tag = "ja" →
        ∃ l, bundled? tag = some l ∧ ListsWith l "、" "または" "、または" := by
  refine ⟨english_joinsWith.listsWith, fun tag htag => ⟨japanese, ?_, ?_⟩⟩
  · simp [bundled?, htag]
  · exact japanese_joinsWith.listsWith

-- Placeholders, quotes and nothing at all.
example : english.list ["\x7b1*\x7d", "\"", ""] = "\"\x7b1*\x7d\", \"\"\", or \"\"" := by
  cbv

end MarkupAudit.Locale
