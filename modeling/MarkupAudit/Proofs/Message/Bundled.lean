import Mathlib
import MarkupAudit.Proofs.Message.Expansion

namespace MarkupAudit

namespace Text

/-- A text that starts with no lower-case character is capitalised already. -/
theorem upperFirst_cons {c : Char} (hc : isLowercase c = false) (cs : List Char) :
    upperFirst (c :: cs) = c :: cs := by
  simp [upperFirst, hc]

end Text

namespace Message

/-- The pieces of a text without placeholders. -/
def literal (s : String) : List Piece :=
  s.toList.map .char

end Message

namespace Locale

open Message

/-- A text without placeholders is copied. -/
theorem flatMap_piece_literal (l : Locale) (args : List String) (s : String) :
    (literal s).flatMap (l.piece args) = s.toList := by
  rw [literal, List.flatMap_map]
  exact List.flatMap_singleton' s.toList

/-- Expansion goes through the pieces of the sentence and capitalises what comes out. -/
theorem toList_expand_pieces (l : Locale) (template : String) (args : List String) :
    (l.expand template args).toList =
      Text.upperFirst ((pieces args.length (l.sentence template)).flatMap (l.piece args)) := by
  rw [expand, toList_capitalize, String.toList_ofList]

/-- A word of which the table knows neither form is not replaced. -/
theorem keyword_eq_self {l : Locale} {word : String} (hword : l.keywords.lookup word = none)
    (hlower : l.keywords.lookup (Text.lowercase word) = none) : l.keyword word = word := by
  rw [keyword, hword, hlower]
  rfl

/-- A text that starts with a double quote. -/
def StartsQuoted (s : String) : Prop :=
  ∃ cs, s.toList = '"' :: cs

theorem startsQuoted_quote (s : String) : StartsQuoted (quote s) :=
  ⟨s.toList ++ ['"'], by simp [quote]⟩

theorem StartsQuoted.append {s : String} (hs : StartsQuoted s) (t : String) :
    StartsQuoted (s ++ t) := by
  obtain ⟨cs, hcs⟩ := hs
  exact ⟨cs ++ t.toList, by simp [hcs]⟩

/-- A quote has no case. -/
theorem StartsQuoted.upperFirst_eq {s : String} (hs : StartsQuoted s) :
    Text.upperFirst s.toList = s.toList := by
  obtain ⟨cs, hcs⟩ := hs
  rw [hcs]
  exact Text.upperFirst_cons (by decide) cs

/-- Items with one text between the last two and another between those before. Where there are only
two items, a third text stands between them. -/
def joined (comma pair last : String) : List String → String
  | [] => ""
  | [only] => only
  | [first, second] => first ++ pair ++ second
  | first :: rest => comma.intercalate (first :: rest.dropLast) ++ last ++ rest.getLastD ""

/-- The texts that a locale puts between the items of a list. -/
structure JoinsWith (l : Locale) (comma pair last : String) : Prop where
  next : ∀ start item, StartsQuoted start →
    l.expand Phrase.listNext [start, item] = start ++ comma ++ item
  pair : ∀ start item, StartsQuoted start →
    l.expand Phrase.pair [start, item] = start ++ pair ++ item
  last : ∀ start item, StartsQuoted start →
    l.expand Phrase.listEnd [start, item] = start ++ last ++ item

namespace JoinsWith

variable {l : Locale} {comma pair last : String}

/-- Items that are added one by one stand in a row. -/
theorem foldl_next (hjoins : JoinsWith l comma pair last) (items : List String) {start : String}
    (hstart : StartsQuoted start) :
    items.foldl (fun start item => l.expand Phrase.listNext [start, item]) start =
      comma.intercalate (start :: items) := by
  induction items generalizing start with
  | nil => simp
  | cons item items ih =>
    rw [List.foldl_cons, hjoins.next start item hstart, ih ((hstart.append _).append _),
      String.intercalate_cons_append, String.intercalate_cons_cons]

/-- A list starts with what its first item starts with. -/
theorem startsQuoted_intercalate (comma : String) {start : String} (hstart : StartsQuoted start)
    (items : List String) : StartsQuoted (comma.intercalate (start :: items)) := by
  cases items with
  | nil => simpa using hstart
  | cons item items =>
    rw [String.intercalate_cons_cons]
    exact (hstart.append _).append _

/-- A list of alternatives is a join of the alternatives in double quotes. -/
theorem list_eq (hjoins : JoinsWith l comma pair last) (items : List String) :
    l.list items = joined comma pair last (items.map quote) := by
  unfold list
  match items with
  | [] => rfl
  | [only] => rfl
  | [first, second] => exact hjoins.pair _ _ (startsQuoted_quote first)
  | first :: second :: third :: rest =>
    have hrow := hjoins.foldl_next ((second :: third :: rest).map quote).dropLast
      (startsQuoted_quote first)
    have hquoted := startsQuoted_intercalate comma (startsQuoted_quote first)
      ((second :: third :: rest).map quote).dropLast
    simp only [List.map_cons, joinAlternatives, joined] at hrow hquoted ⊢
    rw [hrow, hjoins.last _ _ hquoted]

end JoinsWith

/-- A sentence that is nothing but a text between two arguments. -/
theorem expand_of_pieces {l : Locale} {template between : String}
    (hpieces : pieces 2 (l.sentence template) =
      .argument ⟨0, .verbatim⟩ :: (literal between ++ [.argument ⟨1, .verbatim⟩]))
    (start item : String) (hstart : StartsQuoted start) :
    l.expand template [start, item] = start ++ between ++ item := by
  apply String.toList_injective
  rw [toList_expand_pieces, show [start, item].length = 2 from rfl, hpieces,
    ← ((hstart.append between).append item).upperFirst_eq]
  simp [flatMap_piece_literal, piece, argument]

/-- The texts of an English list. -/
theorem english_joinsWith : JoinsWith english ", " " or " ", or " where
  next := expand_of_pieces (by cbv)
  pair := expand_of_pieces (by cbv)
  last := expand_of_pieces (by cbv)

/-- The text of an expansion is what the pieces of the sentence make, if its first character is no
lower-case one. -/
theorem expand_eq {l : Locale} {template text : String} {args : List String} {found : List Piece}
    (hpieces : pieces args.length (l.sentence template) = found)
    (htext : found.flatMap (l.piece args) = text.toList) {c : Char}
    (hfirst : text.toList.head? = some c) (hc : Text.isLowercase c = false) :
    l.expand template args = text := by
  apply String.toList_injective
  rw [toList_expand_pieces, hpieces, htext]
  obtain ⟨cs, hcs⟩ := List.head?_eq_some_iff.mp hfirst
  rw [hcs]
  exact Text.upperFirst_cons hc cs

/-- The same where the first character gets upper-cased. -/
theorem expand_eq_upper {l : Locale} {template start' rest : String} {args : List String}
    {found : List Piece} (start : String)
    (hpieces : pieces args.length (l.sentence template) = found)
    (htext : found.flatMap (l.piece args) = (start ++ rest).toList)
    (hupper : ∀ cs, Text.upperFirst (start.toList ++ cs) = start'.toList ++ cs) :
    l.expand template args = start' ++ rest := by
  apply String.toList_injective
  rw [toList_expand_pieces, hpieces, htext, String.toList_append, String.toList_append, hupper]

section

variable (name : String)

/-- The sentence on an attribute that does not exist quotes its name. -/
theorem english_disallowed :
    english.expand Phrase.disallowed [name] = "\"" ++ name ++ "\" attribute is disallow" := by
  have hpieces : pieces 1 (english.sentence Phrase.disallowed) =
      literal "\"" ++ .argument ⟨0, .verbatim⟩ :: literal "\" attribute is disallow" := by
    cbv
  exact expand_eq (c := '"') hpieces (by simp [flatMap_piece_literal, piece, argument]) (by simp)
    (by decide)

theorem english_theAttribute :
    english.expand Phrase.theAttribute [name] = "The \"" ++ name ++ "\" attribute" := by
  have hpieces : pieces 1 (english.sentence Phrase.theAttribute) =
      literal "the \"" ++ .argument ⟨0, .verbatim⟩ :: literal "\" attribute" := by
    cbv
  rw [String.append_assoc]
  exact expand_eq_upper "the \"" hpieces (by simp [flatMap_piece_literal, piece, argument])
    fun _ => rfl

theorem english_keyword (word : String) : english.keyword word = word :=
  keyword_eq_self rfl rfl

/-- What is expected goes on inside the sentence. -/
theorem english_shouldBe {subject : String} (hsubject : subject.toList.head? = some 'T')
    (expected : String) :
    english.expand Phrase.shouldBe [subject, expected] =
      subject ++ " should be " ++ decapitalize expected := by
  have hpieces : pieces 2 (english.sentence Phrase.shouldBe) =
      .argument ⟨0, .keyword⟩ :: (literal " should be " ++ [.argument ⟨1, .clause⟩]) := by
    cbv
  exact expand_eq (c := 'T') hpieces
    (by simp [flatMap_piece_literal, piece, argument, english_keyword]) (by simp [hsubject])
    (by decide)

/-- A bound that is not reached is named twice. -/
theorem english_sameBelow {subject : String} (hsubject : subject.toList.head? = some 'T')
    (bound : String) :
    english.expand Phrase.sameBelow [subject, bound] =
      subject ++ " behaves the same as " ++ bound ++ " when it is less than " ++ bound := by
  have hpieces : pieces 2 (english.sentence Phrase.sameBelow) =
      .argument ⟨0, .keyword⟩ :: (literal " behaves the same as " ++ .argument ⟨1, .keyword⟩ ::
        (literal " when it is less than " ++ [.argument ⟨1, .keyword⟩])) := by
    cbv
  exact expand_eq (c := 'T') hpieces
    (by simp [flatMap_piece_literal, piece, argument, english_keyword]) (by simp [hsubject])
    (by decide)

theorem english_either (text : String) :
    english.expand Phrase.either [text] = "Either " ++ text := by
  have hpieces : pieces 1 (english.sentence Phrase.either) =
      literal "either " ++ [.argument ⟨0, .verbatim⟩] := by
    cbv
  exact expand_eq_upper "either " hpieces (by simp [flatMap_piece_literal, piece, argument])
    fun _ => rfl

/-- The bracket before a quoted name has no case. -/
theorem bracket_caseless :
    Text.isLowercase '「' = false ∧ Text.lowerChar '「' = ['「'] := by
  decide +kernel

theorem japanese_disallowed :
    japanese.expand Phrase.disallowed [name] = "「" ++ name ++ "」属性は許可されていません" := by
  have hpieces : pieces 1 (japanese.sentence Phrase.disallowed) =
      literal "「" ++ .argument ⟨0, .verbatim⟩ :: literal "」属性は許可されていません" := by
    cbv
  exact expand_eq (c := '「') hpieces (by simp [flatMap_piece_literal, piece, argument]) (by simp)
    bracket_caseless.1

theorem japanese_theAttribute :
    japanese.expand Phrase.theAttribute [name] = "「" ++ name ++ "」属性" := by
  have hpieces : pieces 1 (japanese.sentence Phrase.theAttribute) =
      literal "「" ++ .argument ⟨0, .verbatim⟩ :: literal "」属性" := by
    cbv
  exact expand_eq (c := '「') hpieces (by simp [flatMap_piece_literal, piece, argument]) (by simp)
    bracket_caseless.1

/-- No keyword starts with a bracket, in lower case or not. -/
theorem japanese_keyword {word : String} (hword : word.toList.head? = some '「') :
    japanese.keyword word = word := by
  obtain ⟨cs, hcs⟩ := List.head?_eq_some_iff.mp hword
  have hlower : (Text.lowercase word).toList.head? = some '「' := by
    have hsigma : '「' ≠ 'Σ' := by decide
    rw [Text.lowercase, String.toList_ofList, hcs, Text.lowerAfter, if_neg hsigma,
      bracket_caseless.2]
    rfl
  have habsent : ∀ text : String, text.toList.head? = some '「' →
      japanese.keywords.lookup text = none := by
    intro text htext
    refine List.lookup_eq_none_iff.mpr fun entry hentry => bne_iff_ne.mpr ?_
    rintro rfl
    have hkeys : ∀ entry ∈ japanese.keywords, entry.1.toList.head? ≠ some '「' := by
      simp [japanese]
    exact hkeys entry hentry htext
  exact keyword_eq_self (habsent word hword) (habsent _ hlower)

section

variable {subject : String}

/-- What is expected is a keyword here, which the locale may replace. -/
theorem japanese_shouldBe (hsubject : subject.toList.head? = some '「') (expected : String) :
    japanese.expand Phrase.shouldBe [subject, expected] =
      subject ++ "は" ++ decapitalize (japanese.keyword expected) ++ "にしてください" := by
  have hpieces : pieces 2 (japanese.sentence Phrase.shouldBe) =
      .argument ⟨0, .keyword⟩ :: (literal "は" ++ .argument ⟨1, .clause⟩ ::
        literal "にしてください") := by
    cbv
  exact expand_eq (c := '「') hpieces
    (by simp [flatMap_piece_literal, piece, argument, japanese_keyword hsubject])
    (by simp [hsubject]) bracket_caseless.1

theorem japanese_sameBelow (hsubject : subject.toList.head? = some '「') (bound : String) :
    japanese.expand Phrase.sameBelow [subject, bound] =
      subject ++ "は" ++ japanese.keyword bound ++ "未満の場合" ++ japanese.keyword bound ++
        "と同じ動作をします" := by
  have hpieces : pieces 2 (japanese.sentence Phrase.sameBelow) =
      .argument ⟨0, .keyword⟩ :: (literal "は" ++ .argument ⟨1, .keyword⟩ ::
        (literal "未満の場合" ++ .argument ⟨1, .keyword⟩ :: literal "と同じ動作をします")) := by
    cbv
  exact expand_eq (c := '「') hpieces
    (by simp [flatMap_piece_literal, piece, argument, japanese_keyword hsubject])
    (by simp [hsubject]) bracket_caseless.1

end

end

end Locale

end MarkupAudit
