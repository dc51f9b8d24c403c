import Mathlib.Data.List.Induction
import Mathlib.Data.Nat.Digits.Defs
import MarkupAudit.Message.Basic
import MarkupAudit.Proofs.Text.Split

namespace MarkupAudit

namespace Text

/-- The text with its first character upper-cased, if that is a lower-case one. -/
def upperFirst : List Char → List Char
  | [] => []
  | c :: cs => if isLowercase c then upperChar c ++ cs else c :: cs

/-- The text with its first character lower-cased, if that is an upper-case one and the next is no
upper-case one. -/
def lowerFirst : List Char → List Char
  | [] => []
  | c :: cs => if isUppercase c && !cs.head?.any isUppercase then lowerChar c ++ cs else c :: cs

end Text

namespace Message

/-- Capitalising a text upper-cases its first character. -/
theorem toList_capitalize (s : String) : (capitalize s).toList = Text.upperFirst s.toList := by
  unfold capitalize
  cases hs : s.toList with
  | nil => rw [hs]; rfl
  | cons c cs =>
    by_cases hc : Text.isLowercase c = true
    · simp [Text.upperFirst, hc]
    · simp [Text.upperFirst, hc, hs]

/-- Going on inside a sentence lower-cases the first character. -/
theorem toList_decapitalize (s : String) : (decapitalize s).toList = Text.lowerFirst s.toList := by
  unfold decapitalize
  split
  next hs => rw [hs]; rfl
  next c hs =>
    by_cases hc : Text.isUppercase c = true
    · simp [hs, Text.lowerFirst, hc]
    · simp [hs, Text.lowerFirst, hc]
  next c d cs hs =>
    by_cases hfirst : (Text.isUppercase c && !Text.isUppercase d) = true
    · simp [hs, Text.lowerFirst, hfirst]
    · simp [hs, Text.lowerFirst, hfirst]

/-- The number that decimal digits write. -/
def decimal (digits : List Char) : Nat :=
  Nat.ofDigits 10 (digits.reverse.map fun c => c.toNat - '0'.toNat)

/-- What stands between the digits of a placeholder and its closing brace. -/
def Style.mark : Style → List Char
  | .keyword => []
  | .verbatim => ['*']
  | .clause => [':', 'c']

/-- A stretch of a template: a character, or a placeholder as it is written. -/
inductive Segment where
  | char (c : Char)
  | placeholder (digits : List Char) (style : Style)

namespace Segment

/-- The stretch as it stands in the template. -/
def source : Segment → List Char
  | .char c => [c]
  | .placeholder digits style => '\x7b' :: (digits ++ style.mark ++ ['\x7d'])

/-- The stretch as the scanner keeps it. -/
def piece : Segment → Piece
  | .char c => .char c
  | .placeholder digits style => .argument ⟨decimal digits, style⟩

/-- No segment is empty. -/
theorem source_ne_nil (s : Segment) : s.source ≠ [] := by
  cases s with
  | char c => simp [source]
  | placeholder digits style => simp [source]

end Segment

/-- Whether digits write the number of one of `count` arguments. -/
structure IsIndex (count : Nat) (digits : List Char) : Prop where
  ne_nil : digits ≠ []
  isDigit : ∀ c ∈ digits, c.isDigit = true
  lt_count : decimal digits < count

/-- A template starts with a placeholder for one of `count` arguments. -/
def StartsWithPlaceholder (count : Nat) (template : List Char) : Prop :=
  ∃ digits style after, IsIndex count digits ∧
    template = (Segment.placeholder digits style).source ++ after

/-- Segments that make up a template in such a way that its placeholders for `count` arguments are
segments, each where it stands, and everything else is left to single characters. -/
structure Dissects (count : Nat) (template : List Char) (segments : List Segment) : Prop where
  source_eq : segments.flatMap Segment.source = template
  isIndex : ∀ digits style, .placeholder digits style ∈ segments → IsIndex count digits
  complete : ∀ before digits style after, IsIndex count digits →
    template = before ++ (Segment.placeholder digits style).source ++ after →
    ∃ left right, segments = left ++ .placeholder digits style :: right ∧
      left.flatMap Segment.source = before ∧ right.flatMap Segment.source = after

section

variable {count : Nat} {digits cs : List Char} {style : Style}

theorem hexDigit?_of_isDigit {c : Char} (hc : c.isDigit = true) :
    Text.hexDigit? c = some (c.toNat - '0'.toNat) := by
  have hrange : '0' ≤ c ∧ c ≤ '9' := by simpa [Char.isDigit, Char.le_def] using hc
  rw [Text.hexDigit?, if_pos hrange]

/-- Decimal digits are read as the number that they write. -/
theorem numeral_eq_decimal (hdigits : ∀ c ∈ digits, c.isDigit = true) :
    Text.numeral 10 digits = decimal digits := by
  induction digits using List.reverseRecOn with
  | nil => rfl
  | append_singleton digits c ih =>
    have hc := hexDigit?_of_isDigit (hdigits c (by simp))
    have hstart : Text.numeral 10 digits = decimal digits :=
      ih fun d hd => hdigits d (List.mem_append_left _ hd)
    have hnumeral : Text.numeral 10 (digits ++ [c]) =
        Text.numeral 10 digits * 10 + (c.toNat - '0'.toNat) := by
      simp [Text.numeral, hc]
    have hdecimal : decimal (digits ++ [c]) = c.toNat - '0'.toNat + 10 * decimal digits := by
      simp [decimal, Nat.ofDigits_cons]
    rw [hnumeral, hdecimal, hstart]
    omega

theorem ne_of_isDigit {c d : Char} (hc : c.isDigit = true) (hd : d.isDigit = false) : c ≠ d := by
  rintro rfl
  rw [hc] at hd
  cases hd

/-- No brace stands inside a placeholder. -/
theorem not_brace_of_mem (hdigits : ∀ c ∈ digits, c.isDigit = true) {c : Char}
    (hc : c ∈ digits ++ style.mark) : c ≠ '\x7b' ∧ c ≠ '\x7d' := by
  rcases List.mem_append.mp hc with hc | hc
  · exact ⟨ne_of_isDigit (hdigits c hc) (by decide), ne_of_isDigit (hdigits c hc) (by decide)⟩
  · cases style with
    | keyword => cases hc
    | verbatim =>
      obtain rfl : c = '*' := by simpa [Style.mark] using hc
      decide
    | clause =>
      obtain rfl | rfl : c = ':' ∨ c = 'c' := by simpa [Style.mark] using hc
      · decide
      · decide

/-- The nearest closing brace behind the opening one of a placeholder is its own. -/
theorem cut_inner (hdigits : ∀ c ∈ digits, c.isDigit = true) (style : Style) (after : List Char) :
    Text.cut (· == '\x7d') (digits ++ style.mark ++ '\x7d' :: after) =
      (digits ++ style.mark, some after) := by
  have hinner : ∀ c ∈ digits ++ style.mark, (c == '\x7d') = false := by
    intro c hc
    exact beq_eq_false_iff_ne.mpr (not_brace_of_mem hdigits hc).2
  exact Text.cut_append hinner (beq_self_eq_true '\x7d') after

/-- The digits and the mark of a placeholder are found again. -/
theorem parts_append_mark (hdigits : ∀ c ∈ digits, c.isDigit = true) (style : Style) :
    Placeholder.parts (digits ++ style.mark) = (digits, style) := by
  cases style with
  | verbatim => simp [Placeholder.parts, Style.mark]
  | clause => simp [Placeholder.parts, Style.mark]
  | keyword =>
    -- The last character is a digit, so it is taken for no mark.
    rw [Style.mark, List.append_nil, Placeholder.parts]
    split
    next rest hrest =>
      have hstar : '*' ∈ digits := List.mem_reverse.mp (hrest ▸ List.mem_cons_self)
      exact absurd (hdigits _ hstar) (by decide)
    next rest hrest =>
      have hc : 'c' ∈ digits := List.mem_reverse.mp (hrest ▸ List.mem_cons_self)
      exact absurd (hdigits _ hc) (by decide)
    next => rfl

/-- Taking the text between two braces apart loses nothing of it. -/
theorem append_mark_parts (inner : List Char) :
    (Placeholder.parts inner).1 ++ (Placeholder.parts inner).2.mark = inner := by
  unfold Placeholder.parts
  split
  next rest hrest => simpa [Style.mark] using (congrArg List.reverse hrest).symm
  next rest hrest => simpa [Style.mark] using (congrArg List.reverse hrest).symm
  next => simp [Style.mark]

/-- Digits and a mark between two braces are read as a placeholder. -/
theorem ofInner?_append_mark (hne : digits ≠ []) (hdigits : ∀ c ∈ digits, c.isDigit = true) :
    Placeholder.ofInner? (digits ++ style.mark) = some ⟨decimal digits, style⟩ := by
  have hall : (!digits.isEmpty && digits.all Char.isDigit) = true := by
    simpa [List.all_eq_true] using ⟨hne, hdigits⟩
  simp only [Placeholder.ofInner?, parts_append_mark hdigits style, hall, if_true,
    numeral_eq_decimal hdigits]

/-- What is read as a placeholder are digits and a mark. -/
theorem exists_of_ofInner?_eq_some {inner : List Char} {p : Placeholder}
    (hinner : Placeholder.ofInner? inner = some p) :
    ∃ digits, digits ≠ [] ∧ (∀ c ∈ digits, c.isDigit = true) ∧ inner = digits ++ p.style.mark ∧
      p.index = decimal digits := by
  have hparts := append_mark_parts inner
  rw [Placeholder.ofInner?] at hinner
  generalize Placeholder.parts inner = parts at hinner hparts
  obtain ⟨digits, style⟩ := parts
  dsimp only at hinner hparts
  split at hinner
  next hall =>
    obtain ⟨hne, hdigits⟩ : digits ≠ [] ∧ ∀ c ∈ digits, c.isDigit = true := by
      simpa [List.all_eq_true] using hall
    obtain rfl := Option.some.inj hinner
    exact ⟨digits, hne, hdigits, hparts.symm, numeral_eq_decimal hdigits⟩
  next => cases hinner

/-- The scanner finds a placeholder behind its opening brace, and how far it goes. -/
theorem behindBrace?_of_isIndex (hindex : IsIndex count digits) (style : Style)
    (after : List Char) :
    Placeholder.behindBrace? count (digits ++ style.mark ++ '\x7d' :: after) =
      some (⟨decimal digits, style⟩, (digits ++ style.mark).length + 1) := by
  simp only [Placeholder.behindBrace?, cut_inner hindex.isDigit,
    ofInner?_append_mark hindex.ne_nil hindex.isDigit, hindex.lt_count, if_true]

/-- What the scanner takes for a placeholder is one. -/
theorem exists_of_behindBrace?_eq_some {p : Placeholder} {length : Nat}
    (hbehind : Placeholder.behindBrace? count cs = some (p, length)) :
    ∃ digits after, IsIndex count digits ∧ p.index = decimal digits ∧
      cs = digits ++ p.style.mark ++ '\x7d' :: after ∧
      length = (digits ++ p.style.mark).length + 1 := by
  cases cs using Text.separator_induction (p := (· == '\x7d')) with
  | last piece hpiece =>
    simp [Placeholder.behindBrace?, Text.cut_of_forall hpiece] at hbehind
  | more inner a after hinner ha _ =>
    obtain rfl : a = '\x7d' := beq_iff_eq.mp ha
    simp only [Placeholder.behindBrace?, Text.cut_append hinner ha] at hbehind
    split at hbehind
    next q hq =>
      obtain ⟨digits, hne, hdigits, rfl, hdecimal⟩ := exists_of_ofInner?_eq_some hq
      split at hbehind
      next hlt =>
        obtain ⟨rfl, rfl⟩ := Prod.mk.inj (Option.some.inj hbehind)
        exact ⟨digits, after, ⟨hne, hdigits, hdecimal ▸ hlt⟩, hdecimal, rfl, rfl⟩
      next => cases hbehind
    next => cases hbehind

/-- Where a placeholder ends and what is in it can be told from the text. -/
theorem placeholder_inj {others rest after : List Char} {otherStyle : Style}
    (hdigits : ∀ c ∈ digits, c.isDigit = true) (hothers : ∀ c ∈ others, c.isDigit = true)
    (hsame : digits ++ style.mark ++ '\x7d' :: rest =
      others ++ otherStyle.mark ++ '\x7d' :: after) :
    digits = others ∧ style = otherStyle ∧ rest = after := by
  have hcut := cut_inner hdigits style rest
  rw [hsame, cut_inner hothers otherStyle after, Prod.mk.injEq, Option.some.injEq] at hcut
  obtain ⟨hinner, rfl⟩ := hcut
  have hparts := parts_append_mark hdigits style
  rw [← hinner, parts_append_mark hothers, Prod.mk.injEq] at hparts
  exact ⟨hparts.1.symm, hparts.2.symm, rfl⟩

/-- What does not occur in the first of two lists occurs behind it. -/
theorem exists_between_of_not_mem {α : Type} {xs rest before after : List α} {a : α}
    (ha : a ∉ xs) (heq : xs ++ rest = before ++ a :: after) :
    ∃ between, before = xs ++ between ∧ rest = between ++ a :: after := by
  rcases List.append_eq_append_iff.mp heq with ⟨between, hbefore, hrest⟩ | ⟨excess, hxs, hexcess⟩
  · exact ⟨between, hbefore, hrest⟩
  · cases excess with
    | nil => exact ⟨[], by simp [hxs], by simpa using hexcess.symm⟩
    | cons b excess =>
      obtain rfl : a = b := by simpa using (List.cons.inj hexcess).1
      exact absurd (by simp [hxs]) ha

/-- Characters that have been read as part of a placeholder are passed over. -/
theorem piecesFrom_append (count : Nat) (read rest : List Char) :
    piecesFrom count read.length (read ++ rest) = piecesFrom count 0 rest := by
  induction read with
  | nil => rfl
  | cons c read ih => exact ih

/-- The scanner takes a placeholder in one step. -/
theorem piecesFrom_placeholder (hindex : IsIndex count digits) (style : Style)
    (after : List Char) :
    piecesFrom count 0 ((Segment.placeholder digits style).source ++ after) =
      .argument ⟨decimal digits, style⟩ :: piecesFrom count 0 after := by
  have hsource : (Segment.placeholder digits style).source ++ after =
      '\x7b' :: (digits ++ style.mark ++ '\x7d' :: after) := by
    simp [Segment.source]
  have hskip : piecesFrom count ((digits ++ style.mark).length + 1)
      (digits ++ style.mark ++ '\x7d' :: after) = piecesFrom count 0 after := by
    simpa [Nat.add_assoc] using piecesFrom_append count (digits ++ style.mark ++ ['\x7d']) after
  rw [hsource, piecesFrom, if_pos rfl, behindBrace?_of_isIndex hindex]
  dsimp only
  rw [hskip]

/-- Where no placeholder starts, the scanner copies a character. -/
theorem piecesFrom_char {c : Char} (hno : ¬StartsWithPlaceholder count (c :: cs)) :
    piecesFrom count 0 (c :: cs) = .char c :: piecesFrom count 0 cs := by
  by_cases hbrace : c = '\x7b'
  · subst hbrace
    rw [piecesFrom, if_pos rfl]
    cases hbehind : Placeholder.behindBrace? count cs with
    | none => rfl
    | some found =>
      obtain ⟨digits, after, hindex, _, rfl, _⟩ := exists_of_behindBrace?_eq_some hbehind
      exact absurd ⟨digits, found.1.style, after, hindex, by simp [Segment.source]⟩ hno
  · rw [piecesFrom, if_neg hbrace]

end

namespace Dissects

variable {count : Nat} {template : List Char} {segments : List Segment}

theorem nil (count : Nat) : Dissects count [] [] where
  source_eq := rfl
  isIndex := by simp
  complete := by
    intro before digits style after _ htemplate
    simp [Segment.source] at htemplate

/-- A character at which no placeholder starts is a segment. -/
theorem char (hrest : Dissects count template segments) {c : Char}
    (hno : ¬StartsWithPlaceholder count (c :: template)) :
    Dissects count (c :: template) (.char c :: segments) where
  source_eq := by simp [hrest.source_eq, Segment.source]
  isIndex := by
    intro digits style hmem
    exact hrest.isIndex digits style (by simpa using hmem)
  complete := by
    intro before digits style after hindex htemplate
    cases before with
    | nil => exact absurd ⟨digits, style, after, hindex, htemplate⟩ hno
    | cons d before =>
      simp only [List.cons_append, List.cons.injEq] at htemplate
      obtain ⟨rfl, htemplate⟩ := htemplate
      obtain ⟨left, right, rfl, hleft, hright⟩ :=
        hrest.complete before digits style after hindex htemplate
      exact ⟨.char c :: left, right, rfl, by simp [hleft, Segment.source], hright⟩

/-- A placeholder is a segment. Another one starts behind it or not at all, since its opening brace
is the only one it has. -/
theorem placeholder (hrest : Dissects count template segments) {digits : List Char}
    (hindex : IsIndex count digits) (style : Style) :
    Dissects count ((Segment.placeholder digits style).source ++ template)
      (.placeholder digits style :: segments) where
  source_eq := by simp [hrest.source_eq]
  isIndex := by
    intro others otherStyle hmem
    rcases List.mem_cons.mp hmem with heq | hmem
    · obtain ⟨rfl, rfl⟩ := Segment.placeholder.inj heq
      exact hindex
    · exact hrest.isIndex others otherStyle hmem
  complete := by
    intro before others otherStyle after hothers htemplate
    simp only [Segment.source, List.cons_append, List.append_assoc] at htemplate
    cases before with
    | nil =>
      obtain ⟨rfl, rfl, rfl⟩ := placeholder_inj hindex.isDigit hothers.isDigit
        (by simpa using htemplate)
      exact ⟨[], segments, rfl, rfl, hrest.source_eq⟩
    | cons c before =>
      simp only [List.cons_append, List.cons.injEq] at htemplate
      obtain ⟨rfl, htemplate⟩ := htemplate
      have hbrace : '\x7b' ∉ digits ++ style.mark ++ ['\x7d'] := by
        intro hmem
        rcases List.mem_append.mp hmem with hmem | hmem
        · exact (not_brace_of_mem hindex.isDigit hmem).1 rfl
        · simp at hmem
      obtain ⟨between, rfl, hbetween⟩ :=
        exists_between_of_not_mem hbrace (by simpa using htemplate)
      obtain ⟨left, right, rfl, hleft, hright⟩ := hrest.complete between others otherStyle after
        hothers (by simpa [Segment.source] using hbetween)
      exact ⟨.placeholder digits style :: left, right, rfl,
        by simp [hleft, Segment.source], hright⟩

/-- A placeholder with which a template starts is the first segment. -/
theorem head_of_source (hsegments : Dissects count template segments) {digits : List Char}
    (hindex : IsIndex count digits) {style : Style} {after : List Char}
    (htemplate : template = (Segment.placeholder digits style).source ++ after) :
    ∃ right, segments = .placeholder digits style :: right := by
  obtain ⟨left, right, hsplit, hleft, _⟩ :=
    hsegments.complete [] digits style after hindex htemplate
  cases left with
  | nil => exact ⟨right, hsplit⟩
  | cons s left =>
    rw [List.flatMap_cons, List.append_eq_nil_iff] at hleft
    exact absurd hleft.1 s.source_ne_nil

/-- Without its first segment the rest of a template is still taken apart. -/
theorem of_cons {s : Segment} (hsegments : Dissects count (s.source ++ template) (s :: segments)) :
    Dissects count template segments where
  source_eq := by simpa using hsegments.source_eq
  isIndex := by
    intro digits style hmem
    exact hsegments.isIndex digits style (List.mem_cons_of_mem s hmem)
  complete := by
    intro before digits style after hindex htemplate
    obtain ⟨left, right, hsplit, hleft, hright⟩ := hsegments.complete (s.source ++ before) digits
      style after hindex (by simp [htemplate])
    cases left with
    | nil =>
      rw [List.flatMap_nil] at hleft
      exact absurd (List.append_eq_nil_iff.mp hleft.symm).1 s.source_ne_nil
    | cons t left =>
      obtain ⟨rfl, rfl⟩ := List.cons.inj hsplit
      refine ⟨left, right, rfl, ?_, hright⟩
      simpa using hleft

theorem ne_nil_of_cons {s : Segment} (hsegments : Dissects count template (s :: segments)) :
    template ≠ [] := by
  intro hnil
  have hsource := hsegments.source_eq.trans hnil
  exact s.source_ne_nil (List.append_eq_nil_iff.mp hsource).1

/-- Two ways to take a template apart start with the same segment. -/
theorem head_eq {s t : Segment} {others : List Segment}
    (hsegments : Dissects count template (s :: segments))
    (hothers : Dissects count template (t :: others)) : s = t := by
  cases s with
  | placeholder digits style =>
    have hindex := hsegments.isIndex digits style List.mem_cons_self
    obtain ⟨right, hright⟩ := hothers.head_of_source hindex hsegments.source_eq.symm
    exact (List.cons.inj hright).1.symm
  | char c =>
    cases t with
    | placeholder digits style =>
      have hindex := hothers.isIndex digits style List.mem_cons_self
      obtain ⟨right, hright⟩ := hsegments.head_of_source hindex hothers.source_eq.symm
      exact (List.cons.inj hright).1
    | char d =>
      have hsource := hsegments.source_eq.trans hothers.source_eq.symm
      rw [List.flatMap_cons, List.flatMap_cons] at hsource
      rw [(List.cons.inj hsource).1]

/-- A template is taken apart in one way only. -/
theorem unique {others : List Segment} (hsegments : Dissects count template segments)
    (hothers : Dissects count template others) : segments = others := by
  induction segments generalizing template others with
  | nil =>
    cases others with
    | nil => rfl
    | cons t others => exact absurd hsegments.source_eq.symm hothers.ne_nil_of_cons
  | cons s segments ih =>
    cases others with
    | nil => exact absurd hothers.source_eq.symm hsegments.ne_nil_of_cons
    | cons t others =>
      obtain rfl := hsegments.head_eq hothers
      have hsource := hsegments.source_eq
      rw [List.flatMap_cons] at hsource
      subst hsource
      rw [ih hsegments.of_cons hothers.of_cons]

end Dissects

/-- The scanner takes a template apart. -/
theorem exists_dissects (count : Nat) (template : List Char) :
    ∃ segments, Dissects count template segments ∧
      piecesFrom count 0 template = segments.map Segment.piece := by
  induction hlength : template.length using Nat.strong_induction_on generalizing template with
  | _ n ih =>
    by_cases hstarts : StartsWithPlaceholder count template
    · obtain ⟨digits, style, after, hindex, rfl⟩ := hstarts
      have hshorter : after.length < n := by
        simp only [Segment.source, List.length_append, List.length_cons] at hlength
        omega
      obtain ⟨segments, hsegments, hpieces⟩ := ih after.length hshorter after rfl
      refine ⟨.placeholder digits style :: segments, hsegments.placeholder hindex style, ?_⟩
      rw [piecesFrom_placeholder hindex, hpieces]
      rfl
    · cases template with
      | nil => exact ⟨[], .nil count, rfl⟩
      | cons c rest =>
        obtain ⟨segments, hsegments, hpieces⟩ :=
          ih rest.length (by simp only [List.length_cons] at hlength; omega) rest rfl
        refine ⟨.char c :: segments, hsegments.char hstarts, ?_⟩
        rw [piecesFrom_char hstarts, hpieces]
        rfl

end Message

namespace Locale

open Message

/-- The entry of the keyword table for a word, as it is written or else in lower case, or the word
itself. -/
def keywordImage (l : Locale) (word : String) : String :=
  ((l.keywords.lookup word).or (l.keywords.lookup (Text.lowercase word))).getD word

/-- The search for a keyword tries the word as it is written, then in lower case. -/
theorem keyword_eq_keywordImage (l : Locale) (word : String) :
    l.keyword word = l.keywordImage word := by
  unfold keyword keywordImage
  cases l.keywords.lookup word with
  | none => rfl
  | some s => rfl

/-- What takes the place of a segment: a character stays, and a placeholder gives way to the
argument it names, in its style. -/
def replacement (l : Locale) (args : List String) : Segment → List Char
  | .char c => [c]
  | .placeholder digits .keyword => (l.keywordImage (args.getD (decimal digits) "")).toList
  | .placeholder digits .verbatim => (args.getD (decimal digits) "").toList
  | .placeholder digits .clause =>
    Text.lowerFirst (l.keywordImage (args.getD (decimal digits) "")).toList

/-- A locale puts in place of a segment what is to take its place. -/
theorem piece_piece (l : Locale) (args : List String) (s : Segment) :
    l.piece args s.piece = l.replacement args s := by
  cases s with
  | char c => rfl
  | placeholder digits style =>
    cases style with
    | keyword => simp [piece, Segment.piece, argument, replacement, keyword_eq_keywordImage]
    | verbatim => rfl
    | clause =>
      simp [piece, Segment.piece, argument, replacement, toList_decapitalize,
        keyword_eq_keywordImage]

/-- However a sentence is taken apart, expansion is the replacement of its segments. -/
theorem toList_expand (l : Locale) {template : String} {args : List String}
    {segments : List Segment}
    (hsegments : Dissects args.length (l.sentence template).toList segments) :
    (l.expand template args).toList = Text.upperFirst (segments.flatMap (l.replacement args)) := by
  obtain ⟨scanned, hscanned, hpieces⟩ := exists_dissects args.length (l.sentence template).toList
  obtain rfl := hsegments.unique hscanned
  have hreplaced : (pieces args.length (l.sentence template)).flatMap (l.piece args) =
      segments.flatMap (l.replacement args) := by
    rw [pieces, hpieces, List.flatMap_map]
    simp only [piece_piece]
  rw [expand, toList_capitalize, hreplaced, String.toList_ofList]

/-- Expansion replaces every placeholder of the sentence for a template, copies every other
character of it, and upper-cases the first character of what comes out. The sentence is taken apart
in one way only, and what takes the place of a placeholder is not looked at again. -/
theorem expand_replaces (l : Locale) (template : String) (args : List String) :
    ∃ segments, Dissects args.length ((l.sentences.lookup template).getD template).toList segments ∧
      (∀ others, Dissects args.length ((l.sentences.lookup template).getD template).toList others →
        others = segments) ∧
      (l.expand template args).toList =
        Text.upperFirst (segments.flatMap (l.replacement args)) := by
  obtain ⟨segments, hsegments, _⟩ := exists_dissects args.length (l.sentence template).toList
  exact ⟨segments, hsegments, fun others hothers => hothers.unique hsegments,
    l.toList_expand hsegments⟩

example : english.expand "\x7ba\x7b0\x7d \x7b\x7b1*\x7d\x7d \x7b0:c*\x7d" ["x\x7b1\x7d", "y"] =
    "\x7bax\x7b1\x7d \x7by\x7d \x7b0:c*\x7d" := by
  decide +kernel

end Locale

end MarkupAudit
