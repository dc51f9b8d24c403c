import Mathlib
import MarkupAudit.Text.Case

namespace MarkupAudit.Text

namespace Case

/-- The last image of a run. -/
def Run.lastImage (r : Run) : Nat :=
  r.image + (r.last - r.first)

/-- Whether the images of `r` are clearly none of the code points that `s` covers: they lie apart,
or they alternate. -/
def Run.misses (r s : Run) : Bool :=
  Nat.blt r.lastImage s.first || Nat.blt s.last r.image ||
    s.stride.beq 2 && (r.stride.beq 2 || r.first.beq r.last) && ((r.image + s.first) % 2).beq 1

/-- A run sends each code point that it covers as far as its first. -/
theorem Run.image?_eq_some_iff {r : Run} {n m : Nat} :
    r.image? n = some m ↔ (r.first ≤ n ∧ n ≤ r.last ∧ (n - r.first) % r.stride = 0) ∧
      m = r.image + (n - r.first) := by
  simp [Run.image?, eq_comm]

/-- The images of a run lie between its first and its last image. -/
theorem Run.image?_bounds {r : Run} {n m : Nat} (himage : r.image? n = some m) :
    r.image ≤ m ∧ m ≤ r.lastImage := by
  obtain ⟨⟨hfirst, hlast, _⟩, rfl⟩ := Run.image?_eq_some_iff.mp himage
  unfold Run.lastImage
  omega

/-- What a run sends somewhere is not sent on by a run that it misses. -/
theorem Run.image?_eq_none_of_misses {r s : Run} {n m : Nat} (hmisses : r.misses s = true)
    (himage : r.image? n = some m) : s.image? m = none := by
  obtain ⟨hlo, hhi⟩ := Run.image?_bounds himage
  obtain ⟨⟨hfirst, hlast, hstride⟩, hm⟩ := Run.image?_eq_some_iff.mp himage
  refine Option.eq_none_iff_forall_ne_some.mpr fun k hk => ?_
  obtain ⟨⟨hsfirst, hslast, hsstride⟩, _⟩ := Run.image?_eq_some_iff.mp hk
  simp only [Run.misses, Bool.or_eq_true, Bool.and_eq_true, Nat.blt_eq, Nat.beq_eq]
    at hmisses
  rcases hmisses with (hbefore | hbehind) | ⟨⟨hsecond, halternate⟩, hodd⟩
  · omega
  · omega
  · rw [hsecond] at hsstride
    have heven : (n - r.first) % 2 = 0 := by
      rcases halternate with htwo | hone
      · rwa [htwo] at hstride
      · omega
    omega

/-- No image of a run is covered by a run. -/
theorem lowerRuns_misses {r s : Run} (hr : r ∈ Table.lowerRuns) (hs : s ∈ Table.lowerRuns) :
    r.misses s = true := by
  have hall : (Table.lowerRuns.all fun r => Table.lowerRuns.all r.misses) = true := by
    decide +kernel
  exact List.all_eq_true.mp (List.all_eq_true.mp hall r hr) s hs

/-- The images of a run are characters behind the ASCII capitals, and none of them is special. -/
theorem lowerRuns_bounds {r : Run} (hr : r ∈ Table.lowerRuns) :
    'Z'.toNat < r.image ∧ (r.lastImage < 0xD800 ∨ 0xDFFF < r.image ∧ r.lastImage < 0x110000) ∧
      ∀ e ∈ Table.lowerSpecials, r.lastImage < e.1 ∨ e.1 < r.image := by
  have hall : ∀ r ∈ Table.lowerRuns, 'Z'.toNat < r.image ∧
      (r.lastImage < 0xD800 ∨ 0xDFFF < r.image ∧ r.lastImage < 0x110000) ∧
      ∀ e ∈ Table.lowerSpecials, r.lastImage < e.1 ∨ e.1 < r.image := by
    decide +kernel
  exact hall r hr

end Case

/-- A character is its own lower-case image. -/
def IsLowered (c : Char) : Prop :=
  lowerChar c = [c]

instance (c : Char) : Decidable (IsLowered c) :=
  inferInstanceAs (Decidable (_ = _))

theorem toNat_le_of_isUpper {c : Char} (hupper : c.isUpper = true) : c.toNat ≤ 'Z'.toNat :=
  UInt32.le_iff_toNat_le.mp (of_decide_eq_true hupper).2

theorem toNat_toLower_lt {c : Char} (hc : c.toNat < 128) : c.toLower.toNat < 128 := by
  by_cases hupper : c.isUpper = true
  · have hle := toNat_le_of_isUpper hupper
    have hZ : 'Z'.toNat = 90 := rfl
    rw [Char.toLower_eq_of_isUpper hupper, Char.toNat_ofNat]
    split <;> omega
  · rwa [Char.toLower_eq_of_not_isUpper hupper]

/-- A small ASCII letter is its own image. -/
theorem isLowered_toLower {c : Char} (hc : c.toNat < 128) : IsLowered c.toLower := by
  rw [IsLowered, lowerChar, if_pos (toNat_toLower_lt hc), Char.toLower_toLower_eq_toLower]

/-- What a run of the table sends a character to is in lower case. -/
theorem isLowered_of_run {r : Case.Run} {n m : Nat} (hr : r ∈ Case.Table.lowerRuns)
    (himage : r.image? n = some m) : IsLowered (Char.ofNat m) := by
  obtain ⟨hlo, hhi⟩ := Case.Run.image?_bounds himage
  obtain ⟨hcapital, hcharacters, hspecial⟩ := Case.lowerRuns_bounds hr
  have hm : (Char.ofNat m).toNat = m := by
    rw [Char.toNat_ofNat, if_pos]
    unfold Nat.isValidChar
    omega
  unfold IsLowered lowerChar
  split
  · rw [Char.toLower_eq_of_not_isUpper]
    intro hupper
    have hle := toNat_le_of_isUpper hupper
    omega
  · have hlookup : Case.Table.lowerSpecials.lookup m = none := by
      refine List.lookup_eq_none_iff.mpr fun e he => bne_iff_ne.mpr ?_
      have hapart := hspecial e he
      omega
    have hcovered : Case.Table.lowerRuns.findSome? (·.image? m) = none := by
      refine List.findSome?_eq_none_iff.mpr fun s hs => ?_
      exact Case.Run.image?_eq_none_of_misses (Case.lowerRuns_misses hr hs) himage
    rw [Case.image, hm, hlookup, hcovered]

/-- So is every character of a special image. -/
theorem isLowered_of_special {e : Nat × Nat × List Nat} (he : e ∈ Case.Table.lowerSpecials)
    {n : Nat} (hn : n ∈ e.2.1 :: e.2.2) : IsLowered (Char.ofNat n) := by
  have hall : ∀ e ∈ Case.Table.lowerSpecials, ∀ n ∈ e.2.1 :: e.2.2, IsLowered (Char.ofNat n) := by
    decide +kernel
  exact hall e he n hn

/-- The lower-case images of a character are in lower case. -/
theorem isLowered_of_mem_lowerChar {c d : Char} (hd : d ∈ lowerChar c) : IsLowered d := by
  by_cases hascii : c.toNat < 128
  · rw [lowerChar, if_pos hascii, List.mem_singleton] at hd
    exact hd ▸ isLowered_toLower hascii
  · have hlower : lowerChar c = Case.image Case.Table.lowerSpecials Case.Table.lowerRuns c :=
      if_neg hascii
    rw [hlower, Case.image] at hd
    cases hspecial : Case.Table.lowerSpecials.lookup c.toNat with
    | some special =>
      obtain ⟨before, after, htable, _⟩ := List.lookup_eq_some_iff.mp hspecial
      have hmem : (c.toNat, special) ∈ Case.Table.lowerSpecials := by simp [htable]
      rw [hspecial] at hd
      obtain ⟨n, hn, rfl⟩ : ∃ n ∈ special.1 :: special.2, Char.ofNat n = d := by
        simpa [eq_comm] using hd
      exact isLowered_of_special hmem hn
    | none =>
      rw [hspecial] at hd
      cases hrun : Case.Table.lowerRuns.findSome? (·.image? c.toNat) with
      | some m =>
        obtain ⟨r, hr, himage⟩ := List.exists_of_findSome?_eq_some hrun
        rw [hrun, List.mem_singleton] at hd
        exact hd ▸ isLowered_of_run hr himage
      | none =>
        rw [hrun, List.mem_singleton] at hd
        rw [hd, IsLowered, hlower, Case.image, hspecial, hrun]

/-- The two forms of a small sigma are in lower case, the capital is not. -/
theorem isLowered_sigma (final : Bool) : IsLowered (if final then 'ς' else 'σ') := by
  cases final <;> decide +kernel

theorem ne_sigma_of_isLowered {c : Char} (hc : IsLowered c) : c ≠ 'Σ' := by
  rintro rfl
  have hsigma : lowerChar 'Σ' = ['σ'] := by decide +kernel
  rw [IsLowered, hsigma] at hc
  exact absurd hc (by decide)

/-- Nothing but lower case comes out of lower-casing. -/
theorem isLowered_of_mem_lowerAfter {before cs : List Char} {d : Char}
    (hd : d ∈ lowerAfter before cs) : IsLowered d := by
  induction cs generalizing before with
  | nil => cases hd
  | cons c rest ih =>
    rw [lowerAfter, List.mem_append] at hd
    rcases hd with hd | hd
    · split at hd
      · rw [List.mem_singleton] at hd
        exact hd ▸ isLowered_sigma _
      · exact isLowered_of_mem_lowerChar hd
    · exact ih hd

/-- A text in lower case is left as it is. -/
theorem lowerAfter_eq_self {before cs : List Char} (hcs : ∀ c ∈ cs, IsLowered c) :
    lowerAfter before cs = cs := by
  induction cs generalizing before with
  | nil => rfl
  | cons c rest ih =>
    rw [List.forall_mem_cons] at hcs
    rw [lowerAfter, if_neg (ne_sigma_of_isLowered hcs.1), hcs.1, ih hcs.2]
    rfl

/-- Lower-casing a text twice is lower-casing it once: the images that the table has are not
themselves in the table, and no capital sigma is left that its neighbours could decide about. -/
@[simp]
theorem lowercase_lowercase (s : String) : lowercase (lowercase s) = lowercase s := by
  have hfixed : lowerAfter [] (lowerAfter [] s.toList) = lowerAfter [] s.toList :=
    lowerAfter_eq_self fun _ hc => isLowered_of_mem_lowerAfter hc
  simp only [lowercase, String.toList_ofList, hfixed]

theorem toNat_lt_of_isAlpha {c : Char} (halpha : c.isAlpha = true) : c.toNat < 128 := by
  rcases Bool.or_eq_true_iff.mp halpha with hupper | hlower
  · have hle := toNat_le_of_isUpper hupper
    have hZ : 'Z'.toNat = 90 := rfl
    omega
  · have hle : c.toNat ≤ 'z'.toNat :=
      UInt32.le_iff_toNat_le.mp (of_decide_eq_true (Bool.and_eq_true_iff.mp hlower).2)
    have hz : 'z'.toNat = 122 := rfl
    omega

/-- An ASCII letter is cased in both forms. -/
theorem isCased_of_isAlpha {c : Char} (halpha : c.isAlpha = true) : isCased c = true := by
  rw [isCased, if_pos (toNat_lt_of_isAlpha halpha), halpha]

/-- An ASCII letter is case-ignorable in neither form. -/
theorem isCaseIgnorable_of_isAlpha {c : Char} (halpha : c.isAlpha = true) :
    isCaseIgnorable c = false := by
  rw [isCaseIgnorable, if_pos (toNat_lt_of_isAlpha halpha), Bool.eq_false_iff]
  intro hmark
  simp only [Bool.or_eq_true, beq_iff_eq] at hmark
  rcases hmark with (((rfl | rfl) | rfl) | rfl) | rfl
  all_goals exact absurd halpha (by decide)

theorem ne_sigma_of_isAlpha {c : Char} (halpha : c.isAlpha = true) : c ≠ 'Σ' := by
  rintro rfl
  exact absurd (toNat_lt_of_isAlpha halpha) (by decide)

/-- A function that tells no ASCII capital from its small letter tells no characters apart that
differ only in ASCII case. -/
theorem apply_toLower {β : Type} {f : Char → β}
    (hcapital : ∀ c, c.isAlpha = true → c.toLower.isAlpha = true → f c.toLower = f c) (c : Char) :
    f c.toLower = f c := by
  by_cases hupper : c.isUpper = true
  · have halpha : c.isAlpha = true := by rw [Char.isAlpha, hupper, Bool.true_or]
    exact hcapital c halpha (by rwa [Char.isAlpha_toLower_eq_isAlpha])
  · rw [Char.toLower_eq_of_not_isUpper hupper]

/-- The two forms of an ASCII letter have one lower-case image. -/
@[simp]
theorem lowerChar_toLower (c : Char) : lowerChar c.toLower = lowerChar c := by
  refine apply_toLower (fun c halpha hlower => ?_) c
  rw [lowerChar, if_pos (toNat_lt_of_isAlpha hlower), lowerChar,
    if_pos (toNat_lt_of_isAlpha halpha), Char.toLower_toLower_eq_toLower]

@[simp]
theorem isCased_toLower (c : Char) : isCased c.toLower = isCased c :=
  apply_toLower (fun _ halpha hlower => by
    rw [isCased_of_isAlpha halpha, isCased_of_isAlpha hlower]) c

@[simp]
theorem isCaseIgnorable_toLower (c : Char) : isCaseIgnorable c.toLower = isCaseIgnorable c :=
  apply_toLower (fun _ halpha hlower => by
    rw [isCaseIgnorable_of_isAlpha halpha, isCaseIgnorable_of_isAlpha hlower]) c

@[simp]
theorem toLower_eq_sigma_iff (c : Char) : c.toLower = 'Σ' ↔ c = 'Σ' := by
  refine iff_of_eq (apply_toLower (f := (· = 'Σ')) (fun c halpha hlower => ?_) c)
  exact propext (iff_of_false (ne_sigma_of_isAlpha hlower) (ne_sigma_of_isAlpha halpha))

/-- Case-ignorable characters are skipped in the search for a cased one. -/
theorem startsCased_cons (c : Char) (cs : List Char) :
    startsCased (c :: cs) = if isCaseIgnorable c = true then startsCased cs else isCased c := by
  by_cases hignorable : isCaseIgnorable c = true
  · rw [startsCased, List.dropWhile_cons_of_pos hignorable, if_pos hignorable, startsCased]
  · rw [startsCased, List.dropWhile_cons_of_neg hignorable, if_neg hignorable]

/-- What decides about a capital sigma does not depend on the case of ASCII letters. -/
@[simp]
theorem startsCased_map_toLower (cs : List Char) :
    startsCased (cs.map Char.toLower) = startsCased cs := by
  induction cs with
  | nil => rfl
  | cons c rest ih =>
    rw [List.map_cons, startsCased_cons, startsCased_cons, ih, isCaseIgnorable_toLower,
      isCased_toLower]

/-- Lower-casing does not see the case of ASCII letters, neither in what it lower-cases nor in what
stands before it. -/
theorem lowerAfter_map_toLower (before cs : List Char) :
    lowerAfter (before.map Char.toLower) (cs.map Char.toLower) = lowerAfter before cs := by
  induction cs generalizing before with
  | nil => rfl
  | cons c rest ih =>
    have hrest := ih (c :: before)
    rw [List.map_cons] at hrest
    rw [List.map_cons, lowerAfter, lowerAfter, hrest]
    simp only [toLower_eq_sigma_iff, startsCased_map_toLower, lowerChar_toLower]

/-- A name whose case is folded stays as it is. -/
theorem foldCase_foldCase (s : String) : foldCase (foldCase s) = foldCase s := by
  refine String.toList_injective ?_
  simp only [toList_foldCase, List.map_map, Function.comp_def, Char.toLower_toLower_eq_toLower]

/-- Folding the case of ASCII letters first makes no difference. -/
@[simp]
theorem lowercase_foldCase (s : String) : lowercase (foldCase s) = lowercase s := by
  rw [lowercase, toList_foldCase]
  exact congrArg String.ofList (lowerAfter_map_toLower [] s.toList)

/-- Texts that differ only in the case of ASCII letters are lower-cased alike. -/
theorem lowercase_eq_of_sameName {s t : String} (hsame : sameName s t = true) :
    lowercase s = lowercase t := by
  have hfold : foldCase s = foldCase t := beq_iff_eq.mp hsame
  rw [← lowercase_foldCase s, hfold, lowercase_foldCase]

end MarkupAudit.Text
