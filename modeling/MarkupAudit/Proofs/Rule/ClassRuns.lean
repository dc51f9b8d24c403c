import MarkupAudit.Proofs.Text.Split
import MarkupAudit.Rule.ClassNaming

namespace MarkupAudit

/-- A class in a list of classes, with what stands before it and after it. -/
@[ext]
structure ClassRun (text : List Char) where
  before : List Char
  name : List Char
  after : List Char
  text_eq : before ++ name ++ after = text
  name_ne_nil : name ≠ []
  not_blank : ∀ c ∈ name, Text.isBlank c = false
  blank_before : ∀ c ∈ before.getLast?, Text.isBlank c = true
  blank_after : ∀ c ∈ after.head?, Text.isBlank c = true

namespace ClassRun

variable {text : List Char}

/-- Where the class starts, counted in characters. -/
def start (run : ClassRun text) : Nat :=
  run.before.length

/-- Whether a class starts at a place: there is no blank there, but one before it, unless it is the
start of the list. -/
def startsAt (text : List Char) (i : Nat) : Bool :=
  (i == 0 || text[i - 1]?.any Text.isBlank) && text[i]?.any (!Text.isBlank ·)

/-- The class that starts at a place. -/
def startingAt (text : List Char) (i : Nat) (hstarts : startsAt text i = true) : ClassRun text where
  before := text.take i
  name := (text.drop i).takeWhile (!Text.isBlank ·)
  after := (text.drop i).dropWhile (!Text.isBlank ·)
  text_eq := by rw [List.append_assoc, List.takeWhile_append_dropWhile, List.take_append_drop]
  name_ne_nil := by
    obtain ⟨c, hget, hc⟩ := (Option.any_eq_true _ _).mp (Bool.and_eq_true_iff.mp hstarts).2
    rw [← List.head?_drop, List.head?_eq_some_iff] at hget
    obtain ⟨rest, hrest⟩ := hget
    simp [hrest, hc]
  not_blank := by
    intro c hc
    simpa using List.all_eq_true.mp List.all_takeWhile c hc
  blank_before := by
    intro c hc
    rw [Option.mem_def, List.getLast?_take] at hc
    split at hc
    next => cases hc
    next hpos =>
      have hbefore : text[i - 1]?.any Text.isBlank = true := by
        simpa [hpos] using (Bool.and_eq_true_iff.mp hstarts).1
      obtain ⟨d, hget, hd⟩ := (Option.any_eq_true _ _).mp hbefore
      rw [hget, Option.some_or, Option.some.injEq] at hc
      rwa [← hc]
  blank_after := by
    intro c hc
    have hhead := List.head?_dropWhile_not (!Text.isBlank ·) (text.drop i)
    rw [Option.mem_def.mp hc] at hhead
    simpa using hhead

/-- The class that starts at a place, if one does. -/
def at? (text : List Char) (i : Nat) : Option (ClassRun text) :=
  if hstarts : startsAt text i = true then some (startingAt text i hstarts) else none

/-- The classes of a list, from left to right. -/
def all (text : List Char) : List (ClassRun text) :=
  (List.range text.length).filterMap (at? text)

/-- A class goes on up to the next blank. -/
theorem takeWhile_name_append_after (run : ClassRun text) :
    (run.name ++ run.after).takeWhile (!Text.isBlank ·) = run.name := by
  rw [List.takeWhile_append_of_pos (by simpa using run.not_blank)]
  have hafter := run.blank_after
  cases h : run.after with
  | nil => simp
  | cons c rest =>
    rw [h] at hafter
    simp [hafter c rfl]

/-- A place is the start of one class at most. -/
theorem eq_of_start_eq {run other : ClassRun text} (hstart : run.start = other.start) :
    run = other := by
  have htext : run.before ++ (run.name ++ run.after) =
      other.before ++ (other.name ++ other.after) := by
    rw [← List.append_assoc, ← List.append_assoc, run.text_eq, other.text_eq]
  obtain ⟨hbefore, hrest⟩ := List.append_inj htext hstart
  have hname : run.name = other.name := by
    rw [← run.takeWhile_name_append_after, hrest, other.takeWhile_name_append_after]
  rw [hname] at hrest
  exact ClassRun.ext hbefore hname (List.append_cancel_left hrest)

theorem getElem?_text (run : ClassRun text) (i : Nat) :
    text[i]? = (run.before ++ run.name ++ run.after)[i]? := by
  rw [run.text_eq]

/-- Where a class starts there is no blank, and a blank or nothing before it. -/
theorem startsAt_start (run : ClassRun text) : startsAt text run.start = true := by
  have hhere : text[run.start]?.any (!Text.isBlank ·) = true := by
    obtain ⟨c, rest, hname⟩ := List.exists_cons_of_ne_nil run.name_ne_nil
    have hc : Text.isBlank c = false := run.not_blank c (by simp [hname])
    simp [run.getElem?_text, start, hname, hc]
  rw [startsAt, hhere, Bool.and_true]
  cases hlast : run.before.getLast? with
  | none =>
    have hbefore : run.before = [] := List.getLast?_eq_none_iff.mp hlast
    simp [start, hbefore]
  | some c =>
    have hc : Text.isBlank c = true := run.blank_before c hlast
    have hlength : 0 < run.before.length := by
      cases hbefore : run.before with
      | nil => simp [hbefore] at hlast
      | cons b rest => simp
    have hget : text[run.start - 1]? = some c := by
      rw [run.getElem?_text, List.append_assoc, start, List.getElem?_append_left (by omega),
        ← List.getLast?_eq_getElem?, hlast]
    simp [hget, hc]

/-- The class that is found at a place starts there. -/
theorem start_startingAt {i : Nat} (hstarts : startsAt text i = true) :
    (startingAt text i hstarts).start = i := by
  obtain ⟨c, hget, _⟩ := (Option.any_eq_true _ _).mp (Bool.and_eq_true_iff.mp hstarts).2
  have hi : i < text.length := (List.getElem?_eq_some_iff.mp hget).1
  simp only [start, startingAt, List.length_take]
  omega

/-- At each place at most one class starts. -/
theorem at?_eq_some_iff {i : Nat} {run : ClassRun text} :
    at? text i = some run ↔ run.start = i := by
  unfold at?
  constructor
  · intro hrun
    split at hrun
    next hstarts => rw [← Option.some.inj hrun, start_startingAt]
    next => cases hrun
  · rintro rfl
    rw [dif_pos run.startsAt_start]
    exact congrArg some (eq_of_start_eq (start_startingAt run.startsAt_start))

/-- No class is missing. -/
theorem mem_all (run : ClassRun text) : run ∈ all text := by
  have hlength : run.start < text.length := by
    have hname := List.length_pos_iff.mpr run.name_ne_nil
    have htext := congrArg List.length run.text_eq
    simp only [List.length_append] at htext
    rw [start]
    omega
  exact List.mem_filterMap.mpr ⟨run.start, List.mem_range.mpr hlength, at?_eq_some_iff.mpr rfl⟩

/-- The classes come in the order of their places, so none comes twice. -/
theorem pairwise_all (text : List Char) :
    (all text).Pairwise fun run next => run.start < next.start := by
  rw [all, List.pairwise_filterMap]
  refine List.pairwise_lt_range.imp fun {i j} hij run hrun next hnext => ?_
  rw [at?_eq_some_iff.mp hrun, at?_eq_some_iff.mp hnext]
  exact hij

/-- No class starts with a blank. -/
theorem at?_eq_none_of_blank {i : Nat} {c : Char} (hget : text[i]? = some c)
    (hc : Text.isBlank c = true) : at? text i = none := by
  simp [at?, startsAt, hget, hc]

/-- No class starts right behind a character that is not blank. -/
theorem at?_succ_eq_none {i : Nat} {c : Char} (hget : text[i]? = some c)
    (hc : Text.isBlank c = false) : at? text (i + 1) = none := by
  simp [at?, startsAt, hget, hc]

/-- Of the places in a piece between blanks only the first one starts a class. -/
theorem filterMap_at?_piece {before piece : List Char} (after : List Char)
    (htext : before ++ piece ++ after = text)
    (hpiece : ∀ c ∈ piece, Text.isBlank c = false)
    (hbefore : ∀ c ∈ before.getLast?, Text.isBlank c = true)
    (hafter : ∀ c ∈ after.head?, Text.isBlank c = true) :
    ((List.range' before.length piece.length).filterMap (at? text)).map
        (fun run => (run.start, run.name)) =
      [(before.length, piece)].filter (!·.2.isEmpty) := by
  cases piece with
  | nil => rfl
  | cons c rest =>
    let run : ClassRun text := ⟨before, c :: rest, after, htext, by simp, hpiece, hbefore, hafter⟩
    have hfirst : at? text before.length = some run := at?_eq_some_iff.mpr rfl
    have hothers : (List.range' (before.length + 1) rest.length).filterMap (at? text) = [] := by
      rw [List.filterMap_eq_nil_iff]
      intro i hi
      obtain ⟨hlow, hhigh⟩ := List.mem_range'_1.mp hi
      obtain ⟨j, rfl⟩ := Nat.exists_eq_add_of_le hlow
      have hj : j < (c :: rest).length := by
        simp only [List.length_cons]
        omega
      have hget : text[before.length + j]? = some (c :: rest)[j] := by
        rw [← htext, List.append_assoc, List.getElem?_append_right (by omega),
          Nat.add_sub_cancel_left, List.getElem?_append_left hj, List.getElem?_eq_getElem hj]
      have hnone := at?_succ_eq_none hget (hpiece _ (List.getElem_mem hj))
      rwa [Nat.add_right_comm] at hnone
    rw [List.length_cons, List.range'_succ, List.filterMap_cons_some hfirst, hothers]
    rfl

/-- Pieces between blanks, with the places that counting along them gives, are the classes at their
places. -/
theorem filter_placed_splitOnP {cs : List Char} (before : List Char) (htext : before ++ cs = text)
    (hbefore : ∀ c ∈ before.getLast?, Text.isBlank c = true) :
    (ClassNaming.placed before.length (cs.splitOnP Text.isBlank)).filter (!·.2.isEmpty) =
      ((List.range' before.length cs.length).filterMap (at? text)).map
        fun run => (run.start, run.name) := by
  induction cs using Text.separator_induction (p := Text.isBlank) generalizing before with
  | last piece hpiece =>
    rw [List.splitOnP_eq_singleton hpiece,
      filterMap_at?_piece [] (by simpa using htext) hpiece hbefore (by simp)]
    rfl
  | more piece a rest hpiece ha ih =>
    have hnext := ih (before ++ piece ++ [a]) (by simpa using htext) (by simp [ha])
    simp only [List.length_append, List.length_singleton] at hnext
    have hfirst := filterMap_at?_piece (a :: rest) (by simpa using htext) hpiece hbefore
      (by simp [ha])
    have hget : text[before.length + piece.length]? = some a := by
      rw [← htext, List.getElem?_append_right (by omega), Nat.add_sub_cancel_left,
        List.getElem?_append_right (by omega), Nat.sub_self, List.getElem?_cons_zero]
    have hrange : List.range' before.length (piece ++ a :: rest).length =
        List.range' before.length piece.length ++ (before.length + piece.length) ::
          List.range' (before.length + piece.length + 1) rest.length := by
      rw [List.length_append, List.length_cons, ← List.range'_append_1, List.range'_succ]
    rw [List.splitOnP_append_cons_of_forall_mem hpiece a ha, ClassNaming.placed,
      ← List.singleton_append, List.filter_append, hnext, ← hfirst, hrange, List.filterMap_append,
      List.filterMap_cons_none (at?_eq_none_of_blank hget ha), List.map_append]

end ClassRun

/-- Cutting a list at its blanks finds its classes. -/
theorem ClassNaming.classNames_eq_map_all (value : String) :
    classNames value =
      (ClassRun.all value.toList).map fun run => (run.start, String.ofList run.name) := by
  have hplaced := ClassRun.filter_placed_splitOnP [] (List.nil_append value.toList) (by simp)
  rw [List.length_nil] at hplaced
  rw [classNames, hplaced, List.map_map, ClassRun.all, List.range_eq_range']
  rfl

end MarkupAudit
