import Mathlib.Data.List.Sort
import Mathlib.Order.Defs.LinearOrder
import MarkupAudit.Report.Violation

namespace MarkupAudit

section

variable {α : Type} {le : α → α → Bool}

/-- A list is cut in one way only into elements that meet a condition and elements that do not. -/
theorem eq_and_eq_of_append_eq {p : α → Bool} {xs ys xs' ys' : List α}
    (heq : xs ++ ys = xs' ++ ys') (hxs : ∀ x ∈ xs, p x = true) (hys : ∀ y ∈ ys, ¬ p y = true)
    (hxs' : ∀ x ∈ xs', p x = true) (hys' : ∀ y ∈ ys', ¬ p y = true) : xs = xs' ∧ ys = ys' := by
  have hfirst := congrArg (List.filter p) heq
  rw [List.filter_append, List.filter_append, List.filter_eq_self.mpr hxs,
    List.filter_eq_nil_iff.mpr hys, List.filter_eq_self.mpr hxs', List.filter_eq_nil_iff.mpr hys',
    List.append_nil, List.append_nil] at hfirst
  subst hfirst
  exact ⟨rfl, List.append_cancel_left heq⟩

/-- The place where sorting puts the first element of a list: behind the smaller ones and before all
others. -/
theorem exists_mergeSort_cons (htrans : ∀ a b c, le a b = true → le b c = true → le a c = true)
    (htotal : ∀ a b, (le a b || le b a) = true) (a : α) (xs : List α) :
    ∃ before after, (a :: xs).mergeSort le = before ++ a :: after ∧
      xs.mergeSort le = before ++ after ∧ (∀ b ∈ before, (!le a b) = true) ∧
      ∀ b ∈ after, ¬ (!le a b) = true := by
  obtain ⟨before, after, hsort, hrest, hbefore⟩ := List.mergeSort_cons htrans htotal a xs
  refine ⟨before, after, hsort, hrest, hbefore, fun b hb => ?_⟩
  have hsorted := List.pairwise_mergeSort htrans htotal (a :: xs)
  rw [hsort] at hsorted
  have hafter := (List.pairwise_cons.mp (List.pairwise_append.mp hsorted).2.1).1 b hb
  simp [hafter]

/-- What is left out before sorting may as well be left out of the sorted list. -/
theorem filter_mergeSort (htrans : ∀ a b c, le a b = true → le b c = true → le a c = true)
    (htotal : ∀ a b, (le a b || le b a) = true) (p : α → Bool) (xs : List α) :
    (xs.mergeSort le).filter p = (xs.filter p).mergeSort le := by
  induction xs with
  | nil => simp
  | cons a xs ih =>
    obtain ⟨before, after, hsort, hrest, hbefore, hafter⟩ :=
      exists_mergeSort_cons htrans htotal a xs
    rw [hrest, List.filter_append] at ih
    rw [hsort, List.filter_append]
    by_cases ha : p a = true
    -- Both lists are cut where `a` belongs, and there is only one such cut.
    · obtain ⟨first, last, hsort', hrest', hfirst, hlast⟩ :=
        exists_mergeSort_cons htrans htotal a (xs.filter p)
      have hcut : before.filter p ++ after.filter p = first ++ last := ih.trans hrest'
      obtain ⟨rfl, rfl⟩ := eq_and_eq_of_append_eq hcut
        (fun b hb => hbefore b (List.mem_filter.mp hb).1)
        (fun b hb => hafter b (List.mem_filter.mp hb).1) hfirst hlast
      rw [List.filter_cons_of_pos ha, List.filter_cons_of_pos ha, hsort']
    · rw [List.filter_cons_of_neg ha, List.filter_cons_of_neg ha, ih]

end

namespace Violation

/-- The line and the column of a violation. -/
def position (v : Violation) : UInt64 × UInt64 :=
  (v.location.line, v.location.column)

/-- A violation stands on an earlier line than another, or no further right on the same line. -/
def NotAfter (v w : Violation) : Prop :=
  v.location.line < w.location.line ∨
    v.location.line = w.location.line ∧ v.location.column ≤ w.location.column

/-- Violations are sorted by line and column, and those of one place are in the order in which they
were found. -/
structure IsStableSort (found result : List Violation) : Prop where
  sorted : result.Pairwise NotAfter
  perm : result.Perm found
  stable : ∀ place, result.filter (·.position = place) = found.filter (·.position = place)

/-- The comparison is by line, and then by column. -/
theorem noLater_iff (v w : Violation) : v.noLater w = true ↔ v.NotAfter w := by
  simp [noLater, NotAfter]

theorem NotAfter.trans {u v w : Violation} (huv : u.NotAfter v) (hvw : v.NotAfter w) :
    u.NotAfter w := by
  unfold NotAfter at *
  grind

theorem notAfter_total (v w : Violation) : v.NotAfter w ∨ w.NotAfter v := by
  unfold NotAfter
  grind

/-- Violations that come after each other neither way have one place. -/
theorem NotAfter.position_eq {v w : Violation} (hvw : v.NotAfter w) (hwv : w.NotAfter v) :
    v.position = w.position := by
  unfold NotAfter at *
  unfold position
  grind

theorem notAfter_of_position_eq {v w : Violation} (heq : v.position = w.position) :
    v.NotAfter w := by
  unfold position at heq
  unfold NotAfter
  grind

/-- The comparison is transitive. -/
theorem noLater_trans (u v w : Violation) (huv : u.noLater v = true) (hvw : v.noLater w = true) :
    u.noLater w = true := by
  rw [noLater_iff] at *
  exact huv.trans hvw

/-- Any two violations can be compared. -/
theorem noLater_total (v w : Violation) : (v.noLater w || w.noLater v) = true := by
  rw [Bool.or_eq_true, noLater_iff, noLater_iff]
  exact notAfter_total v w

/-- The sort that the linter uses is stable. -/
theorem isStableSort_mergeSort (found : List Violation) :
    IsStableSort found (found.mergeSort noLater) := by
  have hperm := List.mergeSort_perm found noLater
  refine ⟨?_, hperm, fun place => ?_⟩
  · refine (List.pairwise_mergeSort noLater_trans noLater_total found).imp ?_
    intro v w hvw
    exact (noLater_iff v w).mp hvw
  · -- The violations of one place are a sorted part of the list, and sorting keeps such parts.
    have hpart : (found.filter (·.position = place)).Pairwise fun v w => v.noLater w = true := by
      refine List.pairwise_of_forall_mem_list fun v hv w hw => ?_
      simp only [List.mem_filter, decide_eq_true_eq] at hv hw
      exact (noLater_iff v w).mpr (notAfter_of_position_eq (hv.2.trans hw.2.symm))
    have hkept := List.sublist_mergeSort noLater_trans noLater_total hpart List.filter_sublist
    have hsub := hkept.filter fun v => decide (v.position = place)
    rw [List.filter_filter] at hsub
    simp only [Bool.and_self] at hsub
    have hlength := (hperm.filter fun v => decide (v.position = place)).length_eq
    exact (hsub.eq_of_length hlength.symm).symm

/-- Lists that agree at every place have the same violations. -/
theorem mem_iff_of_filter_position_eq {xs ys : List Violation}
    (hplaces : ∀ place, xs.filter (·.position = place) = ys.filter (·.position = place))
    (v : Violation) : v ∈ xs ↔ v ∈ ys := by
  have h := congrArg (v ∈ ·) (hplaces v.position)
  simpa using h

/-- Two sorted lists that agree at every place are the same. -/
theorem eq_of_filter_position_eq {xs ys : List Violation} (hxs : xs.Pairwise NotAfter)
    (hys : ys.Pairwise NotAfter)
    (hplaces : ∀ place, xs.filter (·.position = place) = ys.filter (·.position = place)) :
    xs = ys := by
  have hmem := mem_iff_of_filter_position_eq hplaces
  induction xs generalizing ys with
  | nil =>
    cases ys with
    | nil => rfl
    | cons w ys => simpa using hmem w
  | cons v xs ih =>
    cases ys with
    | nil => simpa using hmem v
    | cons w ys =>
      rw [List.pairwise_cons] at hxs hys
      have hposition : v.position = w.position := by
        rcases List.mem_cons.mp ((hmem w).mpr List.mem_cons_self) with rfl | hw
        · rfl
        · rcases List.mem_cons.mp ((hmem v).mp List.mem_cons_self) with rfl | hv
          · rfl
          · exact (hxs.1 w hw).position_eq (hys.1 v hv)
      have hhere := hplaces v.position
      simp only [List.filter_cons, hposition, decide_true, if_true] at hhere
      obtain ⟨rfl, hrest⟩ := List.cons.inj hhere
      have htails : ∀ place, xs.filter (·.position = place) = ys.filter (·.position = place) := by
        intro place
        by_cases hplace : v.position = place
        · subst hplace
          exact hrest
        · have h := hplaces place
          simpa [List.filter_cons, hplace] using h
      rw [ih hxs.2 hys.2 htails (mem_iff_of_filter_position_eq htails)]

/-- There is only one way to sort without moving a violation past another of its place. -/
theorem IsStableSort.unique {found xs ys : List Violation} (hxs : IsStableSort found xs)
    (hys : IsStableSort found ys) : xs = ys := by
  refine eq_of_filter_position_eq hxs.sorted hys.sorted fun place => ?_
  rw [hxs.stable, hys.stable]

/-- What moves no violation may be done to violations before or after they are sorted. -/
theorem map_mergeSort_of_location (found : List Violation) {f : Violation → Violation}
    (hplace : ∀ v, (f v).location = v.location) :
    (found.mergeSort noLater).map f = (found.map f).mergeSort noLater := by
  refine List.map_mergeSort fun v _ w _ => ?_
  rw [noLater, noLater, hplace, hplace]

/-- Violations may be left out before or after they are sorted. -/
theorem filter_mergeSort_noLater (found : List Violation) (p : Violation → Bool) :
    (found.mergeSort noLater).filter p = (found.filter p).mergeSort noLater :=
  filter_mergeSort noLater_trans noLater_total p found

theorem mem_of_filter_position_sublist {xs ys : List Violation}
    (hplaces : ∀ place,
      (xs.filter (·.position = place)).Sublist (ys.filter (·.position = place)))
    {v : Violation} (hv : v ∈ xs) : v ∈ ys := by
  have hhere := (hplaces v.position).subset (List.mem_filter.mpr ⟨hv, by simp⟩)
  exact (List.mem_filter.mp hhere).1

/-- A sorted list that has at every place a part of what another has there is a part of it. -/
theorem sublist_of_filter_position_sublist {xs ys : List Violation} (hxs : xs.Pairwise NotAfter)
    (hys : ys.Pairwise NotAfter)
    (hplaces : ∀ place,
      (xs.filter (·.position = place)).Sublist (ys.filter (·.position = place))) :
    xs.Sublist ys := by
  induction ys generalizing xs with
  | nil =>
    have hnone : xs = [] := List.eq_nil_iff_forall_not_mem.mpr fun v hv =>
      List.not_mem_nil (mem_of_filter_position_sublist hplaces hv)
    rw [hnone]
  | cons w ys ih =>
    rw [List.pairwise_cons] at hys
    -- What stands elsewhere than `w` is found behind `w`, so only the place of `w` matters.
    have hbehind : (xs.filter (·.position = w.position)).Sublist
        (ys.filter (·.position = w.position)) → xs.Sublist ys := by
      intro hhere
      refine ih hxs hys.2 fun place => ?_
      by_cases hplace : w.position = place
      · subst hplace
        exact hhere
      · simpa [List.filter_cons, hplace] using hplaces place
    cases xs with
    | nil => exact List.nil_sublist _
    | cons v xs =>
      by_cases hposition : v.position = w.position
      · have hhere := hplaces w.position
        simp only [List.filter_cons, hposition, decide_true, if_true] at hhere
        rcases List.cons_sublist_cons'.mp hhere with hskipped | ⟨rfl, hrest⟩
        · refine .cons w (hbehind ?_)
          simpa [List.filter_cons, hposition] using hskipped
        · refine .cons_cons v (ih (List.pairwise_cons.mp hxs).2 hys.2 fun place => ?_)
          by_cases hplace : v.position = place
          · subst hplace
            exact hrest
          · simpa [List.filter_cons, hplace] using hplaces place
      · -- `w` stands before `v`, so nothing of the first list stands where `w` does.
        refine .cons w (hbehind ?_)
        have hwv : w.NotAfter v := by
          rcases List.mem_cons.mp (mem_of_filter_position_sublist hplaces List.mem_cons_self) with
            rfl | hv
          · exact absurd rfl hposition
          · exact hys.1 v hv
        have hnone : (v :: xs).filter (·.position = w.position) = [] := by
          refine List.filter_eq_nil_iff.mpr fun u hu => ?_
          have hvu : v.NotAfter u := by
            rcases List.mem_cons.mp hu with rfl | hu
            · exact notAfter_of_position_eq rfl
            · exact (List.pairwise_cons.mp hxs).1 u hu
          intro huw
          have huw' : u.NotAfter w := notAfter_of_position_eq (of_decide_eq_true huw)
          exact hposition (NotAfter.position_eq (hvu.trans huw') hwv)
        rw [hnone]
        exact List.nil_sublist _

/-- Sorting fewer violations gives a part of what sorting more of them gives. -/
theorem IsStableSort.sublist {found more xs ys : List Violation} (hxs : IsStableSort found xs)
    (hys : IsStableSort more ys) (hsub : found.Sublist more) : xs.Sublist ys := by
  refine sublist_of_filter_position_sublist hxs.sorted hys.sorted fun place => ?_
  rw [hxs.stable, hys.stable]
  exact hsub.filter _

end Violation

end MarkupAudit
