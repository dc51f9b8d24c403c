import MarkupAudit.Guarded
import MarkupAudit.Proofs.Failure

namespace MarkupAudit.Guarded

variable {ε α β : Type}

/-- A computation returns a result in a build: it does not fail, and it is not stopped. -/
def Gives (b : Build) (x : Guarded (Except ε α)) (a : α) : Prop :=
  x.run b = .ok (.ok a)

/-- A result is returned if it is the value and no check stops the build. -/
theorem gives_iff {b : Build} {x : Guarded (Except ε α)} {a : α} :
    x.Gives b a ↔ x.value = .ok a ∧ (b = .checked → x.defect? = none) := by
  unfold Gives
  cases b with
  | unchecked => simp
  | checked =>
    cases hdefect : x.defect? with
    | none => simp [run_of_none hdefect]
    | some defect => simp [run_checked_of_some hdefect]

/-- The values of steps in a row, without checks. -/
theorem value_run_bind (x : ExceptT ε Guarded α) (f : α → ExceptT ε Guarded β) :
    (x >>= f).run.value = x.run.value >>= fun a => (f a).run.value := by
  rw [ExceptT.run_bind, value_bind]
  cases x.run.value with
  | error e => rfl
  | ok a => rfl

/-- Steps in a row are stopped by the first one or, if it succeeds, by the next. -/
theorem defect?_run_bind (x : ExceptT ε Guarded α) (f : α → ExceptT ε Guarded β) :
    (x >>= f).run.defect? =
      x.run.defect?.or (x.run.value.toOption.bind fun a => (f a).run.defect?) := by
  rw [ExceptT.run_bind, defect?_bind]
  cases x.run.value with
  | error e => rfl
  | ok a => rfl

/-- The values of a list of steps, without checks. -/
theorem value_run_mapM (f : α → ExceptT ε Guarded β) (as : List α) :
    (as.mapM f).run.value = as.mapM fun a => (f a).run.value := by
  induction as with
  | nil => rfl
  | cons a rest ih =>
    rw [List.mapM_cons, List.mapM_cons, value_run_bind]
    simp only [value_run_bind, ih]
    rfl

/-- The steps behind a successful one decide what else stops the list. -/
theorem defect?_run_mapM_cons (f : α → ExceptT ε Guarded β) (a : α) (rest : List α) :
    ((a :: rest).mapM f).run.defect? =
      (f a).run.defect?.or ((f a).run.value.toOption.bind fun _ => (rest.mapM f).run.defect?) := by
  have hrest : ∀ b, (rest.mapM f >>= fun bs => pure (b :: bs)).run.defect? =
      (rest.mapM f).run.defect? := by
    intro b
    rw [defect?_run_bind]
    cases (rest.mapM f).run.value with
    | error e => exact Option.or_none
    | ok bs => exact Option.or_none
  rw [List.mapM_cons, defect?_run_bind]
  simp only [hrest]

/-- If no step fails, the first one at which a check fails stops the list. -/
theorem defect?_run_mapM_of_ok {f : α → ExceptT ε Guarded β} {as : List α}
    (hok : ∀ a ∈ as, ∃ b, (f a).run.value = .ok b) :
    (as.mapM f).run.defect? = as.findSome? fun a => (f a).run.defect? := by
  induction as with
  | nil => rfl
  | cons a rest ih =>
    rw [List.forall_mem_cons] at hok
    obtain ⟨⟨b, hb⟩, hrest⟩ := hok
    rw [defect?_run_mapM_cons, hb, ih hrest, List.findSome?_cons]
    cases (f a).run.defect? with
    | none => rfl
    | some defect => rfl

/-- A list of steps is stopped by the first step that is, unless a step before it fails. -/
theorem defect?_run_mapM_eq_some_iff {f : α → ExceptT ε Guarded β} {as : List α}
    {defect : Defect} :
    (as.mapM f).run.defect? = some defect ↔ ∃ before a after, as = before ++ a :: after ∧
      (f a).run.defect? = some defect ∧
      ∀ x ∈ before, (f x).run.defect? = none ∧ ∃ b, (f x).run.value = .ok b := by
  induction as with
  | nil => simp
  | cons a rest ih =>
    rw [defect?_run_mapM_cons, Option.or_eq_some_iff, Option.bind_eq_some_iff, ih]
    constructor
    · rintro (ha | ⟨hnone, b, hb, before, x, after, rfl, hx, hbefore⟩)
      · exact ⟨[], a, rest, rfl, ha, by simp⟩
      · refine ⟨a :: before, x, after, rfl, hx, ?_⟩
        intro y hy
        rcases List.mem_cons.mp hy with rfl | hy
        · refine ⟨hnone, b, ?_⟩
          cases hvalue : (f y).run.value with
          | error e => simp [hvalue, Except.toOption] at hb
          | ok c => simpa [hvalue, Except.toOption] using hb
        · exact hbefore y hy
    · rintro ⟨before, x, after, heq, hx, hbefore⟩
      cases before with
      | nil =>
        obtain ⟨rfl, rfl⟩ := List.cons.inj heq
        exact .inl hx
      | cons y before =>
        obtain ⟨rfl, rfl⟩ := List.cons.inj heq
        obtain ⟨hnone, b, hb⟩ := hbefore a List.mem_cons_self
        refine .inr ⟨hnone, b, by simp [hb, Except.toOption], before, x, after, rfl, hx, ?_⟩
        exact fun z hz => hbefore z (List.mem_cons_of_mem a hz)

end MarkupAudit.Guarded
