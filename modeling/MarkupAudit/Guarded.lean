namespace MarkupAudit

/-- What a check of the program's own work can find. -/
inductive Defect where
  /-- A complaint has no words. -/
  | emptyMessage
  /-- A sum of machine words is too large for one. -/
  | overflow
  deriving DecidableEq, Repr

/-- How the program is built. With checks, the first one that fails stops it; without them it goes
on, and sums wrap around. -/
inductive Build where
  | checked
  | unchecked
  deriving DecidableEq, Repr

/-- The value that a computation comes to without checks, and the first check on the way that
fails. -/
@[ext]
structure Guarded (α : Type) where
  value : α
  defect? : Option Defect := none
  deriving DecidableEq, Repr

namespace Guarded

variable {α β : Type}

instance : Monad Guarded where
  pure a := { value := a }
  bind x f :=
    let y := f x.value
    { value := y.value, defect? := x.defect?.or y.defect? }

/-- What a computation comes to in a build. -/
def run (b : Build) (x : Guarded α) : Except Defect α :=
  match b, x.defect? with
  | .checked, some defect => .error defect
  | _, _ => .ok x.value

/-- A check. -/
def insist (ok : Bool) (defect : Defect) : Guarded Unit where
  value := ()
  defect? := if ok then none else some defect

/-- The sum of a machine word and a number. -/
def sum (a : UInt64) (n : Nat) : Guarded UInt64 := do
  insist (decide (a.toNat + n < UInt64.size)) .overflow
  return a + .ofNat n

/-- One list behind another. -/
instance : Append (Guarded (List β)) where
  append x y := do return (← x) ++ (← y)

/-- What the members of a list come to, one after the other. -/
def collect (f : α → Guarded (List β)) : List α → Guarded (List β)
  | [] => pure []
  | a :: rest => f a ++ collect f rest

/-- Whether a computation that may fail does so in a build, by itself or at a check. -/
def fails {ε : Type} (b : Build) (x : Guarded (Except ε α)) : Bool :=
  match x.run b with
  | .ok (.ok _) => false
  | _ => true

@[simp]
theorem value_pure (a : α) : (pure a : Guarded α).value = a :=
  rfl

@[simp]
theorem defect?_pure (a : α) : (pure a : Guarded α).defect? = none :=
  rfl

/-- The value does not depend on what was asserted on the way. -/
@[simp]
theorem value_bind (x : Guarded α) (f : α → Guarded β) : (x >>= f).value = (f x.value).value :=
  rfl

/-- The first thing that is wrong counts. -/
@[simp]
theorem defect?_bind (x : Guarded α) (f : α → Guarded β) :
    (x >>= f).defect? = x.defect?.or (f x.value).defect? :=
  rfl

instance : LawfulMonad Guarded :=
  .mk' _ (fun _ => Guarded.ext rfl Option.or_none) (fun _ _ => rfl)
    fun _ _ _ => Guarded.ext rfl Option.or_assoc

@[simp]
theorem value_map (f : α → β) (x : Guarded α) : (f <$> x).value = f x.value :=
  rfl

@[simp]
theorem defect?_map (f : α → β) (x : Guarded α) : (f <$> x).defect? = x.defect? :=
  Option.or_none

/-- An assertion fails if it does not hold. -/
@[simp]
theorem defect?_insist (ok : Bool) (defect : Defect) :
    (insist ok defect).defect? = if ok then none else some defect :=
  rfl

/-- Without a check a sum wraps around. -/
@[simp]
theorem value_sum (a : UInt64) (n : Nat) : (sum a n).value = a + .ofNat n :=
  rfl

/-- A sum is checked for being a machine word. -/
theorem defect?_sum (a : UInt64) (n : Nat) :
    (sum a n).defect? = if a.toNat + n < UInt64.size then none else some .overflow := by
  simp [sum]

/-- A build without checks always comes to the value. -/
@[simp]
theorem run_unchecked (x : Guarded α) : x.run .unchecked = .ok x.value :=
  rfl

/-- Every build comes to the value if all checks pass. -/
theorem run_of_none {b : Build} {x : Guarded α} (hnone : x.defect? = none) :
    x.run b = .ok x.value := by
  cases b with
  | unchecked => rfl
  | checked =>
    unfold run
    rw [hnone]

/-- A build with checks stops at the first one that fails. -/
theorem run_checked_of_some {x : Guarded α} {defect : Defect} (hsome : x.defect? = some defect) :
    x.run .checked = .error defect := by
  unfold run
  rw [hsome]

/-- Whatever a build comes to is the value. -/
theorem value_of_run_eq_ok {b : Build} {x : Guarded α} {a : α} (hok : x.run b = .ok a) :
    x.value = a := by
  unfold run at hok
  split at hok
  · cases hok
  · exact Except.ok.inj hok

/-- Exactly the builds with checks stop, and at the first one that fails. -/
theorem run_eq_error_iff {b : Build} {x : Guarded α} {defect : Defect} :
    x.run b = .error defect ↔ b = .checked ∧ x.defect? = some defect := by
  cases b with
  | unchecked => simp
  | checked =>
    cases hdefect : x.defect? with
    | none => simp [run_of_none hdefect]
    | some other => simp [run_checked_of_some hdefect]

@[simp]
theorem value_append (x y : Guarded (List β)) : (x ++ y).value = x.value ++ y.value :=
  rfl

/-- Of two parts the first with something wrong counts. -/
@[simp]
theorem defect?_append (x y : Guarded (List β)) : (x ++ y).defect? = x.defect?.or y.defect? :=
  congrArg x.defect?.or Option.or_none

@[simp]
theorem pure_nil_append (x : Guarded (List β)) : pure [] ++ x = x := by
  ext1 <;> simp

/-- Of three lists in a row it does not matter which two are joined first. -/
theorem append_assoc (x y z : Guarded (List β)) : x ++ y ++ z = x ++ (y ++ z) := by
  ext1 <;> simp [Option.or_assoc]

/-- What a list comes to without checks. -/
@[simp]
theorem value_collect (f : α → Guarded (List β)) (as : List α) :
    (collect f as).value = as.flatMap fun a => (f a).value := by
  induction as with
  | nil => rfl
  | cons a rest ih => simp [collect, ih]

/-- A list is stopped by the first of its members that is. -/
@[simp]
theorem defect?_collect (f : α → Guarded (List β)) (as : List α) :
    (collect f as).defect? = as.findSome? fun a => (f a).defect? := by
  induction as with
  | nil => rfl
  | cons a rest ih =>
    rw [collect, defect?_append, ih, List.findSome?_cons]
    cases (f a).defect? with
    | none => rfl
    | some defect => rfl

/-- Two lists in a row come to what they come to by themselves. -/
theorem collect_append (f : α → Guarded (List β)) (as bs : List α) :
    collect f (as ++ bs) = collect f as ++ collect f bs := by
  ext1
  · simp
  · simp [List.findSome?_append]

/-- Collecting from items that are made from others. -/
theorem collect_map {γ : Type} (f : β → Guarded (List γ)) (g : α → β) (as : List α) :
    collect f (as.map g) = collect (fun a => f (g a)) as := by
  ext1
  · simp [List.flatMap_map]
  · simp [List.findSome?_map, Function.comp_def]

/-- Collecting goes through groups as it goes through their items. -/
theorem collect_flatMap {γ : Type} (f : β → Guarded (List γ)) (g : α → List β) (as : List α) :
    collect f (as.flatMap g) = collect (fun a => collect f (g a)) as := by
  induction as with
  | nil => rfl
  | cons a rest ih => rw [List.flatMap_cons, collect_append, ih, collect]

/-- Members that are left out come to nothing. -/
theorem collect_filter (f : α → Guarded (List β)) (p : α → Bool) (as : List α) :
    collect f (as.filter p) = collect (fun a => if p a then f a else pure []) as := by
  induction as with
  | nil => rfl
  | cons a rest ih =>
    cases hp : p a with
    | true => simp [collect, hp, ih]
    | false => simp [collect, hp, ih]

/-- Without checks a list comes to what its members come to. -/
theorem collect_pure (f : α → List β) (as : List α) :
    collect (fun a => pure (f a)) as = pure (as.flatMap f) := by
  ext1
  · simp
  · simp

/-- Steps in a row run in a row. -/
theorem run_bind (b : Build) (x : Guarded α) (f : α → Guarded β) :
    (x >>= f).run b = x.run b >>= fun a => (f a).run b := by
  cases b with
  | unchecked => rfl
  | checked =>
    cases hdefect : x.defect? with
    | some defect =>
      have hfirst : (x >>= f).defect? = some defect := by simp [hdefect]
      rw [run_checked_of_some hdefect, run_checked_of_some hfirst]
      rfl
    | none =>
      rw [run_of_none hdefect]
      simp [run, hdefect, bind, Except.bind]

end Guarded

end MarkupAudit
