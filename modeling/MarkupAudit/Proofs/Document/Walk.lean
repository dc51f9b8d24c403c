import MarkupAudit.Proofs.Document.Faithful

namespace MarkupAudit

namespace Walk

/-- The nodes that the walk has still to find. -/
def pending (w : Walk) : List Nat :=
  (List.range' w.position w.ahead).filter fun id => (w.document.info? id).any (·.kind == w.kind)

/-- The answer to each of many calls, counted from zero. -/
def answer (w : Walk) : Nat → Option Nat
  | 0 => w.next.1
  | n + 1 => w.next.2.answer n

/-- At a node of the kind the walk finds it; at another nothing is lost by passing over it. -/
theorem pending_of_lt {w : Walk} (hinside : w.position < w.document.size) :
    w.pending =
      if (w.document.info? w.position).any (·.kind == w.kind) then
        w.position :: { w with position := w.position + 1 : Walk }.pending
      else { w with position := w.position + 1 : Walk }.pending := by
  have hahead : w.ahead = { w with position := w.position + 1 : Walk }.ahead + 1 := by
    simp only [ahead]
    omega
  rw [pending, hahead, List.range'_succ, List.filter_cons]
  rfl

/-- One call takes the first of the nodes to be found, and leaves the others. -/
theorem next_eq (w : Walk) : w.next.1 = w.pending.head? ∧ w.next.2.pending = w.pending.tail := by
  fun_induction next w with
  | case1 w hinside behind hkind =>
    rw [pending_of_lt hinside, if_pos hkind]
    exact ⟨rfl, rfl⟩
  | case2 w hinside behind hkind ih =>
    rw [pending_of_lt hinside, if_neg hkind]
    exact ih
  | case3 w hinside =>
    have hahead : w.ahead = 0 := by
      simp only [ahead]
      omega
    have hpending : w.pending = [] := by rw [pending, hahead, List.range'_zero, List.filter_nil]
    rw [hpending]
    exact ⟨rfl, rfl⟩

/-- The calls find the nodes in turn, and nothing when all are found. -/
theorem answer_eq (w : Walk) (n : Nat) : w.answer n = w.pending[n]? := by
  induction n generalizing w with
  | zero => rw [answer, w.next_eq.1, List.head?_eq_getElem?]
  | succ n ih => rw [answer, ih, w.next_eq.2, List.getElem?_tail]

/-- A call takes the first of the nodes that a walk has still to find. -/
theorem pending_of_next {w behind : Walk} {id : Nat} (hnext : w.next = (some id, behind)) :
    w.pending = id :: behind.pending := by
  obtain ⟨hhead, htail⟩ := w.next_eq
  rw [hnext] at hhead htail
  rw [htail]
  exact (List.cons_head?_tail hhead.symm).symm

/-- A walk that finds nothing has nothing left to find. -/
theorem pending_of_next_none {w behind : Walk} (hnext : w.next = (none, behind)) :
    w.pending = [] := by
  have hhead := w.next_eq.1
  rw [hnext] at hhead
  exact List.head?_eq_none_iff.mp hhead.symm

/-- Walking to the end gives all that there is to find. -/
theorem toList_eq (w : Walk) : w.toList = w.pending := by
  fun_induction toList w with
  | case1 w id behind hnext _ ih => rw [pending_of_next hnext, ih]
  | case2 w behind hnext => rw [pending_of_next_none hnext]

/-- Visiting in a walk is visiting what it has still to find, one after the other. -/
theorem forM_eq {m : Type → Type} [Monad m] (w : Walk) (visit : Nat → m Unit) :
    w.forM visit = ForM.forM w.pending visit := by
  fun_induction forM w visit with
  | case1 w id behind hnext _ ih => rw [pending_of_next hnext, List.forM_cons, ih]
  | case2 w behind hnext => rw [pending_of_next_none hnext, List.forM_nil]

end Walk

section

variable {σ ε : Type}

/-- What a computation with a state and errors gives when it starts in a state. The state that an
error leaves behind is not lost. -/
def runFrom (x : ExceptT ε (StateM σ) Unit) (s : σ) : Except ε Unit × σ :=
  x.run.run s

/-- A call that returns leaves the rest to go on from its state. -/
theorem runFrom_bind_of_ok {x y : ExceptT ε (StateM σ) Unit} {s t : σ}
    (hx : runFrom x s = (.ok (), t)) : runFrom (x >>= fun _ => y) s = runFrom y t := by
  rw [runFrom] at hx
  rw [runFrom, ExceptT.run_bind, StateT.run_bind, hx]
  rfl

/-- A call that fails is the last. -/
theorem runFrom_bind_of_error {x y : ExceptT ε (StateM σ) Unit} {s t : σ} {e : ε}
    (hx : runFrom x s = (.error e, t)) : runFrom (x >>= fun _ => y) s = (.error e, t) := by
  rw [runFrom] at hx
  rw [runFrom, ExceptT.run_bind, StateT.run_bind, hx]
  rfl

/-- The callback that also notes the nodes it is called on. -/
def noting (visit : Nat → ExceptT ε (StateM σ) Unit) (id : Nat) :
    ExceptT ε (StateM (σ × List Nat)) Unit :=
  ExceptT.mk fun (s, calls) =>
    let (outcome, t) := runFrom (visit id) s
    (outcome, t, calls ++ [id])

variable (visit : Nat → ExceptT ε (StateM σ) Unit)

/-- The calls on nodes one after the other all succeed. Each starts in the state that the one before
it left. -/
inductive Succeed : σ → List Nat → σ → Prop where
  | nil (s : σ) : Succeed s [] s
  | cons {s t u : σ} {id : Nat} {ids : List Nat} (hcall : runFrom (visit id) s = (.ok (), t))
      (hrest : Succeed t ids u) : Succeed s (id :: ids) u

/-- Which calls are made on nodes in turn, and what comes of them: all, if all of them succeed, and
otherwise those up to the first that fails, whose error and whose state stand. -/
inductive CalledInTurn (s : σ) (ids : List Nat) : List Nat → Except ε Unit × σ → Prop where
  | all {t : σ} (hall : Succeed visit s ids t) : CalledInTurn s ids ids (.ok (), t)
  | upTo {before after : List Nat} {id : Nat} {t u : σ} {e : ε}
      (hids : ids = before ++ id :: after) (hbefore : Succeed visit s before t)
      (hcall : runFrom (visit id) t = (.error e, u)) :
      CalledInTurn s ids (before ++ [id]) (.error e, u)

variable {visit}

/-- Taking note of a call changes neither its outcome nor its state. -/
theorem runFrom_noting {s t : σ} {id : Nat} {outcome : Except ε Unit}
    (hcall : runFrom (visit id) s = (outcome, t)) (calls : List Nat) :
    runFrom (noting visit id) (s, calls) = (outcome, t, calls ++ [id]) := by
  change ((runFrom (visit id) s).1, (runFrom (visit id) s).2, calls ++ [id]) = _
  rw [hcall]

/-- A call that succeeds stands before those that follow it. -/
theorem CalledInTurn.cons {s t : σ} {id : Nat} {ids called : List Nat} {result : Except ε Unit × σ}
    (hcall : runFrom (visit id) s = (.ok (), t)) (hturn : CalledInTurn visit t ids called result) :
    CalledInTurn visit s (id :: ids) (id :: called) result := by
  cases hturn with
  | all hall => exact .all (.cons hcall hall)
  | upTo hids hbefore hfailed =>
    rw [← List.cons_append]
    exact .upTo (by rw [hids, List.cons_append]) (.cons hcall hbefore) hfailed

/-- The calls are a first part of those there are to make. -/
theorem CalledInTurn.called_prefix {s : σ} {ids called : List Nat} {result : Except ε Unit × σ}
    (hturn : CalledInTurn visit s ids called result) : called <+: ids := by
  cases hturn with
  | all => exact List.prefix_refl ids
  | @upTo before after id _ _ _ hids =>
    rw [hids]
    exact ⟨after, by rw [List.append_assoc, List.singleton_append]⟩

/-- Going through nodes makes calls in turn, and these are the calls that can be noted. -/
theorem exists_calledInTurn (visit : Nat → ExceptT ε (StateM σ) Unit) (ids : List Nat) (s : σ)
    (calls : List Nat) :
    ∃ called, CalledInTurn visit s ids called (runFrom (forM ids visit) s) ∧
      runFrom (forM ids (noting visit)) (s, calls) =
        ((runFrom (forM ids visit) s).1, (runFrom (forM ids visit) s).2, calls ++ called) := by
  induction ids generalizing s calls with
  | nil =>
    refine ⟨[], .all (.nil s), ?_⟩
    rw [List.append_nil]
    rfl
  | cons id ids ih =>
    rw [List.forM_cons, List.forM_cons]
    rcases hcall : runFrom (visit id) s with ⟨_ | _, t⟩
    next e =>
      have hnoted := runFrom_noting hcall calls
      rw [runFrom_bind_of_error hcall, runFrom_bind_of_error hnoted]
      exact ⟨[id], .upTo (List.nil_append _).symm (.nil s) hcall, rfl⟩
    next =>
      have hnoted := runFrom_noting hcall calls
      obtain ⟨called, hturn, hrun⟩ := ih t (calls ++ [id])
      rw [runFrom_bind_of_ok hcall, runFrom_bind_of_ok hnoted]
      refine ⟨id :: called, hturn.cons hcall, ?_⟩
      rw [hrun, List.append_assoc, List.singleton_append]

/-- Where a call fails behind calls that succeed, not all calls succeed. -/
theorem Succeed.not_of_error {s t u final : σ} {before after : List Nat} {id : Nat} {e : ε}
    (hbefore : Succeed visit s before t) (hcall : runFrom (visit id) t = (.error e, u)) :
    ¬Succeed visit s (before ++ id :: after) final := by
  intro hall
  induction hbefore with
  | nil s =>
    cases hall with
    | cons hok _ =>
      rw [hcall] at hok
      cases hok
  | cons hfirst _ ih =>
    cases hall with
    | cons hsame hrest =>
      rw [hfirst] at hsame
      cases hsame
      exact ih hcall hrest

/-- All is well exactly if every call is. -/
theorem CalledInTurn.ok_iff {s : σ} {ids called : List Nat} {result : Except ε Unit × σ}
    (hturn : CalledInTurn visit s ids called result) :
    result.1 = .ok () ↔ ∃ t, Succeed visit s ids t := by
  cases hturn with
  | all hall => exact iff_of_true rfl ⟨_, hall⟩
  | upTo hids hbefore hcall =>
    refine iff_of_false nofun ?_
    rintro ⟨t, hall⟩
    rw [hids] at hall
    exact hbefore.not_of_error hcall hall

end

namespace Document

/-- The kind of a node. -/
def kind? (d : Document) (id : Nat) : Option NodeKind :=
  (d.info? id).map (·.kind)

/-- In the document of a forest a number leads to the node at that place in document order. -/
theorem info?_ofForest (ns : List Node) (id : Nat) :
    (ofForest ns).info? id = (Node.preorderAll ns)[id]?.map (·.info) := by
  rw [info?, entry?_eq_getElem?, ← List.getElem?_map, toList_entries_ofForest,
    map_info_entriesOfAll, List.getElem?_map]

theorem kind?_ofForest (ns : List Node) (c : Nat) :
    (ofForest ns).kind? c = (Node.preorderAll ns)[c]?.map (·.info.kind) := by
  rw [kind?, info?_ofForest, Option.map_map]
  rfl

theorem pending_walk (d : Document) (kind : NodeKind) :
    Walk.pending { document := d, kind } = d.walk kind :=
  (Walk.toList_eq _).symm

/-- A walk finds the nodes of its kind by going through all numbers. -/
theorem walk_eq_filter (d : Document) (kind : NodeKind) :
    d.walk kind = (List.range d.size).filter fun id => (d.info? id).any (·.kind == kind) := by
  rw [← pending_walk, Walk.pending, Walk.ahead, Nat.sub_zero, ← List.range_eq_range']

/-- A walk finds the nodes of its kind and no others. -/
theorem mem_walk_iff (d : Document) (kind : NodeKind) (c : Nat) :
    c ∈ d.walk kind ↔ d.kind? c = some kind := by
  rw [walk_eq_filter, List.mem_filter, List.mem_range, kind?]
  constructor
  · rintro ⟨_, hfound⟩
    obtain ⟨info, hinfo, hkind⟩ := (Option.any_eq_true _ _).mp hfound
    rw [hinfo, Option.map_some, beq_iff_eq.mp hkind]
  · intro hkind
    obtain ⟨info, hinfo, rfl⟩ := Option.map_eq_some_iff.mp hkind
    obtain ⟨e, hentry, _⟩ := Option.map_eq_some_iff.mp hinfo
    exact ⟨(Array.getElem?_eq_some_iff.mp hentry).1, by simp [hinfo]⟩

/-- A walk goes upwards, so it finds no node twice. -/
theorem pairwise_walk (d : Document) (kind : NodeKind) : (d.walk kind).Pairwise (· < ·) := by
  rw [walk_eq_filter]
  exact List.pairwise_lt_range.filter _

/-- Visiting the nodes of a kind makes one call for each, in document order. -/
theorem walkOn_eq {m : Type → Type} [Monad m] (d : Document) (kind : NodeKind)
    (visit : Nat → m Unit) : d.walkOn kind visit = forM (d.walk kind) visit := by
  rw [walkOn, Walk.forM_eq, pending_walk]

/-- The elements of a document are what a walk through its elements finds. -/
theorem map_entry?_walk_element (d : Document) :
    (d.walk .element).map d.entry? = d.elements.map some := by
  have hlookup : (List.range d.size).map d.entry? = d.entries.toList.map some := by
    refine List.ext_getElem (by simp [size]) fun id hid _ => ?_
    simp only [List.length_map, List.length_range, size] at hid
    simp [hid, entry?]
  have hfilter :=
    congrArg (List.filter (Option.any fun e : Entry => e.info.kind == .element)) hlookup
  rw [List.filter_map, List.filter_map] at hfilter
  rw [walk_eq_filter, elements]
  simpa [Function.comp_def, info?, Option.any_map] using hfilter

/-- A walk through the document of a forest finds the trees of the forest whose roots are of the
kind. -/
theorem map_getElem?_walk (ns : List Node) (kind : NodeKind) :
    ((ofForest ns).walk kind).map (fun id => (Node.preorderAll ns)[id]?) =
      ((Node.preorderAll ns).filter fun t => t.info.kind == kind).map some := by
  have hlookup : (List.range (ofForest ns).size).map (fun id => (Node.preorderAll ns)[id]?) =
      (Node.preorderAll ns).map some := by
    rw [size_ofForest, ← Node.length_preorderAll]
    refine List.ext_getElem (by simp) fun id _ _ => ?_
    simp
  have hfilter := congrArg (List.filter (Option.any fun t : Node => t.info.kind == kind)) hlookup
  rw [List.filter_map, List.filter_map] at hfilter
  rw [walk_eq_filter]
  simpa [Function.comp_def, info?_ofForest, Option.any_map] using hfilter

/-- A walk through the document of a forest finds each node of the kind once, in document order, and
then nothing any more. Visiting the nodes calls back on an initial part of them and hands the state
on from call to call: on all of them, without an error, exactly if no call fails, and otherwise up
to the first call that fails, whose error is the outcome and behind which no call is made. The
elements at which rules look are those that a walk finds. -/
theorem walk_visits_in_order (ns : List Node) (kind : NodeKind) :
    ((ofForest ns).walk kind).Pairwise (· < ·) ∧
    ((ofForest ns).walk kind).map (fun id => ((Node.preorderAll ns)[id]?, (ofForest ns).info? id)) =
      ((Node.preorderAll ns).filter fun t => t.info.kind == kind).map
        (fun t => (some t, some t.info)) ∧
    (∀ n, Walk.answer { document := ofForest ns, kind } n = ((ofForest ns).walk kind)[n]?) ∧
    (∀ {σ ε : Type} (visit : Nat → ExceptT ε (StateM σ) Unit) (s : σ),
      ∃ called outcome t, runFrom ((ofForest ns).walkOn kind visit) s = (outcome, t) ∧
        runFrom ((ofForest ns).walkOn kind (noting visit)) (s, []) = (outcome, t, called) ∧
        called <+: (ofForest ns).walk kind ∧
        CalledInTurn visit s ((ofForest ns).walk kind) called (outcome, t) ∧
        (outcome = .ok () ↔ ∃ u, Succeed visit s ((ofForest ns).walk kind) u)) ∧
    (((ofForest ns).walk .element).map fun id => entry? (ofForest ns) id) =
      (ofForest ns).elements.map some := by
  refine ⟨pairwise_walk _ _, ?_, fun n => ?_, fun visit s => ?_, map_entry?_walk_element _⟩
  · have hfound := congrArg (List.map fun t => (t, t.map (·.info))) (map_getElem?_walk ns kind)
    simpa [Function.comp_def, info?_ofForest] using hfound
  · rw [Walk.answer_eq, pending_walk]
  · obtain ⟨called, hturn, hnoted⟩ :=
      exists_calledInTurn visit ((ofForest ns).walk kind) s []
    rw [walkOn_eq, walkOn_eq]
    exact ⟨called, _, _, rfl, hnoted, hturn.called_prefix, hturn, hturn.ok_iff⟩

end Document

end MarkupAudit
