import RecordQuery.Proofs.Feed.Drain

/-!
# When a cancellation is noticed

A cancellation that is asked for while a row is on its way is noticed behind the first row from that
one on that is wanted (`Feed.drain_askedDuring`). Rows that are not wanted are pulled until then,
and where no wanted row is left they are pulled to the end: then `Feed.collect` still refuses to
answer, and `Feed.paginate` answers from all rows.
-/

namespace RecordQuery.Feed

variable {α ε σ : Type}

/-- A row during which nobody asks for cancellation. -/
def quietPull (a : α) : Pull α ε := ⟨false, .ok a⟩

/-- The feed of some rows with cancellation asked for while `a` is on its way. -/
def askedDuring (before : List α) (a : α) (after : List α) : Feed α ε :=
  ⟨before.map quietPull ++ ⟨true, .ok a⟩ :: after.map quietPull, false⟩

/-- How many rows have been pulled when a cancellation is noticed that was asked for while the first
of the `rows` was on its way, `n` others having come before: those up to the first wanted one. -/
def pulledBy (wanted : α → Bool) (n : Nat) (rows : List α) : Nat :=
  n + min (rows.findIdx wanted + 1) rows.length

/-- How reading comes out then: the cancellation is noticed only if one of the `rows` is wanted. -/
def noticed (wanted : α → Bool) (n : Nat) (whole : σ) (rows : List α) : Drained σ ε :=
  ⟨if rows.any wanted then .error .cancelled else .ok whole, true, pulledBy wanted n rows⟩

section

variable {wanted : α → Bool} {endCancels looks cancelled : Bool} {n : Nat} {s : σ}
  {step : σ → α → σ} {p : Pull α ε} {a : α} {rest : List (Pull α ε)}

theorem noticed_of_wanted {rows : List α} (hw : wanted a = true) :
    (noticed wanted n s (a :: rows) : Drained σ ε) = ⟨.error .cancelled, true, n + 1⟩ := by
  simp [noticed, pulledBy, List.findIdx_cons, hw]

theorem noticed_of_unwanted {rows : List α} (hw : wanted a = false) :
    (noticed wanted n s (a :: rows) : Drained σ ε) = noticed wanted (n + 1) s rows := by
  simp only [noticed, pulledBy, List.findIdx_cons, List.any_cons, hw, List.length_cons, cond_false,
    Bool.false_or, Drained.mk.injEq, true_and]
  omega

/-- What all rows come to counts only where none of the `rows` is wanted. -/
theorem noticed_filter (before rows : List α) (start : σ) :
    (noticed wanted n (((before ++ rows).filter wanted).foldl step start) rows : Drained σ ε) =
      noticed wanted n ((before.filter wanted).foldl step start) rows := by
  unfold noticed
  cases hany : rows.any wanted with
  | true => rfl
  | false =>
    have hnil : rows.filter wanted = [] := by
      simpa [List.filter_eq_nil_iff] using hany
    rw [List.filter_append, hnil, List.append_nil]

/-! ## Steps -/

theorem drainFrom_stop {visit : σ → α → Visit σ} :
    drainFrom wanted visit endCancels true true n s rest = ⟨.error .cancelled, true, n⟩ := by
  rw [drainFrom.eq_def]
  rfl

theorem drainFrom_wanted (hlooks : (looks && cancelled) = false) (hp : p.row = .ok a)
    (hw : wanted a = true) :
    drainFrom wanted (fun s a => .more (step s a)) endCancels looks cancelled n s (p :: rest) =
      drainFrom wanted (fun s a => .more (step s a)) endCancels true (cancelled || p.cancels)
        (n + 1) (step s a) rest := by
  rw [drainFrom.eq_def]
  simp [hlooks, hp, hw]

theorem drainFrom_unwanted (hlooks : (looks && cancelled) = false) (hp : p.row = .ok a)
    (hw : wanted a = false) :
    drainFrom wanted (fun s a => .more (step s a)) endCancels looks cancelled n s (p :: rest) =
      drainFrom wanted (fun s a => .more (step s a)) endCancels false (cancelled || p.cancels)
        (n + 1) s rest := by
  rw [drainFrom.eq_def]
  simp [hlooks, hp, hw]

/-! ## Runs -/

/-- Rows during which nobody asks for cancellation are shown if they are wanted. -/
theorem drainFrom_quiet (wanted : α → Bool) (before : List α) : ∃ looks',
    drainFrom wanted (fun s a => .more (step s a)) endCancels looks false n s
        (before.map quietPull ++ rest) =
      drainFrom wanted (fun s a => .more (step s a)) endCancels looks' false (n + before.length)
        ((before.filter wanted).foldl step s) rest := by
  induction before generalizing n s looks with
  | nil => exact ⟨looks, rfl⟩
  | cons b before ih =>
    have hlength : n + (b :: before).length = n + 1 + before.length := by
      rw [List.length_cons]
      omega
    rw [hlength, List.map_cons, List.cons_append]
    cases hw : wanted b with
    | true =>
      rw [drainFrom_wanted (Bool.and_false _) rfl hw, List.filter_cons_of_pos hw]
      exact ih
    | false =>
      rw [drainFrom_unwanted (Bool.and_false _) rfl hw, List.filter_cons_of_neg (by simp [hw])]
      exact ih

/-- After a cancellation that has not been noticed, rows are pulled up to the next wanted one. -/
theorem drainFrom_late (rows : List α) :
    drainFrom wanted (fun s a => .more (step s a)) endCancels false true n s
      (rows.map (quietPull : α → Pull α ε)) = noticed wanted n s rows := by
  induction rows generalizing n with
  | nil => rfl
  | cons b rows ih =>
    rw [List.map_cons]
    cases hw : wanted b with
    | true =>
      rw [drainFrom_wanted rfl rfl hw, noticed_of_wanted hw]
      exact drainFrom_stop
    | false =>
      rw [drainFrom_unwanted rfl rfl hw, noticed_of_unwanted hw]
      exact ih

/-- The run over a whole feed: the cancellation is noticed behind the first wanted row from `a` on,
and if there is none the end is reached. -/
theorem drain_askedDuring (before : List α) (a : α) (after : List α) (start : σ) :
    (askedDuring before a after : Feed α ε).drain wanted false (fun s a => .more (step s a)) start =
      noticed wanted before.length (((before ++ a :: after).filter wanted).foldl step start)
        (a :: after) := by
  obtain ⟨looks', hquiet⟩ := drainFrom_quiet wanted before
  rw [drain, askedDuring, hquiet, noticed_filter, Nat.zero_add]
  -- the token is looked at next behind `a` only if `a` is wanted
  cases hw : wanted a with
  | true =>
    rw [drainFrom_wanted (Bool.and_false _) rfl hw, noticed_of_wanted hw]
    exact drainFrom_stop
  | false =>
    rw [drainFrom_unwanted (Bool.and_false _) rfl hw, noticed_of_unwanted hw]
    exact drainFrom_late after

end

/-! ## Calls on a feed -/

theorem paginate_askedDuring (wanted : α → Bool) (r : Page.Request) (before : List α) (a : α)
    (after : List α) : (askedDuring before a after : Feed α ε).paginate wanted r false =
      noticed wanted before.length
        (RecordQuery.paginate ((before ++ a :: after).filter wanted) r) (a :: after) := by
  rw [paginate, drain_askedDuring]
  unfold noticed
  cases (a :: after).any wanted <;> rfl

theorem collect_askedDuring (wanted : α → Bool) (before : List α) (a : α) (after : List α) :
    (askedDuring before a after : Feed α ε).collect wanted false =
      ⟨.error .cancelled, true, pulledBy wanted before.length (a :: after)⟩ := by
  rw [collect_eq, drain_askedDuring]
  unfold noticed
  cases (a :: after).any wanted <;> rfl

end RecordQuery.Feed
