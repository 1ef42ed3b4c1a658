import RecordQuery.Proofs.Feed.Drain
import RecordQuery.Repository.Blocking
import RecordQuery.Repository.Suspending

/-!
# Suspending calls

Whatever happens while a suspending call takes its rows, it never answers from a part of them
(`Suspending.never_partial`), and as long as nobody asks for cancellation it answers as the blocking
call does (`Suspending.eq_blocking`).

Both follow from how each call reads a feed: `Reads g value` says that what `g` makes of a feed is
the `value` of all its rows, if it makes anything of it.
-/

namespace RecordQuery.Repository

variable {α ε β : Type}

/-- A repository with other rows. -/
def withRows (r : Repository α ε) (rows : List α) : Repository α ε :=
  { r with source := .ofList rows }

/-! ## Calls with a plan -/

section

variable {r r' : Repository α ε} {q : Query} {e : QueryError} {plan : Plan α}
  {p : Option (α → Bool)} {paths : List String} {page : Page.Request} {cancelled : Bool}

theorem Blocking.listByQuery_refused (h : r.plan q = (.error e, r')) :
    listByQuery r q p paths page = r'.refuse (.query e) := by
  rw [listByQuery, h]

theorem Blocking.listByQuery_planned (h : r.plan q = (.ok plan, r')) :
    listByQuery r q p paths page = answer r' paths fun rows => RecordQuery.paginate
      (plan.order.sort (rows.filter fun a => plan.predicate.accepts a && accepts p a)) page := by
  rw [listByQuery, h]

theorem Suspending.listByQuery_refused (h : r.plan q = (.error e, r')) :
    listByQuery r q p paths page cancelled = r'.refuse (.query e) := by
  rw [listByQuery, h]

theorem Suspending.listByQuery_planned (h : r.plan q = (.ok plan, r')) :
    listByQuery r q p paths page cancelled = answer r' paths cancelled fun feed =>
      let wanted := fun a => plan.predicate.accepts a && accepts p a
      if plan.order.isIdentity then feed.paginate wanted page false
      else pageOfSorted plan.order.sort wanted page feed := by
  rw [listByQuery, h]

/-- Planning does not touch the source. -/
theorem source_of_plan {x : Except QueryError (Plan α)} (h : r.plan q = (x, r')) :
    r'.source = r.source :=
  (congrArg (fun reply => reply.2.source) h).symm

theorem plan_withRows {x : Except QueryError (Plan α)} (h : r.plan q = (x, r')) (rows : List α) :
    (r.withRows rows).plan q = (x, r'.withRows rows) :=
  congrArg (fun reply => (reply.1, reply.2.withRows rows)) h

end

namespace Suspending

/-! ## How calls read a feed -/

/-- What `g` makes of a feed is the `value` of all rows. -/
def Reads (g : Feed α ε → Drained β ε) (value : List α → β) : Prop :=
  ∀ feed, (g feed).Truthful feed false fun b => value <$> feed.load = .ok b

theorem reads_paginate (wanted : α → Bool) (page : Page.Request) :
    Reads (fun feed : Feed α ε => feed.paginate wanted page false)
      fun rows => RecordQuery.paginate (rows.filter wanted) page :=
  fun _ => Feed.paginate_truthful

theorem reads_pageOfSorted (sort : List α → List α) (wanted : α → Bool) (page : Page.Request) :
    Reads (pageOfSorted sort wanted page : Feed α ε → Drained (Page α) ε)
      fun rows => RecordQuery.paginate (sort (rows.filter wanted)) page := by
  refine fun feed => Feed.collect_truthful.map fun rows hrows => ?_
  obtain ⟨all, hall, rfl⟩ := Except.map_eq_ok.1 hrows
  rw [hall]
  rfl

theorem reads_list (p : Option (α → Bool)) (order : Option (α → α → Ordering))
    (page : Page.Request) :
    Reads (fun feed : Feed α ε => match order with
        | none => feed.paginate (accepts p) page false
        | some _ => pageOfSorted (sortBy order) (accepts p) page feed)
      fun rows => RecordQuery.paginate (sortBy order (rows.filter (accepts p))) page := by
  cases order with
  | none => exact reads_paginate _ _
  | some o => exact reads_pageOfSorted _ _ _

theorem reads_listByQuery (plan : Plan α) (p : Option (α → Bool)) (page : Page.Request) :
    Reads (fun feed : Feed α ε =>
        let wanted := fun a => plan.predicate.accepts a && accepts p a
        if plan.order.isIdentity then feed.paginate wanted page false
        else pageOfSorted plan.order.sort wanted page feed)
      fun rows => RecordQuery.paginate
        (plan.order.sort (rows.filter fun a => plan.predicate.accepts a && accepts p a)) page := by
  cases hid : plan.order.isIdentity with
  | false => simpa [hid] using reads_pageOfSorted _ _ _
  | true => simpa [hid, RowOrder.sort] using reads_paginate _ _

theorem foldl_count (keep : α → Bool) (rows : List α) (n : UInt64) :
    rows.foldl (fun n a => if keep a then n + 1 else n) n =
      n + UInt64.ofNat (rows.filter keep).length := by
  induction rows generalizing n with
  | nil => simp
  | cons a rows ih =>
    rw [List.foldl_cons, ih]
    by_cases h : keep a = true
    · simp [h, UInt64.ofNat_add, UInt64.add_assoc, UInt64.add_comm]
    · simp [h]

theorem reads_count (p : Option (α → Bool)) :
    Reads (fun feed : Feed α ε =>
        let d := feed.drain (fun _ => true) false
          (fun n a => .more (if accepts p a then n + 1 else n)) (0 : UInt64)
        match d.result with
        | .error e => { d with result := .error e }
        | .ok n => { d with result := if d.cancelled then .error .cancelled else .ok n })
      fun rows => UInt64.ofNat (rows.filter (accepts p)).length := by
  intro feed
  have h : ((feed.drain (fun _ => true) false
      (fun n a => .more (if accepts p a then n + 1 else n)) (0 : UInt64)).settle id).Truthful feed
      false fun n => (fun rows => UInt64.ofNat (rows.filter (accepts p)).length) <$> feed.load =
        .ok n := by
    refine Feed.drain_more_truthful.settle fun n hn => ?_
    obtain ⟨rows, hrows, rfl⟩ := Except.map_eq_ok.1 hn
    rw [hrows, List.filter_true, foldl_count, UInt64.zero_add]
    rfl
  dsimp only
  generalize feed.drain _ _ _ _ = d at h ⊢
  obtain ⟨result, late, pulled⟩ := d
  cases result <;> exact h

/-! ## Never a part -/

/-- What a reply says is true of the feed: a result is `Right`, the error of a query is one that it
is to be `Refused` with, a fault is the first one of the feed, and cancellation has been asked for by
the pulls that were taken. -/
structure Truthful (feed : Feed α ε) (cancelled : Bool) (Refused : QueryError → Prop)
    (Right : β → Prop) (reply : Reply α ε β) : Prop where
  ok : ∀ b, reply.result = .ok b → Right b
  query : ∀ e, reply.result = .error (.query e) → Refused e
  source : ∀ e, reply.result = .error (.source e) → feed.load = .error e
  cancelled : reply.result = .error .cancelled → feed.AskedBy cancelled reply.pulled

theorem answer_truthful {r : Repository α ε} {paths : List String} {cancelled : Bool}
    {g : Feed α ε → Drained β ε} {Refused : QueryError → Prop} {Right Right' : β → Prop}
    (hg : (g (r.source.rows paths)).Truthful (r.source.rows paths) false Right)
    (hright : ∀ b, Right b → Right' b) :
    Truthful (r.source.rows paths) cancelled Refused Right' (answer r paths cancelled g) := by
  cases cancelled with
  | true => exact ⟨nofun, nofun, nofun, fun _ => .inl rfl⟩
  | false =>
    show Truthful _ _ _ _ ⟨(g (r.source.rows paths)).result.mapError .ofInterruption,
      (g (r.source.rows paths)).pulled, { r with source := (r.source.fetch paths).2 }⟩
    cases hres : (g (r.source.rows paths)).result with
    | ok b =>
      refine ⟨fun b' hb => ?_, nofun, nofun, nofun⟩
      obtain rfl := Except.ok.inj hb
      exact hright b (hg.ok b hres)
    | error e =>
      cases e with
      | source e =>
        refine ⟨nofun, nofun, fun e' he => ?_, nofun⟩
        cases he
        exact hg.source e hres
      | cancelled =>
        refine ⟨nofun, nofun, nofun, fun _ => ?_⟩
        exact (hg.asked (hg.stopped hres)).resolve_right (by simp [hres])

theorem blocking_answer_withRows (r : Repository α ε) (rows : List α) (paths : List String)
    (value : List α → β) :
    (Blocking.answer (r.withRows rows) paths value).result = .ok (value rows) := by
  show (value <$> (Feed.ofList rows : Feed α ε).load).mapError RepositoryError.source =
    .ok (value rows)
  rw [Feed.load_ofList]
  rfl

/-- The blocking call's answer from all rows of a feed. -/
def IsFullAnswer (r : Repository α ε) (feed : Feed α ε) (call : Repository α ε → Reply α ε β)
    (b : β) : Prop :=
  ∃ rows, feed.load = .ok rows ∧ (call (r.withRows rows)).result = .ok b

theorem isFullAnswer {r : Repository α ε} {feed : Feed α ε} {paths : List String}
    {value : List α → β} {b : β} (h : value <$> feed.load = .ok b) :
    IsFullAnswer r feed (fun r => Blocking.answer r paths value) b := by
  obtain ⟨rows, hrows, rfl⟩ := Except.map_eq_ok.1 h
  exact ⟨rows, hrows, blocking_answer_withRows r rows paths value⟩

/-- No call answers from a part of the rows, whenever cancellation is asked for: what is answered is
the blocking answer from all rows of a feed without faults. A row that `get` finds is the first one
of its kind, and if it finds none there is none. -/
theorem never_partial (r : Repository α ε) (q : Query) (p : Option (α → Bool)) (keep : α → Bool)
    (order : Option (α → α → Ordering)) (paths : List String) (page : Page.Request)
    (cancelled : Bool) :
    let feed := r.source.rows paths
    Truthful feed cancelled (fun _ => False)
        (IsFullAnswer r feed fun r => Blocking.list r p order paths page)
        (list r p order paths page cancelled) ∧
      Truthful feed cancelled (fun e => (r.plan q).1 = .error e)
        (IsFullAnswer r feed fun r => Blocking.listByQuery r q p paths page)
        (listByQuery r q p paths page cancelled) ∧
      Truthful feed cancelled (fun _ => False)
        (IsFullAnswer r feed fun r => Blocking.count r p paths) (count r p paths cancelled) ∧
      Truthful feed cancelled (fun _ => False)
        (fun found => feed.arrived.find? keep = found ∧
          (found = none → feed.load = .ok feed.arrived))
        (get r keep paths cancelled) := by
  refine ⟨?_, ?_, ?_, ?_⟩
  · exact answer_truthful (reads_list p order page _) fun _ => isFullAnswer
  · rcases hplan : r.plan q with ⟨e | plan, r'⟩
    · rw [listByQuery_refused hplan]
      refine ⟨nofun, fun e' he => ?_, nofun, nofun⟩
      cases he
      rfl
    · rw [listByQuery_planned hplan, ← source_of_plan hplan]
      refine answer_truthful (reads_listByQuery plan p page _) fun b hb => ?_
      obtain ⟨rows, hrows, hanswer⟩ : IsFullAnswer r' (r'.source.rows paths)
        (fun r => Blocking.answer r paths _) b := isFullAnswer hb
      refine ⟨rows, hrows, ?_⟩
      show (Blocking.listByQuery (r.withRows rows) q p paths page).result = .ok b
      rw [Blocking.listByQuery_planned (plan_withRows hplan rows)]
      exact hanswer
  · exact answer_truthful (reads_count p _) fun _ => isFullAnswer
  · exact answer_truthful Feed.drain_find_truthful fun _ => id

/-! ## As the blocking calls -/

theorem answer_eq_blocking {r : Repository α ε} {paths : List String}
    {g : Feed α ε → Drained β ε} {value : List α → β} {Right : β → Prop}
    (hquiet : (r.source.rows paths).Quiet)
    (hg : (g (r.source.rows paths)).Truthful (r.source.rows paths) false Right)
    (hright : ∀ b, Right b → value <$> (r.source.rows paths).load = .ok b) :
    (answer r paths false g).result = (Blocking.answer r paths value).result := by
  have h : Truthful (r.source.rows paths) false (fun _ => False)
      (fun b => value <$> (r.source.rows paths).load = .ok b) (answer r paths false g) :=
    answer_truthful hg hright
  show _ = (value <$> (r.source.rows paths).load).mapError RepositoryError.source
  cases hres : (answer r paths false g).result with
  | ok b => rw [h.ok b hres]; rfl
  | error e =>
    cases e with
    | query e => exact (h.query e hres).elim
    | source e => rw [h.source e hres]; rfl
    | cancelled => exact (hquiet.not_askedBy _ (h.cancelled hres)).elim

/-- While nobody asks for cancellation, suspending calls answer as blocking ones do; `get` needs for
this that no row before a fault is the one that it looks for. -/
theorem eq_blocking (r : Repository α ε) (q : Query) (p : Option (α → Bool)) (keep : α → Bool)
    (order : Option (α → α → Ordering)) (paths : List String) (page : Page.Request)
    (hquiet : (r.source.rows paths).Quiet) :
    (list r p order paths page false).result = (Blocking.list r p order paths page).result ∧
    (listByQuery r q p paths page false).result =
      (Blocking.listByQuery r q p paths page).result ∧
    (count r p paths false).result = (Blocking.count r p paths).result ∧
    ((∀ fault, (r.source.rows paths).load = .error fault →
        ∀ a ∈ (r.source.rows paths).arrived, keep a = false) →
      (get r keep paths false).result = (Blocking.get r keep paths).result) := by
  refine ⟨?_, ?_, ?_, fun hfault => ?_⟩
  · exact answer_eq_blocking hquiet (reads_list p order page _) fun _ => id
  · rcases hplan : r.plan q with ⟨e | plan, r'⟩
    · rw [listByQuery_refused hplan, Blocking.listByQuery_refused hplan]
    · rw [← source_of_plan hplan] at hquiet
      rw [listByQuery_planned hplan, Blocking.listByQuery_planned hplan]
      exact answer_eq_blocking hquiet (reads_listByQuery plan p page _) fun _ => id
  · exact answer_eq_blocking hquiet (reads_count p _) fun _ => id
  · refine answer_eq_blocking hquiet Feed.drain_find_truthful fun found hfound => ?_
    cases hload : (r.source.rows paths).load with
    | ok rows =>
      have harrived : (r.source.rows paths).arrived = rows := Feed.arrivedIn_of_loadPulls hload
      rw [← hfound.1, harrived]
      rfl
    | error fault =>
      have hnone : (r.source.rows paths).arrived.find? keep = none := by
        simpa using hfault fault hload
      rw [hfound.2 (hfound.1.symm.trans hnone)] at hload
      cases hload

/-- A repository whose source breaks off after two rows. -/
def brokenOff : Repository Nat String where
  source := { rows := fun _ => ⟨[⟨false, .ok 1⟩, ⟨false, .ok 2⟩, ⟨false, .error "lost"⟩], false⟩ }
  engine := .ofSettings (.empty "number") {} {}

theorem eq_blocking_brokenOff :
    (get brokenOff (· == 3) [] false).result = (Blocking.get brokenOff (· == 3) []).result ∧
      (Blocking.get brokenOff (· == 3) []).result = .error (.source "lost") := by
  refine ⟨?_, rfl⟩
  refine (eq_blocking brokenOff Query.neutral none (· == 3) none [] .first ⟨?_, rfl⟩).2.2.2 ?_
  · decide
  · intro _ _
    decide

end Suspending

end RecordQuery.Repository
