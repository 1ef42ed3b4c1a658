import RecordQuery.Proofs.Query.Cache
import RecordQuery.Proofs.Repository.Suspending
import RecordQuery.Sample

/-!
# What calls cost

A run of calls, blocking and suspending ones in any order, fetches rows once for each call that is
served and not at all for the others (`Repository.loads_eq_served`). A call is refused because of
its query, or because cancellation was asked for before it; the first reason comes before the
second. The rows themselves stay as they are.

What one call does is in `Repository.Keeps.call`: the invariant `Repository.Keeps` says what the
repository holds and how often its rows have been fetched. Whether the engine keeps plans makes no
difference, as `Engine.Sound.plan` says.
-/

namespace RecordQuery

variable {α β γ ε : Type}

/-! ## Tokens -/

/-- When cancellation of a suspending call is asked for: before the call, or while a row is on its
way, counted from zero, the end coming behind the last row. -/
structure Token where
  before : Bool
  during : Nat → Bool

namespace Feed

/-- The feed as a call with a token sees it. -/
def under (f : Feed α ε) (t : Token) : Feed α ε :=
  ⟨f.pulls.mapIdx fun i p => ⟨t.during i, p.row⟩, t.during f.pulls.length⟩

theorem loadPulls_congr {ps qs : List (Pull α ε)} (h : ps.map Pull.row = qs.map Pull.row) :
    loadPulls ps = loadPulls qs := by
  induction ps generalizing qs with
  | nil => rw [List.map_eq_nil_iff.1 h.symm]
  | cons p ps ih =>
    cases qs with
    | nil => cases h
    | cons q qs =>
      simp only [List.map_cons, List.cons.injEq] at h
      rw [loadPulls, loadPulls, h.1, ih h.2]

/-- A token does not change the rows. -/
theorem load_under (f : Feed α ε) (t : Token) : (f.under t).load = f.load :=
  loadPulls_congr (List.ext_getElem (by simp [under]) (by simp [under]))

end Feed

/-- The source as a call with a token sees it. -/
def Source.under (s : Source α ε) (t : Token) : Source α ε :=
  { s with rows := fun paths => (s.rows paths).under t }

namespace Repository

/-! ## Calls -/

/-- What a call asks for. -/
inductive Question (α : Type) where
  | get (keep : α → Bool)
  | list (p : Option (α → Bool)) (order : Option (α → α → Ordering)) (page : Page.Request)
  | listByQuery (q : Query) (p : Option (α → Bool)) (page : Page.Request)
  | count (p : Option (α → Bool))

/-- What a call answers. -/
inductive Answer (α : Type) where
  | found (row : Option α)
  | page (page : Page α)
  | count (n : UInt64)

/-- A call with the paths that it includes. A suspending call has a token. -/
structure Call (α : Type) where
  question : Question α
  paths : List String
  token : Option Token

/-- A reply with another result. -/
def Reply.map (f : β → γ) (r : Reply α ε β) : Reply α ε γ :=
  ⟨f <$> r.result, r.pulled, r.repository⟩

/-- The blocking call for a question. -/
def Blocking.ask (r : Repository α ε) (paths : List String) : Question α → Reply α ε (Answer α)
  | .get keep => Reply.map .found (get r keep paths)
  | .list p order page => Reply.map .page (list r p order paths page)
  | .listByQuery q p page => Reply.map .page (listByQuery r q p paths page)
  | .count p => Reply.map .count (count r p paths)

/-- The suspending call for a question. -/
def Suspending.ask (r : Repository α ε) (paths : List String) (cancelled : Bool) :
    Question α → Reply α ε (Answer α)
  | .get keep => Reply.map .found (get r keep paths cancelled)
  | .list p order page => Reply.map .page (list r p order paths page cancelled)
  | .listByQuery q p page => Reply.map .page (listByQuery r q p paths page cancelled)
  | .count p => Reply.map .count (count r p paths cancelled)

/-- The reply to a call. -/
def call (r : Repository α ε) (c : Call α) : Reply α ε (Answer α) :=
  match c.token with
  | none => Blocking.ask r c.paths c.question
  | some t => Suspending.ask { r with source := r.source.under t } c.paths t.before c.question

/-- The repository after calls that are made one after another. -/
def afterCalls (r : Repository α ε) (cs : List (Call α)) : Repository α ε :=
  cs.foldl (fun r c => (r.call c).repository) r

theorem afterCalls_cons (r : Repository α ε) (c : Call α) (cs : List (Call α)) :
    r.afterCalls (c :: cs) = (r.call c).repository.afterCalls cs :=
  rfl

/-- The query of a question that has one. -/
def Question.query? : Question α → Option Query
  | .listByQuery q _ _ => some q
  | _ => none

/-- Whether the query of a question, if it has one, is planned. -/
def Question.isPlanned (s : Schema α) (l : Limits) (question : Question α) : Bool :=
  question.query?.all fun q => (Engine.fresh s l q).toBool

/-- Whether a call is neither refused because of its query nor cancelled before it. -/
def Call.isServed (s : Schema α) (l : Limits) (c : Call α) : Bool :=
  c.question.isPlanned s l && !c.token.any Token.before

/-! ## One call -/

/-- The repository holds these rows, plans queries as an engine of this schema and these limits
does, and has fetched its rows as often as `fetches` says. -/
structure Keeps (s : Schema α) (l : Limits) (rows : List α) (fetches : List (List String))
    (r : Repository α ε) : Prop where
  sound : r.engine.Sound
  schema : r.engine.schema = s
  limits : r.engine.limits = l
  rows : ∀ paths, (r.source.rows paths).load = .ok rows
  fetches : r.source.fetches = fetches

variable {s : Schema α} {l : Limits} {rows : List α} {fetches : List (List String)}
  {r r' : Repository α ε} {paths : List String}

theorem Keeps.under (h : r.Keeps s l rows fetches) (t : Token) :
    Keeps s l rows fetches { r with source := r.source.under t } where
  sound := h.sound
  schema := h.schema
  limits := h.limits
  rows paths := by rw [← h.rows paths]; exact Feed.load_under _ t
  fetches := h.fetches

theorem Keeps.fetch (h : r.Keeps s l rows fetches) (paths : List String) :
    Keeps s l rows (paths :: fetches) { r with source := (r.source.fetch paths).2 } where
  sound := h.sound
  schema := h.schema
  limits := h.limits
  rows := h.rows
  fetches := congrArg (paths :: ·) h.fetches

theorem Keeps.plan (h : r.Keeps s l rows fetches) (q : Query) :
    (r.plan q).1 = Engine.fresh s l q ∧ Keeps s l rows fetches (r.plan q).2 := by
  obtain ⟨hout, hsound, hschema, hlimits⟩ := h.sound.plan q
  rw [h.schema, h.limits] at hout
  exact ⟨hout, hsound, hschema.trans h.schema, hlimits.trans h.limits, h.rows, h.fetches⟩

theorem Keeps.plan_eq (h : r.Keeps s l rows fetches) (q : Query) :
    r.plan q = (Engine.fresh s l q, (r.plan q).2) :=
  Prod.ext (h.plan q).1 rfl

/-- A blocking call fetches rows if its query is planned. -/
theorem Keeps.blocking_ask (h : r.Keeps s l rows fetches) (paths : List String)
    (question : Question α) :
    Keeps s l rows (if question.isPlanned s l then paths :: fetches else fetches)
      (Blocking.ask r paths question).repository := by
  cases question with
  | get keep => exact h.fetch paths
  | list p order page => exact h.fetch paths
  | count p => exact h.fetch paths
  | listByQuery q p page =>
    have hplan := h.plan_eq q
    have hkeeps := (h.plan q).2
    have hplanned : Question.isPlanned s l (.listByQuery q p page) =
        (Engine.fresh s l q).toBool := rfl
    cases hq : Engine.fresh s l q with
    | error e =>
      rw [hq] at hplan hplanned
      rw [Blocking.ask, Blocking.listByQuery_refused hplan, hplanned]
      exact hkeeps
    | ok plan =>
      rw [hq] at hplan hplanned
      rw [Blocking.ask, Blocking.listByQuery_planned hplan, hplanned]
      exact hkeeps.fetch paths

/-- A suspending answer fetches rows unless cancellation was asked for before. -/
theorem Keeps.answer (h : r.Keeps s l rows fetches) (paths : List String) (cancelled : Bool)
    (f : Feed α ε → Drained β ε) (g : β → γ) :
    Keeps s l rows (if !cancelled then paths :: fetches else fetches)
      (Reply.map g (Suspending.answer r paths cancelled f)).repository := by
  cases cancelled with
  | true => exact h
  | false => exact h.fetch paths

/-- A suspending call that is not cancelled before it fetches rows if its query is planned. -/
theorem Keeps.suspending_ask (h : r.Keeps s l rows fetches) (paths : List String)
    (cancelled : Bool) (question : Question α) :
    Keeps s l rows (if question.isPlanned s l && !cancelled then paths :: fetches else fetches)
      (Suspending.ask r paths cancelled question).repository := by
  cases question with
  | get keep => exact h.answer paths cancelled _ Answer.found
  | list p order page => exact h.answer paths cancelled _ Answer.page
  | count p => exact h.answer paths cancelled _ Answer.count
  | listByQuery q p page =>
    have hplan := h.plan_eq q
    have hkeeps := (h.plan q).2
    have hplanned : Question.isPlanned s l (.listByQuery q p page) =
        (Engine.fresh s l q).toBool := rfl
    cases hq : Engine.fresh s l q with
    | error e =>
      -- refused before cancellation is looked at
      rw [hq] at hplan hplanned
      rw [Suspending.ask, Suspending.listByQuery_refused hplan, hplanned]
      exact hkeeps
    | ok plan =>
      rw [hq] at hplan hplanned
      rw [Suspending.ask, Suspending.listByQuery_planned hplan, hplanned]
      exact hkeeps.answer paths cancelled _ Answer.page

/-- A call fetches rows if it is served. -/
theorem Keeps.call (h : r.Keeps s l rows fetches) (c : Call α) :
    Keeps s l rows (if c.isServed s l then c.paths :: fetches else fetches)
      (r.call c).repository := by
  obtain ⟨question, paths, _ | t⟩ := c
  · have hserved : Call.isServed s l ⟨question, paths, none⟩ = question.isPlanned s l :=
      Bool.and_true _
    rw [hserved]
    exact h.blocking_ask paths question
  · exact (h.under t).suspending_ask paths t.before question

/-- A call whose query is refused says why, also when cancellation was asked for before it. -/
theorem Keeps.call_refused (h : r.Keeps s l rows fetches) {q : Query} {p : Option (α → Bool)}
    {page : Page.Request} {e : QueryError} (hq : Engine.fresh s l q = .error e)
    (paths : List String) (token : Option Token) :
    (r.call ⟨.listByQuery q p page, paths, token⟩).result = .error (.query e) := by
  cases token with
  | none =>
    have hplan := h.plan_eq q
    rw [hq] at hplan
    rw [Repository.call, Blocking.ask, Blocking.listByQuery_refused hplan]
    rfl
  | some t =>
    have hplan := (h.under t).plan_eq q
    rw [hq] at hplan
    show (Reply.map Answer.page (Suspending.listByQuery _ q p paths page t.before)).result = _
    rw [Suspending.listByQuery_refused hplan]
    rfl

/-! ## Runs of calls -/

/-- A run of calls fetches rows once for each call that is served. -/
theorem Keeps.afterCalls (h : r.Keeps s l rows fetches) (cs : List (Call α)) :
    Keeps s l rows (((cs.filter (·.isServed s l)).map Call.paths).reverse ++ fetches)
      (r.afterCalls cs) := by
  induction cs generalizing r fetches with
  | nil => exact h
  | cons c cs ih =>
    have hrest := ih (h.call c)
    rw [← afterCalls_cons] at hrest
    cases hc : c.isServed s l <;> simpa [hc] using hrest

theorem keeps_ofList (s : Schema α) (l : Limits) (c : CacheSettings) (rows : List α) :
    Keeps s l rows [] (⟨.ofList rows, .ofSettings s l c⟩ : Repository α ε) where
  sound := Engine.sound_ofSettings s l c
  schema := rfl
  limits := rfl
  rows _ := Feed.load_ofList rows
  fetches := rfl

/-- After calls in any order and of either form, the rows have been fetched once for each call that
was served, whether or not the engine keeps plans, and are what they were. The next call that asks
for a query which is not planned is told why, whatever its token says. -/
theorem loads_eq_served (s : Schema α) (l : Limits) (settings : CacheSettings) (rows : List α)
    (cs : List (Call α)) :
    let r : Repository α ε := afterCalls ⟨.ofList rows, .ofSettings s l settings⟩ cs
    r.source.loads = cs.countP (·.isServed s l) ∧
    (∀ paths, (r.source.rows paths).load = .ok rows) ∧
    ∀ q e, Engine.fresh s l q = .error e → ∀ p page paths token,
      (r.call ⟨.listByQuery q p page, paths, token⟩).result = .error (.query e) := by
  intro r
  have hkeeps : Keeps s l rows _ r := (keeps_ofList s l settings rows).afterCalls cs
  refine ⟨?_, hkeeps.rows, fun q e hq p page paths token => hkeeps.call_refused hq paths token⟩
  rw [Source.loads, hkeeps.fetches]
  simp [List.countP_eq_length_filter]

/-- A query for a field that people do not have. -/
def byHeight : Query := ⟨none, [⟨"height", "desc"⟩]⟩

/-- One call that is answered, one that is refused, one that was cancelled before it and one that is
cancelled while the first row is on its way. -/
def sampleCalls : List (Call Person) :=
  [⟨.count none, [], none⟩, ⟨.listByQuery byHeight none .first, [], none⟩,
   ⟨.count none, [], some ⟨true, fun _ => true⟩⟩, ⟨.count none, [], some ⟨false, fun _ => true⟩⟩]

theorem loads_eq_served_sampleCalls :
    let engine : Engine Person := .ofSettings Person.schema {} { enabled := true }
    let r : Repository Person Empty := afterCalls ⟨.ofList Person.people, engine⟩ sampleCalls
    r.source.loads = 2 ∧ ∃ e, ∀ page paths token,
      (r.call ⟨.listByQuery byHeight none page, paths, some token⟩).result = .error (.query e) :=
  have h := loads_eq_served Person.schema {} { enabled := true } Person.people sampleCalls
  ⟨h.1, _, fun page paths token => h.2.2 byHeight _ rfl none page paths (some token)⟩

end Repository

end RecordQuery
