import RecordQuery.Proofs.Json.Token
import RecordQuery.Proofs.Page.Window
import RecordQuery.Proofs.Query.Limits
import RecordQuery.Proofs.Repository.Suspending
import RecordQuery.Proofs.Settings.Layers

/-!
# Pages under loaded settings

The bounds of pages are looked at when settings are loaded and again when a query is run. Under loaded
settings both agree (`Settings.load_usable`): no query that leaves the size of its page open is refused
for its page, and of the sizes that callers give, those from one up to the greatest size of the
settings are accepted.

What `Page.Params.resolve` accepts is said by `Page.Params.resolve_eq_ok`. Nothing else on the way to
an answer looks at the page (`App.query_failsWith`), which is the one that was settled
(`App.request_of_query`).
-/

namespace RecordQuery

/-! ## Requests -/

theorem Page.Request.ofNumbers_eq_ok {index size : UInt32} {r : Page.Request} :
    ofNumbers index size = .ok r ↔ r.index = index ∧ r.size = size := by
  unfold ofNumbers
  constructor
  · intro h
    split at h
    · cases h
      exact ⟨rfl, rfl⟩
    · cases h
  · intro h
    obtain ⟨rfl, rfl⟩ := h
    rw [dif_pos r.size_pos]
    rfl

theorem Page.Params.errors_eq_nil {p : Page.Params} :
    p.errors = [] ↔ p.index ≤ maxIndex ∧ 1 ≤ p.size ∧ p.size ≤ maxSize := by
  rw [← Settings.not_out_of_bounds_iff, ← UInt32.not_lt]
  unfold errors indexError? sizeError?
  by_cases hindex : maxIndex < p.index
  · simp [hindex]
  · by_cases hsize : p.size = 0 ∨ maxSize < p.size
    · simp [hindex, hsize]
    · simp [hindex, hsize]

theorem Page.Params.resolve_eq_ok {p : Page.Params} {max : UInt32} {r : Page.Request} :
    p.resolve max = .ok r ↔ r.index = p.index ∧ r.size = p.size ∧
      (p.index ≤ maxIndex ∧ 1 ≤ p.size ∧ p.size ≤ maxSize) ∧ p.size ≤ max := by
  rw [← errors_eq_nil]
  unfold resolve
  cases p.errors with
  | nil =>
    simp only [Except.ite_throw_eq_ok, Request.ofNumbers_eq_ok, UInt32.not_lt, true_and]
    rw [and_comm, and_assoc]
  | cons e es => simp

namespace Settings

variable {s : Settings}

/-- Under usable settings a page may have every index up to the greatest one, and as many rows as the
settings allow. -/
theorem Usable.request_eq_ok (h : s.Usable) {index : UInt32} (hindex : index ≤ Page.maxIndex)
    {size : Option UInt32} {r : Page.Request} :
    s.request index size = .ok r ↔ r.index = index ∧ r.size = size.getD s.defaultPageSize ∧
      1 ≤ r.size ∧ r.size ≤ s.maxPageSize := by
  rw [request, Page.Params.resolve_eq_ok]
  constructor
  · intro hr
    obtain ⟨rfl, hsize, ⟨-, hone, -⟩, hmax⟩ := hr
    rw [hsize]
    exact ⟨rfl, rfl, hone, hmax⟩
  · intro hr
    obtain ⟨rfl, hsize, hone, hmax⟩ := hr
    rw [hsize] at hone hmax
    exact ⟨rfl, hsize, ⟨hindex, hone, UInt32.le_trans hmax h.maxPageSize_le⟩, hmax⟩

theorem Usable.request_default (h : s.Usable) {index : UInt32} (hindex : index ≤ Page.maxIndex) :
    ∃ hpos, s.request index none = .ok ⟨index, s.defaultPageSize, hpos⟩ := by
  have hone := h.one_le_defaultPageSize
  have hpos : 0 < s.defaultPageSize := UInt32.lt_of_lt_of_le (by decide) hone
  exact ⟨hpos, (h.request_eq_ok hindex).2 ⟨rfl, rfl, hone, h.defaultPageSize_le⟩⟩

theorem Usable.exists_request_iff (h : s.Usable) {index : UInt32} (hindex : index ≤ Page.maxIndex)
    {size : UInt32} :
    (∃ r, s.request index (some size) = .ok r) ↔ 1 ≤ size ∧ size ≤ s.maxPageSize := by
  simp only [h.request_eq_ok hindex, Option.getD_some]
  constructor
  · intro hr
    obtain ⟨r, -, rfl, hbounds⟩ := hr
    exact hbounds
  · intro hbounds
    have hpos : 0 < size := UInt32.lt_of_lt_of_le (by decide) hbounds.1
    exact ⟨⟨index, size, hpos⟩, rfl, rfl, hbounds⟩

end Settings

/-! ## Errors of a query -/

namespace App

variable {l : Limits} {s : Settings} {storage : Storage} {a : QueryArguments} {cancelled : Bool}

/-- What of the request is refused, if it is the request. -/
def Error.concern? : Error → Option QueryError.Concern
  | .query e => some e.concern
  | .settings _ | .queryFile .. | .records _ | .cancelled => none

/-- A query is put together without a look at the page. -/
theorem buildQuery_failsWith :
    (buildQuery l storage a).FailsWith fun e => e.concern? ≠ some .page := by
  have hread : ∀ e : QueryError, e.concern = .text ∨ e.concern = .shape →
      (Error.query e).concern? ≠ some .page := by
    intro e he
    rcases he with h | h
    · simp [Error.concern?, h]
    · simp [Error.concern?, h]
  rw [buildQuery_eq]
  apply Except.FailsWith.bind
  · unfold submitted
    split
    · apply Except.FailsWith.bind
      · apply Except.FailsWith.mapError
        intro fault _
        simp [Error.concern?]
      intro text _
      apply Except.FailsWith.mapError
      exact (Query.ofText_failsWith l text).mono hread
    · apply Except.FailsWith.bind
      · apply Except.FailsWith.mapError
        exact (Filter.ofText_failsWith l _).mono hread
      intro f _
      exact Except.failsWith_pure _
    · exact Except.failsWith_pure _
  intro q _
  apply Except.FailsWith.bind
  · apply Except.FailsWith.mapError
    exact (l.check_failsWith _).mono fun e he => hread e (.inr he)
  intro _ _
  exact Except.failsWith_pure _

end App

/-- A plan is made without a look at the page. -/
theorem Repository.plan_failsWith {α ε : Type} (r : Repository α ε) (q : Query) :
    (r.plan q).1.FailsWith fun e => e.concern ≠ .page := by
  apply Except.FailsWith.map
  intro e he
  rcases r.engine.plan_failsWith q e he with hcheck | hplan
  · rw [r.engine.limits.check_failsWith q e hcheck]
    decide
  · rcases Plan.ofQuery_failsWith r.engine.schema q e hplan with hcontent | ⟨rfl, -⟩
    · rw [hcontent]
      decide
    · decide

/-- A suspending call answers with the page that it is asked for, and refuses a query if there is no
plan of it. -/
theorem Repository.Suspending.listByQuery_truthful {α ε : Type} (r : Repository α ε) (q : Query)
    (p : Option (α → Bool)) (paths : List String) (page : Page.Request) (cancelled : Bool) :
    Truthful (r.source.rows paths) cancelled (fun e => (r.plan q).1 = .error e)
      (fun b => b.request = page) (listByQuery r q p paths page cancelled) := by
  rcases hplan : r.plan q with ⟨e | plan, r'⟩
  · rw [listByQuery_refused hplan]
    refine ⟨nofun, ?_, nofun, nofun⟩
    intro e' he
    cases he
    rfl
  · rw [listByQuery_planned hplan, ← source_of_plan hplan]
    apply answer_truthful (reads_listByQuery plan p page _)
    intro b hb
    obtain ⟨rows, -, rfl⟩ := Except.map_eq_ok.1 hb
    exact request_paginate _ _

namespace App

/-- A query whose page is settled is not refused for its page. -/
theorem query_failsWith {r : Page.Request} (h : s.request a.index a.size = .ok r) :
    (query s storage a cancelled).FailsWith fun e => e.concern? ≠ some .page := by
  apply Except.FailsWith.bind buildQuery_failsWith
  intro q _
  apply Except.FailsWith.bind
  · rw [h]
    exact Except.failsWith_pure r
  intro page _
  apply Except.FailsWith.bind
  · apply Except.FailsWith.mapError
    intro e _
    simp [Error.concern?]
  intro rows _
  apply Except.FailsWith.mapError
  intro e he
  cases e with
  | query e =>
    have hplan := (Repository.Suspending.listByQuery_truthful _ q none [] page cancelled).query e he
    have hconcern := Repository.plan_failsWith _ q e hplan
    simpa [Error.ofRepository, Error.concern?] using hconcern
  | source fault => cases fault
  | cancelled => simp [Error.ofRepository, Error.concern?]

/-- A query is answered with the page that was settled. -/
theorem request_of_query {p : Page Record} (h : query s storage a cancelled = .ok p) :
    s.request a.index a.size = .ok p.request := by
  simp only [query, Except.bind_eq_ok, Except.mapError_eq_ok] at h
  obtain ⟨q, -, page, hpage, rows, -, hp⟩ := h
  have hp := (Repository.Suspending.listByQuery_truthful _ q none [] page cancelled).ok p hp
  rw [hpage, hp]

end App

namespace Settings

/-- Settings are loaded exactly if what the layers say can be used. Under loaded settings a query that
leaves the size of its page open is answered with a page of the default size and never refused for its
page, and a size is accepted if it is at most that of the settings and not zero. -/
theorem load_usable (storage : Storage) (o : Overrides) :
    (∀ s, load storage o = .ok s ↔
      ∃ f, Filed storage o.file f ∧ s.LayeredFrom o f ∧ s.Usable) ∧
    (∀ (f : Layer) (s : Settings), Filed storage o.file f → s.LayeredFrom o f → ¬ s.Usable →
      ∃ reason, load storage o = .error (.invalid reason)) ∧
    ∀ s, load storage o = .ok s → ∀ index ≤ Page.maxIndex,
      (∃ hpos, s.request index none = .ok ⟨index, s.defaultPageSize, hpos⟩) ∧
      (∀ size, (∃ r, s.request index (some size) = .ok r) ↔ 1 ≤ size ∧ size ≤ s.maxPageSize) ∧
      (∀ size r, s.request index (some size) = .ok r → r.index = index ∧ r.size = size) ∧
      ∀ (records : Storage) (a : QueryArguments) (cancelled : Bool), a.index = index →
        (∀ p, App.query s records a cancelled = .ok p → s.request index a.size = .ok p.request) ∧
        ∀ m, App.query s records a cancelled = .error (.query (.invalidPage m)) →
          ∃ size, a.size = some size ∧ ¬ (1 ≤ size ∧ size ≤ s.maxPageSize) := by
  refine ⟨fun s => load_eq_ok, ?_, ?_⟩
  · intro f s hf hs h
    obtain ⟨reason, -, hload⟩ := load_unusable hf hs h
    exact ⟨reason, hload⟩
  · intro s hload index hindex
    obtain ⟨-, -, -, h⟩ := load_eq_ok.1 hload
    refine ⟨h.request_default hindex, fun size => h.exists_request_iff hindex, ?_, ?_⟩
    · intro size r hr
      obtain ⟨hrindex, hrsize, -⟩ := (h.request_eq_ok hindex).1 hr
      exact ⟨hrindex, hrsize⟩
    · intro records a cancelled ha
      subst ha
      constructor
      · intro p hp
        exact App.request_of_query hp
      · intro m hm
        have hrefused : ∀ r, s.request a.index a.size ≠ .ok r := by
          intro r hr
          exact App.query_failsWith hr _ hm rfl
        cases hsize : a.size with
        | none =>
          obtain ⟨hpos, hr⟩ := h.request_default hindex
          rw [← hsize] at hr
          exact absurd hr (hrefused _)
        | some size =>
          refine ⟨size, rfl, fun hbounds => ?_⟩
          obtain ⟨r, hr⟩ := (h.exists_request_iff hindex).2 hbounds
          rw [← hsize] at hr
          exact hrefused r hr

/-- The text of a settings file. -/
def sampleText : String :=
  "\x7b\"query\":\x7b\"default_page_size\":25,\"max_page_size\":200\x7d," ++
    "\"cache\":\x7b\"enabled\":true\x7d\x7d"

/-- A settings file of the default name. -/
def sampleFile : Storage := fun path =>
  if path = "dynq.json" then .file (Json.bytesOf sampleText) else .unreadable .missing

/-- What the file says. -/
def sampleLayer : Layer :=
  { defaultPageSize := some 25, maxPageSize := some 200, cacheEnabled := some true }

theorem filed_sampleFile : Filed sampleFile none sampleLayer := by
  have hread : (Json.readText Layer.ofTree sampleText).toOption = some sampleLayer := by
    decide +kernel
  have hcontent : (sampleFile "dynq.json").text = .ok sampleText := by
    simp [sampleFile, Entry.text, Entry.bytes, Json.ofBytes?_bytesOf]
  exact .found hcontent (Except.toOption_eq_some.1 hread)

/-- What the caller gives counts before the file, if it fits to the rest of it. -/
theorem load_usable_sampleFile :
    (∃ s, load sampleFile { pageSize := some 50 } = .ok s ∧ s.cache = ⟨true, 1000, 0⟩ ∧
      (∃ hpos, s.request 3 none = .ok ⟨3, 50, hpos⟩) ∧
      (∃ r, s.request 3 (some 200) = .ok r) ∧ ¬ ∃ r, s.request 3 (some 201) = .ok r) ∧
    ∃ reason, load sampleFile { maxPageSize := some 20 } = .error (.invalid reason) := by
  constructor
  · obtain ⟨hloads, -, hpages⟩ := load_usable sampleFile { pageSize := some 50 }
    have husable : (layered { pageSize := some 50 } sampleLayer).Usable := check_eq_ok.1 rfl
    have hload := (hloads _).2 ⟨_, filed_sampleFile, layeredFrom_layered _ _, husable⟩
    obtain ⟨hdefault, hsizes, -, -⟩ := hpages _ hload 3 (by decide)
    refine ⟨_, hload, rfl, hdefault, (hsizes 200).2 (by decide), ?_⟩
    intro h
    exact absurd ((hsizes 201).1 h).2 (by decide)
  · obtain ⟨-, hfails, -⟩ := load_usable sampleFile { maxPageSize := some 20 }
    apply hfails _ _ filed_sampleFile (layeredFrom_layered _ _)
    intro h
    exact absurd h.defaultPageSize_le (by decide)

end Settings

end RecordQuery
