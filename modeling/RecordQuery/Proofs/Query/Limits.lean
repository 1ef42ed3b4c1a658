import RecordQuery.App
import RecordQuery.Proofs.Query.Concern
import RecordQuery.Proofs.Query.RoundTrip
import RecordQuery.Sample

/-!
# Queries within limits

The shape of a query is looked at more than once on its way to a plan: by the reader, by whatever
puts a query together, by the engine and at last by validation, which counts for itself how deep it
is. All of them agree (`Limits.guards_agree`). What the first ones let through passes `Limits.check`,
and a query that passes is not refused for its shape any more, as all limits are at most those of
validation.
-/

namespace RecordQuery

theorem Query.check_of_ofText {l : Limits} {text : String} {q : Query}
    (h : Query.ofText l text = .ok q) : l.check q = .ok () := by
  simp only [ofText, Except.bind_eq_ok, Except.pure_eq_ok] at h
  obtain ⟨_, -, q', -, _, hcheck, rfl⟩ := h
  exact hcheck

namespace App

variable {l : Limits} {storage : Storage} {a : QueryArguments} {q : Query}

/-- The query of a query file or of a filter. -/
def submitted (l : Limits) (storage : Storage) (a : QueryArguments) : Except Error Query :=
  match a.queryFile, a.filter with
  | some path, _ => do
    let text ← (storage path).text.mapError (Error.queryFile path)
    (Query.ofText l text).mapError Error.query
  | none, some text => do
    let f ← (Filter.ofText l text).mapError Error.query
    pure ⟨some f, []⟩
  | none, none => pure Query.neutral

/-- What is put together in the end is the query that was submitted, with more sort keys. -/
theorem buildQuery_eq : buildQuery l storage a = do
    let q ← submitted l storage a
    (l.check ⟨q.filter, q.sort ++ a.sort⟩).mapError Error.query
    return ⟨q.filter, q.sort ++ a.sort⟩ := by
  obtain ⟨data, queryFile, filter, sort, index, size⟩ := a
  cases queryFile with
  | some path => simp [buildQuery, submitted]
  | none =>
    cases filter with
    | some text => simp [buildQuery, submitted]
    | none => rfl

/-- However a query is put together, it is looked at once more with all its sort keys. -/
theorem check_of_buildQuery (h : buildQuery l storage a = .ok q) : l.check q = .ok () := by
  simp only [buildQuery_eq, Except.bind_eq_ok, Except.pure_eq_ok, Except.mapError_eq_ok] at h
  obtain ⟨q', -, _, hcheck, rfl⟩ := h
  exact hcheck

end App

namespace Limits

variable {α : Type} {l : Limits} {q : Query}

/-- A query within limits is nested no deeper than validation has room for. -/
theorem depth_le_of_check (h : l.check q = .ok ()) {f : Filter} (hf : q.filter = some f) :
    f.depth ≤ 64 := by
  have hdepth := (check_eq_ok.1 h).1
  rw [Query.depth, hf] at hdepth
  exact Nat.le_trans hdepth (Nat.min_le_right _ _)

/-- An engine refuses a query within its limits for what it says only. -/
theorem plan_failsWith_content {e : Engine α} (h : e.limits.check q = .ok ()) :
    (e.plan q).1.FailsWith (·.concern = .content) := by
  intro err herr
  rcases e.plan_failsWith q err herr with hcheck | hplan
  · rw [h] at hcheck
    cases hcheck
  · rcases Plan.ofQuery_failsWith e.schema q err hplan with hcontent | ⟨-, f, hf, hdeep⟩
    · exact hcontent
    · exact absurd (depth_le_of_check h hf) (Nat.not_le_of_lt hdeep)

/-- Whatever a reader or a command line gives under limits is within the limits, also with more sort
keys behind it; an engine with these limits refuses no such query for its shape; and validation has
room for exactly the filters that are nested at most as deep as limits can allow. -/
theorem guards_agree (l : Limits) :
    (∀ q, l.check q = .ok () ↔
      q.depth ≤ min l.maxFilterDepth 64 ∧ q.sort.length ≤ l.maxSortKeys) ∧
    (∀ text q, Query.ofText l text = .ok q → l.check q = .ok ()) ∧
    (∀ storage a q, App.buildQuery l storage a = .ok q → l.check q = .ok ()) ∧
    (∀ {α : Type} (e : Engine α) (q : Query), e.limits = l → l.check q = .ok () →
      ∀ max count, (e.plan q).1 ≠ .error (.filterTooDeep max) ∧
        (e.plan q).1 ≠ .error (.tooManySortKeys max count)) ∧
    ∀ f : Filter, (64 < f.depth → ∃ err, Clause.ofFilter? f = .error err) ∧
      (f.depth ≤ 64 → ∀ max, Clause.ofFilter? f ≠ .error (.filterTooDeep max)) := by
  refine ⟨fun q => check_eq_ok, fun text q => Query.check_of_ofText,
    fun storage a q => App.check_of_buildQuery, ?_, ?_⟩
  · intro α e q hl hcheck max count
    subst hl
    have hcontent := plan_failsWith_content hcheck
    constructor
    · intro h
      cases hcontent _ h
    · intro h
      cases hcontent _ h
  · intro f
    constructor
    · intro hdeep
      cases h : Clause.ofFilter? f with
      | error err => exact ⟨err, rfl⟩
      | ok c =>
        have hroom : f.depth ≤ 64 := (Clause.ofFilterIn?_succeeds_iff.1 ⟨c, h⟩).1
        omega
    · intro hdepth max h
      rcases Clause.ofFilterIn?_failsWith _ h with hcontent | ⟨-, hdeep⟩
      · cases hcontent
      · exact absurd hdepth (Nat.not_le_of_lt hdeep)

/-- Adults as the command line asks for them, with two sort keys. -/
def adultsByName : QueryArguments :=
  { data := "people.json", filter := some "\x7b\"field\":\"age\",\"op\":\"gte\",\"value\":18\x7d"
    sort := [⟨"name", "asc"⟩, ⟨"age", "desc"⟩] }

theorem guards_agree_adultsByName : ∃ q,
    App.buildQuery {} (fun _ => .unreadable .missing) adultsByName = .ok q ∧
    check {} q = .ok () ∧
    ∀ max count, ((Engine.ofSettings Person.schema {} {}).plan q).1 ≠ .error (.filterTooDeep max) ∧
      ((Engine.ofSettings Person.schema {} {}).plan q).1 ≠ .error (.tooManySortKeys max count) := by
  have hbuilds : (App.buildQuery {} (fun _ => .unreadable .missing) adultsByName).toOption.isSome =
      true := by
    decide +kernel
  obtain ⟨q, hbuilt⟩ := Option.isSome_iff_exists.1 hbuilds
  rw [Except.toOption_eq_some] at hbuilt
  obtain ⟨-, -, hchecked, hplanned, -⟩ := guards_agree {}
  have hcheck := hchecked _ _ _ hbuilt
  exact ⟨q, hbuilt, hcheck, hplanned _ _ rfl hcheck⟩

end Limits

end RecordQuery
