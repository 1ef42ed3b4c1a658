import RecordQuery.Proofs.Query.CanonicalKey
import RecordQuery.Proofs.Query.Spelling
import RecordQuery.Query.Engine

/-!
# Keeping plans is not seen

An engine that keeps plans answers every run of requests as one without a cache does, but for the
serial numbers of plans (`Engine.outcomes_cached`): with the same errors and with the same plans.

The invariant is `Engine.Sound`: whatever the cache holds under a key is the plan of a query with
that key. As a key determines its query up to spelling, and a plan does not depend on spelling, a
plan found in the cache is the plan of the query that it was looked up for (`Engine.Sound.hit`).
-/

namespace RecordQuery

variable {α : Type}

namespace PlanCache

variable {c : PlanCache α} {key key' : String} {p p' : SerialPlan α}

/-- What is found after an insertion is what was put in, or was there before. -/
theorem get?_insert (h : (c.insert key p).get? key' = some p') :
    key' = key ∧ p' = p ∨ c.get? key' = some p' := by
  unfold insert at h
  split_ifs at h
  · rw [get?, List.lookup_cons] at h
    split at h
    · next heq => exact .inl ⟨eq_of_beq heq, (Option.some.inj h).symm⟩
    · exact .inr h
  · exact .inr h

end PlanCache

namespace Engine

/-! ## Runs -/

/-- What an engine can be asked to do. -/
inductive Request where
  | clear
  | plan (q : Query)

/-- The engine's reply, if it is asked for a plan, and the engine afterwards. -/
def serve (e : Engine α) : Request → Option (Except QueryError (SerialPlan α)) × Engine α
  | .clear => (none, e.clear)
  | .plan q => (some (e.plan q).1, (e.plan q).2)

/-- The replies to requests that are made one after another. -/
def replies (e : Engine α) : List Request → List (Option (Except QueryError (SerialPlan α)))
  | [] => []
  | r :: rs => (e.serve r).1 :: replies (e.serve r).2 rs

/-- An error or a plan, without the serial number. -/
def outcome (reply : Except QueryError (SerialPlan α)) : Except QueryError (Plan α) :=
  SerialPlan.plan <$> reply

/-- The outcomes of requests that are made one after another. -/
def outcomes (e : Engine α) (rs : List Request) : List (Option (Except QueryError (Plan α))) :=
  (e.replies rs).map (Option.map outcome)

/-! ## The invariant -/

/-- The plan of a query within limits, made anew. -/
def fresh (s : Schema α) (l : Limits) (q : Query) : Except QueryError (Plan α) := do
  l.check q
  Plan.ofQuery s q

/-- What comes out of a request where no plan is kept. -/
def freshOutcome (s : Schema α) (l : Limits) : Request → Option (Except QueryError (Plan α))
  | .clear => none
  | .plan q => some (fresh s l q)

/-- Whatever the cache holds under a key is the plan of a query with that key. -/
def Sound (e : Engine α) : Prop :=
  ∀ c, e.cache = some c → ∀ key p, c.get? key = some p →
    ∃ q, key = q.canonicalKey ∧ Plan.ofQuery e.schema q = .ok p.plan

variable {e : Engine α}

/-- A plan that is found in the cache is the plan of the query that it was looked up for. -/
theorem Sound.hit (h : e.Sound) {q : Query} {p : SerialPlan α}
    (hp : (e.cache.bind fun c => c.get? q.canonicalKey) = some p) :
    Plan.ofQuery e.schema q = .ok p.plan := by
  obtain ⟨c, hc, hget⟩ := Option.bind_eq_some_iff.1 hp
  obtain ⟨q', hkey, hplan⟩ := h c hc _ p hget
  rw [← Except.toOption_eq_some] at hplan ⊢
  rw [← Plan.ofQuery_normalize, Query.canonicalKey_eq_iff.1 hkey, Plan.ofQuery_normalize, hplan]

theorem make_eq_ok {q : Query} {p : SerialPlan α} (h : e.make q = .ok p) :
    Plan.ofQuery e.schema q = .ok p.plan := by
  rw [make, Except.map_eq_ok] at h
  obtain ⟨plan, hplan, rfl⟩ := h
  exact hplan

theorem outcome_make (q : Query) : outcome (e.make q) = Plan.ofQuery e.schema q := by
  rw [make, outcome]
  cases Plan.ofQuery e.schema q <;> rfl

/-- Soundness is kept by `plan`, and a sound engine finds what it would have made. -/
theorem Sound.plan (h : e.Sound) (q : Query) :
    outcome (e.plan q).1 = fresh e.schema e.limits q ∧ (e.plan q).2.Sound ∧
      (e.plan q).2.schema = e.schema ∧ (e.plan q).2.limits = e.limits := by
  unfold Engine.plan fresh
  split
  · next err hcheck => exact ⟨by rw [hcheck]; rfl, h, rfl, rfl⟩
  · next hcheck =>
    rw [hcheck]
    split
    · next p hp => exact ⟨(h.hit hp).symm, h, rfl, rfl⟩
    · split
      · next err hmake => exact ⟨by rw [← outcome_make, hmake]; rfl, h, rfl, rfl⟩
      · next p hmake =>
        refine ⟨by rw [← outcome_make, hmake]; rfl, ?_, rfl, rfl⟩
        -- only the new plan is not yet known to be sound
        intro c' hc' key p' hget
        obtain ⟨c, hc, rfl⟩ := Option.map_eq_some_iff.1 hc'
        rcases PlanCache.get?_insert hget with ⟨rfl, rfl⟩ | hold
        · exact ⟨q, rfl, make_eq_ok (e := e) hmake⟩
        · exact h c hc key p' hold

theorem sound_clear (e : Engine α) : e.clear.Sound := by
  intro c hc key p hget
  obtain ⟨c', _, rfl⟩ := Option.map_eq_some_iff.1 hc
  cases hget

/-- One request: the outcome is the one without a cache, and the engine stays sound. -/
theorem Sound.serve (h : e.Sound) (r : Request) :
    (e.serve r).1.map outcome = freshOutcome e.schema e.limits r ∧ (e.serve r).2.Sound ∧
      (e.serve r).2.schema = e.schema ∧ (e.serve r).2.limits = e.limits := by
  cases r with
  | clear => exact ⟨rfl, e.sound_clear, rfl, rfl⟩
  | plan q =>
    obtain ⟨hout, hsound, hschema, hlimits⟩ := h.plan q
    exact ⟨congrArg some hout, hsound, hschema, hlimits⟩

/-- A run of requests: all outcomes are those without a cache. -/
theorem Sound.outcomes (h : e.Sound) (rs : List Request) :
    e.outcomes rs = rs.map (freshOutcome e.schema e.limits) := by
  induction rs generalizing e with
  | nil => rfl
  | cons r rs ih =>
    obtain ⟨hout, hsound, hschema, hlimits⟩ := h.serve r
    have hrest := ih hsound
    rw [hschema, hlimits] at hrest
    rw [List.map_cons, ← hout, ← hrest]
    rfl

/-- The engine after requests that are made one after another. -/
def after (e : Engine α) : List Request → Engine α
  | [] => e
  | r :: rs => after (e.serve r).2 rs

/-- A run of requests: the engine stays sound. -/
theorem Sound.after (h : e.Sound) (rs : List Request) :
    (e.after rs).Sound ∧ (e.after rs).schema = e.schema ∧ (e.after rs).limits = e.limits := by
  induction rs generalizing e with
  | nil => exact ⟨h, rfl, rfl⟩
  | cons r rs ih =>
    obtain ⟨-, hsound, hschema, hlimits⟩ := h.serve r
    obtain ⟨hafter, hschema', hlimits'⟩ := ih hsound
    exact ⟨hafter, hschema'.trans hschema, hlimits'.trans hlimits⟩

theorem sound_ofSettings (s : Schema α) (l : Limits) (c : CacheSettings) :
    (ofSettings s l c).Sound := by
  intro c' hc' key p hget
  unfold ofSettings at hc'
  split_ifs at hc'
  cases hc'
  cases hget

/-- An engine with a cache and one without say the same to any run of requests. -/
theorem outcomes_cached (s : Schema α) (l : Limits) (c : CacheSettings) (rs : List Request) :
    (ofSettings s l c).outcomes rs = (ofSettings s l { c with enabled := false }).outcomes rs := by
  rw [(sound_ofSettings s l c).outcomes, (sound_ofSettings s l _).outcomes]
  rfl

end Engine

end RecordQuery
