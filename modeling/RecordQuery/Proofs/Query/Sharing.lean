import Mathlib.Data.Set.Card
import RecordQuery.Proofs.Query.Cache
import RecordQuery.Proofs.Query.Equivalent
import RecordQuery.Sample

/-!
# What a cache holds and shares

Over a run of requests a cache with room for them holds one plan for each class of equivalent
queries that have been planned since it was last cleared, and two requests get the same plan, serial
number and all, exactly when their queries are equivalent and the cache is not cleared in between
(`Engine.shares`).

A request is one of three things (`Engine.plan_cases`): it is refused and changes nothing, it finds
a plan and changes nothing, or it makes a plan under a key that the engine did not keep. Whether or
not there is room, no two keys lead to plans with one serial number (`Engine.Tidy`). Which keys are
kept depends on room (`Engine.Mirrors`).
-/

namespace RecordQuery

variable {α : Type}

namespace PlanCache

variable {c : PlanCache α} {key key' : String} {p p' : SerialPlan α}

theorem get?_eq_none_iff : c.get? key = none ↔ key ∉ c.entries.map Prod.fst := by
  rw [get?, List.lookup_eq_none_iff]
  refine ⟨fun h hmem => ?_, fun h x hx => bne_iff_ne.2 fun hkey => ?_⟩
  · obtain ⟨x, hx, rfl⟩ := List.mem_map.1 hmem
    exact bne_iff_ne.1 (h x hx) rfl
  · exact h (hkey ▸ List.mem_map_of_mem hx)

/-- A plan stays under its key when another key is added. -/
theorem get?_insert_of_get? (h : c.get? key = some p) (hkey' : c.get? key' = none) :
    (c.insert key' p').get? key = some p := by
  have hne : (key == key') = false := by
    rw [beq_eq_false_iff_ne]
    rintro rfl
    rw [h] at hkey'
    cases hkey'
  unfold insert
  split_ifs
  · rw [get?, List.lookup_cons, hne]
    exact h
  · exact h

end PlanCache

namespace Engine

variable {e : Engine α} {key key' : String} {p p' : SerialPlan α}

/-! ## One request -/

/-- The plan that the engine keeps under a key. -/
def kept (e : Engine α) (key : String) : Option (SerialPlan α) :=
  e.cache.bind fun c => c.get? key

/-- The engine after it has made a plan and kept it where there is room. -/
def keep (e : Engine α) (key : String) (p : SerialPlan α) : Engine α :=
  { e with cache := e.cache.map fun c => c.insert key p, made := e.made + 1 }

theorem kept_clear (e : Engine α) (key : String) : e.clear.kept key = none := by
  unfold kept clear
  cases e.cache <;> rfl

/-- What is kept has been kept before, or is the new plan. -/
theorem kept_keep (h : (e.keep key p).kept key' = some p') :
    key' = key ∧ p' = p ∨ e.kept key' = some p' := by
  unfold kept keep at *
  cases hc : e.cache with
  | none => simp [hc] at h
  | some c =>
    rw [hc] at h
    exact PlanCache.get?_insert h

theorem kept_keep_of_kept (h : e.kept key = some p) (hkey' : e.kept key' = none) :
    (e.keep key' p').kept key = some p := by
  unfold kept keep at *
  cases hc : e.cache with
  | none => simp [hc] at h
  | some c =>
    rw [hc] at h hkey'
    exact PlanCache.get?_insert_of_get? h hkey'

/-- A request for a plan is refused, finds a plan, or makes one under a new key. -/
theorem plan_cases (e : Engine α) (q : Query) :
    (∃ err, e.plan q = (.error err, e)) ∨
    (∃ p, e.kept q.canonicalKey = some p ∧ e.plan q = (.ok p, e)) ∨
    (∃ p, e.kept q.canonicalKey = none ∧ p.serial = e.made ∧
      e.plan q = (.ok p, e.keep q.canonicalKey p)) := by
  unfold Engine.plan
  rw [← kept]
  cases e.limits.check q with
  | error err => exact .inl ⟨err, rfl⟩
  | ok _ =>
    cases e.kept q.canonicalKey with
    | some p => exact .inr (.inl ⟨p, rfl, rfl⟩)
    | none =>
      cases hmake : e.make q with
      | error err => exact .inl ⟨err, rfl⟩
      | ok p =>
        obtain ⟨plan, -, rfl⟩ := Except.map_eq_ok.1 hmake
        exact .inr (.inr ⟨_, rfl, rfl, rfl⟩)

/-- No two keys lead to plans with one serial number, and the next plan will have a new one. -/
structure Tidy (e : Engine α) : Prop where
  serial_lt : ∀ {key p}, e.kept key = some p → p.serial < e.made
  key_eq : ∀ {key key' p p'}, e.kept key = some p → e.kept key' = some p' →
    p.serial = p'.serial → key = key'

theorem tidy_of_kept_eq_none (h : ∀ key, e.kept key = none) : e.Tidy where
  serial_lt hkept := nomatch (h _).symm.trans hkept
  key_eq hkept := nomatch (h _).symm.trans hkept

theorem Tidy.keep (h : e.Tidy) (hp : p.serial = e.made) : (e.keep key p).Tidy where
  serial_lt hkept := by
    rcases kept_keep hkept with ⟨-, rfl⟩ | hold
    · exact hp ▸ Nat.lt_succ_self _
    · exact Nat.lt_succ_of_lt (h.serial_lt hold)
  key_eq hkept hkept' hserial := by
    rcases kept_keep hkept with ⟨rfl, rfl⟩ | hold <;>
      rcases kept_keep hkept' with ⟨rfl, rfl⟩ | hold'
    · rfl
    · -- the new plan has a serial number above those of all others
      exact absurd (hserial.symm.trans hp) (h.serial_lt hold').ne
    · exact absurd (hserial.trans hp) (h.serial_lt hold).ne
    · exact h.key_eq hold hold' hserial

theorem Tidy.serve (h : e.Tidy) (r : Request) : (e.serve r).2.Tidy := by
  cases r with
  | clear => exact tidy_of_kept_eq_none e.kept_clear
  | plan q =>
    rw [Engine.serve]
    rcases e.plan_cases q with ⟨err, heq⟩ | ⟨p, -, heq⟩ | ⟨p, -, hserial, heq⟩ <;> rw [heq]
    · exact h
    · exact h
    · exact h.keep hserial

/-- A plan stays under its key until the cache is cleared. -/
theorem kept_plan (h : e.kept key = some p) (q : Query) : (e.plan q).2.kept key = some p := by
  rcases e.plan_cases q with ⟨err, heq⟩ | ⟨p, -, heq⟩ | ⟨p, hnone, -, heq⟩ <;> rw [heq]
  · exact h
  · exact h
  · exact kept_keep_of_kept h hnone

/-- The plan has been made and is not kept under any key. -/
structure Dropped (e : Engine α) (p : SerialPlan α) : Prop where
  serial_lt : p.serial < e.made
  serial_ne : ∀ {key p'}, e.kept key = some p' → p.serial ≠ p'.serial

theorem dropped_clear (h : p.serial < e.made) : e.clear.Dropped p :=
  ⟨h, fun hkept => nomatch (e.kept_clear _).symm.trans hkept⟩

theorem Dropped.serve (h : e.Dropped p) (r : Request) : (e.serve r).2.Dropped p := by
  cases r with
  | clear => exact dropped_clear h.serial_lt
  | plan q =>
    rw [Engine.serve]
    rcases e.plan_cases q with ⟨err, heq⟩ | ⟨p', -, heq⟩ | ⟨p', -, hserial, heq⟩ <;> rw [heq]
    · exact h
    · exact h
    · refine ⟨Nat.lt_succ_of_lt h.serial_lt, fun hkept => ?_⟩
      rcases kept_keep hkept with ⟨-, rfl⟩ | hold
      · exact hserial ▸ h.serial_lt.ne
      · exact h.serial_ne hold

/-! ## Runs -/

variable {rs : List Request} {q : Query} {c : PlanCache α}

theorem after_append (e : Engine α) (rs rs' : List Request) :
    e.after (rs ++ rs') = (e.after rs).after rs' := by
  induction rs generalizing e with
  | nil => rfl
  | cons r rs ih => exact ih _

theorem Tidy.after (h : e.Tidy) (rs : List Request) : (e.after rs).Tidy := by
  induction rs generalizing e with
  | nil => exact h
  | cons r rs ih => exact ih (h.serve r)

theorem Dropped.after (h : e.Dropped p) (rs : List Request) : (e.after rs).Dropped p := by
  induction rs generalizing e with
  | nil => exact h
  | cons r rs ih => exact ih (h.serve r)

theorem kept_after (h : e.kept key = some p) {rs : List Request} (hclear : .clear ∉ rs) :
    (e.after rs).kept key = some p := by
  induction rs generalizing e with
  | nil => exact h
  | cons r rs ih =>
    cases r with
    | clear => exact absurd List.mem_cons_self hclear
    | plan q => exact ih (kept_plan h q) fun hmem => hclear (List.mem_cons_of_mem _ hmem)

/-- A plan that was kept is not found again once the cache has been cleared. -/
theorem dropped_after (htidy : e.Tidy) (h : e.kept key = some p) {rs : List Request}
    (hclear : .clear ∈ rs) : (e.after rs).Dropped p := by
  -- kept up to the first clear, dropped from then on
  induction rs generalizing e with
  | nil => cases hclear
  | cons r rs ih =>
    cases r with
    | clear => exact (dropped_clear (htidy.serial_lt h)).after rs
    | plan q =>
      exact ih (htidy.serve (.plan q)) (kept_plan h q)
        ((List.mem_cons.1 hclear).resolve_left Request.noConfusion)

/-- The queries that have been planned in a run since the cache was last cleared. -/
def planned (e : Engine α) (rs : List Request) : Set Query :=
  {q | ∃ before between p, rs = before ++ .plan q :: between ∧ .clear ∉ between ∧
    ((e.after before).plan q).1 = .ok p}

/-- The number of classes of equivalent queries among them. -/
noncomputable def classes (e : Engine α) (rs : List Request) : Nat :=
  (Quotient.mk Query.spelling '' e.planned rs).ncard

theorem planned_clear (e : Engine α) (rs : List Request) : e.planned (rs ++ [.clear]) = ∅ := by
  refine Set.eq_empty_of_forall_notMem fun q => ?_
  rintro ⟨before, between, p, heq, hclear, -⟩
  rcases List.eq_nil_or_concat between with rfl | ⟨between, r, rfl⟩
  · cases (List.append_inj' heq rfl).2
  · rw [List.concat_eq_append, ← List.cons_append, ← List.append_assoc] at heq
    cases (List.append_inj' heq rfl).2
    exact hclear (by simp)

theorem planned_plan (e : Engine α) (rs : List Request) (q : Query) :
    e.planned (rs ++ [.plan q]) =
      {q' | q' = q ∧ ∃ p, ((e.after rs).plan q).1 = .ok p} ∪ e.planned rs := by
  ext q'
  constructor
  -- the query was asked for by the last request or by one before it
  · rintro ⟨before, between, p, heq, hclear, hp⟩
    rcases List.eq_nil_or_concat between with rfl | ⟨between, r, rfl⟩
    · obtain ⟨rfl, hq⟩ := List.append_inj' heq rfl
      cases hq
      exact .inl ⟨rfl, p, hp⟩
    · rw [List.concat_eq_append, ← List.cons_append, ← List.append_assoc] at heq
      obtain ⟨rfl, -⟩ := List.append_inj' heq rfl
      exact .inr ⟨before, between, p, rfl, fun h => hclear (by simp [h]), hp⟩
  · rintro (⟨rfl, p, hp⟩ | ⟨before, between, p, rfl, hclear, hp⟩)
    · exact ⟨rs, [], p, rfl, List.not_mem_nil, hp⟩
    · exact ⟨before, between ++ [.plan q], p, by simp, by simpa using hclear, hp⟩

theorem planned_plan_error {err : QueryError} (h : ((e.after rs).plan q).1 = .error err) :
    e.planned (rs ++ [.plan q]) = e.planned rs := by
  rw [planned_plan, h]
  simp

theorem planned_plan_ok (h : ((e.after rs).plan q).1 = .ok p) :
    e.planned (rs ++ [.plan q]) = insert q (e.planned rs) := by
  rw [planned_plan, h]
  ext q'
  simp

/-! ## With room for every plan -/

/-- After a run the cache holds one plan for each canonical key of the planned queries. -/
structure Mirrors (e : Engine α) (rs : List Request) (c : PlanCache α) : Prop where
  cache : (e.after rs).cache = some c
  nodup : (c.entries.map Prod.fst).Nodup
  keys : {key | key ∈ c.entries.map Prod.fst} = Query.canonicalKey '' e.planned rs

/-- A list of the canonical keys of the planned queries is as long as there are classes. -/
theorem length_eq_classes {keys : List String} (hnodup : keys.Nodup)
    (h : {key | key ∈ keys} = Query.canonicalKey '' e.planned rs) :
    keys.length = e.classes rs := by
  classical
  have hclasses : e.classes rs = (Query.canonicalKey '' e.planned rs).ncard := by
    rw [classes, ← Set.ncard_image_of_injective _ Query.classKey_injective, Set.image_image]
    rfl
  rw [hclasses, ← h, ← List.coe_toFinset, Set.ncard_coe_finset,
    List.toFinset_card_of_nodup hnodup]

theorem Mirrors.size_eq (h : Mirrors e rs c) : c.size = e.classes rs := by
  rw [← length_eq_classes h.nodup h.keys, List.length_map, PlanCache.size]

theorem Mirrors.kept_eq (h : Mirrors e rs c) (key : String) :
    (e.after rs).kept key = c.get? key := by
  rw [kept, h.cache, Option.bind_some]

/-- One more request, with room for its plan. -/
theorem Mirrors.concat (h : Mirrors e rs c) {r : Request}
    (room : e.classes (rs ++ [r]) ≤ c.maxEntries) :
    ∃ c', Mirrors e (rs ++ [r]) c' ∧ c'.maxEntries = c.maxEntries := by
  have hafter : e.after (rs ++ [r]) = ((e.after rs).serve r).2 := e.after_append rs [r]
  cases r with
  | clear =>
    refine ⟨c.clear, ⟨?_, List.nodup_nil, ?_⟩, rfl⟩
    · rw [hafter]
      exact congrArg (Option.map PlanCache.clear) h.cache
    · rw [planned_clear, Set.image_empty]
      exact Set.eq_empty_of_forall_notMem fun _ => List.not_mem_nil
  | plan q =>
    rw [serve] at hafter
    rcases (e.after rs).plan_cases q with
      ⟨err, heq⟩ | ⟨p, hkept, heq⟩ | ⟨p, hkept, hserial, heq⟩ <;> rw [heq] at hafter
    · have hplanned := planned_plan_error (congrArg Prod.fst heq)
      exact ⟨c, ⟨hafter ▸ h.cache, h.nodup, hplanned ▸ h.keys⟩, rfl⟩
    · have hplanned := planned_plan_ok (congrArg Prod.fst heq)
      have hmem : q.canonicalKey ∈ {key | key ∈ c.entries.map Prod.fst} := by
        by_contra hnot
        rw [h.kept_eq, PlanCache.get?_eq_none_iff.2 hnot] at hkept
        cases hkept
      refine ⟨c, ⟨hafter ▸ h.cache, h.nodup, ?_⟩, rfl⟩
      rw [hplanned, Set.image_insert_eq, ← h.keys, Set.insert_eq_of_mem hmem]
    · -- the new key is one more key and one more class, so there was room for it
      have hplanned := planned_plan_ok (congrArg Prod.fst heq)
      have hnodup : (q.canonicalKey :: c.entries.map Prod.fst).Nodup :=
        List.nodup_cons.2 ⟨PlanCache.get?_eq_none_iff.1 (h.kept_eq _ ▸ hkept), h.nodup⟩
      have hkeys : {key | key ∈ q.canonicalKey :: c.entries.map Prod.fst} =
          Query.canonicalKey '' e.planned (rs ++ [.plan q]) := by
        rw [hplanned, Set.image_insert_eq, ← h.keys]
        exact Set.ext fun _ => List.mem_cons
      have hroom : c.size < c.maxEntries := by
        rw [← length_eq_classes hnodup hkeys, List.length_cons, List.length_map] at room
        exact room
      refine ⟨⟨c.maxEntries, (q.canonicalKey, p) :: c.entries⟩, ⟨?_, hnodup, hkeys⟩, rfl⟩
      rw [hafter, keep, h.cache, Option.map_some, PlanCache.insert, if_pos hroom]

/-- With room for it, a plan is kept under the key of its query. -/
theorem Mirrors.kept_of_plan (h : Mirrors e (rs ++ [.plan q]) c)
    (hp : ((e.after rs).plan q).1 = .ok p) :
    ((e.after rs).plan q).2.kept q.canonicalKey = some p := by
  have hmem : q.canonicalKey ∈ c.entries.map Prod.fst := by
    have hkey := Set.mem_image_of_mem Query.canonicalKey (Set.mem_insert q (e.planned rs))
    rw [← planned_plan_ok hp, ← h.keys] at hkey
    exact hkey
  obtain ⟨p', hp'⟩ := Option.ne_none_iff_exists'.1 fun hnone =>
    PlanCache.get?_eq_none_iff.1 hnone hmem
  have hafter : e.after (rs ++ [.plan q]) = ((e.after rs).plan q).2 := e.after_append rs [.plan q]
  rw [← h.kept_eq, hafter] at hp'
  rcases (e.after rs).plan_cases q with
    ⟨err, heq⟩ | ⟨p, hkept, heq⟩ | ⟨p, hkept, -, heq⟩ <;> rw [heq] at hp hp' ⊢ <;> cases hp
  · exact hkept
  · rcases kept_keep hp' with ⟨-, rfl⟩ | hold
    · exact hp'
    · rw [hkept] at hold
      cases hold

/-- A run with room for the plans of each of its requests. -/
def HasRoom (e : Engine α) (maxEntries : Nat) (rs : List Request) : Prop :=
  ∀ before, before <+: rs → e.classes before ≤ maxEntries

/-- The class of the query that a request asks for. -/
def Request.class? : Request → Option (Quotient Query.spelling)
  | .clear => none
  | .plan q => some (Quotient.mk _ q)

theorem classes_le_length (e : Engine α) (rs : List Request) : e.classes rs ≤ rs.length := by
  classical
  have hsub : Quotient.mk Query.spelling '' e.planned rs ⊆
      (rs.filterMap Request.class?).toFinset := by
    rintro _ ⟨q, ⟨before, between, p, rfl, -⟩, rfl⟩
    rw [List.coe_toFinset]
    exact List.mem_filterMap.2 ⟨.plan q, by simp, rfl⟩
  calc e.classes rs
      ≤ (rs.filterMap Request.class?).toFinset.card := by
        rw [← Set.ncard_coe_finset]
        exact Set.ncard_le_ncard hsub
    _ ≤ (rs.filterMap Request.class?).length := List.toFinset_card_le _
    _ ≤ rs.length := List.length_filterMap_le _ _

/-- There is room for as many plans as there are requests. -/
theorem hasRoom_of_length_le {maxEntries : Nat} (h : rs.length ≤ maxEntries) :
    e.HasRoom maxEntries rs := fun before hbefore =>
  (e.classes_le_length before).trans (hbefore.length_le.trans h)

variable {s : Schema α} {l : Limits} {settings : CacheSettings}

theorem exists_mirrors (enabled : settings.enabled)
    (room : (ofSettings s l settings).HasRoom settings.maxEntries rs) :
    ∃ c, Mirrors (ofSettings s l settings) rs c ∧ c.maxEntries = settings.maxEntries := by
  -- from the end, as room for a run is room for each of its beginnings
  induction rs using List.reverseRecOn with
  | nil =>
    refine ⟨.empty settings.maxEntries, ⟨if_pos enabled, List.nodup_nil, ?_⟩, rfl⟩
    have hnone : (ofSettings s l settings).planned [] = ∅ :=
      Set.eq_empty_of_forall_notMem fun _ ⟨_, _, _, heq, _⟩ => by simp at heq
    rw [hnone, Set.image_empty]
    exact Set.eq_empty_of_forall_notMem fun _ => List.not_mem_nil
  | append_singleton rs r ih =>
    obtain ⟨c, hc, hmax⟩ := ih fun before h => room before (h.trans (List.prefix_append _ _))
    obtain ⟨c', hc', hmax'⟩ := hc.concat (hmax ▸ room _ List.prefix_rfl)
    exact ⟨c', hc', hmax'.trans hmax⟩

/-! ## Sharing -/

/-- A plan that is kept and the plan of a later request, with or without a clear in between. -/
theorem Tidy.serial_eq_iff (htidy : e.Tidy) (hp : e.kept q.canonicalKey = some p)
    {between : List Request} {q' : Query} (hp' : ((e.after between).plan q').1 = .ok p') :
    (p.serial = p'.serial ↔ .clear ∉ between ∧ q.Equivalent q') ∧
      (p.serial = p'.serial → p = p') := by
  by_cases hclear : .clear ∈ between
  · -- the plan is gone, and what the later request gets has another serial number
    have hdropped := dropped_after htidy hp hclear
    have hne : p.serial ≠ p'.serial := by
      rcases (e.after between).plan_cases q' with
        ⟨err, heq⟩ | ⟨p', hkept, heq⟩ | ⟨p', -, hserial, heq⟩ <;> rw [heq] at hp' <;> cases hp'
      · exact hdropped.serial_ne hkept
      · exact hserial ▸ hdropped.serial_lt.ne
    exact ⟨⟨fun h => absurd h hne, fun h => absurd hclear h.1⟩, fun h => absurd h hne⟩
  · -- the plan is still kept, so the keys decide
    have hheld := kept_after hp hclear
    have htidy' := htidy.after between
    rw [← Query.canonicalKey_eq_iff_equivalent]
    rcases (e.after between).plan_cases q' with
      ⟨err, heq⟩ | ⟨p', hkept, heq⟩ | ⟨p', hkept, hserial, heq⟩ <;> rw [heq] at hp' <;> cases hp'
    · have hsame (hkey : q.canonicalKey = q'.canonicalKey) : p = p' := by
        rw [← hkey, hheld] at hkept
        exact Option.some.inj hkept
      have hkey := htidy'.key_eq hheld hkept
      exact ⟨⟨fun h => ⟨hclear, hkey h⟩, fun h => congrArg _ (hsame h.2)⟩, fun h => hsame (hkey h)⟩
    · have hne : p.serial ≠ p'.serial := hserial ▸ (htidy'.serial_lt hheld).ne
      have hkey : q.canonicalKey ≠ q'.canonicalKey := by
        intro hkey
        rw [← hkey, hheld] at hkept
        cases hkept
      exact ⟨⟨fun h => absurd h hne, fun h => absurd h.2 hkey⟩, fun h => absurd h hne⟩

/-- A run of requests to an engine with a cache, with room for every plan. After each of its
requests the cache holds as many plans as there are classes of equivalent queries that have been
planned since it was last cleared. A request that is refused changes nothing. Two requests get plans
with the same serial number exactly when the cache is not cleared between them and their queries are
equivalent, and then the plans are the same. -/
theorem shares (s : Schema α) (l : Limits) (settings : CacheSettings) (enabled : settings.enabled)
    (rs : List Request) (room : (ofSettings s l settings).HasRoom settings.maxEntries rs) :
    let e := ofSettings s l settings
    (∀ before, before <+: rs →
      ∃ c, (e.after before).cache = some c ∧ c.size = e.classes before) ∧
    (∀ before q err, before ++ [.plan q] <+: rs → ((e.after before).plan q).1 = .error err →
      e.after (before ++ [.plan q]) = e.after before) ∧
    ∀ before q p between q' p', before ++ .plan q :: between ++ [.plan q'] <+: rs →
      ((e.after before).plan q).1 = .ok p →
      ((e.after (before ++ .plan q :: between)).plan q').1 = .ok p' →
      (p.serial = p'.serial ↔ .clear ∉ between ∧ q.Equivalent q') ∧
        (p.serial = p'.serial → p = p') := by
  intro e
  have roomy {before} (h : before <+: rs) : e.HasRoom settings.maxEntries before :=
    fun before' h' => room before' (h'.trans h)
  refine ⟨fun before hbefore => ?_, fun before q err _ herr => ?_,
    fun before q p between q' p' hbefore hp hp' => ?_⟩
  · obtain ⟨c, hc, -⟩ := exists_mirrors enabled (roomy hbefore)
    exact ⟨c, hc.cache, hc.size_eq⟩
  · have hafter : e.after (before ++ [.plan q]) = ((e.after before).plan q).2 :=
      e.after_append before [.plan q]
    rw [hafter]
    rcases (e.after before).plan_cases q with
      ⟨err, heq⟩ | ⟨p, -, heq⟩ | ⟨p, -, -, heq⟩ <;> rw [heq] at herr <;> cases herr
    rw [heq]
  · have hprefix : before ++ [.plan q] <+: rs :=
      (show before ++ [.plan q] <+: before ++ .plan q :: between ++ [.plan q'] from
        ⟨between ++ [.plan q'], by simp⟩).trans hbefore
    obtain ⟨c, hc, -⟩ := exists_mirrors enabled (roomy hprefix)
    have htidy : e.Tidy := tidy_of_kept_eq_none fun key => by
      show Option.bind (if settings.enabled then _ else _) _ = none
      rw [if_pos enabled]
      rfl
    have hkept := hc.kept_of_plan hp
    rw [after_append] at hp'
    exact ((htidy.after before).serve (.plan q)).serial_eq_iff hkept hp'

/-- A query that can be planned is planned, whatever was asked before. -/
theorem exists_plan_of_fresh {plan : Plan α} (h : fresh s l q = .ok plan) (rs : List Request) :
    ∃ p, (((ofSettings s l settings).after rs).plan q).1 = .ok p := by
  obtain ⟨hsound, hschema, hlimits⟩ := (sound_ofSettings s l settings).after rs
  have hout : outcome (((ofSettings s l settings).after rs).plan q).1 = .ok plan := by
    rw [(hsound.plan q).1, hschema, hlimits]
    exact h
  obtain ⟨p, hp, -⟩ := Except.map_eq_ok.1 hout
  exact ⟨p, hp⟩

/-- People in the order of their numbers. -/
def byId : Query := ⟨none, [⟨"id", "asc"⟩]⟩

/-- The same in another spelling. -/
def byIdRespelled : Query := ⟨none, [⟨"ID", " Asc"⟩]⟩

/-- A query in two spellings, and once more after the cache has been cleared. -/
def sampleRequests : List Request := [.plan byId, .plan byIdRespelled, .clear, .plan byId]

theorem shares_sampleRequests :
    let e := ofSettings Person.schema {} { enabled := true }
    let both : List Request := [.plan byId, .plan byIdRespelled]
    ∃ p p' p'', (e.plan byId).1 = .ok p ∧
      ((e.after [.plan byId]).plan byIdRespelled).1 = .ok p' ∧
      ((e.after (both ++ [.clear])).plan byId).1 = .ok p'' ∧ p = p' ∧ p.serial ≠ p''.serial ∧
      ∃ c, (e.after both).cache = some c ∧ c.size = e.classes both := by
  intro e both
  obtain ⟨hsize, -, hshared⟩ := shares Person.schema {} { enabled := true } rfl sampleRequests
    (hasRoom_of_length_le (by decide))
  have hplanned (rs : List Request) : ∃ p, ((e.after rs).plan byId).1 = .ok p :=
    exists_plan_of_fresh (show fresh Person.schema {} byId = .ok _ from rfl) rs
  obtain ⟨p, hp⟩ := hplanned []
  obtain ⟨p', hp'⟩ : ∃ p, ((e.after [.plan byId]).plan byIdRespelled).1 = .ok p :=
    exists_plan_of_fresh (show fresh Person.schema {} byIdRespelled = .ok _ from rfl) _
  obtain ⟨p'', hp''⟩ := hplanned (both ++ [.clear])
  obtain ⟨hiff, heq⟩ := hshared [] byId p [] byIdRespelled p' (sampleRequests.take_prefix 2) hp hp'
  obtain ⟨hiff', -⟩ := hshared [] byId p [.plan byIdRespelled, .clear] byId p'' List.prefix_rfl hp
    hp''
  have hequivalent : byId.Equivalent byIdRespelled :=
    ⟨.none, .cons ⟨by decide +kernel, by decide +kernel⟩ .nil⟩
  have hsame : p = p' := heq (hiff.2 ⟨List.not_mem_nil, hequivalent⟩)
  have hother : p.serial ≠ p''.serial := fun h => (hiff'.1 h).1 (by simp)
  have hboth := hsize both ⟨[.clear, .plan byId], rfl⟩
  exact ⟨p, p', p'', hp, hp', hp'', hsame, hother, hboth⟩

end Engine

end RecordQuery
