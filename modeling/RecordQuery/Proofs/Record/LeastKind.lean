import Mathlib.Order.Bounds.Basic
import RecordQuery.Proofs.Record.Inference

/-!
# Inferred kinds are least

Inference gives each name that occurs the least kind above the kinds seen under it, and lists the
names in the order in which they first occur (`Record.inferKinds_least`). What is seen under a name is
a set, `Record.observed`: neither the order of the records nor how often one of them is given has any
influence on the kinds.

`Kind.join` is the join of kinds with one more below all of them, which stands for nothing but `null`.
A bound of what some kinds are joined to is thus a bound of each of them
(`Kind.foldl_join_le_iff`), and no kind is given only if none was seen (`Kind.foldl_join_eq_none`).
-/

namespace RecordQuery

/-! ## Joins of some kinds -/

namespace Kind

theorem join_le_iff {a b : Option Kind} {t : Kind} :
    (∀ k ∈ join a b, k ≤ t) ↔ (∀ k ∈ a, k ≤ t) ∧ ∀ k ∈ b, k ≤ t := by
  cases a with
  | none => simp [join]
  | some a =>
    cases b with
    | none => simp [join]
    | some b =>
      have hsup : a.widen b ≤ t ↔ a ≤ t ∧ b ≤ t := sup_le_iff
      simpa [join] using hsup

theorem foldl_join_le_iff {ks : List (Option Kind)} {init : Option Kind} {t : Kind} :
    (∀ k ∈ ks.foldl join init, k ≤ t) ↔ (∀ k ∈ init, k ≤ t) ∧ ∀ k, some k ∈ ks → k ≤ t := by
  induction ks generalizing init with
  | nil => simp
  | cons o ks ih =>
    rw [List.foldl_cons, ih, join_le_iff, and_assoc]
    simp only [List.mem_cons, or_imp, forall_and, Option.mem_def, eq_comm]

theorem foldl_join_eq_none {ks : List (Option Kind)} (h : ∀ k, some k ∉ ks) :
    ks.foldl join none = none := by
  induction ks with
  | nil => rfl
  | cons o ks ih =>
    cases o with
    | none => exact ih fun k hk => h k (List.mem_cons_of_mem _ hk)
    | some k => exact absurd List.mem_cons_self (h k)

/-- A kind is settled for by some kinds seen: it is the least one above them, or that of texts if
there are none. -/
structure SettledBy (seen : Set Kind) (k : Kind) : Prop where
  isLUB : seen.Nonempty → IsLUB seen k
  eq_text : seen = ∅ → k = .text

theorem SettledBy.unique {seen : Set Kind} {k k' : Kind} (h : SettledBy seen k)
    (h' : SettledBy seen k') : k = k' := by
  rcases seen.eq_empty_or_nonempty with hempty | hne
  · rw [h.eq_text hempty, h'.eq_text hempty]
  · exact (h.isLUB hne).unique (h'.isLUB hne)

/-- What some kinds are joined to is settled by those that are there. -/
theorem settledBy_foldl_join (ks : List (Option Kind)) :
    SettledBy {k | some k ∈ ks} ((ks.foldl join none).getD .text) := by
  constructor
  · intro hne
    obtain ⟨k, hk⟩ := hne
    obtain ⟨t, ht, -⟩ := le_foldl_join hk none
    rw [ht, Option.getD_some, isLUB_iff_le_iff]
    intro b
    have hbound : (∀ k ∈ ks.foldl join none, k ≤ b) ↔
        (∀ k ∈ none, k ≤ b) ∧ ∀ k, some k ∈ ks → k ≤ b := foldl_join_le_iff
    simpa [ht, mem_upperBounds] using hbound
  · intro hempty
    have hnone : ∀ k, some k ∉ ks := Set.eq_empty_iff_forall_notMem.1 hempty
    rw [foldl_join_eq_none hnone, Option.getD_none]

end Kind

/-! ## Names in the order in which they occur -/

namespace Record

theorem eraseDups_concat {α : Type} [DecidableEq α] (xs : List α) (a : α) :
    (xs ++ [a]).eraseDups = if a ∈ xs then xs.eraseDups else xs.eraseDups ++ [a] := by
  rw [List.eraseDups_append]
  by_cases h : a ∈ xs
  · simp [List.removeAll, h]
  · simp [List.removeAll, h, List.eraseDups_cons]

theorem keys_foldl_observe (ms : List (String × Json)) :
    (ms.foldl (fun seen m => observe m.1 m.2.kind? seen) []).map (·.1) =
      (ms.map (·.1)).eraseDups := by
  -- whether a name is new depends on the members before it
  induction ms using List.reverseRecOn with
  | nil => rfl
  | append_singleton ms m ih =>
    rw [List.foldl_append, List.foldl_cons, List.foldl_nil, keys_observe, ih, List.map_append,
      List.map_singleton, eraseDups_concat]
    simp only [List.mem_eraseDups]

/-- Each name that occurs is listed once, where it occurs first. -/
theorem keys_inferKinds (rs : List Record) :
    (inferKinds rs).map (·.1) = (rs.flatMap keys).eraseDups := by
  have hkeys : rs.flatMap keys = (rs.flatMap members).map (·.1) := List.map_flatMap.symm
  rw [inferKinds, List.map_map, foldl_observeRecord, hkeys]
  exact keys_foldl_observe _

/-! ## What is seen under a name -/

/-- The kinds of the values that records have under a name, `null` having none. -/
def observed (rs : List Record) (name : String) : Set Kind :=
  {k | ∃ r ∈ rs, ∃ v, (name, v) ∈ r.members ∧ v.kind? = some k}

theorem mem_kindsUnder {rs : List Record} {name : String} {o : Option Kind} :
    o ∈ kindsUnder name (rs.flatMap members) ↔
      ∃ r ∈ rs, ∃ v, (name, v) ∈ r.members ∧ v.kind? = o := by
  simp only [kindsUnder, List.mem_map, List.mem_filter, List.mem_flatMap, decide_eq_true_eq]
  constructor
  · intro h
    obtain ⟨m, ⟨⟨r, hr, hm⟩, hn⟩, hv⟩ := h
    subst hn
    exact ⟨r, hr, m.2, hm, hv⟩
  · intro h
    obtain ⟨r, hr, v, hm, hv⟩ := h
    exact ⟨(name, v), ⟨⟨r, hr, hm⟩, rfl⟩, hv⟩

/-- A name that occurs has a kind that is settled by what is seen under it. -/
theorem exists_mem_inferKinds {rs : List Record} {name : String}
    (h : ∃ r ∈ rs, name ∈ r.keys) :
    ∃ k, (name, k) ∈ inferKinds rs ∧ Kind.SettledBy (observed rs name) k := by
  obtain ⟨r, hr, hname⟩ := h
  obtain ⟨m, hm, rfl⟩ := List.mem_map.1 hname
  have hne : kindsUnder m.1 (rs.flatMap members) ≠ [] :=
    List.ne_nil_of_mem (mem_kindsUnder.2 ⟨r, hr, m.2, hm, rfl⟩)
  have hlookup := lookup_inferKinds m.1 rs
  simp only [hne, if_false] at hlookup
  have hobserved : observed rs m.1 = {k | some k ∈ kindsUnder m.1 (rs.flatMap members)} :=
    Set.ext fun k => mem_kindsUnder.symm
  refine ⟨_, mem_of_lookup hlookup, ?_⟩
  rw [hobserved]
  exact Kind.settledBy_foldl_join _

/-- What is inferred of a name depends on what is seen under it and on nothing else. -/
theorem mem_inferKinds_iff {rs : List Record} {name : String} {k : Kind} :
    (name, k) ∈ inferKinds rs ↔
      (∃ r ∈ rs, name ∈ r.keys) ∧ Kind.SettledBy (observed rs name) k := by
  constructor
  · intro hmem
    have hname : name ∈ (inferKinds rs).map (·.1) := List.mem_map_of_mem hmem
    rw [keys_inferKinds, List.mem_eraseDups, List.mem_flatMap] at hname
    obtain ⟨k', hmem', hk'⟩ := exists_mem_inferKinds hname
    have heq := List.inj_on_of_nodup_map (nodup_keys_inferKinds rs) hmem hmem' rfl
    obtain rfl : k = k' := congrArg Prod.snd heq
    exact ⟨hname, hk'⟩
  · intro h
    obtain ⟨hname, hk⟩ := h
    obtain ⟨k', hmem', hk'⟩ := exists_mem_inferKinds hname
    rw [hk.unique hk']
    exact hmem'

/-- Inference lists each name that occurs once, where it occurs first, with the least kind above the
kinds of its values, or with that of texts if all of them are `null`. Hence the same records, in any
order and any number of times, have the same names with the same kinds. -/
theorem inferKinds_least (rs : List Record) :
    (inferKinds rs).map (·.1) = (rs.flatMap keys).eraseDups ∧
    ((inferKinds rs).map (·.1)).Nodup ∧
    (∀ name k, (name, k) ∈ inferKinds rs →
      ((observed rs name).Nonempty → IsLUB (observed rs name) k) ∧
      (observed rs name = ∅ → k = .text)) ∧
    ∀ rs', (∀ r, r ∈ rs' ↔ r ∈ rs) → ∀ p, p ∈ inferKinds rs' ↔ p ∈ inferKinds rs := by
  refine ⟨keys_inferKinds rs, nodup_keys_inferKinds rs, ?_, ?_⟩
  · intro name k hmem
    obtain ⟨-, hk⟩ := mem_inferKinds_iff.1 hmem
    exact ⟨hk.isLUB, hk.eq_text⟩
  · intro rs' hsame p
    obtain ⟨name, k⟩ := p
    simp only [mem_inferKinds_iff, observed, hsame]

/-- Days and timestamps are timestamps, whichever comes first and however often. -/
theorem inferKinds_least_sampleTimes :
    IsLUB (observed sampleTimes "at") .datetime ∧
      ("at", .datetime) ∈ inferKinds (sampleTimes.reverse ++ sampleTimes) := by
  obtain ⟨-, -, hleast, hsame⟩ := inferKinds_least sampleTimes
  have hmem : ("at", .datetime) ∈ inferKinds sampleTimes := by decide +kernel
  have hseen : (observed sampleTimes "at").Nonempty :=
    ⟨.date, _, List.mem_cons_self, _, List.mem_cons_self, by decide +kernel⟩
  constructor
  · exact (hleast _ _ hmem).1 hseen
  · rw [hsame _ (by simp)]
    exact hmem

end Record

end RecordQuery
