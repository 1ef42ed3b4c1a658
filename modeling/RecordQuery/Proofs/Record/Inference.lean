import Mathlib.Data.List.Nodup
import Mathlib.Order.Lattice
import RecordQuery.Proofs.Value.Reading
import RecordQuery.Record.Inference

/-!
# Inferred kinds

The kinds form a semilattice in which a kind lies below another one that has room for its values,
and `Kind.widen` is the join. The kind inferred for a name is the join of the kinds of all values
under this name (`Record.lookup_inferKinds`), so it lies above each of them.

A value can be read as one of every kind above its own (`Record.kind?_convert`). Hence inference
loses nothing: under the kind inferred for a name no value but `null` reads as `null`
(`Record.read_inferKinds`).
-/

namespace RecordQuery

/-! ## The order of kinds -/

namespace Kind

/-- The kinds that have room for the values of a kind: itself, the wider kind of numbers or of times
and the kind of all texts. -/
instance : LE Kind where
  le a b := a = b ∨ b = .text ∨ (a = .int ∧ b = .float) ∨ (a = .date ∧ b = .datetime)

instance : DecidableLE Kind := fun a b =>
  inferInstanceAs
    (Decidable (a = b ∨ b = .text ∨ (a = .int ∧ b = .float) ∨ (a = .date ∧ b = .datetime)))

instance : SemilatticeSup Kind where
  sup := widen
  le_refl a := .inl rfl
  le_trans a b c := by cases a <;> cases b <;> cases c <;> decide
  le_antisymm a b := by cases a <;> cases b <;> decide
  le_sup_left a b := by cases a <;> cases b <;> decide
  le_sup_right a b := by cases a <;> cases b <;> decide
  sup_le a b c := by cases a <;> cases b <;> cases c <;> decide

theorem foldl_join_some (a : Kind) (ks : List (Option Kind)) :
    ∃ t, ks.foldl join (some a) = some t ∧ a ≤ t := by
  induction ks generalizing a with
  | nil => exact ⟨a, rfl, le_rfl⟩
  | cons k ks ih =>
    cases k with
    | none => exact ih a
    | some b =>
      obtain ⟨t, ht, hle⟩ := ih (a.widen b)
      exact ⟨t, ht, le_trans (le_sup_left (b := b)) hle⟩

/-- The join of some kinds lies above each of them. -/
theorem le_foldl_join {ks : List (Option Kind)} {k : Kind} (h : some k ∈ ks) (init : Option Kind) :
    ∃ t, ks.foldl join init = some t ∧ k ≤ t := by
  induction ks generalizing init with
  | nil => cases h
  | cons k' ks ih =>
    rcases List.mem_cons.1 h with rfl | h
    · cases init with
      | none => exact foldl_join_some k ks
      | some a =>
        obtain ⟨t, ht, hle⟩ := foldl_join_some (a.widen k) ks
        exact ⟨t, ht, le_trans le_sup_right hle⟩
    · exact ih h (join init k')

end Kind

/-! ## The kinds under a name -/

namespace Record

theorem lookup_observe (name key : String) (kind : Option Kind)
    (seen : List (String × Option Kind)) : (observe key kind seen).lookup name =
      if key = name then some (Kind.join ((seen.lookup name).getD none) kind)
      else seen.lookup name := by
  induction seen with
  | nil =>
    by_cases h : key = name
    · simp [observe, h, Kind.join]
    · simp [observe, h, List.lookup_cons, beq_eq_false_iff_ne.2 (Ne.symm h)]
  | cons p seen ih =>
    obtain ⟨k, old⟩ := p
    unfold observe
    by_cases hk : k = key
    · subst hk
      by_cases h : k = name
      · simp [h]
      · simp [h, List.lookup_cons, beq_eq_false_iff_ne.2 (Ne.symm h)]
    · by_cases h : k = name
      · subst h
        simp [hk, Ne.symm hk]
      · simp only [hk, if_false, List.lookup_cons, beq_eq_false_iff_ne.2 (Ne.symm h), ih]

/-- The kinds of the members of a name, in order; that of `null` is `none`. -/
def kindsUnder (name : String) (ms : List (String × Json)) : List (Option Kind) :=
  (ms.filter (·.1 = name)).map (·.2.kind?)

theorem lookup_foldl_observe (name : String) (ms : List (String × Json))
    (seen : List (String × Option Kind)) :
    (ms.foldl (fun seen m => observe m.1 m.2.kind? seen) seen).lookup name =
      if kindsUnder name ms = [] then seen.lookup name
      else some ((kindsUnder name ms).foldl Kind.join ((seen.lookup name).getD none)) := by
  induction ms generalizing seen with
  | nil => rfl
  | cons m ms ih =>
    rw [List.foldl_cons, ih, lookup_observe]
    by_cases h : m.1 = name
    · have hcons : kindsUnder name (m :: ms) = m.2.kind? :: kindsUnder name ms := by
        simp [kindsUnder, h]
      simp only [h, if_true, hcons, reduceCtorEq, if_false, Option.getD_some, List.foldl_cons]
      by_cases hnil : kindsUnder name ms = [] <;> simp [hnil]
    · have hcons : kindsUnder name (m :: ms) = kindsUnder name ms := by
        simp [kindsUnder, h]
      rw [if_neg h, hcons]

theorem lookup_map_getD (name : String) (seen : List (String × Option Kind)) :
    (seen.map fun p => (p.1, p.2.getD .text)).lookup name =
      (seen.lookup name).map (·.getD .text) := by
  induction seen with
  | nil => rfl
  | cons p seen ih =>
    rw [List.map_cons, List.lookup_cons, List.lookup_cons, ih]
    cases name == p.1 <;> rfl

/-- Records are shown to inference member by member. -/
theorem foldl_observeRecord (rs : List Record) :
    rs.foldl observeRecord [] =
      (rs.flatMap members).foldl (fun seen m => observe m.1 m.2.kind? seen) [] :=
  List.foldl_flatMap.symm

/-- A name gets the join of the kinds of its values, and the kind of texts if all are `null`. -/
theorem lookup_inferKinds (name : String) (rs : List Record) :
    let kinds := kindsUnder name (rs.flatMap members)
    (inferKinds rs).lookup name =
      if kinds = [] then none else some ((kinds.foldl Kind.join none).getD .text) := by
  intro kinds
  rw [inferKinds, lookup_map_getD, foldl_observeRecord, lookup_foldl_observe]
  split <;> rfl

/-! ## Names -/

theorem keys_observe (key : String) (kind : Option Kind) (seen : List (String × Option Kind)) :
    (observe key kind seen).map (·.1) =
      if key ∈ seen.map (·.1) then seen.map (·.1) else seen.map (·.1) ++ [key] := by
  induction seen with
  | nil => rfl
  | cons p seen ih =>
    obtain ⟨k, old⟩ := p
    unfold observe
    by_cases hk : k = key
    · simp [hk]
    · simp only [hk, if_false, List.map_cons, ih, List.mem_cons, Ne.symm hk, false_or]
      split <;> rfl

theorem nodup_keys_foldl_observe (ms : List (String × Json)) {seen : List (String × Option Kind)}
    (h : (seen.map (·.1)).Nodup) :
    ((ms.foldl (fun seen m => observe m.1 m.2.kind? seen) seen).map (·.1)).Nodup := by
  induction ms generalizing seen with
  | nil => exact h
  | cons m ms ih =>
    refine ih ?_
    rw [keys_observe]
    split
    · exact h
    · next hnew =>
      rw [← List.concat_eq_append]
      exact List.Nodup.concat hnew h

/-- Every name has one kind. -/
theorem nodup_keys_inferKinds (rs : List Record) : ((inferKinds rs).map (·.1)).Nodup := by
  have hkeys : (((rs.flatMap members).foldl (fun seen m => observe m.1 m.2.kind? seen) []).map
      (·.1)).Nodup := nodup_keys_foldl_observe _ List.nodup_nil
  rw [inferKinds, List.map_map, foldl_observeRecord]
  exact hkeys

/-! ## Reading under the inferred kind -/

/-- A text can be read as one of its kind and of every wider kind. -/
theorem readable_of_kind_le {s : String} {t : Kind} (h : Text.kind s ≤ t) :
    Value.Readable t s := by
  rcases h with rfl | rfl | ⟨hint, -⟩ | ⟨hdate, rfl⟩
  · unfold Text.kind
    split
    · exact Value.readable_date ‹_›
    · split
      · exact Value.readable_datetime ‹_›
      · split
        · exact Value.readable_uuid ‹_›
        · exact Value.readable_text s
  · exact Value.readable_text s
  · unfold Text.kind at hint
    split at hint
    · cases hint
    · split at hint
      · cases hint
      · split at hint <;> cases hint
  · unfold Text.kind at hdate
    split at hdate
    · exact Value.readable_datetime_of_date (Value.readable_date ‹_›)
    · split at hdate
      · cases hdate
      · split at hdate <;> cases hdate

/-- A value read as one of a kind above its own is of that kind. -/
theorem kind?_convert {j : Json} {k t : Kind} (hk : j.kind? = some k) (h : k ≤ t) :
    (convert t j).kind? = some t := by
  cases j with
  | null => cases hk
  | string s =>
    cases hk
    obtain ⟨v, hv⟩ := readable_of_kind_le h
    show ((Value.ofText? t s).getD .null).kind? = some t
    rw [hv]
    exact Value.kind?_of_ofText? hv
  | bool b =>
    cases hk
    rcases h with rfl | rfl | ⟨h, -⟩ | ⟨h, -⟩
    · rfl
    · rfl
    · cases h
    · cases h
  | number n =>
    obtain rfl : (if n.int64?.isSome then Kind.int else .float) = k := Option.some.inj hk
    split at h
    · next hint =>
      obtain ⟨i, hi⟩ := Option.isSome_iff_exists.1 hint
      rcases h with rfl | rfl | ⟨-, rfl⟩ | ⟨h, -⟩
      · show ((n.int64?.map Value.int).getD .null).kind? = some .int
        rw [hi]
        rfl
      · rfl
      · rfl
      · cases h
    · rcases h with rfl | rfl | ⟨h, -⟩ | ⟨h, -⟩
      · rfl
      · rfl
      · cases h
      · cases h
  | array | object =>
    cases hk
    rcases h with rfl | rfl | ⟨h, -⟩ | ⟨h, -⟩
    · rfl
    · rfl
    · cases h
    · cases h

theorem mem_of_lookup {β : Type} {xs : List (String × β)} {name : String} {b : β}
    (h : xs.lookup name = some b) : (name, b) ∈ xs := by
  obtain ⟨front, rest, rfl, -⟩ := List.lookup_eq_some_iff.1 h
  exact List.mem_append_right front List.mem_cons_self

/-- A name with a value has one inferred kind, and under it every value of this name but `null` reads
as one of that kind. -/
theorem read_inferKinds {rs : List Record} {r : Record} (hr : r ∈ rs) {name : String} {j : Json}
    (hj : r.get? name = some j) (hnull : j ≠ .null) :
    ∃ t, (∀ k, (name, k) ∈ inferKinds rs ↔ k = t) ∧ r.read name t ≠ .null ∧
      (r.read name t).kind? = some t := by
  obtain ⟨k, hk⟩ : ∃ k, j.kind? = some k := by
    cases j with
    | null => exact absurd rfl hnull
    | bool | number | string | array | object => exact ⟨_, rfl⟩
  have hmem : (name, j) ∈ rs.flatMap members := List.mem_flatMap.2 ⟨r, hr, mem_of_lookup hj⟩
  have hkind : some k ∈ kindsUnder name (rs.flatMap members) :=
    List.mem_map.2 ⟨(name, j), List.mem_filter.2 ⟨hmem, decide_eq_true rfl⟩, hk⟩
  obtain ⟨t, ht, hle⟩ := Kind.le_foldl_join hkind none
  have hlookup : (inferKinds rs).lookup name = some t := by
    rw [lookup_inferKinds, if_neg (List.ne_nil_of_mem hkind), ht, Option.getD_some]
  have hread : (r.read name t).kind? = some t := by
    simp only [read, hj]
    exact kind?_convert hk hle
  refine ⟨t, fun k => ⟨fun hmem => ?_, fun h => h ▸ mem_of_lookup hlookup⟩, fun h => ?_, hread⟩
  · have heq := List.inj_on_of_nodup_map (nodup_keys_inferKinds rs) hmem (mem_of_lookup hlookup) rfl
    exact congrArg Prod.snd heq
  · rw [h] at hread
    cases hread

/-- A day behind a blank, a timestamp and nothing at all under one name. -/
def sampleTimes : List Record :=
  [⟨[("at", .string " 2024-01-31")]⟩, ⟨[("at", .null)]⟩,
   ⟨[("id", .int 7), ("at", .string "2024-02-01T10:30:00Z")]⟩]

theorem read_inferKinds_sampleTimes :
    inferKinds sampleTimes = [("at", .datetime), ("id", .int)] ∧
      read ⟨[("at", .string " 2024-01-31")]⟩ "at" .datetime ≠ .null := by
  have hkinds : inferKinds sampleTimes = [("at", .datetime), ("id", .int)] := by decide +kernel
  obtain ⟨t, ht, hread, -⟩ := read_inferKinds
    (show ⟨[("at", .string " 2024-01-31")]⟩ ∈ sampleTimes from List.mem_cons_self)
    (show get? _ "at" = some (.string " 2024-01-31") from rfl) nofun
  obtain rfl : .datetime = t := (ht _).1 (by simp [hkinds])
  exact ⟨hkinds, hread⟩

end Record

end RecordQuery
