import RecordQuery.Proofs.Except
import RecordQuery.Proofs.Filter.Tree
import RecordQuery.Proofs.Order.StableSort
import RecordQuery.Proofs.Value.Order
import RecordQuery.Query.RowOrder
import RecordQuery.Sample

/-!
# Sorting by several keys

A row order over a typed schema is a total preorder (`RowOrder.Typed.transCmp`), and `RowOrder.sort`
is the stable sort by it (`RowOrder.Typed.stablySorted_sort`). Sorting by several keys at once is
sorting by one key after another, the most important one last (`RowOrder.sort_eq_foldr`).

The keys of a record are compared in two ways: by `RowOrder.compare`, which turns the answer of a
descending key around, and while sorting by `RowOrder.compareValues`, which turns its arguments
around. For one key this makes no difference, whatever values it reads (`OrderKey.compare_eq`), and
so the values that were read compare as the records do (`RowOrder.compareValues_values`).
-/

namespace RecordQuery

open Std (TransCmp OrientedCmp)

variable {α : Type}

theorem Direction.ofKey_eq_ok {key : SortKey} {d : Direction} :
    ofKey key = .ok d ↔ ofText? key.direction = some d := by
  unfold ofKey
  cases ofText? key.direction <;> simp

/-! ## One key -/

namespace OrderKey

theorem compare_swap (k : OrderKey α) (a b : α) : k.compare b a = (k.compare a b).swap := by
  unfold compare
  rw [Value.sortCompare_swap (k.read a)]
  cases k.direction <;> rfl

/-- A descending key may turn its arguments around in place of its answer. -/
theorem compare_eq (k : OrderKey α) (a b : α) :
    k.compare a b = match k.direction with
      | .asc => Value.sortCompare (k.read a) (k.read b)
      | .desc => Value.sortCompare (k.read b) (k.read a) := by
  unfold compare
  cases k.direction with
  | asc => rfl
  | desc => exact (Value.sortCompare_swap _ _).symm

/-- Whether a key reads values that fit one kind. -/
def Typed (k : OrderKey α) : Prop := ∃ kind, ∀ r, (k.read r).Fits kind

theorem Typed.transCmp {k : OrderKey α} (h : k.Typed) : TransCmp k.compare where
  eq_swap := k.compare_swap _ _
  isLE_trans {a b c} hab hbc := by
    obtain ⟨kind, hfits⟩ := h
    rw [compare_eq] at hab hbc ⊢
    cases hd : k.direction with
    | asc =>
      rw [hd] at hab hbc
      exact (hfits a).sortCompare_trans (hfits b) (hfits c) hab hbc
    | desc =>
      rw [hd] at hab hbc
      exact (hfits c).sortCompare_trans (hfits b) (hfits a) hbc hab

/-- The records in the order of one key; those that it does not tell apart stay as they were. -/
def sort (k : OrderKey α) (rows : List α) : List α :=
  rows.mergeSort fun a b => (k.compare a b).isLE

/-- A missing value comes first where a key ascends and last where it descends. -/
theorem compare_missing (k : OrderKey α) {a b : α} (ha : k.read a = .null)
    (hb : k.read b ≠ .null) :
    k.compare a b = match k.direction with
      | .asc => .lt
      | .desc => .gt := by
  have hlt : Value.sortCompare .null (k.read b) = .lt := by
    cases hv : k.read b with
    | null => exact absurd hv hb
    | _ => rfl
  rw [compare, ha, hlt]
  rfl

end OrderKey

namespace RowOrder

/-! ## Comparing -/

theorem compareValues_eq (ks : List (OrderKey α)) (a b : α) :
    compareValues ks (ks.map (·.read a)) (ks.map (·.read b)) = compareBy a b ks := by
  induction ks with
  | nil => rfl
  | cons k ks ih =>
    calc compareValues (k :: ks) ((k :: ks).map (·.read a)) ((k :: ks).map (·.read b))
      _ = (k.compare a b).then (compareValues ks (ks.map (·.read a)) (ks.map (·.read b))) := by
        rw [k.compare_eq]
        rfl
      _ = compareBy a b (k :: ks) := by
        rw [ih]
        rfl

theorem transCmp_compareBy {ks : List (OrderKey α)} (h : ∀ k ∈ ks, k.Typed) :
    TransCmp fun a b : α => compareBy a b ks := by
  induction ks with
  | nil => exact { eq_swap := rfl, isLE_trans := fun _ _ => rfl }
  | cons k ks ih =>
    have := (h k List.mem_cons_self).transCmp
    have := ih fun k hk => h k (List.mem_cons_of_mem _ hk)
    exact inferInstanceAs (TransCmp (compareLex k.compare fun a b => compareBy a b ks))

/-- Whether all keys read values that fit one kind each. -/
def Typed (o : RowOrder α) : Prop := ∀ k ∈ o.keys, k.Typed

theorem Typed.transCmp {o : RowOrder α} (h : o.Typed) : TransCmp o.compare := transCmp_compareBy h

/-! ## Sorting -/

theorem sort_eq_mergeSort (o : RowOrder α) (rows : List α) :
    o.sort rows = rows.mergeSort fun a b => (o.compare a b).isLE := by
  unfold sort
  split
  · next hskip =>
    refine (List.mergeSort_of_pairwise ?_).symm
    rcases Bool.or_eq_true_iff.1 hskip with hid | hshort
    · have hkeys : o.keys = [] := List.isEmpty_iff.1 hid
      refine List.pairwise_iff_forall_sublist.2 fun {a b} _ => ?_
      rw [compare, hkeys]
      rfl
    · match rows, of_decide_eq_true hshort with
      | [], _ => exact .nil
      | [a], _ => exact List.pairwise_singleton _ a
  · rw [← List.map_mergeSort (r := fun a b => (o.compare a b).isLE)]
    · rw [List.map_map]
      exact List.map_id _
    · intro a _ b _
      exact congrArg _ (compareValues_eq o.keys a b).symm

theorem Typed.stablySorted_sort {o : RowOrder α} (h : o.Typed) (rows : List α) :
    StablySorted o.compare rows (o.sort rows) := by
  have := h.transCmp
  rw [sort_eq_mergeSort]
  exact stablySorted_mergeSort rows

/-- Sorts by one key after another are a sort by all of them, the last one first. -/
theorem stablySorted_foldr {ks : List (OrderKey α)} (h : ∀ k ∈ ks, k.Typed) (rows : List α) :
    StablySorted (fun a b => compareBy a b ks) rows (ks.foldr OrderKey.sort rows) := by
  induction ks with
  | nil => exact .of_eq fun _ _ => rfl
  | cons k ks ih =>
    have := (h k List.mem_cons_self).transCmp
    exact (ih fun k hk => h k (List.mem_cons_of_mem _ hk)).lex (stablySorted_mergeSort _)

theorem Typed.sort_eq {o : RowOrder α} (h : o.Typed) (rows : List α) :
    o.sort rows = o.keys.foldr OrderKey.sort rows := by
  have := h.transCmp
  exact (h.stablySorted_sort rows).unique (stablySorted_foldr h rows)

/-! ## Submitted keys -/

variable {s : Schema α}

theorem keyOf_eq_ok {key : SortKey} {k : OrderKey α} : keyOf s key = .ok k ↔
    ∃ field d, s.get? (Text.trim key.field) = some field ∧
      Direction.ofText? key.direction = some d ∧ k = ⟨field.read, d⟩ := by
  simp only [keyOf, Except.bind_eq_ok, Except.pure_eq_ok, Schema.resolve_eq_ok,
    Direction.ofKey_eq_ok, eq_comm (b := k)]
  constructor
  · rintro ⟨field, hfield, d, hd, rfl⟩
    exact ⟨field, d, hfield, hd, rfl⟩
  · rintro ⟨field, d, hfield, hd, rfl⟩
    exact ⟨field, hfield, d, hd, rfl⟩

theorem ofKeys_eq_ok {keys : List SortKey} {o : RowOrder α} :
    ofKeys s keys = .ok o ↔ List.Forall₂ (fun key k => keyOf s key = .ok k) keys o.keys := by
  simp only [ofKeys, Except.map_eq_ok, Except.mapM_eq_ok]
  constructor
  · rintro ⟨ks, hks, rfl⟩
    exact hks
  · exact fun h => ⟨o.keys, h, rfl⟩

/-- Over a typed schema the order of submitted keys is typed. -/
theorem typed_ofKeys (hs : s.Typed) {keys : List SortKey} {o : RowOrder α}
    (h : ofKeys s keys = .ok o) : o.Typed := by
  obtain ⟨ks⟩ := o
  have hkeys : List.Forall₂ (fun key k => keyOf s key = .ok k) keys ks := ofKeys_eq_ok.1 h
  clear h
  show ∀ k ∈ ks, k.Typed
  induction hkeys with
  | nil => nofun
  | cons hkey _ ih =>
    obtain ⟨field, d, hfield, -, rfl⟩ := keyOf_eq_ok.1 hkey
    exact List.forall_mem_cons.2 ⟨⟨field.kind, hs field (Schema.mem_of_get? hfield)⟩, ih⟩

/-- The values of a record are those of the fields that the keys name, one for each key. -/
theorem forall₂_values {keys : List SortKey} {o : RowOrder α} (h : ofKeys s keys = .ok o) (r : α) :
    List.Forall₂ (fun key v => ∃ field, s.get? (Text.trim key.field) = some field ∧
      v = field.read r) keys (o.values r) := by
  refine List.forall₂_map_right_iff.2 ((ofKeys_eq_ok.1 h).imp fun key k hkey => ?_)
  obtain ⟨field, d, hfield, -, rfl⟩ := keyOf_eq_ok.1 hkey
  exact ⟨field, hfield, rfl⟩

/-- The values that are read from two records before they are sorted compare as the records do.
Nothing is asked of the fields: they may hold NaNs, both zeros, whole numbers next to doubles and
values that do not compare. -/
theorem compareValues_values {keys : List SortKey} {o : RowOrder α} (h : ofKeys s keys = .ok o)
    (a b : α) :
    (∀ r, List.Forall₂ (fun key v => ∃ field, s.get? (Text.trim key.field) = some field ∧
      v = field.read r) keys (o.values r)) ∧
      compareValues o.keys (o.values a) (o.values b) = o.compare a b :=
  ⟨forall₂_values h, compareValues_eq o.keys a b⟩

/-- Pairs of values as records. -/
def samplePairs : Schema (Value × Value) :=
  .ofFields "pair" [⟨"left", .int, Prod.fst⟩, ⟨"right", .float, Prod.snd⟩]

/-- A whole number and a NaN are not told apart, and of the two zeros the negative one comes last
when the order descends. -/
theorem compareValues_values_samplePairs : ∃ o,
    ofKeys samplePairs [⟨" LEFT", "desc"⟩, ⟨"right", "Desc"⟩] = .ok o ∧
      compareValues o.keys [.int 1, .float ⟨0x8000000000000000⟩]
        [.float ⟨0x7ff8000000000000⟩, .float ⟨0⟩] = .gt ∧
      o.compare (.int 1, .float ⟨0x8000000000000000⟩)
        (.float ⟨0x7ff8000000000000⟩, .float ⟨0⟩) = .gt := by
  have hkeys : ofKeys samplePairs [⟨" LEFT", "desc"⟩, ⟨"right", "Desc"⟩] =
      .ok ⟨[⟨Prod.fst, .desc⟩, ⟨Prod.snd, .desc⟩]⟩ := rfl
  have hsame := (compareValues_values hkeys (.int 1, .float ⟨0x8000000000000000⟩)
    (.float ⟨0x7ff8000000000000⟩, .float ⟨0⟩)).2
  have hgt : compareValues [⟨Prod.fst (β := Value), .desc⟩, ⟨Prod.snd, .desc⟩]
      [.int 1, .float ⟨0x8000000000000000⟩] [.float ⟨0x7ff8000000000000⟩, .float ⟨0⟩] = .gt := by
    decide
  exact ⟨_, hkeys, hgt, hsame.symm.trans hgt⟩

theorem ofKeys_append {keys more : List SortKey} {o o' : RowOrder α} (h : ofKeys s keys = .ok o)
    (h' : ofKeys s (keys ++ more) = .ok o') : ∃ ks, o'.keys = o.keys ++ ks := by
  obtain ⟨ks, hks, rfl⟩ := Except.map_eq_ok.1 h
  obtain ⟨all, hall, rfl⟩ := Except.map_eq_ok.1 h'
  rw [List.mapM_append, hks] at hall
  obtain ⟨ls, -, rfl⟩ := Except.map_eq_ok.1 hall
  exact ⟨ls, rfl⟩

/-- Sorting by keys is sorting by one key after another, the last one first: each time a stable
sort, with missing values first or, where the key descends, last. Keys that are added behind the
others move records only among those that the others do not tell apart. -/
theorem sort_eq_foldr (hs : s.Typed) {keys : List SortKey} {o : RowOrder α}
    (h : ofKeys s keys = .ok o) (rows : List α) :
    List.Forall₂ (fun key k => keyOf s key = .ok k) keys o.keys ∧
      o.sort rows = o.keys.foldr OrderKey.sort rows ∧
      (∀ k ∈ o.keys, (∀ rows, StablySorted k.compare rows (k.sort rows)) ∧
        ∀ a b, k.read a = .null → k.read b ≠ .null → k.compare a b = match k.direction with
          | .asc => .lt
          | .desc => .gt) ∧
      (o.sort rows).Perm rows ∧
      ∀ more o', ofKeys s (keys ++ more) = .ok o' → (o'.sort rows).Perm (o.sort rows) ∧
        List.Forall₂ (fun a b => o.compare a b = .eq) (o.sort rows) (o'.sort rows) := by
  have ho := typed_ofKeys hs h
  have hsorted := ho.stablySorted_sort
  refine ⟨ofKeys_eq_ok.1 h, ho.sort_eq rows, fun k hk => ⟨fun rows => ?_, fun a b => ?_⟩,
    (hsorted rows).perm, fun more o' h' => ?_⟩
  · have := (ho k hk).transCmp
    exact stablySorted_mergeSort rows
  · exact k.compare_missing
  · have ho' := typed_ofKeys hs h'
    obtain ⟨ks, hks⟩ := ofKeys_append h h'
    have hmid : (ks.foldr OrderKey.sort rows).Perm rows :=
      (stablySorted_foldr (fun k hk => ho' k (hks ▸ List.mem_append_right _ hk)) rows).perm
    -- the added keys sort first, and the others sort what comes out of that
    have hsort : o'.sort rows = o.sort (ks.foldr OrderKey.sort rows) := by
      rw [ho'.sort_eq, ho.sort_eq, hks, List.foldr_append]
    have := ho.transCmp
    rw [hsort]
    exact ⟨(hsorted _).perm.trans (hmid.trans (hsorted rows).perm.symm),
      (hsorted rows).forall₂_eq (hsorted _) hmid.symm⟩

end RowOrder

/-! ## People -/

theorem Person.schema_typed : schema.Typed := by
  refine Schema.typed_ofFields ?_
  have hscore (p : Person) : ((p.score.map Value.float).getD .null).Fits .float := by
    cases p.score with
    | none => exact .inl rfl
    | some x => exact .inr rfl
  have hemail (p : Person) : ((p.email.map Value.text).getD .null).Fits .text := by
    cases p.email with
    | none => exact .inl rfl
    | some x => exact .inr rfl
  simp only [List.forall_mem_cons]
  exact ⟨fun _ => .inr rfl, fun _ => .inr rfl, fun _ => .inr rfl, hscore, fun _ => .inr rfl,
    fun _ => .inr rfl, fun _ => .inr rfl, hemail, nofun⟩

/-- Active people first, the others behind them, each by falling score and then by age. -/
def Person.sampleKeys : List SortKey := [⟨"active", "DESC"⟩, ⟨" Score", " desc"⟩, ⟨"AGE", "asc"⟩]

theorem Person.sort_sampleKeys : ∃ o, RowOrder.ofKeys schema sampleKeys = .ok o ∧
    o.sort people = o.keys.foldr OrderKey.sort people ∧ (o.sort people).Perm people :=
  have h := RowOrder.sort_eq_foldr schema_typed
    (show RowOrder.ofKeys schema sampleKeys = _ from rfl) people
  ⟨_, rfl, h.2.1, h.2.2.2.1⟩

end RecordQuery
