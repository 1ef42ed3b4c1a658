import RecordQuery.Schema

/-!
# The order in which values are sorted

Turning the arguments of `Value.sortCompare` around turns its answer around, whatever the values
(`Value.sortCompare_swap`). It is transitive among the values that a field of one kind may have
(`Value.Fits.sortCompare_trans`), the missing value among them.

A schema is `Schema.Typed` if its fields have no other values.
-/

namespace RecordQuery

open Std (TransCmp TransOrd OrientedCmp OrientedOrd)

/-! ## Orders of single kinds -/

instance : TransCmp Date.compare :=
  inferInstanceAs (TransCmp (compareLex (compareOn Date.year)
    (compareLex (compareOn Date.month) (compareOn Date.day))))

instance : TransCmp Instant.compare :=
  inferInstanceAs (TransCmp (compareLex (compareOn Instant.seconds) (compareOn Instant.nanos)))

instance : TransCmp Uuid.compare :=
  inferInstanceAs (TransCmp (compareOn fun u : Uuid => u.value.val))

instance : TransCmp Binary64.totalCompare :=
  inferInstanceAs (TransCmp (compareOn Binary64.totalPlace))

theorem Binary64.compare?_swap (x y : Binary64) :
    compare? y x = (compare? x y).map Ordering.swap := by
  unfold compare?
  rw [Bool.or_comm, OrientedOrd.eq_swap (a := y.place)]
  split <;> rfl

namespace Value

/-! ## Turning around -/

theorem compare?_swap (a b : Value) : compare? b a = (compare? a b).map Ordering.swap := by
  cases a <;> cases b <;> try rfl
  case bool.bool a b => exact congrArg some OrientedOrd.eq_swap
  case int.int a b => exact congrArg some OrientedOrd.eq_swap
  case float.float a b => exact Binary64.compare?_swap a b
  case float.int a b => simp [compare?, Function.comp_def]
  case text.text a b => exact congrArg some OrientedOrd.eq_swap
  case date.date a b => exact congrArg some OrientedCmp.eq_swap
  case datetime.datetime a b => exact congrArg some OrientedCmp.eq_swap
  case uuid.uuid a b => exact congrArg some OrientedCmp.eq_swap

theorem sortCompare_swap (a b : Value) : sortCompare b a = (sortCompare a b).swap := by
  have hranked : (compare? b a).getD (compare b.rank a.rank) =
      ((compare? a b).getD (compare a.rank b.rank)).swap := by
    rw [compare?_swap a b]
    cases compare? a b with
    | none => exact OrientedOrd.eq_swap
    | some o => rfl
  cases a <;> cases b <;> try first | rfl | exact hranked
  case float.float a b => exact @OrientedCmp.eq_swap _ Binary64.totalCompare _ b a

theorem compare?_self {v : Value} (hnull : v ≠ .null)
    (hnan : ∀ x, v = .float x → x.isNaN = false) : v.compare? v = some .eq := by
  cases v with
  | null => exact absurd rfl hnull
  | float x =>
    have hx := hnan x rfl
    simp [compare?, Binary64.compare?, hx, Std.ReflCmp.compare_self]
  | date d => exact congrArg some Std.ReflCmp.compare_self
  | datetime i => exact congrArg some Std.ReflCmp.compare_self
  | uuid u => exact congrArg some Std.ReflCmp.compare_self
  | bool | int | text => exact congrArg some Std.ReflCmp.compare_self

/-! ## Values of one kind -/

/-- Whether a value may stand in a field of a kind: it is missing or of that kind. -/
def Fits (v : Value) (k : Kind) : Prop := v = .null ∨ v.kind? = some k

theorem Fits.sortCompare_trans {k : Kind} {a b c : Value} (ha : a.Fits k) (hb : b.Fits k)
    (hc : c.Fits k) (hab : (sortCompare a b).isLE) (hbc : (sortCompare b c).isLE) :
    (sortCompare a c).isLE := by
  rcases ha with rfl | ha
  · cases c <;> rfl
  rcases hb with rfl | hb
  · cases a <;> cases hab
    cases ha
  rcases hc with rfl | hc
  · cases b <;> cases hbc
    cases hb
  cases a <;> cases ha <;> cases b <;> cases hb <;> cases c <;> cases hc
  · next a b c => exact TransOrd.isLE_trans (α := Nat) hab hbc
  · next a b c => exact TransOrd.isLE_trans (α := Int64) hab hbc
  · next a b c => exact @TransCmp.isLE_trans _ Binary64.totalCompare _ a b c hab hbc
  · next a b c => exact TransOrd.isLE_trans (α := String) hab hbc
  · next a b c => exact @TransCmp.isLE_trans _ Date.compare _ a b c hab hbc
  · next a b c => exact @TransCmp.isLE_trans _ Instant.compare _ a b c hab hbc
  · next a b c => exact @TransCmp.isLE_trans _ Uuid.compare _ a b c hab hbc

end Value

/-! ## Typed schemas -/

namespace Schema

variable {α : Type}

/-- Whether every field has only values that may stand in it. -/
def Typed (s : Schema α) : Prop := ∀ f ∈ s.fields, ∀ r, (f.read r).Fits f.kind

theorem mem_put {f g : Field α} {fs : List (Field α)} (h : g ∈ put f fs) : g = f ∨ g ∈ fs := by
  induction fs with
  | nil => exact .inl (List.mem_singleton.1 h)
  | cons h' fs ih =>
    unfold put at h
    split at h
    · exact (List.mem_cons.1 h).imp_right (List.mem_cons_of_mem _)
    · rcases List.mem_cons.1 h with rfl | h
      · exact .inr List.mem_cons_self
      · exact (ih h).imp_right (List.mem_cons_of_mem _)

theorem Typed.add {s : Schema α} (hs : s.Typed) {f : Field α} (hf : ∀ r, (f.read r).Fits f.kind) :
    (s.add f).Typed := by
  intro g hg
  rcases mem_put hg with rfl | hg
  · exact hf
  · exact hs g hg

theorem typed_ofFields {title : String} {fs : List (Field α)}
    (h : ∀ f ∈ fs, ∀ r, (f.read r).Fits f.kind) : (ofFields title fs).Typed := by
  unfold ofFields
  have hempty : (empty title : Schema α).Typed := nofun
  generalize empty title = s at hempty
  induction fs generalizing s with
  | nil => exact hempty
  | cons f fs ih =>
    exact ih (fun g hg => h g (List.mem_cons_of_mem _ hg)) _ (hempty.add (h f List.mem_cons_self))

theorem mem_of_get? {s : Schema α} {name : String} {f : Field α} (h : s.get? name = some f) :
    f ∈ s.fields :=
  List.mem_of_find?_eq_some h

end Schema

end RecordQuery
