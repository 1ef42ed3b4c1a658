import Mathlib.Data.List.Forall2
import RecordQuery.Proofs.Query.CanonicalKey
import RecordQuery.Proofs.Query.Spelling

/-!
# Queries that differ in nothing but spelling

`Query.Equivalent` compares two queries part by part: names without the case of ASCII letters,
operators, logics and directions also without the blanks around them, everything else as it is.
These are the queries that share a canonical key (`Query.canonicalKey_eq_iff_equivalent`).
-/

namespace RecordQuery

namespace Text

/-- Words that are the same but for blanks around them and the case of ASCII letters. -/
def SameWord (s t : String) : Prop := sameIgnoringCase (trim s) (trim t)

instance (s t : String) : Decidable (SameWord s t) :=
  inferInstanceAs (Decidable (sameIgnoringCase (trim s) (trim t) = true))

theorem sameWord_iff {s t : String} :
    SameWord s t ↔ asciiFold (trim s) = asciiFold (trim t) :=
  sameIgnoringCase_iff

end Text

/-- Filters of the same shape whose nodes differ in nothing but spelling. A logic that is absent and
one that is blank are not the same. -/
inductive Filter.Equivalent : Filter → Filter → Prop
  | node {f g : Filter} (field : Text.sameIgnoringCase f.field g.field)
      (operator : Text.SameWord f.operator g.operator) (value : f.value = g.value)
      (logic : Option.Rel Text.SameWord f.logic g.logic)
      (caseSensitive : f.caseSensitive = g.caseSensitive)
      (filters : List.Forall₂ Filter.Equivalent f.filters g.filters) : Filter.Equivalent f g

/-- Sort keys that differ in nothing but spelling. -/
structure SortKey.Equivalent (k l : SortKey) : Prop where
  field : Text.sameIgnoringCase k.field l.field
  direction : Text.SameWord k.direction l.direction

/-- Queries that differ in nothing but spelling. -/
structure Query.Equivalent (q r : Query) : Prop where
  filter : Option.Rel Filter.Equivalent q.filter r.filter
  sort : List.Forall₂ SortKey.Equivalent q.sort r.sort

/-! ## Options and lists -/

theorem Option.map_eq_map_iff {α β : Type} {R : α → α → Prop} {f : α → β}
    (h : ∀ {a b}, f a = f b ↔ R a b) {o o' : Option α} :
    o.map f = o'.map f ↔ Option.Rel R o o' := by
  cases o <;> cases o' <;> simp [h]

theorem List.map_eq_map_iff_forall₂ {α β : Type} {R : α → α → Prop} {f : α → β} {as bs : List α}
    (h : ∀ a ∈ as, ∀ {b}, f a = f b ↔ R a b) : as.map f = bs.map f ↔ List.Forall₂ R as bs := by
  induction as generalizing bs with
  | nil => simp [eq_comm]
  | cons a as ih =>
    cases bs with
    | nil => simp
    | cons b bs =>
      rw [List.map_cons, List.map_cons, List.cons.injEq, List.forall₂_cons,
        ← h a List.mem_cons_self, ← ih fun a ha => h a (List.mem_cons_of_mem _ ha)]

/-! ## Normal forms -/

theorem Filter.normalize_eq_iff {f g : Filter} : f.normalize = g.normalize ↔ f.Equivalent g := by
  induction f using Filter.induction generalizing g with
  | node f ih =>
    rw [normalize_eq, normalize_eq, Filter.mk.injEq, ← Text.sameIgnoringCase_iff,
      ← Text.sameWord_iff, Option.map_eq_map_iff Text.sameWord_iff.symm,
      List.map_eq_map_iff_forall₂ ih]
    constructor
    · rintro ⟨field, operator, value, logic, caseSensitive, filters⟩
      exact .node field operator value logic caseSensitive filters
    · rintro ⟨field, operator, value, logic, caseSensitive, filters⟩
      exact ⟨field, operator, value, logic, caseSensitive, filters⟩

theorem SortKey.normalize_eq_iff {k l : SortKey} : k.normalize = l.normalize ↔ k.Equivalent l := by
  rw [normalize, normalize, SortKey.mk.injEq, ← Text.sameIgnoringCase_iff, ← Text.sameWord_iff]
  constructor
  · rintro ⟨field, direction⟩
    exact ⟨field, direction⟩
  · rintro ⟨field, direction⟩
    exact ⟨field, direction⟩

namespace Query

theorem normalize_eq_iff {q r : Query} : q.normalize = r.normalize ↔ q.Equivalent r := by
  rw [normalize, normalize, Query.mk.injEq,
    Option.map_eq_map_iff Filter.normalize_eq_iff,
    List.map_eq_map_iff_forall₂ fun _ _ _ => SortKey.normalize_eq_iff]
  constructor
  · rintro ⟨filter, sort⟩
    exact ⟨filter, sort⟩
  · rintro ⟨filter, sort⟩
    exact ⟨filter, sort⟩

/-- Queries share their canonical key exactly when they are equivalent. -/
theorem canonicalKey_eq_iff_equivalent {q r : Query} :
    q.canonicalKey = r.canonicalKey ↔ q.Equivalent r :=
  canonicalKey_eq_iff.trans normalize_eq_iff

/-- The spellings of queries as classes. -/
def spelling : Setoid Query where
  r := Equivalent
  iseqv :=
    { refl _ := normalize_eq_iff.1 rfl
      symm h := normalize_eq_iff.1 (normalize_eq_iff.2 h).symm
      trans h h' := normalize_eq_iff.1 ((normalize_eq_iff.2 h).trans (normalize_eq_iff.2 h')) }

/-- The canonical key of a class. -/
def classKey : Quotient spelling → String :=
  Quotient.lift canonicalKey fun _ _ => canonicalKey_eq_iff_equivalent.2

theorem classKey_injective : Function.Injective classKey := by
  rintro ⟨q⟩ ⟨r⟩ h
  exact Quotient.sound (canonicalKey_eq_iff_equivalent.1 h)

end Query

end RecordQuery
