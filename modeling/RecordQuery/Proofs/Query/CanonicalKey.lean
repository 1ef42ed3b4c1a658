import RecordQuery.Proofs.Filter.Tree
import RecordQuery.Proofs.Json.Text
import RecordQuery.Query.Wire

/-!
# Canonical keys

The text of a query determines the query (`Query.text_injective`), so queries have the same
canonical key exactly when they are the same after normalization (`Query.canonicalKey_eq_iff`).

Members of an object that may be absent are told apart by their names: each member of a query is
looked up in the list of members.
-/

namespace RecordQuery

namespace Filter

theorem toJsons_eq (fs : List Filter) : toJsons fs = fs.map toJson := by
  induction fs with
  | nil => rfl
  | cons f fs ih => rw [toJsons, ih, List.map_cons]

/-- The member for the children, which is written only if there are some. -/
def childMember : List Filter → List (String × Json)
  | [] => []
  | fs => [("filters", .array (fs.map toJson))]

/-- The members of the object of a node. -/
def members (f : Filter) : List (String × Json) :=
  [("field", .string f.field), ("operator", .string f.operator)] ++ optional "value" f.value
    ++ optional "logic" f.logic ++ [("caseSensitive", .bool f.caseSensitive)]
    ++ childMember f.filters

theorem toJson_eq (f : Filter) : f.toJson = .object f.members := by
  obtain ⟨field, operator, value, logic, caseSensitive, filters⟩ := f
  cases filters <;> simp [toJson, members, childMember, toJsons_eq]

theorem lookup_members (f : Filter) :
    f.members.lookup "field" = some (.string f.field) ∧
    f.members.lookup "operator" = some (.string f.operator) ∧
    f.members.lookup "value" = f.value.map Json.string ∧
    f.members.lookup "logic" = f.logic.map Json.string ∧
    f.members.lookup "caseSensitive" = some (.bool f.caseSensitive) ∧
    f.members.lookup "filters" =
      if f.filters = [] then none else some (.array (f.filters.map toJson)) := by
  obtain ⟨field, operator, value, logic, caseSensitive, filters⟩ := f
  cases value <;> cases logic <;> cases filters <;>
    simp [members, optional, childMember, List.lookup_cons]

theorem numberless_toJson (f : Filter) : f.toJson.Numberless := by
  induction f using Filter.induction with
  | node f ih =>
    rw [toJson_eq]
    refine .object fun m hm => ?_
    simp only [members, List.mem_append] at hm
    rcases hm with (((hm | hm) | hm) | hm) | hm
    · rcases List.mem_pair.1 hm with rfl | rfl <;> exact .string _
    · cases hv : f.value <;> simp [hv, optional] at hm
      exact hm ▸ .string _
    · cases hl : f.logic <;> simp [hl, optional] at hm
      exact hm ▸ .string _
    · exact List.mem_singleton.1 hm ▸ .bool _
    · cases hf : f.filters <;> simp only [hf, childMember, List.not_mem_nil] at hm
      rw [List.mem_singleton.1 hm, ← hf]
      refine .array fun j hj => ?_
      obtain ⟨g, hg, rfl⟩ := List.mem_map.1 hj
      exact ih g hg

theorem map_toJson_injective {fs gs : List Filter}
    (hfs : ∀ f ∈ fs, ∀ {g : Filter}, f.toJson = g.toJson → f = g)
    (h : fs.map toJson = gs.map toJson) : fs = gs := by
  induction fs generalizing gs with
  | nil => exact (List.map_eq_nil_iff.1 h.symm).symm
  | cons f fs ih =>
    cases gs with
    | nil => cases h
    | cons g gs =>
      simp only [List.map_cons, List.cons.injEq] at h
      rw [hfs f List.mem_cons_self h.1, ih (fun f hf => hfs f (List.mem_cons_of_mem _ hf)) h.2]

theorem toJson_injective {f g : Filter} (h : f.toJson = g.toJson) : f = g := by
  induction f using Filter.induction generalizing g with
  | node f ih =>
    rw [toJson_eq, toJson_eq, Json.object.injEq] at h
    have hf := lookup_members f
    rw [h] at hf
    obtain ⟨hfield, hoperator, hvalue, hlogic, hcase, hfilters⟩ := hf
    obtain ⟨gfield, goperator, gvalue, glogic, gcase, gfilters⟩ := lookup_members g
    have hstring : Function.Injective Json.string := fun _ _ => Json.string.inj
    rw [hfield, Option.some.injEq, Json.string.injEq] at gfield
    rw [hoperator, Option.some.injEq, Json.string.injEq] at goperator
    rw [hvalue] at gvalue
    rw [hlogic] at glogic
    rw [hcase, Option.some.injEq, Json.bool.injEq] at gcase
    have hchildren : f.filters = g.filters := by
      rw [hfilters] at gfilters
      split_ifs at gfilters with hfs hgs
      · rw [hfs, hgs]
      · exact map_toJson_injective ih (by simpa using gfilters)
    obtain ⟨field, operator, value, logic, caseSensitive, filters⟩ := f
    obtain ⟨field', operator', value', logic', caseSensitive', filters'⟩ := g
    simp only at *
    rw [gfield, goperator, Option.map_injective hstring gvalue, Option.map_injective hstring glogic,
      gcase, hchildren]

end Filter

namespace Query

/-- The members of the object of a query. -/
def members (q : Query) : List (String × Json) :=
  (match q.filter with
    | none => []
    | some f => [("filter", f.toJson)])
  ++ (match q.sort with
    | [] => []
    | keys => [("sort", .array (keys.map SortKey.toJson))])

theorem lookup_members (q : Query) :
    q.members.lookup "filter" = q.filter.map Filter.toJson ∧
    q.members.lookup "sort" =
      if q.sort = [] then none else some (.array (q.sort.map SortKey.toJson)) := by
  obtain ⟨filter, sort⟩ := q
  cases filter <;> cases sort <;> simp [members, List.lookup_cons]

theorem numberless_toJson (q : Query) : q.toJson.Numberless := by
  refine .object fun m hm => ?_
  rcases List.mem_append.1 hm with hm | hm
  · cases hf : q.filter <;> simp only [hf, List.not_mem_nil] at hm
    exact List.mem_singleton.1 hm ▸ Filter.numberless_toJson _
  · cases hs : q.sort <;> simp only [hs, List.not_mem_nil] at hm
    rw [List.mem_singleton.1 hm, ← hs]
    refine .array fun j hj => ?_
    obtain ⟨k, _, rfl⟩ := List.mem_map.1 hj
    refine .object fun m hm => ?_
    rcases List.mem_pair.1 hm with rfl | rfl <;> exact .string _

end Query

theorem SortKey.toJson_injective : Function.Injective toJson := by
  rintro ⟨field, direction⟩ ⟨field', direction'⟩ h
  simpa [toJson] using h

namespace Query

theorem toJson_injective {q r : Query} (h : q.toJson = r.toJson) : q = r := by
  have hmembers : q.members = r.members := Json.object.inj h
  have hq := lookup_members q
  rw [hmembers] at hq
  obtain ⟨hfilter, hsort⟩ := hq
  obtain ⟨rfilter, rsort⟩ := lookup_members r
  rw [hfilter] at rfilter
  rw [hsort] at rsort
  have hkeys : q.sort = r.sort := by
    split_ifs at rsort with hqs hrs
    · rw [hqs, hrs]
    · exact List.map_injective_iff.2 SortKey.toJson_injective (by simpa using rsort)
  obtain ⟨filter, sort⟩ := q
  obtain ⟨filter', sort'⟩ := r
  simp only at *
  rw [Option.map_injective (fun _ _ => Filter.toJson_injective) rfilter, hkeys]

/-- The text of a query determines the query. -/
theorem text_injective {q r : Query} (h : q.text = r.text) : q = r :=
  toJson_injective (Json.text_injective q.numberless_toJson r.numberless_toJson h)

/-- Queries share their canonical key exactly when they differ in nothing but spelling. -/
theorem canonicalKey_eq_iff {q r : Query} :
    q.canonicalKey = r.canonicalKey ↔ q.normalize = r.normalize :=
  ⟨text_injective, congrArg text⟩

end Query

end RecordQuery
