import RecordQuery.Proofs.Json.Decoding
import RecordQuery.Proofs.Query.CanonicalKey
import RecordQuery.Query.Limits

/-!
# Queries written and read back

The reader of queries decodes what is written of a query (`Query.decodes_ofTree`): each member that
is written is one that the reader knows, and those left out stand for what it begins with.

The text of a query nests arrays and objects about twice as deep as the query nests filters
(`Filter.nesting_toJson`), and deeper than a text may where filters are nested as deep as limits can
allow. So a query within the limits is read back from its text unless it is that deep
(`Query.ofText_text`).
-/

namespace RecordQuery

open Json

namespace Filter

/-! ## Filters -/

/-- What is written of a text that may be absent is put in, if absence is what is there. -/
theorem decodesMembers_optional {ms : List (String × Json)} {n : String} {v : Option String}
    {node f : Filter} (put : Option String → Filter → Filter)
    (hput : ∀ s, Puts ofMembers n (.string s) (put (some s))) (hnode : put none node = node)
    (h : DecodesMembers ofMembers ms (put v node) f) :
    DecodesMembers ofMembers (optional n v ++ ms) node f := by
  cases v with
  | none => exact hnode ▸ h
  | some s => exact .cons (hput s) h

/-- Each member that holds a text or a truth value is put in its place. -/
theorem puts_scalar :
    (∀ s, Puts ofMembers "field" (.string s) fun node => { node with field := s }) ∧
    (∀ s, Puts ofMembers "operator" (.string s) fun node => { node with operator := s }) ∧
    (∀ s, Puts ofMembers "value" (.string s) fun node => { node with value := some s }) ∧
    (∀ s, Puts ofMembers "logic" (.string s) fun node => { node with logic := some s }) ∧
    ∀ b, Puts ofMembers "caseSensitive" (.bool b) fun node => { node with caseSensitive := b } := by
  refine ⟨?_, ?_, ?_, ?_, ?_⟩
  all_goals
    intro scalar node name start settled outcome value rest hname hvalue
    cases hvalue
    rw [ofMembers, hname]
    rfl

theorem ofItems_eq : ∀ items, ofItems items = Tree.readItems ofTree items
  | .done _ => rfl
  | .item _ value rest => by rw [ofItems, Tree.readItems, ofItems_eq rest]
  | .fault _ _ => rfl

theorem decodes_childrenOfTree {fs : List Filter} (h : ∀ f ∈ fs, Decodes ofTree f.toJson f) :
    Decodes childrenOfTree (.array (fs.map toJson)) fs := by
  intro outcome t hshown
  cases hshown with
  | array hitems => exact (ofItems_eq _).trans (decodes_readItems h hitems)
  | deepArray => rfl

theorem puts_filters {fs : List Filter} (h : ∀ f ∈ fs, Decodes ofTree f.toJson f) :
    Puts ofMembers "filters" (.array (fs.map toJson)) fun node => { node with filters := fs } := by
  refine .of_decodes (fun fs (node : Filter) => { node with filters := fs })
    (decodes_childrenOfTree h) fun _ _ _ _ _ _ hname => ?_
  rw [ofMembers, hname]
  rfl

theorem decodes_ofTree (f : Filter) : Decodes ofTree f.toJson f := by
  induction f using Filter.induction with
  | node f ih =>
  have hmembers : DecodesMembers ofMembers f.members neutral f := by
    obtain ⟨field, operator, value, logic, caseSensitive, filters⟩ := f
    obtain ⟨hfield, hoperator, hvalue, hlogic, hcase⟩ := puts_scalar
    -- the members one by one, in the order in which they are written
    simp only [members, List.append_assoc, List.cons_append, List.nil_append]
    refine .cons (hfield _) (.cons (hoperator _) ?_)
    refine decodesMembers_optional (fun s node => { node with value := s }) hvalue rfl ?_
    refine decodesMembers_optional (fun s node => { node with logic := s }) hlogic rfl ?_
    refine .cons (hcase _) ?_
    cases filters with
    | nil => exact .nil fun _ => rfl
    | cons g gs => exact .cons (puts_filters ih) (.nil fun _ => rfl)
  intro outcome t hshown
  rw [toJson_eq] at hshown
  cases hshown with
  | object h => exact hmembers h
  | deepObject => rfl

theorem nesting_optional (n : String) (v : Option String) : membersNesting (optional n v) = 0 := by
  cases v <;> rfl

theorem depth_pos (f : Filter) : 0 < f.depth := by
  cases f
  rw [depth]
  omega

theorem depth_wrap (n : Nat) (f : Filter) : (wrap n f).depth = n + f.depth := by
  induction n generalizing f with
  | zero => exact (Nat.zero_add _).symm
  | succ n ih =>
    have hgroup : (group "and" [f]).depth = 1 + max f.depth 0 := rfl
    rw [wrap, ih, hgroup]
    omega

/-- A node takes two levels, one for its object and one for the array of its children. -/
theorem nesting_toJson (f : Filter) : f.toJson.nesting + 1 = 2 * f.depth := by
  induction f using Filter.induction with
  | node f ih =>
  obtain ⟨field, operator, value, logic, caseSensitive, filters⟩ := f
  -- without children there is nothing to take off
  have hchildren : itemsNesting (filters.map toJson) = 2 * maxDepth filters - 1 := by
    induction filters with
    | nil => rfl
    | cons g gs ihs =>
      have hg := ih g List.mem_cons_self
      have hgs := ihs fun g hg => ih g (List.mem_cons_of_mem _ hg)
      rw [List.map_cons, itemsNesting, hgs, maxDepth]
      omega
  have hmember : membersNesting (childMember filters) = 2 * maxDepth filters := by
    cases filters with
    | nil => rfl
    | cons g gs =>
      have hpos : 0 < g.depth := g.depth_pos
      have hcons : childMember (g :: gs) = [("filters", .array ((g :: gs).map toJson))] := rfl
      rw [hcons, membersNesting, nesting, hchildren, membersNesting, maxDepth]
      omega
  rw [toJson_eq, nesting, members]
  simp only [membersNesting_append, nesting_optional, hmember, membersNesting, nesting, depth]
  omega

end Filter

/-! ## Sort keys -/

namespace SortKey

/-- A key under construction is a pair of the field and the direction that have been read. -/
theorem puts_scalar :
    (∀ s, Puts (fun k => ofMembers k.1 k.2) "field" (.string s) fun k => (some s, k.2)) ∧
    ∀ s, Puts (fun k => ofMembers k.1 k.2) "dir" (.string s) fun k => (k.1, some s) := by
  refine ⟨?_, ?_⟩
  all_goals
    intro s k name start settled outcome value rest hname hvalue
    cases hvalue
    beta_reduce
    rw [ofMembers, hname]
    rfl

theorem decodes_ofTree (k : SortKey) : Decodes ofTree k.toJson k := by
  obtain ⟨hfield, hdirection⟩ := puts_scalar
  have hmembers : DecodesMembers (fun k => ofMembers k.1 k.2)
      [("field", .string k.field), ("dir", .string k.direction)] (none, none) k :=
    .cons (hfield _) (.cons (hdirection _) (.nil fun _ => rfl))
  intro outcome t hshown
  cases hshown with
  | object h => exact hmembers h
  | deepObject => rfl

end SortKey

/-! ## Queries -/

namespace Query

theorem puts_filter (f : Filter) : Puts ofMembers "filter" f.toJson
    fun q => { q with filter := some f } := by
  refine .of_decodes (fun f (q : Query) => { q with filter := f })
    (f.decodes_ofTree.asOption ?_) fun _ _ _ _ _ _ hname => ?_
  · rw [Filter.toJson_eq]
    exact nofun
  · rw [ofMembers, hname]
    rfl

theorem puts_sort (keys : List SortKey) : Puts ofMembers "sort" (.array (keys.map SortKey.toJson))
    fun q => { q with sort := keys } := by
  refine .of_decodes (fun keys (q : Query) => { q with sort := keys.getD [] })
    ((decodes_asList fun k _ => k.decodes_ofTree).asOption nofun) fun _ _ _ _ _ _ hname => ?_
  rw [ofMembers, hname]
  rfl

theorem decodes_ofTree (q : Query) : Decodes ofTree q.toJson q := by
  have hmembers : DecodesMembers ofMembers q.members neutral q := by
    obtain ⟨_ | f, _ | ⟨k, keys⟩⟩ := q
    · exact .nil fun _ => rfl
    · exact .cons (puts_sort _) (.nil fun _ => rfl)
    · exact .cons (puts_filter _) (.nil fun _ => rfl)
    · exact .cons (puts_filter _) (.cons (puts_sort _) (.nil fun _ => rfl))
  intro outcome t hshown
  cases hshown with
  | object h => exact hmembers h
  | deepObject => rfl

/-- How deep the filter of a query is nested. -/
def depth (q : Query) : Nat := q.filter.elim 0 Filter.depth

theorem nesting_keys (keys : List SortKey) : itemsNesting (keys.map SortKey.toJson) ≤ 1 := by
  induction keys with
  | nil => exact Nat.zero_le _
  | cons k keys ih => exact Nat.max_le.2 ⟨Nat.le_refl _, ih⟩

/-- The object of a query takes one level more than that of its filter, or up to three for its sort
keys. -/
theorem nesting_toJson (q : Query) :
    2 * q.depth ≤ q.toJson.nesting ∧ q.toJson.nesting ≤ max 3 (2 * q.depth) := by
  obtain ⟨filter, sort⟩ := q
  have hobject : (toJson ⟨filter, sort⟩).nesting =
      max (2 * depth ⟨filter, sort⟩ - 1) (membersNesting (members ⟨none, sort⟩)) + 1 := by
    cases filter with
    | none =>
      show membersNesting (members ⟨none, sort⟩) + 1 = _
      rw [show depth ⟨none, sort⟩ = 0 from rfl, Nat.mul_zero, Nat.zero_sub, Nat.zero_max]
    | some f =>
      have hf := f.nesting_toJson
      have hmembers : members ⟨some f, sort⟩ = ("filter", f.toJson) :: members ⟨none, sort⟩ := rfl
      show membersNesting (members ⟨some f, sort⟩) + 1 = _
      rw [hmembers, membersNesting, show depth ⟨some f, sort⟩ = f.depth from rfl]
      omega
  have hsort : membersNesting (members ⟨none, sort⟩) ≤ 2 := by
    cases sort with
    | nil => exact Nat.zero_le _
    | cons k keys =>
      have hkeys := nesting_keys (k :: keys)
      have hmembers : members ⟨none, k :: keys⟩ =
        [("sort", .array ((k :: keys).map SortKey.toJson))] := rfl
      rw [hmembers, membersNesting, nesting, membersNesting]
      omega
  omega

/-- The text of a query is read as the query unless its filter is nested too deep for a text. -/
theorem readText_text (q : Query) :
    (q.depth < maxFilterDepth → Json.readText ofTree q.text = .ok q) ∧
    (maxFilterDepth ≤ q.depth → ∃ start,
      Json.readText ofTree q.text = .error (Tree.tooDeep start)) := by
  obtain ⟨hread, hrefused⟩ := q.decodes_ofTree.readText q.numberless_toJson
  obtain ⟨hge, hle⟩ := q.nesting_toJson
  rw [maxNesting] at hread hrefused
  rw [maxFilterDepth]
  exact ⟨fun h => hread (by omega), fun h => hrefused (by omega)⟩

/-- A query as deep as limits can allow is refused, although the limits may allow it. -/
theorem ofText_deep {l : Limits} {q : Query} (hsize : q.text.utf8ByteSize ≤ l.maxQueryBytes)
    (hdepth : maxFilterDepth ≤ q.depth) : ∃ start, ofText l q.text =
      .error (.invalidJson ((Tree.tooDeep start).messageIn (bytesOf q.text))) := by
  have hsize : l.checkSize q.text = .ok () := if_neg (Nat.not_lt_of_le hsize)
  obtain ⟨start, hfault⟩ := q.readText_text.2 hdepth
  refine ⟨start, ?_⟩
  rw [ofText, hsize, QueryError.ofJsonText, hfault]
  rfl

theorem ofText_shallow {l : Limits} {q : Query} (hcheck : l.check q = .ok ())
    (hsize : q.text.utf8ByteSize ≤ l.maxQueryBytes) (hdepth : q.depth < maxFilterDepth) :
    ofText l q.text = .ok q := by
  have hsize : l.checkSize q.text = .ok () := if_neg (Nat.not_lt_of_le hsize)
  rw [ofText, hsize, QueryError.ofJsonText, q.readText_text.1 hdepth]
  simp [Except.mapError, hcheck, bind, Except.bind, pure, Except.pure]

end Query

/-- Limits bound the depth of the filter and the number of sort keys. -/
theorem Limits.check_eq_ok {l : Limits} {q : Query} :
    l.check q = .ok () ↔ q.depth ≤ l.depth ∧ q.sort.length ≤ l.maxSortKeys := by
  have hcheck : l.check q = (do
      l.checkDepth q.depth
      if l.maxSortKeys < q.sort.length then
        throw (.tooManySortKeys l.maxSortKeys q.sort.length)) := by
    obtain ⟨_ | f, sort⟩ := q <;> rfl
  rw [hcheck, Limits.checkDepth]
  split_ifs <;> simp <;> omega

namespace Query

/-- A query within the limits is read back from its text, unless it nests filters as deep as limits
can allow: then the text is refused as nested too deep. -/
theorem ofText_text {l : Limits} {q : Query} (hcheck : l.check q = .ok ())
    (hsize : q.text.utf8ByteSize ≤ l.maxQueryBytes) :
    (q.depth < maxFilterDepth ∧ ofText l q.text = .ok q) ∨
    (q.depth = maxFilterDepth ∧ ∃ start, ofText l q.text =
      .error (.invalidJson ((Tree.tooDeep start).messageIn (bytesOf q.text)))) := by
  have hdepth : q.depth ≤ maxFilterDepth :=
    Nat.le_trans (Limits.check_eq_ok.1 hcheck).1 (Nat.min_le_right _ _)
  rcases Nat.lt_or_eq_of_le hdepth with hlt | heq
  · exact .inl ⟨hlt, ofText_shallow hcheck hsize hlt⟩
  · exact .inr ⟨heq, ofText_deep hsize (Nat.le_of_eq heq.symm)⟩

/-- A query whose operand needs escapes of every kind, with members left out and empty texts. -/
def quoted : Query :=
  ⟨some ⟨"name", "eq", some "\"\\\n\u0007é😀", none, true,
    [.group " OR " [⟨"score", "IsNull", none, none, false, []⟩, .neutral]]⟩,
    [⟨"Age", "desc"⟩, ⟨"", ""⟩]⟩

theorem ofText_text_quoted : Limits.check {} quoted = .ok () ∧
    quoted.text.utf8ByteSize ≤ ({} : Limits).maxQueryBytes ∧
    ofText {} quoted.text = .ok quoted := by
  have hcheck : Limits.check {} quoted = .ok () := rfl
  have hsize : quoted.text.utf8ByteSize ≤ ({} : Limits).maxQueryBytes := by decide +kernel
  refine ⟨hcheck, hsize, ?_⟩
  rcases ofText_text hcheck hsize with ⟨-, hread⟩ | ⟨hdeep, -⟩
  · exact hread
  · exact absurd hdeep (by decide)

/-- A comparison inside as many groups as limits can allow. -/
def deepest : Query := ⟨some (Filter.wrap 63 ⟨"age", "gt", some "30", none, false, []⟩), []⟩

/-- Limits that allow the deepest query. -/
def widest : Limits :=
  { maxQueryBytes := deepest.text.utf8ByteSize, maxFilterDepth := maxFilterDepth }

/-- Not every query within the limits is read back from its text. -/
theorem deepest_not_read_back : widest.check deepest = .ok () ∧
    deepest.text.utf8ByteSize ≤ widest.maxQueryBytes ∧
    ofText widest deepest.text ≠ .ok deepest := by
  have hdepth : deepest.depth = maxFilterDepth := Filter.depth_wrap 63 _
  have hsize : deepest.text.utf8ByteSize ≤ widest.maxQueryBytes := Nat.le_refl _
  refine ⟨Limits.check_eq_ok.2 ⟨?_, Nat.zero_le _⟩, hsize, ?_⟩
  · exact Nat.le_of_eq hdepth
  · obtain ⟨start, hrefused⟩ := ofText_deep hsize (Nat.le_of_eq hdepth.symm)
    rw [hrefused]
    exact nofun

end Query

end RecordQuery
