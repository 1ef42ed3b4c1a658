import RecordQuery.Proofs.Except
import RecordQuery.Query.Wire

/-!
# The members of submitted queries

A value in the document of a query stands for the query, a node of its filter, a sort key, or
something that nobody asks for (`Role`), and its members are told apart by a word for their names
(`Role.word`): the name in lower case, and one of the two where a member has two names.

A member of a known word puts its value in the place of what was read before. So each part of what
is read is that of the last member of its word, and is as it was at first where there is none
(`Role.Takes`). This is shown of one member (`Role.Sets`) and carried along the members of a query,
a node and a key (`Query.ofTree_each`, `Filter.ofTree_each`, `SortKey.ofTree_each`), which are put
one after another into what is read (`Json.Members.fold`).
-/

namespace RecordQuery

open Json (Fault Tree Items Members Name)

/-! ## Words -/

/-- What a value in the document of a query stands for. -/
inductive Role where
  | query
  | filter
  | filters
  | key
  | keys
  | other
  deriving DecidableEq

namespace Role

/-- The word for the name of a member. Nobody looks at the names of what nobody asks for. -/
def word (r : Role) (name : String) : String :=
  match r, Text.asciiFold name with
  | .filter, "op" => "operator"
  | .filter, "children" => "filters"
  | .key, "direction" => "dir"
  | .other, _ => ""
  | _, w => w

/-- What the value of a member stands for. -/
def member (r : Role) (name : String) : Role :=
  match r, r.word name with
  | .query, "filter" => .filter
  | .query, "sort" => .keys
  | .filter, "filters" => .filters
  | _, _ => .other

/-- What the items of an array stand for. -/
def item : Role → Role
  | .filters => .filter
  | .keys => .key
  | _ => .other

/-- The case of a name does not matter. -/
theorem word_congr {n n' : String} (h : Text.sameIgnoringCase n n' = true) (r : Role) :
    r.word n = r.word n' := by
  simp only [word, Text.sameIgnoringCase_iff.1 h]

/-- A member with two names may have either. -/
theorem word_names : filter.word "op" = filter.word "operator" ∧
    filter.word "children" = filter.word "filters" ∧ key.word "direction" = key.word "dir" := by
  decide

theorem word_query (name : String) : query.word name = Text.asciiFold name := by
  simp only [word]

theorem word_key (name : String) : key.word name =
    if Text.asciiFold name = "direction" then "dir" else Text.asciiFold name := by
  simp only [word]
  split <;> simp_all

theorem word_filter (name : String) : filter.word name =
    if Text.asciiFold name = "op" then "operator"
    else if Text.asciiFold name = "children" then "filters" else Text.asciiFold name := by
  simp only [word]
  split <;> simp_all

end Role

/-- The word for a member of a node. -/
def Filter.Part.word : Filter.Part → String
  | .field => "field"
  | .operator => "operator"
  | .value => "value"
  | .logic => "logic"
  | .caseSensitive => "casesensitive"
  | .filters => "filters"

theorem Filter.Part.ofName?_eq_some {name : String} {part : Part} :
    ofName? name = some part ↔ Role.filter.word name = part.word := by
  rw [ofName?, Role.word_filter]
  generalize Text.asciiFold name = w
  split
  all_goals cases part <;> simp_all [word]

/-! ## Members one after another -/

/-- Puts members one after another into what is read. The offset is that behind the closing
brace. -/
def Json.Members.fold {σ : Type} (put : String → Nat → Tree → σ → Except Fault σ) (s : σ) :
    Members → Except Fault (σ × Nat)
  | .done stop => pure (s, stop)
  | .member name _ value settled rest => do
    let n ← name.text
    let s ← put n settled value s
    rest.fold put s
  | .fault reading _ => throw reading

/-- Puts a member into a node. -/
def Filter.put (n : String) (settled : Nat) (value : Tree) (node : Filter) : Except Fault Filter :=
  match Part.ofName? n with
  | some .field => do return { node with field := (← value.asOption Tree.asString).getD "" }
  | some .operator => do return { node with operator := (← value.asOption Tree.asString).getD "" }
  | some .value => do return { node with value := ← operandOfTree settled value }
  | some .logic => do return { node with logic := ← value.asOption Tree.asString }
  | some .caseSensitive => do
    return { node with caseSensitive := (← value.asOption Tree.asBool).getD false }
  | some .filters => do return { node with filters := ← childrenOfTree value }
  | none => do
    value.skip
    return node

theorem Filter.ofMembers_eq (node : Filter) : ∀ members : Members,
    ofMembers node members = Prod.fst <$> members.fold put node
  | .done _ => rfl
  | .member name _ value settled rest => by
    rw [ofMembers, Members.fold, map_bind]
    refine bind_congr fun n => ?_
    cases hpart : Part.ofName? n with
    | none => simp [put, hpart, ofMembers_eq _ rest]
    | some part => cases part <;> simp [put, hpart, ofMembers_eq _ rest]
  | .fault _ _ => rfl

/-- Puts a member into the field and the direction of a key. -/
def SortKey.put (n : String) (_settled : Nat) (value : Tree) (s : Option String × Option String) :
    Except Fault (Option String × Option String) :=
  match Role.key.word n with
  | "field" => do return (some (← value.asString), s.2)
  | "dir" => do return (s.1, ← value.asOption Tree.asString)
  | _ => do
    value.skip
    return s

/-- The key of a field and a direction, of which there must be the field. -/
def SortKey.close : (Option String × Option String) × Nat → Except Fault SortKey
  | ((some f, direction), _) => pure ⟨f, direction.getD ""⟩
  | ((none, _), stop) => throw ⟨.missingField "field", stop⟩

theorem SortKey.ofMembers_eq (field direction : Option String) : ∀ members : Members,
    ofMembers field direction members = members.fold put (field, direction) >>= close
  | .done _ => by cases field <;> rfl
  | .member name _ value settled rest => by
    rw [ofMembers, Members.fold, bind_assoc]
    refine bind_congr fun n => ?_
    simp only [put, bind_assoc, Role.word_key]
    generalize Text.asciiFold n = w
    split <;> simp_all [ofMembers_eq _ _ rest]
  | .fault _ _ => rfl

/-- Puts a member into a query. -/
def Query.put (n : String) (_settled : Nat) (value : Tree) (q : Query) : Except Fault Query :=
  match Role.query.word n with
  | "filter" => do return { q with filter := ← value.asOption Filter.ofTree }
  | "sort" => do return { q with sort := (← value.asOption (Tree.asList SortKey.ofTree)).getD [] }
  | _ => do
    value.skip
    return q

theorem Query.ofMembers_eq (q : Query) : ∀ members : Members,
    ofMembers q members = Prod.fst <$> members.fold put q
  | .done _ => rfl
  | .member name _ value settled rest => by
    rw [ofMembers, Members.fold, map_bind]
    refine bind_congr fun n => ?_
    simp only [put, Role.word_query]
    generalize Text.asciiFold n = w
    split <;> simp_all [ofMembers_eq _ rest]
  | .fault _ _ => rfl

/-! ## The last member of a word -/

namespace Role

/-- The value of the last member of a word, if there is one. -/
def lastOf (r : Role) (w : String) : Members → Option Tree
  | .member name _ value _ rest => (r.lastOf w rest).or <|
    match name.text with
    | .ok n => if r.word n = w then some value else none
    | .error _ => none
  | _ => none

variable {α : Type}

/-- A part is what the last member of its word is read as, and is as before if there is none. -/
def Takes (r : Role) (members : Members) (w : String) (read : Tree → Except Fault α)
    (before after : α) : Prop :=
  match r.lastOf w members with
  | some value => read value = .ok after
  | none => after = before

/-- A part is what a member of its word is read as, and is as before if the member is another. -/
def Sets (r : Role) (n : String) (value : Tree) (w : String) (read : Tree → Except Fault α)
    (before after : α) : Prop :=
  if r.word n = w then read value = .ok after else after = before

variable {r : Role} {w : String} {read : Tree → Except Fault α} {before between after : α}

theorem Sets.of_ne {n : String} {value : Tree} (h : r.word n ≠ w) :
    r.Sets n value w read before before := by
  simp [Sets, h]

/-- The members behind a member count before it. -/
theorem Sets.takes {name : Name} {n : String} {start settled : Nat} {value : Tree} {rest : Members}
    (hname : name.text = .ok n) (h : r.Sets n value w read before between)
    (hrest : r.Takes rest w read between after) :
    r.Takes (.member name start value settled rest) w read before after := by
  unfold Takes at hrest ⊢
  unfold Sets at h
  simp only [lastOf, hname]
  cases hlast : r.lastOf w rest with
  | some last =>
    rw [hlast] at hrest
    exact hrest
  | none =>
    rw [hlast] at hrest
    subst hrest
    by_cases hw : r.word n = w
    · simpa [hw] using h
    · simpa [hw] using h

/-- If each member sets a part then what is read of all of them has it from the last member of its
word. -/
theorem takes_fold {σ : Type} {put : String → Nat → Tree → σ → Except Fault σ} (part : σ → α)
    (hput : ∀ n settled value s s', put n settled value s = .ok s' →
      r.Sets n value w read (part s) (part s')) {s s' : σ} {stop : Nat} :
    ∀ {members : Members}, members.fold put s = .ok (s', stop) →
      r.Takes members w read (part s) (part s')
  | .done _, h => by
    cases h
    rfl
  | .member name _ value settled rest, h => by
    simp only [Members.fold, Except.bind_eq_ok] at h
    obtain ⟨n, hname, s₁, hs₁, hrest⟩ := h
    exact (hput n settled value s s₁ hs₁).takes hname (takes_fold part hput hrest)
  | .fault _ _, h => nomatch h

end Role

theorem operandOfTree_eq_ok {settled settled' : Nat} {t : Tree} {s : Option String}
    (h : operandOfTree settled t = .ok s) : operandOfTree settled' t = .ok s := by
  cases t with
  | array | object | deep | fault => simp [operandOfTree] at h
  | _ => exact h

/-! ## Nodes -/

/-- `P` is true of each part of two nodes, with the word for it and how it is read. -/
structure Filter.Each (P : ∀ {α : Type}, String → (Tree → Except Fault α) → α → α → Prop)
    (before after : Filter) : Prop where
  field : P "field" (fun v => (·.getD "") <$> v.asOption Tree.asString) before.field after.field
  operator : P "operator" (fun v => (·.getD "") <$> v.asOption Tree.asString) before.operator
    after.operator
  value : P "value" (operandOfTree 0) before.value after.value
  logic : P "logic" (Tree.asOption Tree.asString) before.logic after.logic
  caseSensitive : P "casesensitive" (fun v => (·.getD false) <$> v.asOption Tree.asBool)
    before.caseSensitive after.caseSensitive
  filters : P "filters" childrenOfTree before.filters after.filters

namespace Filter

theorem put_each {n : String} {settled : Nat} {value : Tree} {node node' : Filter}
    (h : put n settled value node = .ok node') : Each (Role.filter.Sets n value) node node' := by
  cases hpart : Part.ofName? n with
  | none =>
    have hword (part : Part) : Role.filter.word n ≠ part.word := by
      rw [Ne, ← Part.ofName?_eq_some, hpart]
      exact nofun
    simp only [put, hpart, Except.bind_eq_ok, Except.pure_eq_ok] at h
    obtain ⟨-, -, rfl⟩ := h
    exact ⟨.of_ne (hword .field), .of_ne (hword .operator), .of_ne (hword .value),
      .of_ne (hword .logic), .of_ne (hword .caseSensitive), .of_ne (hword .filters)⟩
  | some part =>
    have hword : Role.filter.word n = part.word := Part.ofName?_eq_some.1 hpart
    cases part
    all_goals
      simp only [put, hpart, Except.bind_eq_ok, Except.pure_eq_ok] at h
      obtain ⟨s, hs, rfl⟩ := h
      simp only [Part.word] at hword
    case value => constructor <;> simp [Role.Sets, hword, operandOfTree_eq_ok hs]
    all_goals constructor <;> simp [Role.Sets, hword, hs]

/-- Each part of the node of an object is that of the last member of its word. -/
theorem ofTree_each {start : Nat} {members : Members} {f : Filter}
    (h : ofTree (.object start members) = .ok f) :
    Each (Role.filter.Takes members) neutral f := by
  rw [ofTree, ofMembers_eq, Except.map_eq_ok] at h
  obtain ⟨⟨f, stop⟩, hfold, rfl⟩ := h
  exact ⟨Role.takes_fold field (fun _ _ _ _ _ h => (put_each h).field) hfold,
    Role.takes_fold operator (fun _ _ _ _ _ h => (put_each h).operator) hfold,
    Role.takes_fold value (fun _ _ _ _ _ h => (put_each h).value) hfold,
    Role.takes_fold logic (fun _ _ _ _ _ h => (put_each h).logic) hfold,
    Role.takes_fold caseSensitive (fun _ _ _ _ _ h => (put_each h).caseSensitive) hfold,
    Role.takes_fold filters (fun _ _ _ _ _ h => (put_each h).filters) hfold⟩

end Filter

/-! ## Keys -/

namespace SortKey

/-- The field and the direction of a key are those of the last members of their words, the field
being there. -/
structure Each (members : Members) (k : SortKey) : Prop where
  field : Role.key.Takes members "field" (fun v => some <$> v.asString) none (some k.field)
  direction : Role.key.Takes members "dir" (fun v => (·.getD "") <$> v.asOption Tree.asString) ""
    k.direction

theorem put_sets {n : String} {settled : Nat} {value : Tree}
    {s s' : Option String × Option String} (h : put n settled value s = .ok s') :
    Role.key.Sets n value "field" (fun v => some <$> v.asString) s.1 s'.1 ∧
    Role.key.Sets n value "dir" (fun v => (·.getD "") <$> v.asOption Tree.asString) (s.2.getD "")
      (s'.2.getD "") := by
  simp only [put] at h
  split at h
  all_goals
    simp only [Except.bind_eq_ok, Except.pure_eq_ok] at h
    obtain ⟨_, hread, rfl⟩ := h
    simp_all [Role.Sets]

/-- The field and the direction of the key of an object are those of the last members of their
words. -/
theorem ofTree_each {start : Nat} {members : Members} {k : SortKey}
    (h : ofTree (.object start members) = .ok k) : Each members k := by
  rw [ofTree, ofMembers_eq, Except.bind_eq_ok] at h
  obtain ⟨⟨⟨field, direction⟩, stop⟩, hfold, hclose⟩ := h
  cases field with
  | none => cases hclose
  | some f =>
    cases hclose
    exact ⟨Role.takes_fold Prod.fst (fun _ _ _ _ _ h => (put_sets h).1) hfold,
      Role.takes_fold (fun s => s.2.getD "") (fun _ _ _ _ _ h => (put_sets h).2) hfold⟩

end SortKey

/-! ## Queries -/

namespace Query

/-- The filter and the sort keys of a query are those of the last members of their words. -/
structure Each (P : ∀ {α : Type}, String → (Tree → Except Fault α) → α → α → Prop)
    (before after : Query) : Prop where
  filter : P "filter" (Tree.asOption Filter.ofTree) before.filter after.filter
  sort : P "sort" (fun v => (·.getD []) <$> v.asOption (Tree.asList SortKey.ofTree)) before.sort
    after.sort

theorem put_each {n : String} {settled : Nat} {value : Tree} {q q' : Query}
    (h : put n settled value q = .ok q') : Each (Role.query.Sets n value) q q' := by
  simp only [put] at h
  split at h
  all_goals
    simp only [Except.bind_eq_ok, Except.pure_eq_ok] at h
    obtain ⟨_, hread, rfl⟩ := h
    constructor <;> simp_all [Role.Sets]

theorem ofTree_each {start : Nat} {members : Members} {q : Query}
    (h : ofTree (.object start members) = .ok q) :
    Each (Role.query.Takes members) neutral q := by
  rw [ofTree, ofMembers_eq, Except.map_eq_ok] at h
  obtain ⟨⟨q, stop⟩, hfold, rfl⟩ := h
  exact ⟨Role.takes_fold filter (fun _ _ _ _ _ h => (put_each h).filter) hfold,
    Role.takes_fold sort (fun _ _ _ _ _ h => (put_each h).sort) hfold⟩

end Query

end RecordQuery
