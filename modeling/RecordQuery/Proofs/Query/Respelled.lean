import RecordQuery.Proofs.Json.Decoding
import RecordQuery.Proofs.Query.Members

/-!
# Names in other spellings

Two documents in which the members have other names for the same words, in any case and by either of
two names, are read as the same query, the same node or the same key, or neither is read
(`Query.ofTree_congr`, `Filter.ofTree_congr`, `SortKey.ofTree_congr`).

`Respelled` relates the placed trees of such documents, whatever their offsets. Related trees are
passed over alike, so members that nobody asks for do not matter, and a member is put into what is
read alike, as this depends on its word alone.

The texts of values that are related, placed nowhere, are related documents
(`Respelled.ofBytes_text`).
-/

namespace RecordQuery

open Json (Document Fault ItemsShown Items MembersShown Members Name Shown Tree)

mutual

/-- The trees differ in nothing but offsets and the names of members, which have the same words. -/
inductive Respelled : Role → Tree → Tree → Prop
  | null {r : Role} {stop stop' : Nat} : Respelled r (.null stop) (.null stop')
  | bool {r : Role} {b : Bool} {stop stop' : Nat} : Respelled r (.bool b stop) (.bool b stop')
  | number {r : Role} {n : Json.Number} {stop stop' : Nat} :
      Respelled r (.number n stop) (.number n stop')
  | string {r : Role} {s : String} {stop stop' : Nat} :
      Respelled r (.string s stop) (.string s stop')
  | array {r : Role} {start start' : Nat} {items items' : Items} :
      ItemsRespelled r.item items items' → Respelled r (.array start items) (.array start' items')
  | object {r : Role} {start start' : Nat} {members members' : Members} :
      MembersRespelled r members members' →
      Respelled r (.object start members) (.object start' members')
  | deep {r : Role} {start start' : Nat} {isObject : Bool} {skipping skipping' : Option Fault} :
      skipping.isSome = skipping'.isSome →
      Respelled r (.deep start isObject skipping) (.deep start' isObject skipping')
  | fault {r : Role} {reading reading' : Fault} {skipping skipping' : Option Fault} :
      skipping.isSome = skipping'.isSome →
      Respelled r (.fault reading skipping) (.fault reading' skipping')

/-- The items differ in nothing but offsets and the names of members. -/
inductive ItemsRespelled : Role → Items → Items → Prop
  | done {r : Role} {stop stop' : Nat} : ItemsRespelled r (.done stop) (.done stop')
  | item {r : Role} {start start' : Nat} {value value' : Tree} {rest rest' : Items} :
      Respelled r value value' → ItemsRespelled r rest rest' →
      ItemsRespelled r (.item start value rest) (.item start' value' rest')
  | fault {r : Role} {reading reading' skipping skipping' : Fault} :
      ItemsRespelled r (.fault reading skipping) (.fault reading' skipping')

/-- The members differ in nothing but offsets and their names, which have the same words or are both
unreadable, and those of the members below. -/
inductive MembersRespelled : Role → Members → Members → Prop
  | done {r : Role} {stop stop' : Nat} : MembersRespelled r (.done stop) (.done stop')
  | member {r : Role} {n n' : String} {name name' : Name} {start start' settled settled' : Nat}
      {value value' : Tree} {rest rest' : Members} :
      name.text = .ok n → name'.text = .ok n' → r.word n = r.word n' →
      Respelled (r.member n) value value' → MembersRespelled r rest rest' →
      MembersRespelled r (.member name start value settled rest)
        (.member name' start' value' settled' rest')
  | nameless {r : Role} {f f' : Fault} {name name' : Name} {start start' settled settled' : Nat}
      {value value' : Tree} {rest rest' : Members} :
      name.text = .error f → name'.text = .error f' →
      Respelled .other value value' → MembersRespelled r rest rest' →
      MembersRespelled r (.member name start value settled rest)
        (.member name' start' value' settled' rest')
  | fault {r : Role} {reading reading' skipping skipping' : Fault} :
      MembersRespelled r (.fault reading skipping) (.fault reading' skipping')

end

/-! ## Passing over -/

section

variable {r : Role}

mutual

/-- Passing over meets a fault in both or in none. -/
theorem Respelled.skip : ∀ {r : Role} {t t' : Tree}, Respelled r t t' →
    t.skip.toOption = t'.skip.toOption
  | _, _, _, .null => rfl
  | _, _, _, .bool => rfl
  | _, _, _, .number => rfl
  | _, _, _, .string => rfl
  | _, .array _ _, _, .array h => h.skip
  | _, .object _ _, _, .object h => h.skip
  | _, .deep _ _ none, .deep _ _ none, .deep _ => rfl
  | _, .deep _ _ (some _), .deep _ _ (some _), .deep _ => rfl
  | _, .fault _ none, .fault _ none, .fault _ => rfl
  | _, .fault _ (some _), .fault _ (some _), .fault _ => rfl

theorem ItemsRespelled.skip : ∀ {r : Role} {items items' : Items}, ItemsRespelled r items items' →
    (Tree.skipItems items).toOption = (Tree.skipItems items').toOption
  | _, _, _, .done => rfl
  | _, .item _ value rest, _, .item hvalue hrest => by
    simp only [Tree.skipItems, Except.toOption_bind, hvalue.skip, hrest.skip]
  | _, _, _, .fault => rfl

theorem MembersRespelled.skip : ∀ {r : Role} {members members' : Members},
    MembersRespelled r members members' →
      (Tree.skipMembers members).toOption = (Tree.skipMembers members').toOption
  | _, _, _, .done => rfl
  | _, .member _ _ value _ rest, _, .member _ _ _ hvalue hrest => by
    simp only [Tree.skipMembers, Except.toOption_bind, hvalue.skip, hrest.skip]
  | _, .member _ _ value _ rest, _, .nameless _ _ hvalue hrest => by
    simp only [Tree.skipMembers, Except.toOption_bind, hvalue.skip, hrest.skip]
  | _, _, _, .fault => rfl

end

/-! ## Simple forms -/

variable {t t' : Tree}

theorem Respelled.asString (h : Respelled r t t') :
    t.asString.toOption = t'.asString.toOption := by
  cases h <;> rfl

theorem Respelled.asBool (h : Respelled r t t') : t.asBool.toOption = t'.asBool.toOption := by
  cases h <;> rfl

theorem Respelled.asOption {α : Type} {f : Tree → Except Fault α} (h : Respelled r t t')
    (hf : (f t).toOption = (f t').toOption) :
    (t.asOption f).toOption = (t'.asOption f).toOption := by
  cases h with
  | null => rfl
  | _ => simp only [Tree.asOption, Except.toOption_map, hf]

/-- An array or object is no operand, whatever it holds. -/
theorem Respelled.operand (h : Respelled r t t') (settled settled' : Nat) :
    (operandOfTree settled t).toOption = (operandOfTree settled' t').toOption := by
  cases h with
  | array | object | deep | fault => simp [operandOfTree]
  | _ => rfl

theorem ItemsRespelled.readItems {α : Type} {f : Tree → Except Fault α}
    (hf : ∀ {t t' : Tree}, Respelled r t t' → (f t).toOption = (f t').toOption) :
    ∀ {items items' : Items}, ItemsRespelled r items items' →
      (Tree.readItems f items).toOption = (Tree.readItems f items').toOption
  | .done _, _, h => by
    cases h
    rfl
  | .item _ value rest, _, h => by
    cases h with
    | item hvalue hrest =>
      simp only [Tree.readItems, Except.toOption_bind, hf hvalue, hrest.readItems hf,
        Except.toOption_pure]
  | .fault _ _, _, h => by
    cases h
    rfl

/-- Respelled arrays are the same list if the items are read alike. -/
theorem Respelled.asList {α : Type} {f : Tree → Except Fault α} (h : Respelled r t t')
    (hf : ∀ {t t' : Tree}, Respelled r.item t t' → (f t).toOption = (f t').toOption) :
    (t.asList f).toOption = (t'.asList f).toOption := by
  cases h with
  | array h => exact h.readItems hf
  | @deep _ _ _ isObject => cases isObject <;> rfl
  | _ => rfl

/-! ## Members one after another -/

section

variable {σ : Type} {put : String → Nat → Tree → σ → Except Fault σ} {s : σ} {name name' : Name}
  {start start' settled settled' : Nat} {value value' : Tree} {rest rest' : Members}

/-- Two members that make the same of a state are followed by members that make the same of it. -/
theorem Json.Members.fold_congr {n n' : String} (hname : name.text = .ok n)
    (hname' : name'.text = .ok n')
    (hput : (put n settled value s).toOption = (put n' settled' value' s).toOption)
    (hrest : ∀ s, (rest.fold put s).toOption.map Prod.fst =
      (rest'.fold put s).toOption.map Prod.fst) :
    ((Members.member name start value settled rest).fold put s).toOption.map Prod.fst =
      ((Members.member name' start' value' settled' rest').fold put s).toOption.map Prod.fst := by
  have hfold {name : Name} {n : String} {start settled : Nat} {value : Tree} {rest : Members}
      (hname : name.text = .ok n) : (Members.member name start value settled rest).fold put s =
        put n settled value s >>= fun s => rest.fold put s := by
    rw [Members.fold, hname]
    rfl
  rw [hfold hname, hfold hname', Except.toOption_bind, Except.toOption_bind, hput, Option.map_bind,
    Option.map_bind]
  exact Option.bind_congr fun s _ => hrest s

theorem Json.Members.toOption_fold_nameless {f : Fault} (hname : name.text = .error f) :
    ((Members.member name start value settled rest).fold put s).toOption = none := by
  rw [Members.fold, hname]
  rfl

end

/-- What respelled members make of a state is the same if each of them makes the same of it. -/
theorem MembersRespelled.fold {σ : Type} (put : String → Nat → Tree → σ → Except Fault σ)
    (hput : ∀ n n' settled settled' value value' s, r.word n = r.word n' →
      Respelled (r.member n) value value' →
      (put n settled value s).toOption = (put n' settled' value' s).toOption) :
    ∀ {members members' : Members}, MembersRespelled r members members' → ∀ s : σ,
      (members.fold put s).toOption.map Prod.fst = (members'.fold put s).toOption.map Prod.fst
  | .done _, _, h, _ => by
    cases h
    rfl
  | .member _ _ value settled rest, _, h, s => by
    cases h with
    | @member _ n n' _ _ _ _ _ settled' _ value' _ _ hname hname' hword hvalue hrest =>
      exact Members.fold_congr hname hname'
        (hput n n' settled settled' value value' s hword hvalue) fun s => hrest.fold put hput s
    | nameless hname hname' _ _ =>
      rw [Members.toOption_fold_nameless hname, Members.toOption_fold_nameless hname']
  | .fault _ _, _, h, _ => by
    cases h
    rfl

end

/-! ## Filters -/

namespace Filter

/-- What a member is put into depends on the word for its name. -/
theorem put_congr {n n' : String} {settled settled' : Nat} {value value' : Tree} {node : Filter}
    (hword : Role.filter.word n = Role.filter.word n')
    (hvalue : Respelled (Role.filter.member n) value value')
    (hchildren : Respelled .filters value value' →
      (childrenOfTree value).toOption = (childrenOfTree value').toOption) :
    (put n settled value node).toOption = (put n' settled' value' node).toOption := by
  have hpart : Part.ofName? n' = Part.ofName? n := by
    ext part
    rw [Part.ofName?_eq_some, Part.ofName?_eq_some, hword]
  unfold put
  rw [hpart]
  cases h : Part.ofName? n with
  | none => simp only [Except.toOption_bind, hvalue.skip, Except.toOption_pure]
  | some part =>
    have hw : Role.filter.word n = part.word := Part.ofName?_eq_some.1 h
    cases part with
    | field | operator | logic =>
      simp only [Except.toOption_bind, hvalue.asOption hvalue.asString, Except.toOption_pure]
    | value =>
      simp only [Except.toOption_bind, hvalue.operand settled settled', Except.toOption_pure]
    | caseSensitive =>
      simp only [Except.toOption_bind, hvalue.asOption hvalue.asBool, Except.toOption_pure]
    | filters =>
      have hrole : Role.filter.member n = .filters := by
        simp only [Role.member, hw, Part.word]
      simp only [Except.toOption_bind, hchildren (hrole ▸ hvalue), Except.toOption_pure]

mutual

theorem ofTree_congr : ∀ {t t' : Tree}, Respelled .filter t t' →
    (ofTree t).toOption = (ofTree t').toOption
  | .object _ _, _, .object h => by
    rw [ofTree, ofTree, ofMembers_eq, ofMembers_eq, Except.toOption_map, Except.toOption_map]
    exact fold_congr h neutral
  | .null _, _, .null => rfl
  | .bool _ _, _, .bool => rfl
  | .number _ _, _, .number => rfl
  | .string _ _, _, .string => rfl
  | .array _ _, _, .array _ => rfl
  | .deep _ true _, _, .deep _ => rfl
  | .deep _ false _, _, .deep _ => rfl
  | .fault _ _, _, .fault _ => rfl
termination_by structural t => t

theorem fold_congr : ∀ {members members' : Members}, MembersRespelled .filter members members' →
    ∀ node : Filter,
      (members.fold put node).toOption.map Prod.fst = (members'.fold put node).toOption.map Prod.fst
  | .done _, _, h, _ => by
    cases h
    rfl
  | .member _ _ value settled rest, _, h, node => by
    cases h with
    | member hname hname' hword hvalue hrest =>
      exact Members.fold_congr hname hname'
        (put_congr hword hvalue fun h => childrenOfTree_congr h) fun node => fold_congr hrest node
    | nameless hname hname' _ _ =>
      rw [Members.toOption_fold_nameless hname, Members.toOption_fold_nameless hname']
  | .fault _ _, _, h, _ => by
    cases h
    rfl
termination_by structural members => members

theorem childrenOfTree_congr : ∀ {t t' : Tree}, Respelled .filters t t' →
    (childrenOfTree t).toOption = (childrenOfTree t').toOption
  | .array _ _, _, .array h => ofItems_congr h
  | .null _, _, .null => rfl
  | .bool _ _, _, .bool => rfl
  | .number _ _, _, .number => rfl
  | .string _ _, _, .string => rfl
  | .object _ _, _, .object _ => rfl
  | .deep _ true _, _, .deep _ => rfl
  | .deep _ false _, _, .deep _ => rfl
  | .fault _ _, _, .fault _ => rfl
termination_by structural t => t

theorem ofItems_congr : ∀ {items items' : Items}, ItemsRespelled .filter items items' →
    (ofItems items).toOption = (ofItems items').toOption
  | .done _, _, .done => rfl
  | .item _ _ _, _, .item hvalue hrest => by
    simp only [ofItems, Except.toOption_bind, ofTree_congr hvalue, ofItems_congr hrest,
      Except.toOption_pure]
  | .fault _ _, _, .fault => rfl
termination_by structural items => items

end

end Filter

/-! ## Keys -/

namespace SortKey

theorem put_congr {n n' : String} {settled settled' : Nat} {value value' : Tree}
    {s : Option String × Option String} (hword : Role.key.word n = Role.key.word n')
    (hvalue : Respelled (Role.key.member n) value value') :
    (put n settled value s).toOption = (put n' settled' value' s).toOption := by
  unfold put
  rw [← hword]
  split
  · simp only [Except.toOption_bind, hvalue.asString, Except.toOption_pure]
  · simp only [Except.toOption_bind, hvalue.asOption hvalue.asString, Except.toOption_pure]
  · simp only [Except.toOption_bind, hvalue.skip, Except.toOption_pure]

/-- Whether a key has a field does not depend on the offset behind it. -/
theorem toOption_ofTree (start : Nat) (members : Members) :
    (ofTree (.object start members)).toOption =
      ((members.fold put (none, none)).toOption.map Prod.fst).bind fun s =>
        s.1.map fun f => ⟨f, s.2.getD ""⟩ := by
  rw [ofTree, ofMembers_eq, Except.toOption_bind, Option.bind_map]
  refine Option.bind_congr fun p _ => ?_
  obtain ⟨⟨_ | f, direction⟩, stop⟩ := p <;> rfl

/-- Respelled objects are the same key, or none. -/
theorem ofTree_congr {t t' : Tree} (h : Respelled .key t t') :
    (ofTree t).toOption = (ofTree t').toOption := by
  cases h with
  | object h =>
    have hfold := h.fold put (fun _ _ _ _ _ _ _ => put_congr) (none, none)
    rw [toOption_ofTree, toOption_ofTree, hfold]
  | @deep _ _ _ isObject => cases isObject <;> rfl
  | _ => rfl

end SortKey

/-! ## Queries -/

namespace Query

theorem put_congr {n n' : String} {settled settled' : Nat} {value value' : Tree} {q : Query}
    (hword : Role.query.word n = Role.query.word n')
    (hvalue : Respelled (Role.query.member n) value value') :
    (put n settled value q).toOption = (put n' settled' value' q).toOption := by
  unfold put
  rw [← hword]
  split
  · next hw =>
    have hrole : Role.query.member n = .filter := by simp only [Role.member, hw]
    rw [hrole] at hvalue
    simp only [Except.toOption_bind, hvalue.asOption (Filter.ofTree_congr hvalue),
      Except.toOption_pure]
  · next hw =>
    have hrole : Role.query.member n = .keys := by simp only [Role.member, hw]
    rw [hrole] at hvalue
    simp only [Except.toOption_bind, hvalue.asOption (hvalue.asList SortKey.ofTree_congr),
      Except.toOption_pure]
  · simp only [Except.toOption_bind, hvalue.skip, Except.toOption_pure]

/-- Respelled objects are the same query, or none. -/
theorem ofTree_congr {t t' : Tree} (h : Respelled .query t t') :
    (ofTree t).toOption = (ofTree t').toOption := by
  cases h with
  | object h =>
    have hfold := h.fold put (fun _ _ _ _ _ _ _ => put_congr) neutral
    rw [ofTree, ofTree, ofMembers_eq, ofMembers_eq, Except.toOption_map, Except.toOption_map, hfold]
  | @deep _ _ _ isObject => cases isObject <;> rfl
  | _ => rfl

end Query

/-! ## Documents -/

/-- The trees of the documents are respelled, and something follows both or neither. -/
structure Json.Document.Respelled (r : Role) (d d' : Document) : Prop where
  tree : RecordQuery.Respelled r d.tree d'.tree
  trailing : d.trailing.isSome = d'.trailing.isSome

theorem Json.Document.Respelled.read {r : Role} {d d' : Document} {α : Type}
    {f : Tree → Except Fault α} (h : d.Respelled r d')
    (hf : (f d.tree).toOption = (f d'.tree).toOption) :
    (d.read f).toOption = (d'.read f).toOption := by
  have htrailing := h.trailing
  simp only [Document.read, Document.readAs, Except.toOption_bind, hf]
  refine Option.bind_congr fun a _ => ?_
  cases hd : d.trailing <;> cases hd' : d'.trailing
  · rfl
  · simp [hd, hd'] at htrailing
  · simp [hd, hd'] at htrailing
  · rfl

/-! ## Texts -/

mutual

/-- Trees that show respelled values in full are respelled. -/
theorem Respelled.ofShown {r : Role} : ∀ {j j' : Json} {t t' : Tree},
    Respelled r (Tree.ofJson j) (Tree.ofJson j') → Shown j (.ok ()) t → Shown j' (.ok ()) t' →
    Respelled r t t'
  | .null, .null, _, _, _, .null, .null => .null
  | .bool _, .bool _, _, _, .bool, .bool, .bool => .bool
  | .number _, .number _, _, _, h, .number hn, .number hn' => by
    cases h
    cases hn.unique hn'
    exact .number
  | .string _, .string _, _, _, .string, .string, .string => .string
  | .array _, .array _, _, _, .array h, .array ht, .array ht' => .array (h.ofShown ht ht')
  | .object _, .object _, _, _, .object h, .object ht, .object ht' => .object (h.ofShown ht ht')

theorem ItemsRespelled.ofShown {r : Role} : ∀ {js js' : List Json} {items items' : Items},
    ItemsRespelled r (Tree.itemsOfJson js) (Tree.itemsOfJson js') → ItemsShown js (.ok ()) items →
    ItemsShown js' (.ok ()) items' → ItemsRespelled r items items'
  | [], [], _, _, _, .done, .done => .done
  | _ :: _, _ :: _, _, _, .item h hs, .item ht hts, .item ht' hts' =>
    .item (h.ofShown ht ht') (hs.ofShown hts hts')

theorem MembersRespelled.ofShown {r : Role} : ∀ {ms ms' : List (String × Json)}
    {members members' : Members},
    MembersRespelled r (Tree.membersOfJson ms) (Tree.membersOfJson ms') →
    MembersShown ms (.ok ()) members → MembersShown ms' (.ok ()) members' →
    MembersRespelled r members members'
  | [], ms', _, _, h, ht, ht' => by
    cases ht
    cases ms' with
    | nil =>
      cases ht'
      exact .done
    | cons _ _ => cases h
  | (_, j) :: ms, ms', _, _, h, ht, ht' => by
    cases ht with | member hname ht hts =>
    cases ht' with
    | done => cases h
    | member hname' ht' hts' =>
      cases h with
      | member hn hn' hword h hs =>
        cases hn
        cases hn'
        exact .member hname hname' hword (h.ofShown ht ht') (hs.ofShown hts hts')
      | nameless hn => cases hn

end

/-- The texts of respelled values are respelled documents. -/
theorem Respelled.ofBytes_text {r : Role} {j j' : Json}
    (h : Respelled r (Tree.ofJson j) (Tree.ofJson j')) (hj : j.Readable) (hj' : j'.Readable)
    (hroom : j.nesting ≤ Json.maxNesting) (hroom' : j'.nesting ≤ Json.maxNesting) :
    (Document.ofBytes (Json.bytesOf j.text)).Respelled r
      (Document.ofBytes (Json.bytesOf j'.text)) := by
  obtain ⟨hshown, htrailing⟩ := hj.ofBytes_text.1 hroom
  obtain ⟨hshown', htrailing'⟩ := hj'.ofBytes_text.1 hroom'
  exact ⟨h.ofShown hshown hshown', by rw [htrailing, htrailing']⟩

/-- Documents that differ in the case of names, and in which of two names a member has, are read as
the same query or the same node, or neither is read. Where members of a word come again the last
counts, in a query as in its nodes and its keys. -/
theorem Json.Document.read_respelled :
    (∀ n n' : String, Text.sameIgnoringCase n n' = true → ∀ r : Role, r.word n = r.word n') ∧
    (Role.filter.word "op" = Role.filter.word "operator" ∧
      Role.filter.word "children" = Role.filter.word "filters" ∧
      Role.key.word "direction" = Role.key.word "dir") ∧
    (∀ d d' : Document, d.Respelled .query d' →
      (d.read Query.ofTree).toOption = (d'.read Query.ofTree).toOption) ∧
    (∀ d d' : Document, d.Respelled .filter d' →
      (d.read Filter.ofTree).toOption = (d'.read Filter.ofTree).toOption) ∧
    (∀ start members q, Query.ofTree (.object start members) = .ok q →
      Query.Each (Role.query.Takes members) Query.neutral q) ∧
    (∀ start members f, Filter.ofTree (.object start members) = .ok f →
      Filter.Each (Role.filter.Takes members) Filter.neutral f) ∧
    (∀ start members k, SortKey.ofTree (.object start members) = .ok k →
      SortKey.Each members k) := by
  refine ⟨fun n n' h => Role.word_congr h, Role.word_names,
    fun d d' h => h.read (Query.ofTree_congr h.tree),
    fun d d' h => h.read (Filter.ofTree_congr h.tree), fun start members q h => ?_,
    fun start members f h => ?_, fun start members k h => ?_⟩
  · exact Query.ofTree_each h
  · exact Filter.ofTree_each h
  · exact SortKey.ofTree_each h

/-- The members of a node that repeats an operator and a truth value in other spellings. -/
def sampleNode : List (String × Json) :=
  [("op", .string "eq"), ("OPERATOR", .string "contains"), ("caseSensitive", .bool true),
    ("Field", .string "name"), ("children", .array [.object []]), ("CASESENSITIVE", .null)]

/-- The same members in other spellings. -/
def respelledNode : List (String × Json) :=
  [("Operator", .string "eq"), ("Op", .string "contains"), ("casesensitive", .bool true),
    ("field", .string "name"), ("FILTERS", .array [.object []]), ("caseSensitive", .null)]

/-- The members of a key that repeats a direction. -/
def sampleKey : List (String × Json) :=
  [("dir", .string "asc"), ("field", .string "id"), ("Direction", .string "desc")]

/-- The same members in other spellings. -/
def respelledKey : List (String × Json) :=
  [("DIRECTION", .string "asc"), ("Field", .string "id"), ("Dir", .string "desc")]

/-- The members of a query with the node and the key. -/
def sampleMembers : List (String × Json) :=
  [("FILTER", .object sampleNode), ("sort", .array [.object sampleKey])]

/-- The same members in other spellings. -/
def respelledMembers : List (String × Json) :=
  [("filter", .object respelledNode), ("Sort", .array [.object respelledKey])]

theorem MembersRespelled.cons {r : Role} {n n' : String} {j j' : Json}
    {ms ms' : List (String × Json)} (r' : Role) (hn : r.word n = r.word n' ∧ r.member n = r')
    (h : Respelled r' (Tree.ofJson j) (Tree.ofJson j'))
    (hs : MembersRespelled r (Tree.membersOfJson ms) (Tree.membersOfJson ms')) :
    MembersRespelled r (Tree.membersOfJson ((n, j) :: ms)) (Tree.membersOfJson ((n', j') :: ms')) :=
  .member rfl rfl hn.1 (hn.2 ▸ h) hs

theorem respelled_sampleNode :
    Respelled .filter (Tree.ofJson (.object sampleNode)) (Tree.ofJson (.object respelledNode)) := by
  refine .object (.cons .other (by decide) .string ?_)
  refine .cons .other (by decide) .string ?_
  refine .cons .other (by decide) .bool ?_
  refine .cons .other (by decide) .string ?_
  refine .cons .filters (by decide) (.array (.item (.object .done) .done)) ?_
  exact .cons .other (by decide) .null .done

theorem respelled_sampleKey :
    Respelled .key (Tree.ofJson (.object sampleKey)) (Tree.ofJson (.object respelledKey)) := by
  refine .object (.cons .other (by decide) .string ?_)
  refine .cons .other (by decide) .string ?_
  exact .cons .other (by decide) .string .done

theorem respelled_sampleMembers : Respelled .query (Tree.ofJson (.object sampleMembers))
    (Tree.ofJson (.object respelledMembers)) := by
  refine .object (.cons .filter (by decide) respelled_sampleNode ?_)
  exact .cons .keys (by decide) (.array (.item respelled_sampleKey .done)) .done

theorem readable_samples :
    ((Json.object sampleNode).Readable ∧ (Json.object respelledNode).Readable) ∧
      (Json.object sampleMembers).Readable ∧ (Json.object respelledMembers).Readable := by
  have array {js : List Json} : (Json.array js).Readable ↔ ∀ j ∈ js, j.Readable :=
    ⟨fun h => by cases h; assumption, .array⟩
  have object {ms : List (String × Json)} : (Json.object ms).Readable ↔ ∀ m ∈ ms, m.2.Readable :=
    ⟨fun h => by cases h; assumption, .object⟩
  simp [sampleNode, respelledNode, sampleKey, respelledKey, sampleMembers, respelledMembers, array,
    object, Json.Readable.string, Json.Readable.null, Json.Readable.bool]

/-- The last operator and the last direction of the sample count in either spelling. -/
theorem Json.Document.read_respelled_sample :
    let document (ms : List (String × Json)) := ofBytes (bytesOf (Json.object ms).text)
    Role.filter.word "OPERATOR" = Role.filter.word "Operator" ∧
    ((document sampleMembers).read Query.ofTree).toOption =
      ((document respelledMembers).read Query.ofTree).toOption ∧
    ((document sampleNode).read Filter.ofTree).toOption =
      ((document respelledNode).read Filter.ofTree).toOption ∧
    let node : Filter := ⟨"name", "contains", none, none, false, [Filter.neutral]⟩
    let key : SortKey := ⟨"id", "desc"⟩
    Filter.Each (Role.filter.Takes (Tree.membersOfJson sampleNode)) Filter.neutral node ∧
    SortKey.Each (Tree.membersOfJson sampleKey) key ∧
    Query.Each (Role.query.Takes (Tree.membersOfJson sampleMembers)) Query.neutral
      ⟨some node, [key]⟩ := by
  obtain ⟨hcase, -, hquery, hfilter, hquery', hfilter', hkey'⟩ := read_respelled
  obtain ⟨⟨hnode, hnode'⟩, hmembers, hmembers'⟩ := readable_samples
  refine ⟨hcase _ _ (by decide) _, hquery _ _ ?_, hfilter _ _ ?_, hfilter' 0 _ _ rfl,
    hkey' 0 _ _ rfl, hquery' 0 _ _ rfl⟩
  · exact respelled_sampleMembers.ofBytes_text hmembers hmembers' (by decide) (by decide)
  · exact respelled_sampleNode.ofBytes_text hnode hnode' (by decide) (by decide)

end RecordQuery
