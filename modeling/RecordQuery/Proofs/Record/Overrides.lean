import RecordQuery.Proofs.Record.Inference
import RecordQuery.Proofs.Schema.Names

/-!
# Kinds given by name

An override is given to the first spelling of a name that the records have, and of several overrides
of one name the last one counts (`Record.spellings_overridden`). The schema then keeps the last
spelling. So an override takes effect where the records spell the name in one way, and has no effect
where they spell it in several (`Record.get?_schemaInOrder`, `Record.resolve_overridden`).

From this it follows on what the order of the overrides has an influence: on the kind of a name that
the records spell in one way and that several overrides give different kinds
(`Record.schema_order_free_iff`). Where there is no such name, the hashes of the names, by which a run
takes the overrides, make no difference (`Record.schema_eq_schemaInOrder`).
-/

namespace RecordQuery.Record

open Text (sameIgnoringCase)

/-- The kind that overrides give to a name. -/
def givenKind? (overrides : List (String × Kind)) (name : String) : Option Kind :=
  ((overrides.filter fun o => sameIgnoringCase name o.1).getLast?).map (·.2)

/-- The kinds of names with overrides applied one after another. -/
def overridden (overrides kinds : List (String × Kind)) : List (String × Kind) :=
  overrides.foldl (fun kinds o => override kinds o.1 o.2) kinds

/-- The names that are the same as a name but for case, with their kinds. -/
def spellings (name : String) (kinds : List (String × Kind)) : List (String × Kind) :=
  kinds.filter fun p => sameIgnoringCase p.1 name

theorem spellings_cons (name : String) (p : String × Kind) (kinds : List (String × Kind)) :
    spellings name (p :: kinds) =
      if sameIgnoringCase p.1 name then p :: spellings name kinds else spellings name kinds := by
  unfold spellings
  rw [List.filter_cons]

theorem schemaInOrder_eq (rs : List Record) (overrides : List (String × Kind)) :
    schemaInOrder rs overrides = Schema.ofFields title
      ((overridden overrides (inferKinds rs)).map fun p => field p.1 p.2) := rfl

/-! ## What is given -/

section

variable {overrides : List (String × Kind)} {name : String}

theorem givenKind?_concat (o : String × Kind) :
    givenKind? (overrides ++ [o]) name =
      if sameIgnoringCase name o.1 then some o.2 else givenKind? overrides name := by
  unfold givenKind?
  rw [List.filter_append]
  cases h : sameIgnoringCase name o.1 <;> simp [h]

theorem givenKind?_congr {name' : String} (h : sameIgnoringCase name name' = true) :
    givenKind? overrides name = givenKind? overrides name' := by
  unfold givenKind?
  simp only [Text.sameIgnoringCase_congr_left h]

/-- What is given to a name is given by some override of this name. -/
theorem exists_of_givenKind? {kind : Kind} (h : givenKind? overrides name = some kind) :
    ∃ o ∈ overrides, sameIgnoringCase name o.1 = true ∧ o.2 = kind := by
  obtain ⟨o, ho, rfl⟩ := Option.map_eq_some_iff.1 h
  obtain ⟨hmem, hsame⟩ := List.mem_filter.1 (List.mem_of_getLast? ho)
  exact ⟨o, hmem, hsame, rfl⟩

theorem givenKind?_eq_none_iff :
    givenKind? overrides name = none ↔ ∀ o ∈ overrides, sameIgnoringCase name o.1 = false := by
  simp [givenKind?]

/-- Where all overrides of a name agree, any of them says what is given. -/
theorem givenKind?_eq_of_mem {o : String × Kind} (ho : o ∈ overrides)
    (hname : sameIgnoringCase name o.1 = true)
    (hagree : ∀ o' ∈ overrides, sameIgnoringCase name o'.1 = true → o'.2 = o.2) :
    givenKind? overrides name = some o.2 := by
  cases h : givenKind? overrides name with
  | none =>
    rw [givenKind?_eq_none_iff.1 h o ho] at hname
    cases hname
  | some kind =>
    obtain ⟨o', ho', hname', rfl⟩ := exists_of_givenKind? h
    rw [hagree o' ho' hname']

/-- Where all overrides of a name agree, their order has no influence on what is given. -/
theorem givenKind?_perm {overrides' : List (String × Kind)} (hperm : overrides'.Perm overrides)
    (hagree : ∀ a ∈ overrides, sameIgnoringCase name a.1 = true →
      ∀ b ∈ overrides, sameIgnoringCase name b.1 = true → a.2 = b.2) :
    givenKind? overrides' name = givenKind? overrides name := by
  cases h : givenKind? overrides name with
  | none =>
    rw [givenKind?_eq_none_iff] at h ⊢
    exact fun o ho => h o (hperm.mem_iff.1 ho)
  | some kind =>
    obtain ⟨o, ho, hname, rfl⟩ := exists_of_givenKind? h
    exact givenKind?_eq_of_mem (hperm.mem_iff.2 ho) hname fun o' ho' hname' =>
      hagree o' (hperm.mem_iff.1 ho') hname' o ho hname

end

/-! ## Where it is given -/

/-- The first name takes what is given to it, and leaves the other overrides to the names behind. -/
theorem overridden_cons (overrides : List (String × Kind)) (key : String) (kind : Kind)
    (kinds : List (String × Kind)) : overridden overrides ((key, kind) :: kinds) =
      (key, (givenKind? overrides key).getD kind) ::
        overridden (overrides.filter fun o => !sameIgnoringCase key o.1) kinds := by
  induction overrides using List.reverseRecOn with
  | nil => rfl
  | append_singleton overrides o ih =>
    have hstep : ∀ kinds, overridden (overrides ++ [o]) kinds =
        override (overridden overrides kinds) o.1 o.2 := by
      intro kinds
      simp [overridden, List.foldl_append]
    rw [hstep, ih, override, givenKind?_concat, List.filter_append]
    cases h : sameIgnoringCase key o.1 with
    | true => simp [h]
    | false => simp [h, overridden, List.foldl_append]

theorem overridden_nil (overrides : List (String × Kind)) : overridden overrides [] = [] := by
  unfold overridden
  induction overrides with
  | nil => rfl
  | cons o overrides ih => exact ih

theorem keys_overridden (overrides kinds : List (String × Kind)) :
    (overridden overrides kinds).map (·.1) = kinds.map (·.1) := by
  induction kinds generalizing overrides with
  | nil => rw [overridden_nil]
  | cons p kinds ih => rw [overridden_cons, List.map_cons, List.map_cons, ih]

/-- Of the spellings of a name the first one takes what is given, and the others nothing. -/
theorem spellings_overridden (name : String) (overrides kinds : List (String × Kind)) :
    spellings name (overridden overrides kinds) =
      match spellings name kinds with
      | [] => []
      | p :: rest => (p.1, (givenKind? overrides name).getD p.2) :: rest := by
  induction kinds generalizing overrides with
  | nil => rw [overridden_nil]; rfl
  | cons p kinds ih =>
    obtain ⟨key, kind⟩ := p
    rw [overridden_cons, spellings_cons, spellings_cons, ih]
    by_cases hkey : sameIgnoringCase key name = true
    · -- nothing is left for the other spellings
      have hnone :
          givenKind? (overrides.filter fun o => !sameIgnoringCase key o.1) name = none := by
        rw [givenKind?_eq_none_iff]
        intro o ho
        rw [← Text.sameIgnoringCase_congr_left hkey]
        simpa using (List.mem_filter.1 ho).2
      have hrest : ∀ ps : List (String × Kind), (match ps with
          | [] => []
          | p :: rest => (p.1, (none : Option Kind).getD p.2) :: rest) = ps := by
        rintro (_ | ⟨p, rest⟩) <;> rfl
      rw [if_pos hkey, if_pos hkey, hnone, hrest, givenKind?_congr hkey]
    · -- all overrides of the name are left
      have hleft : givenKind? (overrides.filter fun o => !sameIgnoringCase key o.1) name =
          givenKind? overrides name := by
        unfold givenKind?
        rw [List.filter_filter]
        congr 2
        refine List.filter_congr fun o _ => ?_
        cases ho : sameIgnoringCase name o.1 with
        | false => rfl
        | true =>
          rw [← Text.sameIgnoringCase_congr_right ho]
          simpa using hkey
      rw [if_neg hkey, if_neg hkey, hleft]

/-- What a schema finds under a name: the last spelling, and under the kind that is given to it
only where it is the first one too. -/
theorem get?_schemaInOrder (rs : List Record) (overrides : List (String × Kind)) (name : String) :
    (schemaInOrder rs overrides).get? name =
      ((spellings name (inferKinds rs)).getLast?).map fun p =>
        field p.1 (if (spellings name (inferKinds rs)).length = 1
          then (givenKind? overrides name).getD p.2 else p.2) := by
  have hfilter : ((overridden overrides (inferKinds rs)).map fun p => field p.1 p.2).filter
      (fun f => sameIgnoringCase f.name name) =
        (spellings name (overridden overrides (inferKinds rs))).map fun p => field p.1 p.2 := by
    rw [List.filter_map]
    rfl
  rw [schemaInOrder_eq, Schema.get?_ofFields, hfilter, List.getLast?_map, spellings_overridden]
  rcases spellings name (inferKinds rs) with _ | ⟨p, _ | ⟨q, rest⟩⟩
  · rfl
  · rfl
  · simp [List.getLast?_cons_cons]

/-- A name is spelled in some way if some record has it. -/
theorem spellings_inferKinds_ne_nil {rs : List Record} {r : Record} (hr : r ∈ rs) {key : String}
    (hkey : key ∈ r.keys) {name : String} (hname : sameIgnoringCase key name = true) :
    spellings name (inferKinds rs) ≠ [] := by
  obtain ⟨m, hm, rfl⟩ := List.mem_map.1 hkey
  have hkinds : kindsUnder m.1 (rs.flatMap members) ≠ [] := by
    refine List.ne_nil_of_mem (List.mem_map_of_mem (List.mem_filter.2 ⟨?_, decide_eq_true rfl⟩))
    exact List.mem_flatMap.2 ⟨r, hr, hm⟩
  have hlookup := (lookup_inferKinds m.1 rs).trans (if_neg hkinds)
  exact List.ne_nil_of_mem (List.mem_filter.2 ⟨mem_of_lookup hlookup, hname⟩)

/-! ## What overrides do -/

/-- Of overrides with different names, in any order, one of a name that the records have takes effect
where they spell it in one way. Where they spell it in several ways, the field is the last spelling,
with the kind that was inferred for it. -/
theorem resolve_overridden {rs : List Record} {overrides : List (String × Kind)}
    (hapart : overrides.Pairwise fun a b => sameIgnoringCase a.1 b.1 = false)
    {o : String × Kind} (ho : o ∈ overrides) {r : Record} (hr : r ∈ rs) {key : String}
    (hkey : key ∈ r.keys) (hname : sameIgnoringCase key o.1 = true) :
    ∃ last, (spellings o.1 (inferKinds rs)).getLast? = some last ∧
      (schemaInOrder rs overrides).resolve o.1 = .ok (field last.1
        (if (spellings o.1 (inferKinds rs)).length = 1 then o.2 else last.2)) := by
  have hsymm : Std.Symm fun a b : String × Kind => sameIgnoringCase a.1 b.1 = false :=
    ⟨fun a b h => by rw [Text.sameIgnoringCase_comm, h]⟩
  have hgiven : givenKind? overrides o.1 = some o.2 := by
    refine givenKind?_eq_of_mem ho (Text.sameIgnoringCase_refl o.1) fun o' ho' hsame => ?_
    by_contra hne
    have hdiffer := hapart.forall ho ho' (fun heq => hne (by rw [heq]))
    rw [hdiffer] at hsame
    cases hsame
  obtain ⟨last, hlast⟩ := Option.isSome_iff_exists.1
    (List.getLast?_isSome.2 (spellings_inferKinds_ne_nil hr hkey hname))
  refine ⟨last, hlast, ?_⟩
  unfold Schema.resolve
  rw [get?_schemaInOrder, hlast, hgiven]
  rfl

/-- A code in two spellings and a name in one. -/
def sampleSpellings : List Record :=
  [⟨[("Code", .int 1), ("Name", .int 2)]⟩, ⟨[("code", .int 3), ("Name", .null)]⟩]

theorem resolve_overridden_sampleSpellings :
    (schemaInOrder sampleSpellings [("code", .text), ("NAME", .float)]).resolve "NAME" =
      .ok (field "Name" .float) := by
  have hspelled : spellings "NAME" (inferKinds sampleSpellings) = [("Name", .int)] := by
    decide +kernel
  have hapart : [("code", Kind.text), ("NAME", Kind.float)].Pairwise
      fun a b => sameIgnoringCase a.1 b.1 = false := by decide
  obtain ⟨last, hlast, h⟩ := resolve_overridden hapart
    (List.mem_cons_of_mem _ List.mem_cons_self)
    (show ⟨[("Code", .int 1), ("Name", .int 2)]⟩ ∈ sampleSpellings from List.mem_cons_self)
    (show "Name" ∈ _ from List.mem_cons_of_mem _ List.mem_cons_self) (by decide)
  rw [hspelled] at hlast h
  cases hlast
  exact h

/-- An override need not take effect, not even one of a name that the records have as it stands:
here it is given to `Code`, and `code` is what counts. -/
theorem override_without_effect : ¬ ∀ (rs : List Record) (overrides : List (String × Kind)),
    overrides.Pairwise (fun a b => sameIgnoringCase a.1 b.1 = false) → ∀ o ∈ overrides,
    (∃ r ∈ rs, ∃ key ∈ r.keys, sameIgnoringCase key o.1 = true) →
      ∃ f, (schemaInOrder rs overrides).resolve o.1 = .ok f ∧ f.kind = o.2 := by
  intro h
  obtain ⟨f, hf, hkind⟩ := h sampleSpellings [("code", .text)] (List.pairwise_singleton _ _)
    ("code", .text) List.mem_cons_self
    ⟨⟨[("code", .int 3), ("Name", .null)]⟩, List.mem_cons_of_mem _ List.mem_cons_self, "code",
      List.mem_cons_self, by decide⟩
  have hlost : (schemaInOrder sampleSpellings [("code", .text)]).resolve "code" =
      .ok (field "code" .int) := rfl
  rw [hlost] at hf
  cases hf
  cases hkind

/-! ## The order of overrides -/

theorem spellings_congr {n n' : String} (h : sameIgnoringCase n n' = true)
    (kinds : List (String × Kind)) : spellings n kinds = spellings n' kinds := by
  unfold spellings
  simp only [Text.sameIgnoringCase_congr_right h]

/-- An override that comes last takes effect if its name is spelled in one way. -/
theorem get?_schemaInOrder_concat {rs : List Record} {overrides : List (String × Kind)}
    {o : String × Kind} {name : String} (hname : sameIgnoringCase name o.1 = true)
    (hone : (spellings name (inferKinds rs)).length = 1) :
    ∃ key, (schemaInOrder rs (overrides ++ [o])).get? name = some (field key o.2) := by
  obtain ⟨p, hp⟩ := List.length_eq_one_iff.1 hone
  refine ⟨p.1, ?_⟩
  rw [get?_schemaInOrder, hone, hp, givenKind?_concat, if_pos hname]
  rfl

/-- Overrides in another order make the same schema if those of one name have the same kind wherever
the records have that name and spell it in one way. -/
theorem schemaInOrder_perm {rs : List Record} {overrides overrides' : List (String × Kind)}
    (hagree : ∀ a ∈ overrides, ∀ b ∈ overrides, sameIgnoringCase a.1 b.1 = true →
      (spellings a.1 (inferKinds rs)).length = 1 → a.2 = b.2)
    (hperm : overrides'.Perm overrides) :
    schemaInOrder rs overrides' = schemaInOrder rs overrides := by
  rw [schemaInOrder_eq, schemaInOrder_eq]
  refine Schema.ofFields_congr ?_ fun name => ?_
  · have hnames : ∀ kinds : List (String × Kind),
        (kinds.map fun p => field p.1 p.2).map Field.name = kinds.map (·.1) := by
      intro kinds
      rw [List.map_map]
      rfl
    rw [hnames, hnames, keys_overridden, keys_overridden]
  · rw [← schemaInOrder_eq, ← schemaInOrder_eq, get?_schemaInOrder, get?_schemaInOrder]
    by_cases hone : (spellings name (inferKinds rs)).length = 1
    · rw [givenKind?_perm hperm]
      intro a ha hna b hb hnb
      refine hagree a ha b hb ?_ ?_
      · rw [← Text.sameIgnoringCase_congr_left hna, hnb]
      · rw [← spellings_congr hna, hone]
    · simp only [hone, if_false]

/-- A run takes every override once. -/
theorem perm_enumerated (overrides : List (String × Kind)) :
    (enumerated overrides).Perm overrides :=
  List.mergeSort_perm _ _

/-- The hashes of the names decide nothing where the overrides agree. -/
theorem schema_eq_schemaInOrder {rs : List Record} {overrides : List (String × Kind)}
    (hagree : ∀ a ∈ overrides, ∀ b ∈ overrides, sameIgnoringCase a.1 b.1 = true →
      (spellings a.1 (inferKinds rs)).length = 1 → a.2 = b.2) :
    schema rs overrides = schemaInOrder rs overrides :=
  schemaInOrder_perm hagree (perm_enumerated overrides)

/-- The order of the overrides has no influence on the schema exactly if overrides of one name have
the same kind wherever the records have that name and spell it in one way. -/
theorem schema_order_free_iff {rs : List Record} {overrides : List (String × Kind)} :
    (∀ overrides', overrides'.Perm overrides →
      schemaInOrder rs overrides' = schemaInOrder rs overrides) ↔
      ∀ a ∈ overrides, ∀ b ∈ overrides, sameIgnoringCase a.1 b.1 = true →
        (spellings a.1 (inferKinds rs)).length = 1 → a.2 = b.2 := by
  constructor
  · intro h a ha b hb hname hone
    -- each of the two may come last
    have hlast : ∀ o ∈ overrides, sameIgnoringCase a.1 o.1 = true →
        ∃ key, (schemaInOrder rs overrides).get? a.1 = some (field key o.2) := by
      intro o ho hname
      obtain ⟨front, rest, rfl⟩ := List.append_of_mem ho
      have hperm : (front ++ rest ++ [o]).Perm (front ++ o :: rest) :=
        (List.perm_append_singleton o _).trans List.perm_middle.symm
      rw [← h _ hperm]
      exact get?_schemaInOrder_concat hname hone
    obtain ⟨key, hkey⟩ := hlast a ha (Text.sameIgnoringCase_refl a.1)
    obtain ⟨key', hkey'⟩ := hlast b hb hname
    have hfield : field key a.2 = field key' b.2 := Option.some.inj (hkey.symm.trans hkey')
    exact congrArg Field.kind hfield
  · exact fun h overrides' hperm => schemaInOrder_perm h hperm

/-- Two overrides of one name that differ in case make a schema that depends on their order. -/
theorem schema_depends_on_order : ¬ ∀ (rs : List Record)
    (overrides overrides' : List (String × Kind)), (overrides.map (·.1)).Nodup →
      overrides'.Perm overrides → schemaInOrder rs overrides' = schemaInOrder rs overrides := by
  intro h
  have hsame := h [⟨[("code", .int 7)]⟩] [("code", .int), ("CODE", .text)]
    [("CODE", .text), ("code", .int)] (by decide) (.swap _ _ _)
  have hkinds := congrArg (fun s : Schema Record => s.fields.map Field.kind) hsame
  change [Kind.int] = [Kind.text] at hkinds
  cases hkinds

end RecordQuery.Record
