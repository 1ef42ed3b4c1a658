import Mathlib.Data.List.Basic
import Mathlib.Data.List.Induction
import Mathlib.Data.List.Pairwise
import RecordQuery.Proofs.Except
import RecordQuery.Schema

/-!
# Names of schemas

A schema is made from definitions one after another, and `Schema.get?` finds the last definition of
a name, in whatever case it was given (`Schema.get?_ofFields`). No name stands in a schema twice
(`Schema.apart_ofFields`), and the fields stand in the order in which their names first came up
(`Schema.fields_ofFields`). So a schema depends on nothing but the names of its definitions and what
is found under each of them (`Schema.ofFields_congr`).

Said of what is resolved: a schema holds the last definition of each name and nothing else
(`Schema.ofFields_lastDefinitions`).
-/

namespace RecordQuery.Schema

variable {α : Type}

open Text (sameIgnoringCase)

/-! ## Looking up -/

theorem find?_put (f : Field α) (name : String) (gs : List (Field α)) :
    (put f gs).find? (fun g => sameIgnoringCase g.name name) =
      if sameIgnoringCase f.name name then some f
      else gs.find? fun g => sameIgnoringCase g.name name := by
  induction gs with
  | nil => cases h : sameIgnoringCase f.name name <;> simp [put, h]
  | cons g gs ih =>
    unfold put
    split
    · rename_i hg
      simp only [List.find?_cons, Text.sameIgnoringCase_congr_left hg name]
      cases sameIgnoringCase f.name name <;> rfl
    · rename_i hg
      simp only [List.find?_cons, ih]
      cases hf : sameIgnoringCase f.name name with
      | false => rfl
      | true =>
        -- what is found stands behind `g`, which has another name
        have hgn : sameIgnoringCase g.name name = false := by
          rw [← Text.sameIgnoringCase_congr_right hf]
          simpa using hg
        simp [hgn]

theorem get?_add (s : Schema α) (f : Field α) (name : String) :
    (s.add f).get? name = if sameIgnoringCase f.name name then some f else s.get? name :=
  find?_put f name s.fields

theorem ofFields_concat (title : String) (fs : List (Field α)) (f : Field α) :
    ofFields title (fs ++ [f]) = (ofFields title fs).add f := by
  simp [ofFields, List.foldl_append]

/-- The last definition of a name is the one that counts. -/
theorem get?_ofFields (title : String) (fs : List (Field α)) (name : String) :
    (ofFields title fs).get? name =
      (fs.filter fun f => sameIgnoringCase f.name name).getLast? := by
  induction fs using List.reverseRecOn with
  | nil => rfl
  | append_singleton fs f ih =>
    rw [ofFields_concat, get?_add, ih, List.filter_append]
    cases h : sameIgnoringCase f.name name <;> simp [h]

/-- A name is found if some definition has it. -/
theorem isSome_get?_ofFields (title : String) (fs : List (Field α)) (name : String) :
    ((ofFields title fs).get? name).isSome = true ↔
      ∃ f ∈ fs, sameIgnoringCase f.name name = true := by
  rw [get?_ofFields, ← Option.isNone_eq_false_iff, Bool.eq_false_iff, ne_eq,
    Option.isNone_iff_eq_none, List.getLast?_eq_none_iff, List.filter_eq_nil_iff]
  simp

/-! ## Order -/

/-- No two fields have the same name but for case. -/
def Apart (fs : List (Field α)) : Prop :=
  fs.Pairwise fun f g => sameIgnoringCase f.name g.name = false

theorem put_eq_append {f : Field α} {gs : List (Field α)}
    (h : ∀ g ∈ gs, sameIgnoringCase g.name f.name = false) : put f gs = gs ++ [f] := by
  induction gs with
  | nil => rfl
  | cons g gs ih =>
    rw [put, h g List.mem_cons_self, ih fun g hg => h g (List.mem_cons_of_mem _ hg)]
    rfl

theorem put_eq_map {f : Field α} {gs : List (Field α)} (hgs : Apart gs)
    (h : ∃ g ∈ gs, sameIgnoringCase g.name f.name = true) :
    put f gs = gs.map fun g => if sameIgnoringCase g.name f.name then f else g := by
  induction gs with
  | nil =>
    obtain ⟨g, hg, -⟩ := h
    cases hg
  | cons g gs ih =>
    obtain ⟨hg, hgs⟩ := List.pairwise_cons.1 hgs
    unfold put
    by_cases hsame : sameIgnoringCase g.name f.name = true
    · -- the fields behind have other names
      have hrest : ∀ g' ∈ gs, (if sameIgnoringCase g'.name f.name then f else g') = g' := by
        intro g' hg'
        rw [← Text.sameIgnoringCase_congr_right hsame, Text.sameIgnoringCase_comm, hg g' hg']
        rfl
      rw [if_pos hsame, List.map_cons, if_pos hsame, List.map_congr_left hrest, List.map_id']
    · have hrest : ∃ g ∈ gs, sameIgnoringCase g.name f.name = true := by
        obtain ⟨g', hg', h'⟩ := h
        rcases List.mem_cons.1 hg' with rfl | hg'
        · exact absurd h' hsame
        · exact ⟨g', hg', h'⟩
      rw [if_neg hsame, ih hgs hrest, List.map_cons, if_neg hsame]

theorem mem_names_put {f : Field α} {gs : List (Field α)} {name : String}
    (h : ∃ g ∈ put f gs, sameIgnoringCase g.name name = true) :
    sameIgnoringCase f.name name = true ∨ ∃ g ∈ gs, sameIgnoringCase g.name name = true := by
  have hfind : ((put f gs).find? fun g => sameIgnoringCase g.name name).isSome = true := by
    simpa using h
  rw [find?_put] at hfind
  split at hfind
  · exact .inl ‹_›
  · exact .inr (by simpa using hfind)

theorem Apart.put {f : Field α} {gs : List (Field α)} (h : Apart gs) : Apart (put f gs) := by
  induction gs with
  | nil => exact List.pairwise_singleton _ f
  | cons g gs ih =>
    obtain ⟨hg, hgs⟩ := List.pairwise_cons.1 h
    unfold Schema.put
    split
    · rename_i hsame
      refine List.pairwise_cons.2 ⟨fun g' hg' => ?_, hgs⟩
      rw [← Text.sameIgnoringCase_congr_left hsame, hg g' hg']
    · rename_i hsame
      refine List.pairwise_cons.2 ⟨fun g' hg' => ?_, ih hgs⟩
      rw [Text.sameIgnoringCase_comm, Bool.eq_false_iff]
      intro hback
      rcases mem_names_put ⟨g', hg', hback⟩ with hf | ⟨g'', hg'', hback⟩
      · exact hsame (Text.sameIgnoringCase_symm hf)
      · rw [Text.sameIgnoringCase_comm, hg g'' hg''] at hback
        cases hback

/-- No name stands in a schema twice. -/
theorem apart_ofFields (title : String) (fs : List (Field α)) :
    Apart (ofFields title fs).fields := by
  induction fs using List.reverseRecOn with
  | nil => exact List.Pairwise.nil
  | append_singleton fs f ih =>
    rw [ofFields_concat]
    exact ih.put

/-- Of names that are the same but for case, the first one. -/
def heads (names : List String) : List String :=
  (names.reverse.pwFilter fun n m => sameIgnoringCase n m = false).reverse

theorem mem_of_mem_heads {names : List String} {n : String} (h : n ∈ heads names) : n ∈ names := by
  rw [heads, List.mem_reverse] at h
  exact List.mem_reverse.1 ((List.pwFilter_subset _) h)

theorem heads_concat (names : List String) (n : String) :
    heads (names ++ [n]) =
      if ∀ m ∈ names, sameIgnoringCase n m = false then heads names ++ [n] else heads names := by
  have hiff : (∀ m ∈ names.reverse.pwFilter fun n m => sameIgnoringCase n m = false,
      sameIgnoringCase n m = false) ↔ ∀ m ∈ names, sameIgnoringCase n m = false := by
    rw [List.forall_mem_pwFilter]
    · simp
    · -- where the outer two are apart, the one between them is apart from one of them
      intro x y z hxz
      by_cases hxy : sameIgnoringCase x y = true
      · exact .inr (by rw [← Text.sameIgnoringCase_congr_left hxy, hxz])
      · exact .inl (by simpa using hxy)
  rw [heads, List.reverse_concat]
  split
  · rename_i h
    rw [List.pwFilter_cons_of_pos (hiff.2 h), List.reverse_cons, heads]
  · rename_i h
    rw [List.pwFilter_cons_of_neg (fun hall => h (hiff.1 hall)), heads]

/-- The fields stand in the order in which their names first came up. -/
theorem fields_ofFields (title : String) (fs : List (Field α)) :
    (ofFields title fs).fields =
      (heads (fs.map Field.name)).filterMap (ofFields title fs).get? := by
  induction fs using List.reverseRecOn with
  | nil => rfl
  | append_singleton fs f ih =>
    rw [ofFields_concat, List.map_append, List.map_singleton, heads_concat]
    show put f (ofFields title fs).fields = _
    have hfound : (∃ g ∈ (ofFields title fs).fields, sameIgnoringCase g.name f.name = true) ↔
        ∃ g ∈ fs, sameIgnoringCase g.name f.name = true := by
      rw [← isSome_get?_ofFields title fs, get?, List.find?_isSome]
    split
    · rename_i hnew
      have hapart : ∀ g ∈ (ofFields title fs).fields, sameIgnoringCase g.name f.name = false := by
        intro g hg
        rw [Bool.eq_false_iff]
        intro hsame
        obtain ⟨g', hg', hsame'⟩ := hfound.1 ⟨g, hg, hsame⟩
        rw [Text.sameIgnoringCase_comm, hnew g'.name (List.mem_map_of_mem hg')] at hsame'
        cases hsame'
      rw [put_eq_append hapart, List.filterMap_append, ih]
      congr 1
      · refine List.filterMap_congr fun n hn => ?_
        rw [get?_add, hnew n (mem_of_mem_heads hn)]
        rfl
      · simp [get?_add, Text.sameIgnoringCase_refl]
    · rename_i hold
      have hsome : ∃ g ∈ fs, sameIgnoringCase g.name f.name = true := by
        simpa [Text.sameIgnoringCase_comm f.name] using hold
      rw [put_eq_map (apart_ofFields title fs) (hfound.2 hsome), ih, List.map_filterMap]
      refine List.filterMap_congr fun n hn => ?_
      -- every name is found, so a field that is replaced was there before
      obtain ⟨g, hg, rfl⟩ := List.mem_map.1 (mem_of_mem_heads hn)
      obtain ⟨g', hg'⟩ := Option.isSome_iff_exists.1
        ((isSome_get?_ofFields title fs _).2 ⟨g, hg, Text.sameIgnoringCase_refl g.name⟩)
      have hname : sameIgnoringCase g'.name g.name = true := by
        simpa using List.find?_some hg'
      rw [get?_add, hg', Option.map_some, Text.sameIgnoringCase_congr_left hname,
        Text.sameIgnoringCase_comm]
      split <;> rfl

/-- A schema depends on nothing but the names of its definitions and what is found under them. -/
theorem ofFields_congr {title : String} {fs gs : List (Field α)}
    (hnames : fs.map Field.name = gs.map Field.name)
    (hget : ∀ name, (ofFields title fs).get? name = (ofFields title gs).get? name) :
    ofFields title fs = ofFields title gs := by
  have htitle : ∀ fs : List (Field α), ofFields title fs = ⟨title, (ofFields title fs).fields⟩ := by
    intro fs
    induction fs using List.reverseRecOn with
    | nil => rfl
    | append_singleton fs f ih => rw [ofFields_concat, ih]; rfl
  have hfields : (ofFields title fs).fields = (ofFields title gs).fields := by
    rw [fields_ofFields, fields_ofFields, hnames, funext hget]
  rw [htitle fs, htitle gs, hfields]

/-! ## Definitions and fields -/

/-- `f` is the last of the definitions that have the name. -/
def IsLast (fs : List (Field α)) (name : String) (f : Field α) : Prop :=
  ∃ before after, fs = before ++ f :: after ∧ sameIgnoringCase f.name name = true ∧
    ∀ g ∈ after, sameIgnoringCase g.name name = false

/-- How many definitions stand in front of the first one of a name. -/
def firstPlace (fs : List (Field α)) (name : String) : Nat :=
  fs.findIdx fun f => sameIgnoringCase f.name name

section

variable {title name : String} {fs : List (Field α)} {f : Field α}

theorem isLast_iff :
    IsLast fs name f ↔ (fs.filter fun f => sameIgnoringCase f.name name).getLast? = some f := by
  rw [List.getLast?_eq_head?_reverse, ← List.filter_reverse, List.head?_filter,
    List.find?_eq_some_iff_append]
  constructor
  · rintro ⟨before, after, rfl, hname, hafter⟩
    exact ⟨hname, after.reverse, before.reverse, by simp, by simpa using hafter⟩
  · rintro ⟨hname, after, before, hfs, hafter⟩
    refine ⟨before.reverse, after.reverse, ?_, hname, by simpa using hafter⟩
    rw [← List.reverse_inj, hfs]
    simp

theorem get?_ofFields_eq_some_iff : (ofFields title fs).get? name = some f ↔ IsLast fs name f := by
  rw [get?_ofFields, isLast_iff]

theorem resolve_eq_ok {s : Schema α} : s.resolve name = .ok f ↔ s.get? name = some f := by
  unfold resolve
  cases s.get? name <;> simp

theorem resolve_eq_error {s : Schema α} {e : QueryError} :
    s.resolve name = .error e ↔ s.get? name = none ∧ e = .fieldNotFound name s.title := by
  unfold resolve
  cases s.get? name <;> simp [pure, Except.pure, throw, throwThe, MonadExceptOf.throw, eq_comm]

/-- In a schema without double names a field is found under its own name. -/
theorem mem_fields_iff {s : Schema α} (h : Apart s.fields) :
    f ∈ s.fields ↔ s.get? f.name = some f := by
  constructor
  · intro hf
    obtain ⟨before, after, hfields⟩ := List.append_of_mem hf
    rw [Apart, hfields, List.pairwise_append] at h
    refine List.find?_eq_some_iff_append.2
      ⟨Text.sameIgnoringCase_refl f.name, before, after, hfields, fun g hg => ?_⟩
    rw [h.2.2 g hg f List.mem_cons_self]
    rfl
  · exact List.mem_of_find?_eq_some

/-! ### Places -/

theorem firstPlace_congr {name' : String} (h : sameIgnoringCase name name' = true) :
    firstPlace fs name = firstPlace fs name' := by
  unfold firstPlace
  simp only [Text.sameIgnoringCase_congr_right h]

/-- A name that has come up keeps its place when definitions follow. -/
theorem firstPlace_concat (h : ∃ g ∈ fs, sameIgnoringCase g.name name = true) :
    firstPlace (fs ++ [f]) name = firstPlace fs name := by
  obtain ⟨g, hg, hname⟩ := h
  rw [firstPlace, List.findIdx_append, if_pos (List.findIdx_lt_length_of_exists ⟨g, hg, hname⟩),
    firstPlace]

theorem firstPlace_lt_concat (h : ∃ g ∈ fs, sameIgnoringCase g.name name = true)
    (hnew : ∀ g ∈ fs, sameIgnoringCase g.name f.name = false) :
    firstPlace (fs ++ [f]) name < firstPlace (fs ++ [f]) f.name := by
  rw [firstPlace_concat h]
  obtain ⟨g, hg, hname⟩ := h
  have hplace : firstPlace fs f.name = fs.length := List.findIdx_eq_length_of_false hnew
  rw [firstPlace, firstPlace, List.findIdx_append, ← firstPlace, ← firstPlace, hplace,
    if_neg (Nat.lt_irrefl _)]
  exact Nat.lt_add_left _ (List.findIdx_lt_length_of_exists ⟨g, hg, hname⟩)

/-- The fields stand in the order in which their names first came up among the definitions. -/
theorem ordered_ofFields (title : String) (fs : List (Field α)) :
    (ofFields title fs).fields.Pairwise fun f g => firstPlace fs f.name < firstPlace fs g.name := by
  induction fs using List.reverseRecOn with
  | nil => exact List.Pairwise.nil
  | append_singleton fs f ih =>
    have hold : ∀ g ∈ (ofFields title fs).fields, ∃ g' ∈ fs,
        sameIgnoringCase g'.name g.name = true := by
      intro g hg
      rw [← isSome_get?_ofFields title, (mem_fields_iff (apart_ofFields title fs)).1 hg]
      rfl
    -- the definitions before `f` order their fields as they did without it
    have hbefore : (ofFields title fs).fields.Pairwise fun g g' =>
        firstPlace (fs ++ [f]) g.name < firstPlace (fs ++ [f]) g'.name := by
      refine ih.imp_of_mem fun hg hg' hlt => ?_
      rwa [firstPlace_concat (hold _ hg), firstPlace_concat (hold _ hg')]
    rw [ofFields_concat]
    show (put f (ofFields title fs).fields).Pairwise _
    by_cases hnew : ∀ g ∈ (ofFields title fs).fields, sameIgnoringCase g.name f.name = false
    · rw [put_eq_append hnew, List.pairwise_append]
      refine ⟨hbefore, List.pairwise_singleton _ _, fun g hg g' hg' => ?_⟩
      obtain rfl := List.mem_singleton.1 hg'
      refine firstPlace_lt_concat (hold g hg) fun h hh => ?_
      rw [Bool.eq_false_iff]
      intro hsame
      obtain ⟨k, hk⟩ := Option.isSome_iff_exists.1
        ((isSome_get?_ofFields title fs _).2 ⟨h, hh, hsame⟩)
      have hfalse := hnew k (List.mem_of_find?_eq_some hk)
      rw [List.find?_some hk] at hfalse
      cases hfalse
    · have hfound : ∃ g ∈ (ofFields title fs).fields, sameIgnoringCase g.name f.name = true := by
        simpa using hnew
      rw [put_eq_map (apart_ofFields title fs) hfound, List.pairwise_map]
      -- a replaced field has another spelling of the same name, and so the same place
      have hplace : ∀ g : Field α,
          firstPlace (fs ++ [f]) (if sameIgnoringCase g.name f.name then f else g).name =
            firstPlace (fs ++ [f]) g.name := by
        intro g
        split
        · exact firstPlace_congr (Text.sameIgnoringCase_symm ‹_›)
        · rfl
      simpa only [hplace] using hbefore

end

/-- A schema holds the last definition of each name and nothing else. No name stands in it twice,
and the fields stand in the order in which their names first came up. A name is resolved if some
definition has it but for case, to the last definition that does, in whatever case it is asked
for. -/
theorem ofFields_lastDefinitions (title : String) (fs : List (Field α)) :
    Apart (ofFields title fs).fields ∧
    (∀ f, f ∈ (ofFields title fs).fields ↔ IsLast fs f.name f) ∧
    ((ofFields title fs).fields.Pairwise fun f g =>
      firstPlace fs f.name < firstPlace fs g.name) ∧
    (∀ name, (∃ f, (ofFields title fs).resolve name = .ok f) ↔
      ∃ f ∈ fs, sameIgnoringCase f.name name = true) ∧
    (∀ name f, (ofFields title fs).resolve name = .ok f ↔ IsLast fs name f) ∧
    ∀ name name' f, sameIgnoringCase name name' = true →
      ((ofFields title fs).resolve name = .ok f ↔ (ofFields title fs).resolve name' = .ok f) := by
  refine ⟨apart_ofFields title fs, fun f => ?_, ordered_ofFields title fs, fun name => ?_,
    fun name f => ?_, fun name name' f hname => ?_⟩
  · rw [mem_fields_iff (apart_ofFields title fs), get?_ofFields_eq_some_iff]
  · simp only [resolve_eq_ok]
    rw [← isSome_get?_ofFields title, Option.isSome_iff_exists]
  · rw [resolve_eq_ok, get?_ofFields_eq_some_iff]
  · rw [resolve_eq_ok, resolve_eq_ok, get?, get?]
    simp only [Text.sameIgnoringCase_congr_right hname]

/-- A name that is defined twice, in two spellings and with another field between. -/
def sampleDefinitions : List (Field Int64) :=
  [⟨"age", .int, .int⟩, ⟨"name", .text, fun n => .text (toString n)⟩,
   ⟨"AGE", .float, fun n => .float (.ofInt n)⟩]

theorem ofFields_lastDefinitions_sample :
    sameIgnoringCase "AGE" "aGe" = true ∧
    (ofFields "Number" sampleDefinitions).resolve "aGe" =
      .ok ⟨"AGE", .float, fun n => .float (.ofInt n)⟩ := by
  obtain ⟨-, -, -, -, hlast, hcase⟩ := ofFields_lastDefinitions "Number" sampleDefinitions
  have hname : sameIgnoringCase "AGE" "aGe" = true := by decide
  exact ⟨hname, (hcase _ _ _ hname).1 <|
    (hlast _ _).2 ⟨sampleDefinitions.take 2, [], rfl, by decide, nofun⟩⟩

end RecordQuery.Schema
