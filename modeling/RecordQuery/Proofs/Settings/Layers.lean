import RecordQuery.Proofs.Except
import RecordQuery.Settings.File

/-!
# Layers of settings

`Settings.LayeredFrom` says which layer decides about each setting, with the defaults written out, and
`Settings.Usable` what settings have to be like for queries to be run with them. Settings are loaded
exactly if the layers give settings that are usable (`Settings.load_eq_ok`). The file is found and read
first, and what it says is a layer that nothing lies below (`Settings.findLayer_eq_ok`).
-/

namespace RecordQuery.Settings

/-! ## Which layer decides -/

/-- Which of two layers and a default decides about a setting. -/
inductive Chosen {α : Type} : Option α → Option α → α → α → Prop
  | given (v : α) (filed : Option α) (default : α) : Chosen (some v) filed default v
  | filed (v default : α) : Chosen none (some v) default v
  | default (v : α) : Chosen none none v v

theorem chosen_iff {α : Type} {given filed : Option α} {default v : α} :
    Chosen given filed default v ↔ v = (given.or filed).getD default := by
  constructor
  · intro h
    cases h with
    | given | filed | default => rfl
  · intro h
    subst h
    cases given with
    | some v => exact .given v filed default
    | none =>
      cases filed with
      | some v => exact .filed v default
      | none => exact .default default

/-- Settings in each of which the caller counts before the file, and the file before the default. The
caller has no say in the limits of queries and in the kinds of fields. -/
structure LayeredFrom (s : Settings) (o : Overrides) (f : Layer) : Prop where
  defaultPageSize : Chosen o.pageSize f.defaultPageSize 10 s.defaultPageSize
  maxPageSize : Chosen o.maxPageSize f.maxPageSize 1000 s.maxPageSize
  cacheEnabled : Chosen o.cacheEnabled f.cacheEnabled false s.cache.enabled
  cacheMaxEntries : Chosen (o.cacheMaxEntries.map UInt64.toNat)
    (f.cacheMaxEntries.map UInt64.toNat) 1000 s.cache.maxEntries
  cacheLifetime : Chosen (o.cacheLifetime.map UInt64.toNat) (f.cacheLifetime.map UInt64.toNat) 0
    s.cache.lifetime
  maxQueryBytes : Chosen none f.maxQueryBytes 65536 s.limits.maxQueryBytes
  maxFilterDepth : Chosen none f.maxFilterDepth 16 s.limits.maxFilterDepth
  maxSortKeys : Chosen none f.maxSortKeys 8 s.limits.maxSortKeys
  kinds : Chosen none f.kinds [] s.kinds

theorem layeredFrom_layered (o : Overrides) (f : Layer) : (layered o f).LayeredFrom o f where
  defaultPageSize := chosen_iff.2 rfl
  maxPageSize := chosen_iff.2 rfl
  cacheEnabled := chosen_iff.2 rfl
  cacheMaxEntries := chosen_iff.2 (by rw [← Option.map_or]; rfl)
  cacheLifetime := chosen_iff.2 (by rw [← Option.map_or]; rfl)
  maxQueryBytes := chosen_iff.2 rfl
  maxFilterDepth := chosen_iff.2 rfl
  maxSortKeys := chosen_iff.2 rfl
  kinds := chosen_iff.2 rfl

theorem Chosen.unique {α : Type} {given filed : Option α} {default v w : α}
    (hv : Chosen given filed default v) (hw : Chosen given filed default w) : v = w := by
  rw [chosen_iff.1 hv, chosen_iff.1 hw]

/-- The layers decide about every setting. -/
theorem LayeredFrom.unique {s t : Settings} {o : Overrides} {f : Layer} (hs : s.LayeredFrom o f)
    (ht : t.LayeredFrom o f) : s = t := by
  obtain ⟨size, maxSize, ⟨bytes, depth, keys⟩, ⟨enabled, entries, lifetime⟩, kinds⟩ := s
  obtain ⟨size', maxSize', ⟨bytes', depth', keys'⟩, ⟨enabled', entries', lifetime'⟩, kinds'⟩ := t
  obtain rfl : size = size' := hs.defaultPageSize.unique ht.defaultPageSize
  obtain rfl : maxSize = maxSize' := hs.maxPageSize.unique ht.maxPageSize
  obtain rfl : bytes = bytes' := hs.maxQueryBytes.unique ht.maxQueryBytes
  obtain rfl : depth = depth' := hs.maxFilterDepth.unique ht.maxFilterDepth
  obtain rfl : keys = keys' := hs.maxSortKeys.unique ht.maxSortKeys
  obtain rfl : enabled = enabled' := hs.cacheEnabled.unique ht.cacheEnabled
  obtain rfl : entries = entries' := hs.cacheMaxEntries.unique ht.cacheMaxEntries
  obtain rfl : lifetime = lifetime' := hs.cacheLifetime.unique ht.cacheLifetime
  obtain rfl : kinds = kinds' := hs.kinds.unique ht.kinds
  rfl

theorem layeredFrom_iff {s : Settings} {o : Overrides} {f : Layer} :
    s.LayeredFrom o f ↔ s = layered o f := by
  constructor
  · intro h
    exact h.unique (layeredFrom_layered o f)
  · intro h
    subst h
    exact layeredFrom_layered o f

/-! ## Settings files -/

/-- Nothing is decided below a layer that is put on one that says nothing. -/
theorem Layer.empty_merge (f : Layer) : Layer.merge {} f = f := by
  obtain ⟨size, maxSize, depth, keys, bytes, enabled, entries, lifetime, kinds⟩ := f
  cases kinds with
  | none => simp [merge]
  | some kinds => simp [merge]

/-- What the settings file says: the file that the caller names must be there; else it is the one of
the default name, and without such a file nothing is said. -/
inductive Filed (storage : Storage) : Option String → Layer → Prop
  | named {path text : String} {f : Layer} (content : (storage path).text = .ok text)
      (read : Json.readText Layer.ofTree text = .ok f) : Filed storage (some path) f
  | found {text : String} {f : Layer} (content : (storage "dynq.json").text = .ok text)
      (read : Json.readText Layer.ofTree text = .ok f) : Filed storage none f
  | absent (absent : (storage "dynq.json").isPresent = false) : Filed storage none {}

theorem isPresent_of_text {e : Entry} {text : String} (h : e.text = .ok text) :
    e.isPresent = true := by
  cases e with
  | file bytes => rfl
  | unreadable fault => cases h

theorem Layer.ofEntry_eq_ok {path : String} {e : Entry} {f : Layer} :
    ofEntry path e = .ok f ↔ ∃ text, e.text = .ok text ∧ Json.readText ofTree text = .ok f := by
  simp only [ofEntry, Except.bind_eq_ok, Except.mapError_eq_ok]

section

variable {storage : Storage} {path : String}

theorem findLayer_named (h : (storage path).isPresent = true) :
    findLayer storage (some path) = Layer.ofEntry path (storage path) := by
  simp [findLayer, findFile?, h, Layer.empty_merge]

theorem findLayer_lost (h : (storage path).isPresent = false) :
    findLayer storage (some path) = .error (.notFound path) := by
  simp [findLayer, findFile?, h]
  rfl

theorem findLayer_found (h : (storage "dynq.json").isPresent = true) :
    findLayer storage none = Layer.ofEntry "dynq.json" (storage "dynq.json") := by
  simp [findLayer, findFile?, defaultFile, h, Layer.empty_merge]

theorem findLayer_absent (h : (storage "dynq.json").isPresent = false) :
    findLayer storage none = .ok {} := by
  simp [findLayer, findFile?, defaultFile, h]

end

theorem findLayer_eq_ok {storage : Storage} {file : Option String} {f : Layer} :
    findLayer storage file = .ok f ↔ Filed storage file f := by
  constructor
  · intro h
    cases file with
    | some path =>
      cases hpresent : (storage path).isPresent with
      | true =>
        rw [findLayer_named hpresent, Layer.ofEntry_eq_ok] at h
        obtain ⟨text, hcontent, hread⟩ := h
        exact .named hcontent hread
      | false =>
        rw [findLayer_lost hpresent] at h
        cases h
    | none =>
      cases hpresent : (storage "dynq.json").isPresent with
      | true =>
        rw [findLayer_found hpresent, Layer.ofEntry_eq_ok] at h
        obtain ⟨text, hcontent, hread⟩ := h
        exact .found hcontent hread
      | false =>
        rw [findLayer_absent hpresent] at h
        cases h
        exact .absent hpresent
  · intro h
    cases h with
    | named hcontent hread =>
      rw [findLayer_named (isPresent_of_text hcontent), Layer.ofEntry_eq_ok]
      exact ⟨_, hcontent, hread⟩
    | found hcontent hread =>
      rw [findLayer_found (isPresent_of_text hcontent), Layer.ofEntry_eq_ok]
      exact ⟨_, hcontent, hread⟩
    | absent habsent => exact findLayer_absent habsent

/-! ## Validity -/

/-- Settings that queries can be run with. -/
structure Usable (s : Settings) : Prop where
  one_le_defaultPageSize : 1 ≤ s.defaultPageSize
  defaultPageSize_le : s.defaultPageSize ≤ s.maxPageSize
  maxPageSize_le : s.maxPageSize ≤ Page.maxSize
  one_le_maxFilterDepth : 1 ≤ s.limits.maxFilterDepth
  maxFilterDepth_le : s.limits.maxFilterDepth ≤ maxFilterDepth
  maxQueryBytes_pos : 0 < s.limits.maxQueryBytes
  maxEntries_pos : s.cache.enabled = true → 0 < s.cache.maxEntries

theorem not_out_of_bounds_iff {n max : UInt32} : ¬ (n = 0 ∨ max < n) ↔ 1 ≤ n ∧ n ≤ max := by
  grind

theorem check_eq_ok {s : Settings} : s.check = .ok () ↔ s.Usable := by
  unfold check
  simp only [Except.ite_throw_eq_ok, not_out_of_bounds_iff, Except.pure_eq_ok, and_true]
  constructor
  · intro h
    obtain ⟨⟨-, hmax⟩, ⟨hone, hdefault⟩, hdepth, hbytes, hentries⟩ := h
    refine ⟨hone, hdefault, hmax, by omega, by omega, by omega, ?_⟩
    intro henabled
    have hne : s.cache.maxEntries ≠ 0 := fun h => hentries ⟨henabled, h⟩
    omega
  · intro h
    have hone := UInt32.le_trans h.one_le_defaultPageSize h.defaultPageSize_le
    have hdepth := h.one_le_maxFilterDepth
    have hdepth' := h.maxFilterDepth_le
    have hbytes := h.maxQueryBytes_pos
    refine ⟨⟨hone, h.maxPageSize_le⟩, ⟨h.one_le_defaultPageSize, h.defaultPageSize_le⟩, by omega,
      by omega, ?_⟩
    intro hnone
    have hentries := h.maxEntries_pos hnone.1
    omega

theorem load_eq_ok {storage : Storage} {o : Overrides} {s : Settings} :
    load storage o = .ok s ↔ ∃ f, Filed storage o.file f ∧ s.LayeredFrom o f ∧ s.Usable := by
  simp only [load, Except.bind_eq_ok, Except.mapError_eq_ok, Except.pure_eq_ok, findLayer_eq_ok,
    layeredFrom_iff]
  constructor
  · intro h
    obtain ⟨f, hf, _, hcheck, rfl⟩ := h
    exact ⟨f, hf, rfl, check_eq_ok.1 hcheck⟩
  · intro h
    obtain ⟨f, hf, rfl, husable⟩ := h
    exact ⟨f, hf, (), check_eq_ok.2 husable, rfl⟩

theorem load_unusable {storage : Storage} {o : Overrides} {f : Layer} {s : Settings}
    (hf : Filed storage o.file f) (hs : s.LayeredFrom o f) (h : ¬ s.Usable) :
    ∃ reason, s.check = .error reason ∧ load storage o = .error (.invalid reason) := by
  cases hcheck : s.check with
  | ok _ => exact absurd (check_eq_ok.1 hcheck) h
  | error reason =>
    obtain rfl := layeredFrom_iff.1 hs
    refine ⟨reason, rfl, ?_⟩
    rw [load, findLayer_eq_ok.2 hf]
    show (do
      (layered o f).check.mapError LoadError.invalid
      return layered o f) = _
    rw [hcheck]
    rfl

end RecordQuery.Settings
