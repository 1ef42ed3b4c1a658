import Mathlib.Tactic.SplitIfs
import RecordQuery.Feed
import RecordQuery.Proofs.Except

/-!
# What draining a feed says about it

However reading a feed comes out, it comes out truthfully (`Drained.Truthful`): a fault is the first
one of the feed, a cancellation was asked for by the pulls that were taken, and a result is what it
should be. For a visitor who wants more rows every time that is something put together from all rows
(`Feed.drain_more_truthful`), and for one who looks for a row the first one of its kind
(`Feed.drain_find_truthful`).

The runs are followed by `drainFrom_source`, `drainFrom_asked`, `drainFrom_ok` and `drainFrom_find`,
in which any number of rows may have been shown before.
-/

namespace RecordQuery.Feed

variable {α ε σ : Type}

/-! ## Rows before a fault -/

/-- The rows of pulls before the first fault. -/
def arrivedIn : List (Pull α ε) → List α
  | [] => []
  | p :: rest =>
    match p.row with
    | .error _ => []
    | .ok a => a :: arrivedIn rest

/-- The rows before the first fault. -/
def arrived (f : Feed α ε) : List α := arrivedIn f.pulls

section

variable {p : Pull α ε} {rest : List (Pull α ε)}

theorem loadPulls_cons_ok {a : α} (h : p.row = .ok a) :
    loadPulls (p :: rest) = (a :: ·) <$> loadPulls rest := by
  rw [loadPulls, h]
  cases loadPulls rest <;> rfl

theorem loadPulls_cons_error {e : ε} (h : p.row = .error e) :
    loadPulls (p :: rest) = .error e := by
  rw [loadPulls, h]

theorem arrivedIn_cons_ok {a : α} (h : p.row = .ok a) :
    arrivedIn (p :: rest) = a :: arrivedIn rest := by
  rw [arrivedIn, h]

end

/-- Without a fault all rows arrive. -/
theorem arrivedIn_of_loadPulls {pulls : List (Pull α ε)} {rows : List α}
    (h : loadPulls pulls = .ok rows) : arrivedIn pulls = rows := by
  induction pulls generalizing rows with
  | nil => exact Except.ok.inj h
  | cons p rest ih =>
    cases hp : p.row with
    | error e =>
      rw [loadPulls_cons_error hp] at h
      cases h
    | ok a =>
      rw [loadPulls_cons_ok hp, Except.map_eq_ok] at h
      obtain ⟨rows, hrest, rfl⟩ := h
      rw [arrivedIn_cons_ok hp, ih hrest]

theorem load_ofList (rows : List α) : (ofList rows : Feed α ε).load = .ok rows := by
  unfold load ofList
  induction rows with
  | nil => rfl
  | cons a rows ih => rw [List.map_cons, loadPulls_cons_ok rfl, ih]; rfl

/-! ## Cancellations -/

/-- Whether cancellation has been asked for when `n` rows have been pulled: before the first pull,
while one of them was on its way, or while the end was found behind the last one. -/
def AskedBy (f : Feed α ε) (cancelled : Bool) (n : Nat) : Prop :=
  cancelled = true ∨ (∃ p ∈ f.pulls.take n, p.cancels = true) ∨
    f.endCancels = true ∧ n = f.pulls.length

/-- A feed during which nobody asks for cancellation. -/
structure Quiet (f : Feed α ε) : Prop where
  pulls : ∀ p ∈ f.pulls, p.cancels = false
  ending : f.endCancels = false

theorem Quiet.not_askedBy {f : Feed α ε} (h : f.Quiet) (n : Nat) : ¬ f.AskedBy false n := by
  rintro (hc | ⟨p, hp, hc⟩ | ⟨hc, _⟩)
  · cases hc
  · rw [h.pulls p (List.mem_of_mem_take hp)] at hc
    cases hc
  · rw [h.ending] at hc
    cases hc

theorem AskedBy.cons {p : Pull α ε} {rest : List (Pull α ε)} {endCancels cancelled : Bool} {n : Nat}
    (h : AskedBy ⟨rest, endCancels⟩ (cancelled || p.cancels) n) :
    AskedBy ⟨p :: rest, endCancels⟩ cancelled (n + 1) := by
  rcases h with hc | ⟨q, hq, hc⟩ | ⟨hc, rfl⟩
  · rcases Bool.or_eq_true _ _ ▸ hc with hc | hc
    · exact .inl hc
    · exact .inr (.inl ⟨p, by simp, hc⟩)
  · exact .inr (.inl ⟨q, by simpa using .inr hq, hc⟩)
  · exact .inr (.inr ⟨hc, rfl⟩)

/-! ## Runs

The cases of an induction along a run are, in order: stopped by a cancellation, at the end, at a
fault, at a row after which the visitor has enough, at one after which it wants more, and at a row
that is not wanted. -/

section

variable {wanted : α → Bool} {visit : σ → α → Visit σ} {endCancels looks cancelled : Bool}
  {pulled : Nat} {s : σ} {pulls : List (Pull α ε)}

theorem drainFrom_source {e : ε} (h : (drainFrom wanted visit endCancels looks cancelled pulled s
    pulls).result = .error (.source e)) : loadPulls pulls = .error e := by
  fun_induction drainFrom with
  | case1 => cases h
  | case2 => cases h
  | case3 _ _ _ _ _ p rest fault hp =>
    cases h
    exact loadPulls_cons_error hp
  | case4 => cases h
  | case5 _ _ _ _ _ p rest a hp _ _ _ ih => rw [loadPulls_cons_ok hp, ih h]; rfl
  | case6 _ _ _ _ _ p rest a hp _ ih => rw [loadPulls_cons_ok hp, ih h]; rfl

variable (wanted visit endCancels looks cancelled pulled s pulls) in
/-- When cancellation is known to have been asked for, then by the pulls that were taken, unless
the next pull brought a fault. -/
theorem drainFrom_asked :
    let d := drainFrom wanted visit endCancels looks cancelled pulled s pulls
    (d.result = .error .cancelled → d.cancelled = true) ∧
    ∃ n, d.pulled = pulled + n ∧ (d.cancelled = true →
      AskedBy ⟨pulls, endCancels⟩ cancelled n ∨ ∃ e, d.result = .error (.source e)) := by
  fun_induction drainFrom with
  | case1 _ _ _ _ pulls hc =>
    have hc := (Bool.and_eq_true_iff.1 hc).2
    exact ⟨fun _ => hc, 0, rfl, fun _ => .inl (.inl hc)⟩
  | case2 =>
    refine ⟨nofun, 0, rfl, fun h => .inl ?_⟩
    rcases Bool.or_eq_true_iff.1 h with h | h
    · exact .inl h
    · exact .inr (.inr ⟨h, rfl⟩)
  | case3 _ _ _ _ _ p rest fault hp => exact ⟨nofun, 0, rfl, fun _ => .inr ⟨fault, rfl⟩⟩
  | case4 _ _ _ _ _ p rest a hp =>
    exact ⟨nofun, 1, rfl, fun h => .inl (AskedBy.cons (.inl h))⟩
  | case5 _ _ _ _ _ p rest a hp _ _ _ ih =>
    obtain ⟨hd, n, hn, hasked⟩ := ih
    exact ⟨hd, n + 1, by omega, fun h => (hasked h).imp_left AskedBy.cons⟩
  | case6 _ _ _ _ _ p rest a hp _ ih =>
    obtain ⟨hd, n, hn, hasked⟩ := ih
    exact ⟨hd, n + 1, by omega, fun h => (hasked h).imp_left AskedBy.cons⟩

end

section

variable {wanted : α → Bool} {endCancels looks cancelled : Bool} {pulled : Nat} {s s' : σ}
  {pulls : List (Pull α ε)}

/-- A visitor who wants more rows every time has seen all that are wanted. -/
theorem drainFrom_ok {step : σ → α → σ} (h : (drainFrom wanted (fun s a => .more (step s a))
    endCancels looks cancelled pulled s pulls).result = .ok s') :
    ∃ rows, loadPulls pulls = .ok rows ∧ s' = (rows.filter wanted).foldl step s := by
  fun_induction drainFrom with
  | case1 => cases h
  | case2 => exact ⟨[], rfl, (Except.ok.inj h).symm⟩
  | case3 => cases h
  | case4 _ _ _ _ _ p rest a hp _ _ hvisit => cases hvisit
  | case5 _ _ _ _ _ p rest a hp hwanted _ hvisit ih =>
    obtain ⟨rows, hrows, rfl⟩ := ih h
    cases hvisit
    exact ⟨a :: rows, by rw [loadPulls_cons_ok hp, hrows]; rfl, by simp [hwanted]⟩
  | case6 _ _ _ _ _ p rest a hp hwanted ih =>
    obtain ⟨rows, hrows, rfl⟩ := ih h
    exact ⟨a :: rows, by rw [loadPulls_cons_ok hp, hrows]; rfl, by simp [hwanted]⟩

/-- A visitor who wants the first row of some kind has it, or has seen that there is none. -/
theorem drainFrom_find {keep : α → Bool} {found : Option α}
    (h : (drainFrom (fun _ => true)
      (fun found a => if keep a then .enough (some a) else .more found)
      endCancels looks cancelled pulled none pulls).result = .ok found) :
    (arrivedIn pulls).find? keep = found ∧
      (found = none → loadPulls pulls = .ok (arrivedIn pulls)) := by
  generalize hs : (none : Option α) = s at h
  fun_induction drainFrom with
  | case1 => cases h
  | case2 =>
    cases h
    exact ⟨hs, fun _ => rfl⟩
  | case3 => cases h
  | case4 _ _ _ _ _ p rest a hp _ _ hvisit =>
    subst hs
    split_ifs at hvisit with hkeep
    cases hvisit
    cases h
    rw [arrivedIn_cons_ok hp, List.find?_cons_of_pos hkeep]
    exact ⟨rfl, nofun⟩
  | case5 _ _ _ _ _ p rest a hp _ _ hvisit ih =>
    subst hs
    split_ifs at hvisit with hkeep
    obtain rfl := Visit.more.inj hvisit
    obtain ⟨hfind, hload⟩ := ih rfl h
    rw [arrivedIn_cons_ok hp, List.find?_cons_of_neg hkeep]
    exact ⟨hfind, fun hn => by rw [loadPulls_cons_ok hp, hload hn]; rfl⟩
  | case6 _ _ _ _ _ p rest a hp hwanted => exact absurd rfl hwanted

end

end RecordQuery.Feed

namespace RecordQuery

variable {α β ε σ : Type}

/-! ## Whole feeds -/

/-- What came out of reading a feed is true of the feed: a result is `Right`, a fault is the first
one of the feed, and cancellation has been asked for by then. -/
structure Drained.Truthful (f : Feed α ε) (cancelled : Bool) (Right : β → Prop) (d : Drained β ε) :
    Prop where
  ok : ∀ b, d.result = .ok b → Right b
  source : ∀ e, d.result = .error (.source e) → f.load = .error e
  stopped : d.result = .error .cancelled → d.cancelled = true
  asked : d.cancelled = true → f.AskedBy cancelled d.pulled ∨ ∃ e, d.result = .error (.source e)

namespace Drained

/-- A result that counts only if nobody has asked for cancellation by now. -/
def settle (d : Drained σ ε) (g : σ → β) : Drained β ε :=
  { d with result := d.result.bind fun s => if d.cancelled then .error .cancelled else .ok (g s) }

variable {f : Feed α ε} {cancelled : Bool} {Right : σ → Prop} {Right' : β → Prop} {d : Drained σ ε}
  {g : σ → β}

theorem Truthful.map (h : d.Truthful f cancelled Right) (hg : ∀ s, Right s → Right' (g s)) :
    Truthful f cancelled Right' { d with result := d.result.map g } := by
  obtain ⟨result, late, pulled⟩ := d
  cases result with
  | error e =>
    refine ⟨nofun, fun e' he => h.source e' ?_, fun he => h.stopped ?_, fun hc => ?_⟩
    · rw [Except.error.inj he]
    · rw [Except.error.inj he]
    · exact (h.asked hc).imp_right fun ⟨e', he⟩ => ⟨e', by rw [Except.error.inj he]; rfl⟩
  | ok s =>
    refine ⟨fun b hb => ?_, nofun, nofun, fun hc => ?_⟩
    · obtain rfl := Except.ok.inj hb
      exact hg s (h.ok s rfl)
    · exact (h.asked hc).imp_right fun ⟨_, he⟩ => nomatch he

theorem Truthful.settle (h : d.Truthful f cancelled Right) (hg : ∀ s, Right s → Right' (g s)) :
    (d.settle g).Truthful f cancelled Right' := by
  have hmap := h.map hg
  obtain ⟨result, late, pulled⟩ := d
  cases result with
  | error e => exact hmap
  | ok s =>
    cases late with
    | false => exact hmap
    | true => exact ⟨nofun, nofun, fun _ => rfl, fun hc => .inl ((h.asked hc).resolve_right nofun)⟩

end Drained

namespace Feed

variable {f : Feed α ε} {wanted : α → Bool} {cancelled : Bool}

theorem drain_truthful {visit : σ → α → Visit σ} {start : σ} {Right : σ → Prop}
    (hok : ∀ s, (f.drain wanted cancelled visit start).result = .ok s → Right s) :
    (f.drain wanted cancelled visit start).Truthful f cancelled Right := by
  obtain ⟨hcancelled, n, hn, hasked⟩ :=
    drainFrom_asked wanted visit f.endCancels true cancelled 0 start f.pulls
  refine ⟨hok, fun e he => drainFrom_source he, hcancelled, fun hc => ?_⟩
  rw [Nat.zero_add] at hn
  exact hn ▸ hasked hc

theorem drain_more_truthful {step : σ → α → σ} {start : σ} :
    (f.drain wanted cancelled (fun s a => .more (step s a)) start).Truthful f cancelled
      fun s => (fun rows => (rows.filter wanted).foldl step start) <$> f.load = .ok s := by
  refine drain_truthful fun s hs => ?_
  obtain ⟨rows, hrows, rfl⟩ := drainFrom_ok hs
  rw [load, hrows]
  rfl

theorem drain_find_truthful {keep : α → Bool} :
    (f.drain (fun _ => true) cancelled
      (fun found a => if keep a then .enough (some a) else .more found) none).Truthful f cancelled
      fun found => f.arrived.find? keep = found ∧ (found = none → f.load = .ok f.arrived) :=
  drain_truthful fun _ h => drainFrom_find h

theorem collect_eq : f.collect wanted cancelled =
    (f.drain wanted cancelled (fun rows a => .more (a :: rows)) []).settle List.reverse := by
  unfold collect
  obtain ⟨result, late, pulled⟩ := f.drain wanted cancelled (fun rows a => .more (a :: rows)) []
  cases result <;> rfl

theorem collect_truthful : (f.collect wanted cancelled).Truthful f cancelled
    fun rows => List.filter wanted <$> f.load = .ok rows := by
  rw [collect_eq]
  refine drain_more_truthful.settle fun rows hrows => ?_
  obtain ⟨all, hall, rfl⟩ := Except.map_eq_ok.1 hrows
  rw [hall, List.foldl_flip_cons_eq_append', List.append_nil, List.reverse_reverse]
  rfl

theorem paginate_truthful {r : Page.Request} :
    (f.paginate wanted r cancelled).Truthful f cancelled fun page =>
      (fun rows => RecordQuery.paginate (rows.filter wanted) r) <$> f.load = .ok page := by
  refine drain_more_truthful.map fun c hc => ?_
  obtain ⟨rows, hrows, rfl⟩ := Except.map_eq_ok.1 hc
  rw [hrows]
  rfl

end Feed

end RecordQuery
