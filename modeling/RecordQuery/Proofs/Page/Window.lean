import Mathlib.Algebra.Order.Floor.Div
import RecordQuery.Page

/-!
# Windows of a list

A collector that is shown the items of a list one by one keeps those of its window and counts all
of them (`Page.Collector.Shown`, `Page.Collector.Shown.push`). The bounds of a window are products
and sums of 32 bit numbers, so they stay below `2 ^ 64` (`Page.Request.stop_lt`) and nothing wraps.

The windows of one size cut a list into pieces that give the list when put together, and behind the
last of them there is nothing (`paginate_partitions`).
-/

namespace RecordQuery

namespace Page

variable {α : Type}

/-! ## Bounds -/

theorem saturatingAdd_of_lt {a b : UInt64} (h : a.toNat + b.toNat < 2 ^ 64) :
    saturatingAdd a b = a + b := by
  unfold saturatingAdd
  rw [if_pos]
  rw [UInt64.le_iff_toNat_le, UInt64.toNat_add, Nat.mod_eq_of_lt h]
  exact Nat.le_add_right _ _

namespace Request

variable (r : Request)

theorem stop_lt : r.index.toNat * r.size.toNat + r.size.toNat < 2 ^ 64 := by
  have hindex : r.index.toNat + 1 ≤ 2 ^ 32 := r.index.toNat_lt
  have hsize : r.size.toNat ≤ 2 ^ 32 - 1 := Nat.le_sub_one_of_lt r.size.toNat_lt
  calc r.index.toNat * r.size.toNat + r.size.toNat
      = (r.index.toNat + 1) * r.size.toNat := (Nat.succ_mul _ _).symm
    _ ≤ 2 ^ 32 * (2 ^ 32 - 1) := Nat.mul_le_mul hindex hsize
    _ < 2 ^ 64 := by decide

theorem size_toNat_pos : 0 < r.size.toNat := UInt32.lt_iff_toNat_lt.1 r.size_pos

theorem toNat_offset : r.offset.toNat = r.index.toNat * r.size.toNat := by
  rw [offset, UInt64.toNat_mul, UInt32.toNat_toUInt64, UInt32.toNat_toUInt64]
  exact Nat.mod_eq_of_lt (Nat.lt_of_le_of_lt (Nat.le_add_right _ _) r.stop_lt)

theorem toNat_offset_add :
    (r.offset + r.size.toUInt64).toNat = r.index.toNat * r.size.toNat + r.size.toNat := by
  rw [UInt64.toNat_add, toNat_offset, UInt32.toNat_toUInt64]
  exact Nat.mod_eq_of_lt r.stop_lt

theorem saturatingAdd_offset :
    saturatingAdd r.offset r.size.toUInt64 = r.offset + r.size.toUInt64 := by
  apply saturatingAdd_of_lt
  rw [toNat_offset, UInt32.toNat_toUInt64]
  exact r.stop_lt

theorem toNat_index_add_one : (r.index.toUInt64 + 1).toNat = r.index.toNat + 1 := by
  have := r.index.toNat_lt
  rw [UInt64.toNat_add, UInt32.toNat_toUInt64, UInt64.toNat_one]
  omega

end Request

/-- The number of windows is the number of items divided by the size and rounded up. -/
theorem toNat_pages (p : Page α) : p.pages.toNat = p.count.toNat ⌈/⌉ p.request.size.toNat := by
  have hpos := p.request.size_toNat_pos
  have hlt := p.count.toNat_lt
  have hdiv := Nat.div_add_mod' p.count.toNat p.request.size.toNat
  have hmod := Nat.mod_lt p.count.toNat hpos
  rw [Nat.ceilDiv_eq_add_pred_div]
  simp only [pages, ← UInt64.toNat_inj, UInt64.toNat_mod, UInt32.toNat_toUInt64, UInt64.toNat_zero]
  split
  · next hzero =>
    rw [UInt64.toNat_div, UInt32.toNat_toUInt64]
    refine (Nat.div_eq_of_lt_le ?_ ?_).symm
    · omega
    · rw [Nat.succ_mul]
      omega
  · next hrest =>
    -- with a remainder the size is at least two, so the quotient is not the greatest number
    have hquotient : p.count.toNat / p.request.size.toNat ≤ p.count.toNat / 2 :=
      Nat.div_le_div_left (by omega) (by decide)
    rw [UInt64.toNat_add, UInt64.toNat_div, UInt32.toNat_toUInt64, UInt64.toNat_one,
      Nat.mod_eq_of_lt (by omega)]
    refine (Nat.div_eq_of_lt_le ?_ ?_).symm
    · rw [Nat.succ_mul]
      omega
    · rw [Nat.succ_mul, Nat.succ_mul]
      omega

theorem pages_le_iff (p : Page α) (k : Nat) :
    p.pages.toNat ≤ k ↔ p.count.toNat ≤ k * p.request.size.toNat := by
  rw [toNat_pages, ceilDiv_le_iff_le_mul p.request.size_toNat_pos, Nat.mul_comm]

theorem hasNext_iff (p : Page α) :
    p.hasNext = true ↔ (p.request.index.toNat + 1) * p.request.size.toNat < p.count.toNat := by
  rw [hasNext, decide_eq_true_iff, UInt64.lt_iff_toNat_lt, p.request.toNat_index_add_one,
    ← Nat.not_le, pages_le_iff, Nat.not_le]

/-! ## Collecting -/

namespace Collector

/-- A collector for a request that some items were shown to, which are at most `2 ^ 64` where it has
to say what is kept. -/
structure Shown (r : Request) (xs : List α) (c : Collector α) : Prop where
  request : c.request = r
  start : c.start.toNat = r.index.toNat * r.size.toNat
  stop : c.stop.toNat = r.index.toNat * r.size.toNat + r.size.toNat
  seen : c.seen = UInt64.ofNat xs.length
  kept : xs.length ≤ 2 ^ 64 → c.kept.reverse = (xs.take c.stop.toNat).drop c.start.toNat

theorem shown_ofRequest (r : Request) : Shown r [] (ofRequest r : Collector α) where
  request := rfl
  start := r.toNat_offset
  stop := by rw [ofRequest, r.saturatingAdd_offset, r.toNat_offset_add]
  seen := rfl
  kept := by simp [ofRequest]

/-- One more item is counted, and kept if its place is in the window. -/
theorem Shown.push {r : Request} {xs : List α} {c : Collector α} (h : Shown r xs c) (a : α) :
    Shown r (xs ++ [a]) (c.push a) where
  request := h.request
  start := h.start
  stop := h.stop
  seen := by
    rw [List.length_append, List.length_singleton, UInt64.ofNat_add, ← h.seen]
    rfl
  kept := by
    intro hlen
    rw [List.length_append, List.length_singleton] at hlen
    have hkept := h.kept (by omega)
    have hseen : c.seen.toNat = xs.length := by
      rw [h.seen, UInt64.toNat_ofNat_of_lt' hlen]
    show (if c.start ≤ c.seen ∧ c.seen < c.stop then a :: c.kept else c.kept).reverse =
      ((xs ++ [a]).take c.stop.toNat).drop c.start.toNat
    simp only [UInt64.le_iff_toNat_le, UInt64.lt_iff_toNat_lt, hseen]
    by_cases hstop : xs.length < c.stop.toNat
    · rw [List.take_of_length_le (by omega)] at hkept
      rw [List.take_of_length_le (by simp; omega)]
      by_cases hstart : c.start.toNat ≤ xs.length
      · rw [if_pos ⟨hstart, hstop⟩, List.reverse_cons, hkept, List.drop_append_of_le_length hstart]
      · rw [if_neg (fun h => hstart h.1), hkept, List.drop_eq_nil_of_le (by omega),
          List.drop_eq_nil_of_le (by simp; omega)]
    · rw [if_neg (fun h => hstop h.2), hkept, List.take_append_of_le_length (by omega)]

theorem Shown.foldl_push {r : Request} {xs : List α} {c : Collector α} (h : Shown r xs c)
    (ys : List α) : Shown r (xs ++ ys) (ys.foldl Collector.push c) := by
  induction ys generalizing xs c with
  | nil => rwa [List.append_nil]
  | cons y ys ih =>
    rw [List.append_cons]
    exact ih (h.push y)

end Collector

end Page

open Page

variable {α : Type}

/-! ## Pages -/

theorem shown_paginate (items : List α) (r : Page.Request) :
    Collector.Shown r items (items.foldl Collector.push (Collector.ofRequest r)) :=
  (Collector.shown_ofRequest r).foldl_push items

theorem request_paginate (items : List α) (r : Page.Request) : (paginate items r).request = r :=
  (shown_paginate items r).request

theorem count_paginate (items : List α) (r : Page.Request) :
    (paginate items r).count = UInt64.ofNat items.length :=
  (shown_paginate items r).seen

section

variable {items : List α} (hlen : items.length < 2 ^ 64)
include hlen

theorem toNat_count_paginate (r : Page.Request) :
    (paginate items r).count.toNat = items.length := by
  rw [count_paginate, UInt64.toNat_ofNat_of_lt' hlen]

theorem items_paginate (r : Page.Request) : (paginate items r).items =
    (items.drop (r.index.toNat * r.size.toNat)).take r.size.toNat := by
  have hshown := shown_paginate items r
  show (items.foldl Collector.push (Collector.ofRequest r)).kept.reverse = _
  rw [hshown.kept hlen.le, hshown.start, hshown.stop, List.drop_take, Nat.add_sub_cancel_left]

theorem length_le_pages_mul (r : Page.Request) :
    items.length ≤ (paginate items r).pages.toNat * r.size.toNat := by
  have h := (pages_le_iff (paginate items r) _).1 le_rfl
  rwa [toNat_count_paginate hlen, request_paginate] at h

/-- The first windows of one size hold the items from the first one on, each once and in order. -/
theorem flatMap_items_paginate {size : UInt32} {ws : List Page.Request}
    (hsize : ∀ w ∈ ws, w.size = size) (hindex : ws.map (·.index.toNat) = List.range ws.length) :
    ws.flatMap (fun w => (paginate items w).items) = items.take (ws.length * size.toNat) := by
  have hitems : ws.flatMap (fun w => (paginate items w).items) =
      (List.range ws.length).flatMap fun i => (items.drop (i * size.toNat)).take size.toNat := by
    rw [← hindex, List.flatMap_map]
    refine List.flatMap_congr fun w hw => ?_
    rw [items_paginate hlen, hsize w hw]
  rw [hitems]
  generalize ws.length = k
  induction k with
  | zero => simp
  | succ k ih =>
    rw [List.range_succ, List.flatMap_append, ih, Nat.succ_mul, List.take_add]
    simp

end

/-- A page shows the items between the bounds of its window and says how many items, how many windows
and whether windows before and behind it there are; all of this is computed without a number getting
too large. The windows of one size give the list when put together, in as far as there are indices
for all of them, and those behind the last one are without items. -/
theorem paginate_partitions {items : List α} (hlen : items.length < 2 ^ 64) (r : Page.Request) :
    let p := paginate items r
    let start := r.index.toNat * r.size.toNat
    p.items = items.extract start (min items.length (start + r.size.toNat)) ∧
    p.count.toNat = items.length ∧
    p.pages.toNat = items.length ⌈/⌉ r.size.toNat ∧
    (p.hasPrevious = true ↔ 0 < r.index.toNat) ∧
    (p.hasNext = true ↔ ∃ i < items.length, (r.index.toNat + 1) * r.size.toNat ≤ i) ∧
    (r.offset.toNat = start ∧ (r.offset + r.size.toUInt64).toNat = start + r.size.toNat ∧
      saturatingAdd r.offset r.size.toUInt64 = r.offset + r.size.toUInt64 ∧
      (r.index.toUInt64 + 1).toNat = r.index.toNat + 1) ∧
    (∀ ws : List Page.Request, (∀ w ∈ ws, w.size = r.size) →
      ws.map (·.index.toNat) = List.range ws.length →
      let shown := ws.flatMap fun w => (paginate items w).items
      shown = items.take (ws.length * r.size.toNat) ∧
        (ws.length = p.pages.toNat → shown = items)) ∧
    (p.pages.toNat ≤ r.index.toNat → p.items = []) := by
  intro p start
  have hrequest : p.request = r := request_paginate items r
  have hcount : p.count.toNat = items.length := toNat_count_paginate hlen r
  have hitems := items_paginate hlen r
  refine ⟨?window, hcount, ?pages, ?previous, ?next,
    ⟨r.toNat_offset, r.toNat_offset_add, r.saturatingAdd_offset, r.toNat_index_add_one⟩,
    fun ws hsize hindex => ?parts, ?behind⟩
  case window =>
    rw [hitems, List.extract_eq_take_drop, List.take_eq_take_iff, List.length_drop]
    omega
  case pages => rw [toNat_pages, hrequest, hcount]
  case previous => rw [hasPrevious, hrequest, decide_eq_true_iff, UInt32.lt_iff_toNat_lt]; rfl
  case next =>
    rw [hasNext_iff, hrequest, hcount]
    exact ⟨fun h => ⟨_, h, le_rfl⟩, fun ⟨i, hi, h⟩ => Nat.lt_of_le_of_lt h hi⟩
  case parts =>
    have hshown := flatMap_items_paginate hlen hsize hindex
    refine ⟨hshown, fun hpages => ?_⟩
    rw [hshown, hpages, List.take_of_length_le (length_le_pages_mul hlen r)]
  case behind =>
    intro h
    have hle : items.length ≤ start :=
      (length_le_pages_mul hlen r).trans (Nat.mul_le_mul_right _ h)
    rw [hitems, List.drop_eq_nil_of_le hle, List.take_nil]

/-- A window of ten items. -/
def tens (index : UInt32) : Page.Request := ⟨index, 10, by decide⟩

theorem paginate_partitions_tens :
    (paginate (List.range 23) (tens 2)).items = [20, 21, 22] ∧
      [tens 0, tens 1, tens 2].flatMap (fun w => (paginate (List.range 23) w).items) =
        List.range 23 := by
  obtain ⟨hitems, -, -, -, -, -, hparts, -⟩ :=
    paginate_partitions (show (List.range 23).length < 2 ^ 64 by decide) (tens 2)
  obtain ⟨-, hshown⟩ := hparts [tens 0, tens 1, tens 2] (by simp [tens]) (by decide)
  exact ⟨hitems, hshown (by decide)⟩

end RecordQuery
