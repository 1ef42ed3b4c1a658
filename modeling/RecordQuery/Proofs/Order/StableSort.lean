import Mathlib.Data.List.Forall2

/-!
# Stable sorts

`StablySorted cmp rows sorted` says that `sorted` is `rows` put in the order of a comparison, rows
of one rank staying in the order in which they were. A comparison that is a total preorder leaves no
choice: there is one such list (`StablySorted.unique`), and merge sort finds it
(`stablySorted_mergeSort`).

Sorting by a minor comparison and then by a major one is sorting by both (`StablySorted.lex`), and
two sorted lists of the same rows differ only in the order of rows of one rank
(`forall₂_eq_of_ordered`).
-/

namespace RecordQuery

open Std (OrientedCmp TransCmp)

variable {α : Type} {cmp : α → α → Ordering}

/-- The rows of the rank of `a`. -/
def tiedWith (cmp : α → α → Ordering) (a : α) (rows : List α) : List α :=
  rows.filter fun b => (cmp a b).isEq

/-- `sorted` is `rows` in the order of `cmp`, rows of one rank in the order in which they were. -/
structure StablySorted (cmp : α → α → Ordering) (rows sorted : List α) : Prop where
  perm : sorted.Perm rows
  ordered : sorted.Pairwise fun a b => (cmp a b).isLE
  stable : ∀ a, tiedWith cmp a sorted = tiedWith cmp a rows

theorem mem_tiedWith {a b : α} {rows : List α} :
    b ∈ tiedWith cmp a rows ↔ b ∈ rows ∧ cmp a b = .eq := by
  simp [tiedWith, Ordering.isEq_iff_eq_eq]

theorem tiedWith_cons_of_eq {a b : α} {rows : List α} (h : cmp a b = .eq) :
    tiedWith cmp a (b :: rows) = b :: tiedWith cmp a rows := by
  simp [tiedWith, h]

theorem tiedWith_cons_of_ne {a b : α} {rows : List α} (h : cmp a b ≠ .eq) :
    tiedWith cmp a (b :: rows) = tiedWith cmp a rows := by
  simp [tiedWith, Ordering.isEq_iff_eq_eq, h]

/-! ## Sorted lists with as many rows of every rank -/

section

variable [TransCmp cmp] {a b : α} {xs ys : List α}

theorem isLE_of_tiedWith_ne_nil (hys : (b :: ys).Pairwise fun a b => (cmp a b).isLE)
    (h : tiedWith cmp a (b :: ys) ≠ []) : (cmp b a).isLE := by
  obtain ⟨c, hc⟩ := List.exists_mem_of_ne_nil _ h
  obtain ⟨hmem, htied⟩ := mem_tiedWith.1 hc
  have hca : (cmp c a).isLE := by rw [OrientedCmp.eq_comm.1 htied]; rfl
  rcases List.mem_cons.1 hmem with rfl | hmem
  · exact hca
  · exact TransCmp.isLE_trans (List.rel_of_pairwise_cons hys hmem) hca

/-- The first rows of two sorted lists are of one rank if the lists have as many rows of each. -/
theorem eq_of_ordered_cons (hxs : (a :: xs).Pairwise fun a b => (cmp a b).isLE)
    (hys : (b :: ys).Pairwise fun a b => (cmp a b).isLE)
    (h : ∀ c, (tiedWith cmp c (a :: xs)).length = (tiedWith cmp c (b :: ys)).length) :
    cmp a b = .eq := by
  have hself (c : α) : cmp c c = .eq := Std.ReflCmp.compare_self
  have hba : (cmp b a).isLE := by
    refine isLE_of_tiedWith_ne_nil hys fun hnil => ?_
    have := h a
    rw [tiedWith_cons_of_eq (hself a), hnil] at this
    cases this
  have hab : (cmp a b).isLE := by
    refine isLE_of_tiedWith_ne_nil hxs fun hnil => ?_
    have := h b
    rw [tiedWith_cons_of_eq (hself b), hnil] at this
    cases this
  exact OrientedCmp.isLE_antisymm hab hba

/-- Sorted lists with as many rows of every rank have rows of one rank at each place. -/
theorem forall₂_eq_of_ordered (hxs : xs.Pairwise fun a b => (cmp a b).isLE)
    (hys : ys.Pairwise fun a b => (cmp a b).isLE)
    (h : ∀ c, (tiedWith cmp c xs).length = (tiedWith cmp c ys).length) :
    List.Forall₂ (fun a b => cmp a b = .eq) xs ys := by
  have hself (c : α) : cmp c c = .eq := Std.ReflCmp.compare_self
  induction xs generalizing ys with
  | nil =>
    cases ys with
    | nil => exact .nil
    | cons b ys =>
      have := h b
      rw [tiedWith_cons_of_eq (hself b)] at this
      cases this
  | cons a xs ih =>
    cases ys with
    | nil =>
      have := h a
      rw [tiedWith_cons_of_eq (hself a)] at this
      cases this
    | cons b ys =>
      have hab := eq_of_ordered_cons hxs hys h
      refine .cons hab (ih hxs.of_cons hys.of_cons fun c => ?_)
      have hc := h c
      by_cases hca : cmp c a = .eq
      · have hcb := TransCmp.eq_trans hca hab
        rw [tiedWith_cons_of_eq hca, tiedWith_cons_of_eq hcb] at hc
        exact Nat.succ.inj hc
      · have hcb : cmp c b ≠ .eq := fun hcb =>
          hca (TransCmp.eq_trans hcb (OrientedCmp.eq_comm.1 hab))
        rwa [tiedWith_cons_of_ne hca, tiedWith_cons_of_ne hcb] at hc

/-- Sorted lists with the same rows of every rank in the same order are the same. -/
theorem eq_of_ordered (hxs : xs.Pairwise fun a b => (cmp a b).isLE)
    (hys : ys.Pairwise fun a b => (cmp a b).isLE)
    (h : ∀ c, tiedWith cmp c xs = tiedWith cmp c ys) : xs = ys := by
  have htied := forall₂_eq_of_ordered hxs hys fun c => congrArg List.length (h c)
  induction htied with
  | nil => rfl
  | @cons a b xs ys hab _ ih =>
    have hself : cmp a a = .eq := Std.ReflCmp.compare_self
    have ha := h a
    rw [tiedWith_cons_of_eq hself, tiedWith_cons_of_eq hab] at ha
    obtain ⟨rfl, -⟩ := List.cons.inj ha
    refine congrArg _ (ih hxs.of_cons hys.of_cons fun c => ?_)
    have hc := h c
    by_cases hca : cmp c a = .eq
    · rw [tiedWith_cons_of_eq hca, tiedWith_cons_of_eq hca] at hc
      exact (List.cons.inj hc).2
    · rwa [tiedWith_cons_of_ne hca, tiedWith_cons_of_ne hca] at hc

end

/-! ## Stable sorts -/

namespace StablySorted

variable {rows sorted sorted' : List α}

/-- A stable sort leaves no choice. -/
theorem unique [TransCmp cmp] (h : StablySorted cmp rows sorted)
    (h' : StablySorted cmp rows sorted') : sorted = sorted' :=
  eq_of_ordered h.ordered h'.ordered fun a => (h.stable a).trans (h'.stable a).symm

/-- A comparison that tells nothing apart moves nothing. -/
theorem of_eq (h : ∀ a b, cmp a b = .eq) : StablySorted cmp rows rows where
  perm := .rfl
  ordered := List.pairwise_iff_forall_sublist.2 fun {a b} _ => by rw [h a b]; rfl
  stable _ := rfl

/-- A stable sort by a minor comparison and then one by a major comparison are a stable sort by
both. -/
theorem lex {major minor : α → α → Ordering} [TransCmp major] {mid : List α}
    (hminor : StablySorted minor rows mid) (hmajor : StablySorted major mid sorted) :
    StablySorted (fun a b => (major a b).then (minor a b)) rows sorted where
  perm := hmajor.perm.trans hminor.perm
  ordered := by
    refine List.pairwise_iff_forall_sublist.2 fun {a b} hab => ?_
    have hle : (major a b).isLE := List.pairwise_iff_forall_sublist.1 hmajor.ordered hab
    cases hcmp : major a b with
    | lt => rfl
    | gt => rw [hcmp] at hle; cases hle
    | eq =>
      -- rows of one rank stand as the minor sort has left them
      have hself : major a a = .eq := Std.ReflCmp.compare_self
      have hmid : [a, b].Sublist mid := by
        have hsub : (tiedWith major a [a, b]).Sublist (tiedWith major a sorted) := hab.filter _
        rw [tiedWith_cons_of_eq hself, tiedWith_cons_of_eq hcmp, hmajor.stable] at hsub
        exact hsub.trans List.filter_sublist
      exact List.pairwise_iff_forall_sublist.1 hminor.ordered hmid
  stable a := by
    have hboth (l : List α) : tiedWith (fun a b => (major a b).then (minor a b)) a l =
        tiedWith minor a (tiedWith major a l) := by
      simp only [tiedWith, List.filter_filter]
      refine List.filter_congr fun b _ => ?_
      cases major a b <;> cases minor a b <;> rfl
    have hcomm (l : List α) : tiedWith minor a (tiedWith major a l) =
        tiedWith major a (tiedWith minor a l) := List.filter_comm ..
    rw [hboth, hboth, hmajor.stable, hcomm, hminor.stable, hcomm]

/-- Rows that are further sorted by a minor comparison change places only with rows of one rank. -/
theorem forall₂_eq [TransCmp cmp] {rows' : List α} (h : StablySorted cmp rows sorted)
    (h' : StablySorted cmp rows' sorted') (hperm : rows.Perm rows') :
    List.Forall₂ (fun a b => cmp a b = .eq) sorted sorted' :=
  forall₂_eq_of_ordered h.ordered h'.ordered fun _ =>
    (((h.perm.trans hperm).trans h'.perm.symm).filter _).length_eq

end StablySorted

/-- Merge sort is a stable sort. -/
theorem stablySorted_mergeSort [TransCmp cmp] (rows : List α) :
    StablySorted cmp rows (rows.mergeSort fun a b => (cmp a b).isLE) := by
  have htrans : ∀ a b c, (cmp a b).isLE → (cmp b c).isLE → (cmp a c).isLE :=
    fun _ _ _ => TransCmp.isLE_trans
  have htotal (a b : α) : ((cmp a b).isLE || (cmp b a).isLE) = true := by
    rw [@OrientedCmp.eq_swap _ cmp _ b a]
    cases cmp a b <;> rfl
  refine ⟨List.mergeSort_perm .., List.pairwise_mergeSort htrans htotal rows, fun a => ?_⟩
  -- the rows of a rank are ordered as they are, so merge sort keeps them as a sublist
  have hsub : (tiedWith cmp a rows).Sublist (rows.mergeSort fun a b => (cmp a b).isLE) := by
    refine List.sublist_mergeSort htrans htotal ?_ List.filter_sublist
    refine List.pairwise_iff_forall_sublist.2 fun {b c} hbc => ?_
    have hb := (mem_tiedWith.1 (hbc.subset (by simp : b ∈ [b, c]))).2
    have hc := (mem_tiedWith.1 (hbc.subset (by simp : c ∈ [b, c]))).2
    rw [TransCmp.eq_trans (OrientedCmp.eq_comm.1 hb) hc]
    rfl
  have htied : (tiedWith cmp a (tiedWith cmp a rows)) = tiedWith cmp a rows := by
    simp [tiedWith, List.filter_filter]
  have hle := hsub.filter fun b => (cmp a b).isEq
  refine (List.Sublist.eq_of_length (htied ▸ hle) ?_).symm
  exact ((List.mergeSort_perm rows _).filter _).length_eq.symm

end RecordQuery
