import RecordQuery.Page.Wire
import RecordQuery.Proofs.Except
import RecordQuery.Proofs.Json.Fields
import RecordQuery.Proofs.Page.Window

/-!
# Pages read back

A page can be read from its own document if its items fit into it (`Page.Fits`): they are no more
than its size, and no more than its count leaves from its window on. The pages that `paginate` makes
are such pages, and so are all pages that are ever read, so reading a page and writing it again is
the same as reading it once (`Page.wire_faithful`).

What is read depends on the items, the window and the count alone (`Page.Describes`,
`Page.ofTree_object`).
-/

namespace RecordQuery

open Json (Tree Members Holds Due Shown Restores)

namespace Page

variable {α β : Type}

/-! ## Pages with room for their items -/

/-- The items are no more than the page has places and than there are from its window on. -/
structure Fits (p : Page α) : Prop where
  size : p.items.length ≤ p.request.size.toNat
  count : p.items.length ≤ p.count.toNat - p.request.index.toNat * p.request.size.toNat

theorem fits_paginate {items : List α} (hlen : items.length < 2 ^ 64) (r : Request) :
    (paginate items r).Fits where
  size := by
    rw [items_paginate hlen, request_paginate, List.length_take]
    exact Nat.min_le_left _ _
  count := by
    rw [items_paginate hlen, request_paginate, toNat_count_paginate hlen, List.length_take,
      List.length_drop]
    exact Nat.min_le_right _ _

theorem Fits.map {p : Page α} (h : p.Fits) (f : α → β) : (p.map f).Fits where
  size := by simpa [Page.map] using h.size
  count := by simpa [Page.map] using h.count

theorem toNat_remaining (r : Request) (count : UInt64) :
    (remaining r count).toNat = count.toNat - r.index.toNat * r.size.toNat := by
  rw [← r.toNat_offset]
  unfold remaining
  split_ifs with hle
  · exact UInt64.toNat_sub_of_le _ _ hle
  · rw [UInt64.le_iff_toNat_le] at hle
    exact (Nat.sub_eq_zero_of_le (Nat.le_of_not_le hle)).symm

theorem Fits.ofParts_eq {p : Page α} (h : p.Fits) :
    ofParts p.items p.request.index p.request.size p.count = .ok p := by
  have hsize := Nat.not_lt_of_le h.size
  have hcount := Nat.not_lt_of_le h.count
  rw [← toNat_remaining] at hcount
  rw [ofParts, Request.ofNumbers, dif_pos p.request.size_pos]
  show (if p.request.size.toNat < p.items.length then _
    else if (remaining p.request p.count).toNat < p.items.length then _ else Except.ok p) = _
  rw [if_neg hsize, if_neg hcount]

/-- Parts make the page of these parts if it fits, and none if it does not. -/
theorem ofParts_eq_ok {items : List α} {index size : UInt32} {count : UInt64} {p : Page α} :
    ofParts items index size count = .ok p ↔ p.Fits ∧ p.items = items ∧ p.request.index = index ∧
      p.request.size = size ∧ p.count = count := by
  constructor
  · intro h
    obtain ⟨r, hr, hpage⟩ := Except.bind_eq_ok.1 h
    unfold Request.ofNumbers at hr
    split_ifs at hr with hpos
    cases hr
    split_ifs at hpage with hsize hcount
    cases hpage
    rw [toNat_remaining] at hcount
    exact ⟨⟨Nat.le_of_not_lt hsize, Nat.le_of_not_lt hcount⟩, rfl, rfl, rfl, rfl⟩
  · rintro ⟨hfits, rfl, rfl, rfl, rfl⟩
    exact hfits.ofParts_eq

theorem exists_ofParts_iff {items : List α} {index size : UInt32} {count : UInt64} :
    (∃ p, ofParts items index size count = .ok p) ↔ 1 ≤ size.toNat ∧
      items.length ≤ size.toNat ∧ items.length ≤ count.toNat - index.toNat * size.toNat := by
  constructor
  · rintro ⟨p, hp⟩
    obtain ⟨hfits, rfl, rfl, rfl, rfl⟩ := ofParts_eq_ok.1 hp
    exact ⟨p.request.size_toNat_pos, hfits.size, hfits.count⟩
  · rintro ⟨hpos, hsize, hcount⟩
    let p : Page α := ⟨items, ⟨index, size, UInt32.lt_iff_toNat_lt.2 hpos⟩, count⟩
    exact ⟨p, Fits.ofParts_eq (p := p) ⟨hsize, hcount⟩⟩

/-! ## Reading the parts -/

/-- Members that have each part of a page once, and whatever else can be passed over. -/
structure Describes (f : Tree → Except Json.Fault α) (items : List α) (index size : UInt32)
    (count : UInt64) (ms : List (String × Tree)) : Prop where
  items : Holds ms "items" (Tree.asList f) items
  index : Holds ms "index" Tree.asUInt32 index
  size : Holds ms "size" Tree.asUInt32 size
  count : Holds ms "count" Tree.asUInt64 count
  others : ∀ m ∈ ms, m.1 ∉ ["items", "index", "size", "count"] → m.2.skip = .ok ()

/-- The parts that are not yet there are to come. -/
structure Pending (f : Tree → Except Json.Fault α) (items : List α) (index size : UInt32)
    (count : UInt64) (d : Draft α) (ms : List (String × Tree)) : Prop where
  items : Due ms "items" (Tree.asList f) items d.items
  index : Due ms "index" Tree.asUInt32 index d.index
  size : Due ms "size" Tree.asUInt32 size d.size
  count : Due ms "count" Tree.asUInt64 count d.count
  others : ∀ m ∈ ms, m.1 ∉ ["items", "index", "size", "count"] → m.2.skip = .ok ()

variable {f : Tree → Except Json.Fault α} {items : List α} {index size : UInt32} {count : UInt64}

/-- Members that have the parts to come fill a draft. -/
theorem Pending.fillMembers {ms : List (String × Tree)} {d : Draft α} {members : Members}
    (h : Pending f items index size count d ms) (hms : members.entries? = some ms) : ∃ stop,
    Tree.fillMembers Tree.skip (slots f) d members =
      .ok (⟨some items, some index, some size, some count⟩, stop) := by
  induction ms generalizing d members with
  | nil =>
    obtain ⟨stop, rfl⟩ := Members.entries?_eq_nil hms
    obtain ⟨items', index', size', count'⟩ := d
    obtain rfl : items' = some items := h.items.eq_some
    obtain rfl : index' = some index := h.index.eq_some
    obtain rfl : size' = some size := h.size.eq_some
    obtain rfl : count' = some count := h.count.eq_some
    exact ⟨stop, rfl⟩
  | cons m ms ih =>
    obtain ⟨n, v⟩ := m
    obtain ⟨name, start, settled, rest, rfl, hname, hrest⟩ := Members.entries?_eq_cons hms
    have hothers : ∀ m ∈ ms, m.1 ∉ ["items", "index", "size", "count"] → m.2.skip = .ok () :=
      fun m hm => h.others m (List.mem_cons_of_mem _ hm)
    -- a member is a part that is to come, and comes this once, or is passed over
    by_cases hitems : n = "items"
    · subst hitems
      obtain ⟨hnone, hread, hdue⟩ := h.items.take
      rw [Json.fillMembers_slot { d with items := some items } hname rfl (by simp [hnone])
        (by simp [hread])]
      exact ih ⟨hdue, h.index.of_ne (by decide), h.size.of_ne (by decide),
        h.count.of_ne (by decide), hothers⟩ hrest
    by_cases hindex : n = "index"
    · subst hindex
      obtain ⟨hnone, hread, hdue⟩ := h.index.take
      rw [Json.fillMembers_slot { d with index := some index } hname rfl (by simp [hnone])
        (by simp [hread])]
      exact ih ⟨h.items.of_ne (by decide), hdue, h.size.of_ne (by decide),
        h.count.of_ne (by decide), hothers⟩ hrest
    by_cases hsize : n = "size"
    · subst hsize
      obtain ⟨hnone, hread, hdue⟩ := h.size.take
      rw [Json.fillMembers_slot { d with size := some size } hname rfl (by simp [hnone])
        (by simp [hread])]
      exact ih ⟨h.items.of_ne (by decide), h.index.of_ne (by decide), hdue,
        h.count.of_ne (by decide), hothers⟩ hrest
    by_cases hcount : n = "count"
    · subst hcount
      obtain ⟨hnone, hread, hdue⟩ := h.count.take
      rw [Json.fillMembers_slot { d with count := some count } hname rfl (by simp [hnone])
        (by simp [hread])]
      exact ih ⟨h.items.of_ne (by decide), h.index.of_ne (by decide), h.size.of_ne (by decide),
        hdue, hothers⟩ hrest
    · have hslot : (slots f).find? (·.name == n) = none := by
        simp [slots, Ne.symm hitems, Ne.symm hindex, Ne.symm hsize, Ne.symm hcount]
      have hskip : v.skip = .ok () :=
        h.others _ List.mem_cons_self (by simp [hitems, hindex, hsize, hcount])
      rw [Json.fillMembers_other hname hslot hskip]
      exact ih ⟨h.items.of_ne hitems, h.index.of_ne hindex, h.size.of_ne hsize,
        h.count.of_ne hcount, hothers⟩ hrest

/-- An object is read as the page of its parts, whatever else it says. -/
theorem ofTree_object {ms : List (String × Tree)} {members : Members}
    (hms : members.entries? = some ms) (h : Describes f items index size count ms) (start : Nat) :
    ofTree f (.object start members) = (ofParts items index size count).mapError .page := by
  have hpending : Pending f items index size count {} ms :=
    ⟨h.items, h.index, h.size, h.count, h.others⟩
  obtain ⟨stop, hfill⟩ := hpending.fillMembers hms
  have hfields : Tree.asFields "RawPage" (slots f) {} (.object start members) =
      .ok ⟨some items, some index, some size, some count⟩ := by
    rw [Tree.asFields, hfill]
    rfl
  rw [ofTree, hfields]
  rfl

theorem fits_of_ofTree {t : Tree} {p : Page α} (h : ofTree f t = .ok p) : p.Fits := by
  obtain ⟨d, -, hpage⟩ := Except.bind_eq_ok.1 h
  exact (ofParts_eq_ok.1 (Except.mapError_eq_ok.1 hpage)).1

/-! ## Reading a written page -/

variable {enc : α → Json} {p : Page α}

/-- A tree that shows the document of a page has its parts. -/
theorem describes_of_shown (h : ∀ a ∈ p.items, Restores f (enc a) a) {t : Tree}
    (ht : Shown (p.toJson enc) (.ok ()) t) : ∃ start members ms, t = .object start members ∧
      members.entries? = some ms ∧
      Describes f p.items p.request.index p.request.size p.count ms := by
  cases ht with
  | @object _ _ start members hshown =>
    obtain ⟨ms, hms, hall⟩ := hshown.entries
    refine ⟨start, members, ms, rfl, hms, ?_⟩
    simp only [List.forall₂_cons_left_iff, List.forall₂_nil_left_iff] at hall
    obtain ⟨⟨_, items⟩, _, ⟨rfl, hitems⟩, ⟨⟨_, index⟩, _, ⟨rfl, hindex⟩,
      ⟨⟨_, size⟩, _, ⟨rfl, hsize⟩, ⟨⟨_, count⟩, _, ⟨rfl, hcount⟩,
      ⟨⟨_, pages⟩, _, ⟨rfl, hpages⟩, ⟨⟨_, previous⟩, _, ⟨rfl, hprevious⟩,
      ⟨⟨_, next⟩, _, ⟨rfl, hnext⟩, rfl, rfl⟩, rfl⟩, rfl⟩, rfl⟩, rfl⟩, rfl⟩, rfl⟩ := hall
    refine ⟨⟨items, by simp, Json.restores_asList h hitems⟩,
      ⟨index, by simp, Json.restores_asUInt32 _ hindex⟩,
      ⟨size, by simp, Json.restores_asUInt32 _ hsize⟩,
      ⟨count, by simp, Json.restores_asUInt64 _ hcount⟩, ?_⟩
    -- what else the document says are a number and two truth values
    cases hpages
    cases hprevious
    cases hnext
    simp [Tree.skip, pure, Except.pure]

/-- A page that fits is restored from its document. -/
theorem Fits.ofTree_eq (hp : p.Fits) (h : ∀ a ∈ p.items, Restores f (enc a) a) {t : Tree}
    (ht : Shown (p.toJson enc) (.ok ()) t) : ofTree f t = .ok p := by
  obtain ⟨start, members, ms, rfl, hms, hdescribes⟩ := describes_of_shown h ht
  rw [ofTree_object hms hdescribes, hp.ofParts_eq]
  rfl

/-! ## Texts of pages -/

theorem readable_toJson (h : ∀ a ∈ p.items, (enc a).Readable) : (p.toJson enc).Readable := by
  have hint {n : Nat} (hn : n < UInt64.size) : (Json.int n).Readable :=
    .number (Json.Number.readAs_nat hn)
  have hitems : (Json.array (p.items.map enc)).Readable := by
    refine .array fun j hj => ?_
    obtain ⟨a, ha, rfl⟩ := List.mem_map.1 hj
    exact h a ha
  refine .object fun m hm => ?_
  simp only [List.mem_cons, List.not_mem_nil, or_false] at hm
  rcases hm with rfl | rfl | rfl | rfl | rfl | rfl | rfl
  · exact hitems
  · exact hint (Nat.lt_trans p.request.index.toNat_lt (by decide))
  · exact hint (Nat.lt_trans p.request.size.toNat_lt (by decide))
  · exact hint p.count.toNat_lt
  · exact hint p.pages.toNat_lt
  · exact .bool _
  · exact .bool _

theorem nesting_toJson_le (h : ∀ a ∈ p.items, (enc a).nesting + 2 ≤ Json.maxNesting) :
    (p.toJson enc).nesting ≤ Json.maxNesting := by
  have hitems : Json.itemsNesting (p.items.map enc) ≤ Json.maxNesting - 2 := by
    refine Json.itemsNesting_le fun j hj => ?_
    obtain ⟨a, ha, rfl⟩ := List.mem_map.1 hj
    exact Nat.le_sub_of_add_le (h a ha)
  have hpage : (p.toJson enc).nesting = Json.itemsNesting (p.items.map enc) + 2 := by
    simp [toJson, Json.nesting, Json.membersNesting]
  rw [hpage]
  exact Nat.add_le_of_le_sub (by decide) hitems

/-- The page is read back from its document: from every tree that shows the document, and from the
text of the document if numbers in items are read as numbers and there is room for the items two
levels down. -/
structure ReadBack (enc : α → Json) (dec : Tree → Except Json.Fault α) (p : Page α) : Prop where
  tree : ∀ t, Shown (p.toJson enc) (.ok ()) t → ofTree dec t = .ok p
  text : (∀ a ∈ p.items, (enc a).Readable ∧ (enc a).nesting + 2 ≤ Json.maxNesting) →
    ofText dec (p.toJson enc).text = .ok p

theorem Fits.readBack (hp : p.Fits) (h : ∀ a ∈ p.items, Restores f (enc a) a) :
    ReadBack enc f p where
  tree _ ht := hp.ofTree_eq h ht
  text hitems := by
    have hreadable := readable_toJson fun a ha => (hitems a ha).1
    obtain ⟨hshown, htrailing⟩ :=
      hreadable.ofBytes_text.1 (nesting_toJson_le fun a ha => (hitems a ha).2)
    rw [ofText, Json.Document.readAs, hp.ofTree_eq h hshown, htrailing]
    rfl

/-- Given readers that restore items from their documents, the pages of a list are read back, also
with other items in the places of these. An object with the parts of a page is read exactly when the
size is not zero and the items are no more than the size and than what the count leaves from the
window on, and then the page has these parts. Whatever a page was read from, the number of windows
and what is before and behind it follow from its parts, and it is read back. -/
theorem wire_faithful {enc : α → Json} {dec : Tree → Except Json.Fault α} {enc' : β → Json}
    {dec' : Tree → Except Json.Fault β} (h : ∀ a, Restores dec (enc a) a)
    (h' : ∀ b, Restores dec' (enc' b) b) :
    (∀ (items : List α) (r : Request) (g : α → β), items.length < 2 ^ 64 →
      ReadBack enc dec (paginate items r) ∧ ReadBack enc' dec' ((paginate items r).map g)) ∧
    (∀ members ms items index size count start, members.entries? = some ms →
      Describes dec items index size count ms →
      ((∃ p, ofTree dec (.object start members) = .ok p) ↔ 1 ≤ size.toNat ∧
        items.length ≤ size.toNat ∧ items.length ≤ count.toNat - index.toNat * size.toNat) ∧
      ∀ p, ofTree dec (.object start members) = .ok p → p.items = items ∧
        p.request.index = index ∧ p.request.size = size ∧ p.count = count) ∧
    ∀ t p, ofTree dec t = .ok p →
      p.pages.toNat = p.count.toNat ⌈/⌉ p.request.size.toNat ∧
      (p.hasPrevious = true ↔ 0 < p.request.index.toNat) ∧
      (p.hasNext = true ↔ p.request.index.toNat + 1 < p.count.toNat ⌈/⌉ p.request.size.toNat) ∧
      ReadBack enc dec p := by
  refine ⟨fun items r g hlen => ?_, fun members ms items index size count start hms hparts => ?_,
    fun t p hp => ?_⟩
  · have hfits := fits_paginate hlen r
    exact ⟨hfits.readBack fun a _ => h a, (hfits.map g).readBack fun b _ => h' b⟩
  · have htree (p : Page α) : ofTree dec (.object start members) = .ok p ↔
        ofParts items index size count = .ok p := by
      rw [ofTree_object hms hparts, Except.mapError_eq_ok]
    simp only [htree]
    exact ⟨exists_ofParts_iff, fun p hp => (ofParts_eq_ok.1 hp).2⟩
  · refine ⟨p.toNat_pages, ?_, ?_, (fits_of_ofTree hp).readBack fun a _ => h a⟩
    · rw [hasPrevious, decide_eq_true_iff, UInt32.lt_iff_toNat_lt]
      rfl
    · rw [hasNext, decide_eq_true_iff, UInt64.lt_iff_toNat_lt, p.request.toNat_index_add_one,
        p.toNat_pages]

/-- Words and how long they are, on pages of two. -/
theorem wire_faithful_words :
    let words := paginate ["one", "two", "three"] ⟨1, 2, by decide⟩
    let length (s : String) : UInt32 := UInt32.ofNat s.length
    ofText Tree.asString (words.toJson Json.string).text = .ok words ∧
      ofText Tree.asUInt32 ((words.map length).toJson fun n => .int n.toNat).text =
        .ok (words.map length) := by
  intro words length
  obtain ⟨hback, -, -⟩ := wire_faithful Json.restores_asString Json.restores_asUInt32
  obtain ⟨hwords, hlengths⟩ := hback ["one", "two", "three"] ⟨1, 2, by decide⟩ length (by decide)
  have hroom : 0 + 2 ≤ Json.maxNesting := by decide
  refine ⟨hwords.text fun s _ => ⟨.string s, hroom⟩, hlengths.text fun n _ => ⟨?_, hroom⟩⟩
  exact .number (Json.Number.readAs_nat (Nat.lt_trans n.toNat_lt (by decide)))

end Page

end RecordQuery
