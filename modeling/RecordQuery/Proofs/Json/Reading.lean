import RecordQuery.Proofs.Json.Number
import RecordQuery.Proofs.Json.Text

/-!
# Reading written documents

What reading makes of the text of a document whose numbers are read as numbers, wherever in a
document it stands (`Json.Readable.reads`). Where the arrays and objects of the document are nested
no deeper than there is room for, the tree shows the whole document and reading ends behind its text.
Otherwise the tree shows the document up to the first array or object for which there was no room.

* `Json.Readable`: documents whose numbers are read as numbers, those without numbers among them.
* `Json.nesting`: how deep arrays and objects are nested.
* `Json.Shown j outcome tree`: the tree shows the document as far as the outcome says, which is the
  fault of the value where the document breaks off, if it does. Offsets do not matter.
* `Json.ReadWithin`: the two ways in which reading comes out.
-/

namespace RecordQuery.Json

/-- Documents in which all numbers are read as numbers. -/
inductive Readable : Json → Prop
  | null : Readable .null
  | bool (b : Bool) : Readable (.bool b)
  | number {n m : Number} : n.ReadAs m → Readable (.number n)
  | string (s : String) : Readable (.string s)
  | array {items : List Json} : (∀ j ∈ items, Readable j) → Readable (.array items)
  | object {members : List (String × Json)} :
      (∀ m ∈ members, Readable m.2) → Readable (.object members)

theorem Numberless.readable {j : Json} (hj : j.Numberless) : j.Readable := by
  induction hj with
  | null => exact .null
  | bool b => exact .bool b
  | string s => exact .string s
  | array _ ih => exact .array ih
  | object _ ih => exact .object ih

/-! ## Nesting -/

mutual

/-- How deep arrays and objects are nested. -/
def nesting : Json → Nat
  | .array items => itemsNesting items + 1
  | .object members => membersNesting members + 1
  | _ => 0

/-- How deep arrays and objects are nested in items. -/
def itemsNesting : List Json → Nat
  | [] => 0
  | item :: items => max (nesting item) (itemsNesting items)

/-- How deep arrays and objects are nested in members. -/
def membersNesting : List (String × Json) → Nat
  | [] => 0
  | (_, value) :: members => max (nesting value) (membersNesting members)

end

theorem membersNesting_append (ms ns : List (String × Json)) :
    membersNesting (ms ++ ns) = max (membersNesting ms) (membersNesting ns) := by
  induction ms with
  | nil => exact (Nat.zero_max _).symm
  | cons m ms ih => rw [List.cons_append, membersNesting, membersNesting, ih, Nat.max_assoc]

theorem itemsNesting_le {js : List Json} {n : Nat} (h : ∀ j ∈ js, j.nesting ≤ n) :
    itemsNesting js ≤ n := by
  induction js with
  | nil => exact Nat.zero_le n
  | cons j js ih =>
    exact Nat.max_le.2 ⟨h j List.mem_cons_self, ih fun j hj => h j (List.mem_cons_of_mem _ hj)⟩

/-! ## Trees that show a document -/

mutual

/-- The tree shows the document, in full or up to a value that lies below the limit of nesting. -/
inductive Shown : Json → Except Fault Unit → Tree → Prop
  | null {stop : Nat} : Shown .null (.ok ()) (.null stop)
  | bool {b : Bool} {stop : Nat} : Shown (.bool b) (.ok ()) (.bool b stop)
  | number {n m : Number} {stop : Nat} :
      n.ReadAs m → Shown (.number n) (.ok ()) (.number m stop)
  | string {s : String} {stop : Nat} : Shown (.string s) (.ok ()) (.string s stop)
  | array {js : List Json} {outcome : Except Fault Unit} {start : Nat} {items : Items} :
      ItemsShown js outcome items → Shown (.array js) outcome (.array start items)
  | object {ms : List (String × Json)} {outcome : Except Fault Unit} {start : Nat}
      {members : Members} :
      MembersShown ms outcome members → Shown (.object ms) outcome (.object start members)
  | deepArray {js : List Json} {start : Nat} {skipping : Option Fault} :
      Shown (.array js) (.error (Tree.tooDeep start)) (.deep start false skipping)
  | deepObject {ms : List (String × Json)} {start : Nat} {skipping : Option Fault} :
      Shown (.object ms) (.error (Tree.tooDeep start)) (.deep start true skipping)

/-- The items show the documents. -/
inductive ItemsShown : List Json → Except Fault Unit → Items → Prop
  | done {stop : Nat} : ItemsShown [] (.ok ()) (.done stop)
  | item {j : Json} {js : List Json} {outcome : Except Fault Unit} {start : Nat} {value : Tree}
      {rest : Items} : Shown j (.ok ()) value → ItemsShown js outcome rest →
      ItemsShown (j :: js) outcome (.item start value rest)
  | broken {j : Json} {js : List Json} {f : Fault} {start : Nat} {value : Tree} {rest : Items} :
      Shown j (.error f) value → ItemsShown (j :: js) (.error f) (.item start value rest)

/-- The members show the documents under their names. -/
inductive MembersShown : List (String × Json) → Except Fault Unit → Members → Prop
  | done {stop : Nat} : MembersShown [] (.ok ()) (.done stop)
  | member {n : String} {j : Json} {ms : List (String × Json)} {outcome : Except Fault Unit}
      {name : Name} {start settled : Nat} {value : Tree} {rest : Members} :
      name.text = .ok n → Shown j (.ok ()) value → MembersShown ms outcome rest →
      MembersShown ((n, j) :: ms) outcome (.member name start value settled rest)
  | broken {n : String} {j : Json} {ms : List (String × Json)} {f : Fault}
      {name : Name} {start settled : Nat} {value : Tree} {rest : Members} :
      name.text = .ok n → Shown j (.error f) value →
      MembersShown ((n, j) :: ms) (.error f) (.member name start value settled rest)

end

/-! ## How reading comes out -/

/-- What was read shows something nested `depth` deep: in full and up to `rest` where there was room
for it, and otherwise up to a value for which there was none. -/
structure ReadWithin {τ : Type} (room depth : Nat) (shown : Except Fault Unit → τ → Prop)
    (rest : List UInt8) (p : τ × Option Cursor) : Prop where
  whole : depth ≤ room → shown (.ok ()) p.1 ∧ ∃ offset, p.2 = some ⟨rest, offset⟩
  broken : room < depth → ∃ start, shown (.error (Tree.tooDeep start)) p.1

section

variable {τ υ φ : Type} {shown : Except Fault Unit → τ → Prop}
  {shown' : Except Fault Unit → υ → Prop} {shown'' : Except Fault Unit → φ → Prop}
  {room depth depth' : Nat} {rest rest' : List UInt8}

theorem ReadWithin.scalar {t : τ} {offset : Nat} (h : shown (.ok ()) t) :
    ReadWithin room 0 shown rest (t, some ⟨rest, offset⟩) where
  whole := fun _ => ⟨h, offset, rfl⟩
  broken := fun hroom => absurd hroom (Nat.not_lt_zero _)

/-- What stands behind an opening bracket needs one level less. -/
theorem ReadWithin.inside {p : τ × Option Cursor} {wrap : τ → υ}
    (h : ReadWithin room depth shown rest p)
    (hwrap : ∀ {outcome t}, shown outcome t → shown' outcome (wrap t)) :
    ReadWithin (room + 1) (depth + 1) shown' rest (wrap p.1, p.2) where
  whole := fun hroom =>
    have ⟨hshown, hstop⟩ := h.whole (Nat.le_of_succ_le_succ hroom)
    ⟨hwrap hshown, hstop⟩
  broken := fun hroom =>
    have ⟨start, hshown⟩ := h.broken (Nat.lt_of_succ_lt_succ hroom)
    ⟨start, hwrap hshown⟩

/-- What follows a value is read where the value ends, and does not matter if the value breaks
off. -/
theorem ReadWithin.followed {value : τ} {after stop : Option Cursor} {t : υ} {u : φ}
    (hvalue : ReadWithin room depth shown rest' (value, after))
    (hnext : ∀ offset, after = some ⟨rest', offset⟩ → ReadWithin room depth' shown' rest (t, stop))
    (hjoin : ∀ {outcome}, shown (.ok ()) value → shown' outcome t → shown'' outcome u)
    (hbroken : ∀ {f}, shown (.error f) value → shown'' (.error f) u) :
    ReadWithin room (max depth depth') shown'' rest (u, stop) where
  whole := fun hroom => by
    obtain ⟨hshown, offset, hafter⟩ := hvalue.whole (by omega)
    obtain ⟨hshown', hstop⟩ := (hnext offset hafter).whole (by omega)
    exact ⟨hjoin hshown hshown', hstop⟩
  broken := fun hroom => by
    -- what breaks off is the value if that has no room, and otherwise what follows
    by_cases hfits : depth ≤ room
    · obtain ⟨hshown, offset, hafter⟩ := hvalue.whole hfits
      obtain ⟨start, hshown'⟩ := (hnext offset hafter).broken (by omega)
      exact ⟨start, hjoin hshown hshown'⟩
    · obtain ⟨start, hshown⟩ := hvalue.broken (by omega)
      exact ⟨start, hbroken hshown⟩

end

/-! ## Texts in bytes -/

theorem bytesOf_items (j : Json) (js : List Json) :
    bytesOf (text (.array (j :: js))) =
      0x5B :: (bytesOf (text j) ++ (bytesOf (itemsText js) ++ [0x5D])) := by
  simp only [text, bytesOf_append, List.append_assoc]
  rfl

theorem bytesOf_itemsText (j : Json) (js : List Json) :
    bytesOf (itemsText (j :: js)) = 0x2C :: (bytesOf (text j) ++ bytesOf (itemsText js)) := by
  simp only [itemsText, bytesOf_append, List.append_assoc]
  rfl

/-- The bytes of a name behind its opening quote, and of the colon. -/
def nameBytes (name : String) : List UInt8 :=
  charBytes (name.toList.flatMap escape) ++ [quoteByte, 0x3A]

theorem bytesOf_members (name : String) (j : Json) (ms : List (String × Json)) :
    bytesOf (text (.object ((name, j) :: ms))) =
      0x7B :: quoteByte :: (nameBytes name ++ (bytesOf (text j) ++
        (bytesOf (membersText ms) ++ [0x7D]))) := by
  simp only [text, bytesOf_append, bytesOf_quote, nameBytes, List.append_assoc, List.cons_append]
  rfl

theorem bytesOf_membersText (name : String) (j : Json) (ms : List (String × Json)) :
    bytesOf (membersText ((name, j) :: ms)) =
      0x2C :: quoteByte :: (nameBytes name ++ (bytesOf (text j) ++ bytesOf (membersText ms))) := by
  simp only [membersText, bytesOf_append, bytesOf_quote, nameBytes, List.append_assoc,
    List.cons_append]
  rfl

/-- The text of a document begins with a byte that is neither a blank nor a closing bracket. -/
theorem Readable.head_bytesOf_text {j : Json} (hj : j.Readable) : ∃ b bs,
    bytesOf (text j) = b :: bs ∧ isSpace b = false ∧ b ≠ 0x5D := by
  cases hj with
  | null => exact ⟨_, _, rfl, rfl, by decide⟩
  | bool b => cases b <;> exact ⟨_, _, rfl, rfl, by decide⟩
  | number h =>
    rw [text]
    exact h.head
  | string s => exact ⟨_, _, by rw [text, bytesOf_quote], rfl, by decide⟩
  | @array items _ =>
    cases items with
    | nil => exact ⟨_, _, rfl, rfl, by decide⟩
    | cons j js => exact ⟨_, _, bytesOf_items j js, rfl, by decide⟩
  | @object members _ =>
    cases members with
    | nil => exact ⟨_, _, rfl, rfl, by decide⟩
    | cons m ms => exact ⟨_, _, bytesOf_members m.1 m.2 ms, rfl, by decide⟩

/-! ## Steps of reading -/

section

variable {fuel room offset depth depth' : Nat} {b : UInt8} {bs rest rest' : List UInt8}

theorem skipSpace_cons (hb : isSpace b = false) :
    skipSpace (b :: bs) offset = ⟨b :: bs, offset⟩ := by
  simp [skipSpace, hb]

theorem settle_cons (hb : isSpace b = false) :
    Cursor.settle ⟨b :: bs, offset⟩ = ⟨b :: bs, offset⟩ :=
  skipSpace_cons hb

theorem readValue_string (s : String) : ∃ stop, readValue (fuel + 1) room
    ⟨bytesOf (quote s) ++ rest, offset⟩ = (.string s stop, some ⟨rest, stop⟩) := by
  obtain ⟨stop, hread⟩ := readString_quote s rest (offset + 1)
  refine ⟨stop, ?_⟩
  have hvalue : readValue (fuel + 1) room ⟨bytesOf (quote s) ++ rest, offset⟩ =
      stringTree ⟨charBytes (s.toList.flatMap escape) ++ quoteByte :: rest, offset + 1⟩ := by
    rw [bytesOf_quote, List.cons_append, List.append_assoc, readValue]
    rfl
  rw [hvalue, stringTree, hread]

/-- An array or object for which there is no room is passed over. -/
theorem readValue_deep {j : Json} (isObject : Bool)
    (h : ∀ skipping, Shown j (.error (Tree.tooDeep offset)) (.deep offset isObject skipping)) :
    ReadWithin 0 (depth + 1) (Shown j) rest
      (readValue (fuel + 1) 0 ⟨(if isObject then 0x7B else 0x5B) :: bs, offset⟩) := by
  -- the tree is deep whether or not passing over it meets a fault
  have hdeep : ∃ skipping, (deepTree isObject offset ⟨bs, offset + 1⟩).1 =
      .deep offset isObject skipping := by
    unfold deepTree
    cases skipNested isObject ⟨bs, offset + 1⟩ <;> exact ⟨_, rfl⟩
  have hvalue : readValue (fuel + 1) 0 ⟨(if isObject then 0x7B else 0x5B) :: bs, offset⟩ =
      deepTree isObject offset ⟨bs, offset + 1⟩ := by
    rw [readValue]
    cases isObject <;> rfl
  obtain ⟨skipping, hdeep⟩ := hdeep
  refine ⟨fun hroom => absurd hroom (Nat.not_succ_le_zero _), fun _ => ⟨offset, ?_⟩⟩
  rw [hvalue, hdeep]
  exact h skipping

theorem readValue_array {js : List Json}
    (h : ∀ {room}, ReadWithin room depth (ItemsShown js) rest
      (firstItem fuel room ⟨bs, offset + 1⟩)) :
    ReadWithin room (depth + 1) (Shown (.array js)) rest
      (readValue (fuel + 1) room ⟨0x5B :: bs, offset⟩) := by
  cases room with
  | zero => exact readValue_deep false fun _ => .deepArray
  | succ room =>
    have hvalue : readValue (fuel + 1) (room + 1) ⟨0x5B :: bs, offset⟩ =
        (.array offset (firstItem fuel room ⟨bs, offset + 1⟩).1,
          (firstItem fuel room ⟨bs, offset + 1⟩).2) := by
      rw [readValue]
      rfl
    rw [hvalue]
    exact h.inside .array

theorem readValue_object {ms : List (String × Json)}
    (h : ∀ {room}, ReadWithin room depth (MembersShown ms) rest
      (firstMember fuel room ⟨bs, offset + 1⟩)) :
    ReadWithin room (depth + 1) (Shown (.object ms)) rest
      (readValue (fuel + 1) room ⟨0x7B :: bs, offset⟩) := by
  cases room with
  | zero => exact readValue_deep true fun _ => .deepObject
  | succ room =>
    have hvalue : readValue (fuel + 1) (room + 1) ⟨0x7B :: bs, offset⟩ =
        (.object offset (firstMember fuel room ⟨bs, offset + 1⟩).1,
          (firstMember fuel room ⟨bs, offset + 1⟩).2) := by
      rw [readValue]
      rfl
    rw [hvalue]
    exact h.inside .object

/-- An item, and the items behind it. -/
theorem readItem_within {j : Json} {js : List Json} {c : Cursor}
    (hvalue : ReadWithin room depth (Shown j) rest' (readValue fuel room c))
    (hlater : ∀ {offset}, ReadWithin room depth' (ItemsShown js) rest
      (laterItems fuel room ⟨rest', offset⟩)) :
    ReadWithin room (max depth depth') (ItemsShown (j :: js)) rest
      (readItem (fuel + 1) room c) := by
  rw [readItem]
  rcases hp : readValue fuel room c with ⟨value, _ | after⟩ <;> rw [hp] at hvalue
  · exact hvalue.followed (by simp) .item .broken
  · exact hvalue.followed (fun _ hafter => Option.some.inj hafter ▸ hlater) .item .broken

/-- A member, and the members behind it. -/
theorem readMember_within {name : String} {j : Json} {ms : List (String × Json)}
    (hb : isSpace b = false)
    (hvalue : ∀ {offset}, ReadWithin room depth (Shown j) rest'
      (readValue fuel room ⟨b :: bs, offset⟩))
    (hlater : ∀ {offset}, ReadWithin room depth' (MembersShown ms) rest
      (laterMembers fuel room ⟨rest', offset⟩)) :
    ReadWithin room (max depth depth') (MembersShown ((name, j) :: ms)) rest
      (readMember (fuel + 1) room ⟨nameBytes name ++ b :: bs, offset⟩) := by
  obtain ⟨stop, hread⟩ := readString_quote name (0x3A :: b :: bs) offset
  have hskip := skipString_of_readString hread
  have hbytes : nameBytes name ++ b :: bs =
      charBytes (name.toList.flatMap escape) ++ quoteByte :: 0x3A :: b :: bs := by
    simp [nameBytes]
  rw [hbytes, readMember, hread, hskip]
  simp only [Functor.map, Except.map, settle_cons (b := 0x3A) rfl, skipSpace_cons hb, ne_eq,
    not_true_eq_false, if_false]
  -- the value is read behind the colon
  replace hvalue := @hvalue (stop + 1)
  rcases hp : readValue fuel room ⟨b :: bs, stop + 1⟩ with ⟨value, _ | after⟩ <;> rw [hp] at hvalue
  · exact hvalue.followed (by simp) (.member rfl) (.broken rfl)
  · exact hvalue.followed (fun _ hafter => Option.some.inj hafter ▸ hlater) (.member rfl)
      (.broken rfl)

theorem firstItem_eq (hspace : isSpace b = false) (hb : b ≠ 0x5D) :
    firstItem (fuel + 1) room ⟨b :: bs, offset⟩ = readItem fuel room ⟨b :: bs, offset⟩ := by
  rw [firstItem, settle_cons hspace]
  simp [hb]

theorem laterItems_eq (hspace : isSpace b = false) (hb : b ≠ 0x5D) :
    laterItems (fuel + 1) room ⟨0x2C :: b :: bs, offset⟩ =
      readItem fuel room ⟨b :: bs, offset + 1⟩ := by
  rw [laterItems, settle_cons rfl]
  simp [skipSpace_cons hspace, hb]

theorem firstMember_eq :
    firstMember (fuel + 1) room ⟨quoteByte :: bs, offset⟩ =
      readMember fuel room ⟨bs, offset + 1⟩ := by
  rw [firstMember, settle_cons rfl]
  rfl

theorem laterMembers_eq :
    laterMembers (fuel + 1) room ⟨0x2C :: quoteByte :: bs, offset⟩ =
      readMember fuel room ⟨bs, offset + 2⟩ := by
  rw [laterMembers, settle_cons rfl]
  rfl

end

/-! ## Runs of reading -/

/-- What reading makes of the text of a document inside another one, given fuel enough for it. Of
any three calls of the reader inside one another one takes a byte. -/
def Reads (j : Json) : Prop :=
  ∀ {fuel room offset : Nat} {rest : List UInt8}, Delimited rest →
    4 * (bytesOf (text j)).length ≤ fuel →
    ReadWithin room j.nesting (Shown j) rest
      (readValue fuel room ⟨bytesOf (text j) ++ rest, offset⟩)

section

variable {fuel room offset : Nat} {rest : List UInt8}

theorem delimited_itemsText (js : List Json) :
    Delimited (bytesOf (itemsText js) ++ 0x5D :: rest) := by
  cases js with
  | nil => exact delimited_cons (.inr (.inl rfl))
  | cons j js =>
    rw [bytesOf_itemsText]
    exact delimited_cons (.inl rfl)

theorem delimited_membersText (ms : List (String × Json)) :
    Delimited (bytesOf (membersText ms) ++ 0x7D :: rest) := by
  cases ms with
  | nil => exact delimited_cons (.inr (.inr rfl))
  | cons m ms =>
    rw [bytesOf_membersText]
    exact delimited_cons (.inl rfl)

/-- The items behind an item. -/
theorem reads_itemsText {js : List Json} (hn : ∀ j ∈ js, j.Readable) (hr : ∀ j ∈ js, j.Reads)
    (hfuel : 4 * (bytesOf (itemsText js)).length + 1 ≤ fuel) :
    ReadWithin room (itemsNesting js) (ItemsShown js) rest
      (laterItems fuel room ⟨bytesOf (itemsText js) ++ 0x5D :: rest, offset⟩) := by
  induction js generalizing fuel offset with
  | nil =>
    obtain ⟨fuel, rfl⟩ : ∃ n, fuel = n + 1 := ⟨fuel - 1, by omega⟩
    have hend : laterItems (fuel + 1) room ⟨0x5D :: rest, offset⟩ =
        (.done (offset + 1), some ⟨rest, offset + 1⟩) := by
      rw [laterItems, settle_cons rfl]
      rfl
    exact hend ▸ .scalar .done
  | cons j js ih =>
    obtain ⟨b, bs, hbytes, hspace, hb⟩ := (hn j List.mem_cons_self).head_bytesOf_text
    rw [bytesOf_itemsText] at hfuel ⊢
    simp only [List.length_cons, List.length_append] at hfuel
    -- the comma pays for the two calls that lead to the value and for the one behind it
    obtain ⟨fuel, rfl⟩ : ∃ n, fuel = n + 2 := ⟨fuel - 2, by omega⟩
    have hstep : laterItems (fuel + 2) room
        ⟨0x2C :: (bytesOf (text j) ++ bytesOf (itemsText js)) ++ 0x5D :: rest, offset⟩ =
          readItem (fuel + 1) room
            ⟨bytesOf (text j) ++ (bytesOf (itemsText js) ++ 0x5D :: rest), offset + 1⟩ := by
      rw [hbytes, List.cons_append, List.append_assoc, List.cons_append, laterItems_eq hspace hb]
    rw [hstep]
    exact readItem_within (hr j List.mem_cons_self (delimited_itemsText js) (by omega))
      (ih (fun k hk => hn k (List.mem_cons_of_mem _ hk))
        (fun k hk => hr k (List.mem_cons_of_mem _ hk)) (by omega))

/-- The members behind a member. -/
theorem reads_membersText {ms : List (String × Json)} (hn : ∀ m ∈ ms, m.2.Readable)
    (hr : ∀ m ∈ ms, m.2.Reads) (hfuel : 4 * (bytesOf (membersText ms)).length + 1 ≤ fuel) :
    ReadWithin room (membersNesting ms) (MembersShown ms) rest
      (laterMembers fuel room ⟨bytesOf (membersText ms) ++ 0x7D :: rest, offset⟩) := by
  induction ms generalizing fuel offset with
  | nil =>
    obtain ⟨fuel, rfl⟩ : ∃ n, fuel = n + 1 := ⟨fuel - 1, by omega⟩
    have hend : laterMembers (fuel + 1) room ⟨0x7D :: rest, offset⟩ =
        (.done (offset + 1), some ⟨rest, offset + 1⟩) := by
      rw [laterMembers, settle_cons rfl]
      rfl
    exact hend ▸ .scalar .done
  | cons m ms ih =>
    obtain ⟨name, j⟩ := m
    obtain ⟨b, bs, hbytes, hspace, -⟩ := (hn _ List.mem_cons_self).head_bytesOf_text
    rw [bytesOf_membersText] at hfuel ⊢
    simp only [List.length_cons, List.length_append] at hfuel
    obtain ⟨fuel, rfl⟩ : ∃ n, fuel = n + 2 := ⟨fuel - 2, by omega⟩
    have hstep : laterMembers (fuel + 2) room ⟨0x2C :: quoteByte ::
          (nameBytes name ++ (bytesOf (text j) ++ bytesOf (membersText ms))) ++ 0x7D :: rest,
            offset⟩ =
        readMember (fuel + 1) room ⟨nameBytes name ++
          (bytesOf (text j) ++ (bytesOf (membersText ms) ++ 0x7D :: rest)), offset + 2⟩ := by
      rw [List.cons_append, List.cons_append, laterMembers_eq, List.append_assoc, List.append_assoc]
    have hj : j.Reads := hr _ List.mem_cons_self
    have hvalue {offset} := @hj fuel room offset (bytesOf (membersText ms) ++ 0x7D :: rest)
      (delimited_membersText ms) (by omega)
    rw [hbytes, List.cons_append] at hstep hvalue
    rw [hbytes, List.cons_append, hstep]
    exact readMember_within hspace hvalue
      (ih (fun k hk => hn k (List.mem_cons_of_mem _ hk))
        (fun k hk => hr k (List.mem_cons_of_mem _ hk)) (by omega))

theorem reads_array {js : List Json} (hn : ∀ j ∈ js, j.Readable) (hr : ∀ j ∈ js, j.Reads) :
    Reads (.array js) := by
  intro fuel room offset rest _ hfuel
  cases js with
  | nil =>
    have hlength : (bytesOf (text (.array []))).length = 2 := rfl
    obtain ⟨fuel, rfl⟩ : ∃ n, fuel = n + 2 := ⟨fuel - 2, by omega⟩
    refine readValue_array fun {room} => ?_
    have hend : firstItem (fuel + 1) room ⟨0x5D :: rest, offset + 1⟩ =
        (.done (offset + 2), some ⟨rest, offset + 2⟩) := by
      rw [firstItem, settle_cons rfl]
      rfl
    exact hend ▸ .scalar .done
  | cons j js =>
    obtain ⟨b, bs, hbytes, hspace, hb⟩ := (hn j List.mem_cons_self).head_bytesOf_text
    rw [bytesOf_items] at hfuel ⊢
    simp only [List.length_cons, List.length_append] at hfuel
    obtain ⟨fuel, rfl⟩ : ∃ n, fuel = n + 3 := ⟨fuel - 3, by omega⟩
    simp only [List.cons_append, List.append_assoc, List.nil_append]
    refine readValue_array fun {room} => ?_
    have hstep : firstItem (fuel + 2) room
          ⟨bytesOf (text j) ++ (bytesOf (itemsText js) ++ 0x5D :: rest), offset + 1⟩ =
        readItem (fuel + 1) room
          ⟨bytesOf (text j) ++ (bytesOf (itemsText js) ++ 0x5D :: rest), offset + 1⟩ := by
      rw [hbytes, List.cons_append, firstItem_eq hspace hb]
    rw [hstep]
    exact readItem_within (hr j List.mem_cons_self (delimited_itemsText js) (by omega))
      (reads_itemsText (fun k hk => hn k (List.mem_cons_of_mem _ hk))
        (fun k hk => hr k (List.mem_cons_of_mem _ hk)) (by omega))

theorem reads_object {ms : List (String × Json)} (hn : ∀ m ∈ ms, m.2.Readable)
    (hr : ∀ m ∈ ms, m.2.Reads) : Reads (.object ms) := by
  intro fuel room offset rest _ hfuel
  cases ms with
  | nil =>
    have hlength : (bytesOf (text (.object []))).length = 2 := rfl
    obtain ⟨fuel, rfl⟩ : ∃ n, fuel = n + 2 := ⟨fuel - 2, by omega⟩
    refine readValue_object fun {room} => ?_
    have hend : firstMember (fuel + 1) room ⟨0x7D :: rest, offset + 1⟩ =
        (.done (offset + 2), some ⟨rest, offset + 2⟩) := by
      rw [firstMember, settle_cons rfl]
      rfl
    exact hend ▸ .scalar .done
  | cons m ms =>
    obtain ⟨name, j⟩ := m
    obtain ⟨b, bs, hbytes, hspace, -⟩ := (hn _ List.mem_cons_self).head_bytesOf_text
    have hj : j.Reads := hr _ List.mem_cons_self
    rw [bytesOf_members] at hfuel ⊢
    simp only [List.length_cons, List.length_append] at hfuel
    obtain ⟨fuel, rfl⟩ : ∃ n, fuel = n + 3 := ⟨fuel - 3, by omega⟩
    simp only [List.cons_append, List.append_assoc, List.nil_append]
    refine readValue_object fun {room} => ?_
    have hvalue {offset} := @hj fuel room offset (bytesOf (membersText ms) ++ 0x7D :: rest)
      (delimited_membersText ms) (by omega)
    rw [hbytes, List.cons_append] at hvalue
    rw [firstMember_eq, hbytes, List.cons_append]
    exact readMember_within hspace hvalue
      (reads_membersText (fun k hk => hn k (List.mem_cons_of_mem _ hk))
        (fun k hk => hr k (List.mem_cons_of_mem _ hk)) (by omega))

end

/-- The text of a document shows the document as far as there is room for it. -/
theorem Readable.reads {j : Json} (hj : j.Readable) : j.Reads := by
  induction hj with
  | null =>
    intro fuel room offset rest _ hfuel
    have hlength : (bytesOf (text .null)).length = 4 := rfl
    obtain ⟨fuel, rfl⟩ : ∃ n, fuel = n + 1 := ⟨fuel - 1, by omega⟩
    have hvalue : readValue (fuel + 1) room ⟨bytesOf (text .null) ++ rest, offset⟩ =
        (.null (offset + 4), some ⟨rest, offset + 4⟩) := by
      rw [readValue]
      rfl
    exact hvalue ▸ .scalar .null
  | bool b =>
    intro fuel room offset rest _ hfuel
    have hlength : 4 ≤ (bytesOf (text (.bool b))).length := by cases b <;> decide
    obtain ⟨fuel, rfl⟩ : ∃ n, fuel = n + 1 := ⟨fuel - 1, by omega⟩
    have hvalue : ∃ stop, readValue (fuel + 1) room ⟨bytesOf (text (.bool b)) ++ rest, offset⟩ =
        (.bool b stop, some ⟨rest, stop⟩) := by
      cases b
      · exact ⟨offset + 5, by rw [readValue]; rfl⟩
      · exact ⟨offset + 4, by rw [readValue]; rfl⟩
    obtain ⟨stop, hvalue⟩ := hvalue
    exact hvalue ▸ .scalar .bool
  | @number n m h =>
    intro fuel room offset rest hrest hfuel
    rw [text] at hfuel ⊢
    obtain ⟨b, bs, hbytes, -, -⟩ := h.head
    have hlength : 0 < (bytesOf n.text).length := by simp [hbytes]
    obtain ⟨fuel, rfl⟩ : ∃ n, fuel = n + 1 := ⟨fuel - 1, by omega⟩
    obtain ⟨stop, hvalue⟩ := @h.read fuel room offset rest hrest
    exact hvalue ▸ .scalar (.number h)
  | string s =>
    intro fuel room offset rest _ hfuel
    rw [text] at hfuel ⊢
    have hlength : 0 < (bytesOf (quote s)).length := by simp [bytesOf_quote]
    obtain ⟨fuel, rfl⟩ : ∃ n, fuel = n + 1 := ⟨fuel - 1, by omega⟩
    obtain ⟨stop, hvalue⟩ := @readValue_string fuel room offset rest s
    exact hvalue ▸ .scalar .string
  | array hn ih => exact reads_array hn ih
  | object hn ih => exact reads_object hn ih

end RecordQuery.Json
