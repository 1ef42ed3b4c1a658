import RecordQuery.Json.Decoder
import RecordQuery.Proofs.Json.Reading

/-!
# Decoding written documents

A reader of some form decodes a document to a value (`Json.Decodes`) if it makes the value of every
tree that shows the document in full and fails with the fault at which the others break off. The
readers of options and lists decode what the readers of their values do, and a reader of members
decodes them if it puts each into what it has, one after the other (`Json.DecodesMembers.cons`).

The text of a document that is decoded to a value is read as that value, unless its arrays and
objects are nested too deep (`Json.Decodes.readText`).
-/

namespace RecordQuery.Json

/-- The reader makes the value of the document, and fails where the document breaks off. -/
def Decodes {α : Type} (f : Tree → Except Fault α) (j : Json) (a : α) : Prop :=
  ∀ ⦃outcome : Except Fault Unit⦄ ⦃t : Tree⦄, Shown j outcome t → f t = (fun _ => a) <$> outcome

/-! ## Whole texts -/

/-- The text of a document is read as a tree that shows it, with nothing behind it, given room for its
nesting. -/
theorem Readable.ofBytes_text {j : Json} (hj : j.Readable) :
    let d := Document.ofBytes (bytesOf (text j))
    (j.nesting ≤ maxNesting → Shown j (.ok ()) d.tree ∧ d.trailing = none) ∧
    (maxNesting < j.nesting → ∃ start, Shown j (.error (Tree.tooDeep start)) d.tree) := by
  have hread : ReadWithin maxNesting j.nesting (Shown j) []
      (readValue (4 * (bytesOf (text j)).length + 4) maxNesting ⟨bytesOf (text j), 0⟩) := by
    have h : ReadWithin maxNesting j.nesting (Shown j) [] (readValue _ maxNesting
        ⟨bytesOf (text j) ++ [], 0⟩) := hj.reads delimited_nil (Nat.le_add_right _ 4)
    rwa [List.append_nil] at h
  rw [Document.ofBytes]
  generalize readValue (4 * (bytesOf (text j)).length + 4) maxNesting ⟨bytesOf (text j), 0⟩ = p
    at hread ⊢
  obtain ⟨t, after⟩ := p
  refine ⟨fun hroom => ?_, fun hroom => ?_⟩
  · obtain ⟨hshown, offset, hafter⟩ := hread.whole hroom
    obtain rfl : after = some ⟨[], offset⟩ := hafter
    exact ⟨hshown, rfl⟩
  · obtain ⟨start, hshown⟩ := hread.broken hroom
    cases after <;> exact ⟨start, hshown⟩

/-- The text of a document is read as what it is decoded to, given room for its nesting. -/
theorem Decodes.readText {α : Type} {f : Tree → Except Fault α} {j : Json} {a : α}
    (hj : j.Numberless) (hf : Decodes f j a) :
    (j.nesting ≤ maxNesting → readText f (text j) = .ok a) ∧
    (maxNesting < j.nesting → ∃ start, readText f (text j) = .error (Tree.tooDeep start)) := by
  obtain ⟨hwhole, hbroken⟩ := hj.readable.ofBytes_text
  rw [Json.readText, readBytes, Document.read, Document.readAs]
  -- a fault of the tree comes before one of what stands behind it
  refine ⟨fun hroom => ?_, fun hroom => ?_⟩
  · obtain ⟨hshown, htrailing⟩ := hwhole hroom
    rw [hf hshown, htrailing]
    rfl
  · obtain ⟨start, hshown⟩ := hbroken hroom
    refine ⟨start, ?_⟩
    rw [hf hshown]
    rfl

/-! ## Options and lists -/

variable {α : Type} {f : Tree → Except Fault α}

theorem Decodes.asOption {j : Json} {a : α} (h : Decodes f j a) (hj : j ≠ .null) :
    Decodes (Tree.asOption f) j (some a) := by
  intro outcome t hshown
  have hsome : Tree.asOption f t = some <$> f t := by
    cases hshown with
    | null => exact absurd rfl hj
    | _ => rfl
  rw [hsome, h hshown]
  cases outcome <;> rfl

theorem decodes_readItems {enc : α → Json} {as : List α} (h : ∀ a ∈ as, Decodes f (enc a) a)
    {outcome : Except Fault Unit} {items : Items} (hshown : ItemsShown (as.map enc) outcome items) :
    Tree.readItems f items = (fun _ => as) <$> outcome := by
  induction as generalizing items with
  | nil =>
    cases hshown
    rfl
  | cons a as ih =>
    have ha := h a List.mem_cons_self
    cases hshown with
    | item hvalue hrest =>
      rw [Tree.readItems, ha hvalue, ih (fun a h' => h a (List.mem_cons_of_mem _ h')) hrest]
      cases outcome <;> rfl
    | broken hvalue =>
      rw [Tree.readItems, ha hvalue]
      rfl

theorem decodes_asList {enc : α → Json} {as : List α} (h : ∀ a ∈ as, Decodes f (enc a) a) :
    Decodes (Tree.asList f) (.array (as.map enc)) as := by
  intro outcome t hshown
  cases hshown with
  | array hitems => exact decodes_readItems h hitems
  | deepArray => rfl

/-! ## Members -/

section

variable {σ τ : Type} {read : σ → Members → Except Fault τ} {n : String} {j : Json}
  {ms : List (String × Json)} {s : σ} {r : τ}

/-- The reader of members puts a member into what it has, and fails where the member breaks off. -/
def Puts (read : σ → Members → Except Fault τ) (n : String) (j : Json) (put : σ → σ) : Prop :=
  ∀ ⦃s : σ⦄ ⦃name : Name⦄ ⦃start settled : Nat⦄ ⦃outcome : Except Fault Unit⦄ ⦃value : Tree⦄
    ⦃rest : Members⦄, name.text = .ok n → Shown j outcome value →
    read s (.member name start value settled rest) = outcome >>= fun _ => read (put s) rest

/-- A reader of members that reads the value of a member puts in what the value is decoded to. -/
theorem Puts.of_decodes {α : Type} {f : Tree → Except Fault α} {a : α} (put : α → σ → σ)
    (hf : Decodes f j a)
    (hread : ∀ s name start value settled rest, name.text = .ok n →
      read s (.member name start value settled rest) = f value >>= fun a => read (put a s) rest) :
    Puts read n j (put a) := by
  intro s name start settled outcome value rest hname hvalue
  rw [hread s name start value settled rest hname, hf hvalue]
  cases outcome <;> rfl

/-- The reader of members makes the result of the members and what it has. -/
def DecodesMembers (read : σ → Members → Except Fault τ) (ms : List (String × Json)) (s : σ)
    (r : τ) : Prop :=
  ∀ ⦃outcome : Except Fault Unit⦄ ⦃members : Members⦄, MembersShown ms outcome members →
    read s members = (fun _ => r) <$> outcome

theorem DecodesMembers.nil (h : ∀ stop, read s (.done stop) = .ok r) :
    DecodesMembers read [] s r := by
  rintro _ _ ⟨⟩
  exact h _

theorem DecodesMembers.cons {put : σ → σ} (hput : Puts read n j put)
    (h : DecodesMembers read ms (put s) r) : DecodesMembers read ((n, j) :: ms) s r := by
  intro outcome members hshown
  cases hshown with
  | member hname hvalue hrest => exact (hput hname hvalue).trans (h hrest)
  | broken hname hvalue => exact hput hname hvalue

end

end RecordQuery.Json
