import Mathlib.Data.List.Forall2
import RecordQuery.Proofs.Json.Decoding

/-!
# Restoring written values

A reader restores a value from a document if it makes the value of every tree that shows the
document in full (`Json.Restores`). Other than `Json.Decodes` this says nothing about documents that
break off.

A structure with a fixed set of fields is read from an object in which each field comes once, among
any other members (`Json.Holds`). While the members are read, a field is either there or still to
come (`Json.Due`).
-/

namespace RecordQuery.Json

variable {α : Type} {f : Tree → Except Fault α}

/-! ## Restoring -/

/-- The reader makes the value of every tree that shows the document in full. -/
def Restores {α : Type} (f : Tree → Except Fault α) (j : Json) (a : α) : Prop :=
  ∀ ⦃t : Tree⦄, Shown j (.ok ()) t → f t = .ok a

theorem restores_asString (s : String) : Restores Tree.asString (.string s) s := by
  intro t ht
  cases ht
  rfl

theorem restores_asNatural {bound n : Nat} (form : String) (hn : n < bound)
    (hread : n < UInt64.size) : Restores (Tree.asNatural bound form) (.int n) n := by
  intro t ht
  cases ht with
  | number h =>
    obtain rfl := h.unique (Number.readAs_nat hread)
    simp [Tree.asNatural, hn, pure, Except.pure]

theorem restores_asUInt32 (n : UInt32) : Restores Tree.asUInt32 (.int n.toNat) n := by
  intro t ht
  have hn : n.toNat < UInt32.size := n.toNat_lt
  rw [Tree.asUInt32, restores_asNatural "u32" hn (Nat.lt_trans hn (by decide)) ht]
  exact congrArg Except.ok UInt32.ofNat_toNat

theorem restores_asUInt64 (n : UInt64) : Restores Tree.asUInt64 (.int n.toNat) n := by
  intro t ht
  have hn : n.toNat < UInt64.size := n.toNat_lt
  rw [Tree.asUInt64, restores_asNatural "u64" hn hn ht]
  exact congrArg Except.ok UInt64.ofNat_toNat

theorem restores_asList {enc : α → Json} {as : List α} (h : ∀ a ∈ as, Restores f (enc a) a) :
    Restores (Tree.asList f) (.array (as.map enc)) as := by
  have hitems {as : List α} (h : ∀ a ∈ as, Restores f (enc a) a) {items : Items}
      (hshown : ItemsShown (as.map enc) (.ok ()) items) : Tree.readItems f items = .ok as := by
    induction as generalizing items with
    | nil =>
      cases hshown
      rfl
    | cons a as ih =>
      cases hshown with
      | item hvalue hrest =>
        rw [Tree.readItems, h a List.mem_cons_self hvalue,
          ih (fun a h' => h a (List.mem_cons_of_mem _ h')) hrest]
        rfl
  intro t ht
  cases ht with
  | array hshown => exact hitems h hshown

/-! ## Structures -/

/-- The members with their names, if all of them can be told apart. -/
def Members.entries? : Members → Option (List (String × Tree))
  | .done _ => some []
  | .member name _ value _ rest =>
    match name.text, entries? rest with
    | .ok n, some ms => some ((n, value) :: ms)
    | _, _ => none
  | .fault _ _ => none

theorem Members.entries?_eq_nil {members : Members} (h : members.entries? = some []) :
    ∃ stop, members = .done stop := by
  cases members with
  | done stop => exact ⟨stop, rfl⟩
  | member name start value settled rest =>
    rw [entries?] at h
    split at h <;> cases h
  | fault reading skipping => cases h

theorem Members.entries?_eq_cons {members : Members} {n : String} {v : Tree}
    {ms : List (String × Tree)} (h : members.entries? = some ((n, v) :: ms)) :
    ∃ name start settled rest, members = .member name start v settled rest ∧ name.text = .ok n ∧
      rest.entries? = some ms := by
  cases members with
  | done stop => cases h
  | member name start value settled rest =>
    rw [entries?] at h
    split at h <;> cases h
    next hname hrest => exact ⟨name, start, settled, rest, rfl, hname, hrest⟩
  | fault reading skipping => cases h

/-- Members that show a document in full have its names and show its values. -/
theorem MembersShown.entries {ms : List (String × Json)} {members : Members}
    (h : MembersShown ms (.ok ()) members) : ∃ es, members.entries? = some es ∧
      List.Forall₂ (fun m e => e.1 = m.1 ∧ Shown m.2 (.ok ()) e.2) ms es := by
  induction ms generalizing members with
  | nil =>
    cases h
    exact ⟨[], rfl, .nil⟩
  | cons m ms ih =>
    cases h with
    | @member n _ _ _ _ _ _ value _ hname hvalue hrest =>
      obtain ⟨es, hes, hall⟩ := ih hrest
      refine ⟨(n, value) :: es, ?_, .cons ⟨rfl, hvalue⟩ hall⟩
      rw [Members.entries?, hname, hes]

/-- One member of the name, from which the reader makes the value. -/
def Holds (ms : List (String × Tree)) (name : String) (read : Tree → Except Fault α) (a : α) :
    Prop :=
  ∃ v, ms.filter (·.1 = name) = [(name, v)] ∧ read v = .ok a

/-- The field has its value and no member of its name is to come, or one is to come and has it. -/
def Due (ms : List (String × Tree)) (name : String) (read : Tree → Except Fault α) (a : α) :
    Option α → Prop
  | some b => b = a ∧ ∀ m ∈ ms, m.1 ≠ name
  | none => Holds ms name read a

section

variable {ms : List (String × Tree)} {n name : String} {v : Tree} {read : Tree → Except Fault α}
  {a : α} {field : Option α}

theorem Due.of_ne (h : Due ((n, v) :: ms) name read a field) (hn : n ≠ name) :
    Due ms name read a field := by
  cases field with
  | some b => exact ⟨h.1, fun m hm => h.2 m (List.mem_cons_of_mem _ hm)⟩
  | none =>
    obtain ⟨w, hfilter, hw⟩ := h
    rw [List.filter_cons_of_neg (by simpa using hn)] at hfilter
    exact ⟨w, hfilter, hw⟩

theorem Due.take (h : Due ((name, v) :: ms) name read a field) :
    field = none ∧ read v = .ok a ∧ Due ms name read a (some a) := by
  cases field with
  | some b => exact absurd rfl (h.2 _ List.mem_cons_self)
  | none =>
    obtain ⟨w, hfilter, hw⟩ := h
    rw [List.filter_cons_of_pos (by simp), List.cons.injEq, Prod.mk.injEq] at hfilter
    obtain ⟨⟨-, rfl⟩, hrest⟩ := hfilter
    exact ⟨rfl, hw, rfl, by simpa using List.filter_eq_nil_iff.1 hrest⟩

theorem Due.eq_some (h : Due [] name read a field) : field = some a := by
  cases field with
  | some b => exact congrArg some h.1
  | none =>
    obtain ⟨w, hfilter, -⟩ := h
    cases hfilter

end

section

variable {σ : Type} {other : Tree → Except Fault Unit} {slots : List (Tree.Slot σ)} {s : σ}
  {slot : Tree.Slot σ} {n : String} {name : Name} {start settled : Nat} {value : Tree}
  {rest : Members}

theorem fillMembers_slot (s' : σ) (hname : name.text = .ok n)
    (hslot : slots.find? (·.name == n) = some slot) (hfilled : slot.isFilled s = false)
    (hfill : slot.fill value s = .ok s') :
    Tree.fillMembers other slots s (.member name start value settled rest) =
      Tree.fillMembers other slots s' rest := by
  rw [Tree.fillMembers, hname]
  show (pure n >>= _) = _
  rw [pure_bind, hslot]
  simp only [hfilled, Bool.false_eq_true, if_false, hfill]
  rfl

theorem fillMembers_other (hname : name.text = .ok n) (hslot : slots.find? (·.name == n) = none)
    (hother : other value = .ok ()) :
    Tree.fillMembers other slots s (.member name start value settled rest) =
      Tree.fillMembers other slots s rest := by
  rw [Tree.fillMembers, hname]
  show (pure n >>= _) = _
  rw [pure_bind, hslot, hother]
  rfl

end

end RecordQuery.Json
