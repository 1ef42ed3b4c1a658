import Mathlib.Tactic.SplitIfs
import RecordQuery.Json.Printer

/-!
# Written documents

The text of a document without numbers determines the document (`Json.text_injective`). More is
true, and the proof needs it: wherever such a text stands, it also determines where it ends
(`Json.SelfDelimiting`). For texts between quotes this rests on `Json.unescape`, which reads one
escaped character back and nothing at the closing quote.

Numbers are left out: `1` may go on as `12`, and doubles that are no numbers are written `null`.
-/

namespace RecordQuery.Json

/-! ## Texts between quotes -/

/-- The characters of the short escapes, by the letter behind the backslash. -/
def shortEscapes : List (Char × Char) :=
  [('"', '"'), ('\\', '\\'), ('b', '\x08'), ('t', '\t'), ('n', '\n'), ('f', '\x0c'), ('r', '\r')]

/-- The value of a hexadecimal digit in lower case. -/
def hexDigit? (c : Char) : Option Nat := (List.range 16).find? fun d => Nat.digitChar d == c

/-- The first character of an escaped text and what follows it; none at the closing quote. -/
def unescape : List Char → Option (Char × List Char)
  | [] => none
  | '"' :: _ => none
  | '\\' :: 'u' :: '0' :: '0' :: a :: b :: cs => do
    return (Char.ofNat (16 * (← hexDigit? a) + (← hexDigit? b)), cs)
  | '\\' :: l :: cs => (shortEscapes.lookup l).map (·, cs)
  | c :: cs => some (c, cs)

theorem hexDigit?_digitChar : ∀ d < 16, hexDigit? (Nat.digitChar d) = some d := by decide

/-- Reading back undoes escaping. -/
theorem unescape_escape (c : Char) (cs : List Char) : unescape (escape c ++ cs) = some (c, cs) := by
  unfold escape
  split_ifs with h1 h2 h3 h4 h5 h6 h7 h8
  · subst h1; rfl
  · subst h2; rfl
  · subst h3; rfl
  · subst h4; rfl
  · subst h5; rfl
  · subst h6; rfl
  · subst h7; rfl
  · have hdiv := hexDigit?_digitChar (c.toNat / 16) (by omega)
    have hmod := hexDigit?_digitChar (c.toNat % 16) (by omega)
    simp [controlCode, unescape, hdiv, hmod, Nat.div_add_mod]
  · simp only [List.cons_append, List.nil_append]
    unfold unescape
    split <;> simp_all

theorem flatMap_escape_inj {cs ds rest rest' : List Char}
    (h : cs.flatMap escape ++ '"' :: rest = ds.flatMap escape ++ '"' :: rest') :
    cs = ds ∧ rest = rest' := by
  induction cs generalizing ds with
  | nil =>
    cases ds with
    | nil => simpa using h
    | cons d ds =>
      have := congrArg unescape h
      rw [List.flatMap_cons, List.append_assoc, unescape_escape] at this
      cases this
  | cons c cs ih =>
    cases ds with
    | nil =>
      have := congrArg unescape h
      rw [List.flatMap_cons, List.append_assoc, unescape_escape] at this
      cases this
    | cons d ds =>
      simp only [List.flatMap_cons, List.append_assoc] at h
      have := congrArg unescape h
      rw [unescape_escape, unescape_escape] at this
      simp only [Option.some.injEq, Prod.mk.injEq] at this
      obtain ⟨rfl, htail⟩ := this
      obtain ⟨rfl, hrest⟩ := ih htail
      exact ⟨rfl, hrest⟩

theorem toList_quote (s : String) :
    (quote s).toList = '"' :: (s.toList.flatMap escape ++ ['"']) := by
  simp [quote]

/-- A text between quotes determines the text and where it ends. -/
theorem quote_inj {s t : String} {rest rest' : List Char}
    (h : (quote s).toList ++ rest = (quote t).toList ++ rest') : s = t ∧ rest = rest' := by
  simp only [toList_quote, List.cons_append, List.append_assoc, List.cons.injEq, true_and,
    List.nil_append] at h
  obtain ⟨hst, hrest⟩ := flatMap_escape_inj h
  exact ⟨String.toList_inj.1 hst, hrest⟩

/-! ## Documents -/

/-- Documents in which no number stands. -/
inductive Numberless : Json → Prop
  | null : Numberless .null
  | bool (b : Bool) : Numberless (.bool b)
  | string (s : String) : Numberless (.string s)
  | array {items : List Json} : (∀ j ∈ items, Numberless j) → Numberless (.array items)
  | object {members : List (String × Json)} :
      (∀ m ∈ members, Numberless m.2) → Numberless (.object members)

/-- The text of a document, whatever follows it, determines the document and where it ends. -/
def SelfDelimiting (j : Json) : Prop :=
  ∀ {k : Json} {rest rest' : List Char}, k.Numberless →
    (text j).toList ++ rest = (text k).toList ++ rest' → j = k ∧ rest = rest'

theorem itemsText_inj {items : List Json} (hd : ∀ j ∈ items, j.SelfDelimiting) :
    ∀ {others : List Json} {rest rest' : List Char}, (∀ k ∈ others, k.Numberless) →
      (itemsText items).toList ++ ']' :: rest = (itemsText others).toList ++ ']' :: rest' →
      items = others ∧ rest = rest' := by
  induction items with
  | nil =>
    rintro (_ | ⟨k, ks⟩) rest rest' _ h
    · simpa [itemsText] using h
    · simp [itemsText] at h
  | cons j js ih =>
    rintro (_ | ⟨k, ks⟩) rest rest' hn h
    · simp [itemsText] at h
    · simp only [itemsText, String.toList_append, List.append_assoc] at h
      obtain ⟨rfl, htail⟩ := hd j List.mem_cons_self (hn k List.mem_cons_self)
        (List.append_cancel_left h)
      obtain ⟨rfl, hrest⟩ := ih (fun j hj => hd j (List.mem_cons_of_mem _ hj))
        (fun k hk => hn k (List.mem_cons_of_mem _ hk)) htail
      exact ⟨rfl, hrest⟩

theorem membersText_inj {members : List (String × Json)}
    (hd : ∀ m ∈ members, m.2.SelfDelimiting) :
    ∀ {others : List (String × Json)} {rest rest' : List Char}, (∀ m ∈ others, m.2.Numberless) →
      (membersText members).toList ++ '\x7d' :: rest =
        (membersText others).toList ++ '\x7d' :: rest' →
      members = others ∧ rest = rest' := by
  induction members with
  | nil =>
    rintro (_ | ⟨⟨name, k⟩, ks⟩) rest rest' _ h
    · simpa [membersText] using h
    · simp [membersText] at h
  | cons m ms ih =>
    obtain ⟨name, j⟩ := m
    rintro (_ | ⟨⟨name', k⟩, ks⟩) rest rest' hn h
    · simp [membersText] at h
    · simp only [membersText, String.toList_append, List.append_assoc] at h
      obtain ⟨rfl, hvalue⟩ := quote_inj (List.append_cancel_left h)
      obtain ⟨rfl, htail⟩ := hd _ List.mem_cons_self (hn _ List.mem_cons_self)
        (List.append_cancel_left hvalue)
      obtain ⟨rfl, hrest⟩ := ih (fun m hm => hd m (List.mem_cons_of_mem _ hm))
        (fun m hm => hn m (List.mem_cons_of_mem _ hm)) htail
      exact ⟨rfl, hrest⟩

/-- The character that the text of a document begins with, which gives away its constructor. -/
def lead : Json → Char
  | .null => 'n'
  | .bool b => if b then 't' else 'f'
  | .number _ => '0'
  | .string _ => '"'
  | .array _ => '['
  | .object _ => '\x7b'

theorem Numberless.head?_text {j : Json} (hj : j.Numberless) :
    (text j).toList.head? = some j.lead := by
  cases hj with
  | null => rfl
  | bool b => cases b <;> rfl
  | string s => simp [text, toList_quote, lead]
  | @array items _ => cases items <;> simp [text, lead]
  | @object members _ => cases members <;> simp [text, lead]

/-- No document begins where an array ends. -/
theorem text_append_ne {j : Json} (hj : j.Numberless) {rest rest' : List Char} :
    (text j).toList ++ rest ≠ ']' :: rest' := by
  intro h
  have := congrArg List.head? h
  rw [List.head?_append, hj.head?_text] at this
  cases j <;> grind [lead]

theorem lead_eq {j k : Json} (hj : j.Numberless) (hk : k.Numberless) {rest rest' : List Char}
    (h : (text j).toList ++ rest = (text k).toList ++ rest') : j.lead = k.lead := by
  have := congrArg List.head? h
  rw [List.head?_append, List.head?_append, hj.head?_text, hk.head?_text] at this
  simpa using this

theorem Numberless.selfDelimiting {j : Json} (hj : j.Numberless) : j.SelfDelimiting := by
  induction hj with
  | null =>
    intro k rest rest' hk h
    have hl := lead_eq .null hk h
    cases hk with
    | null => simpa using h
    | _ => grind [lead]
  | bool b =>
    intro k rest rest' hk h
    have hl := lead_eq (.bool b) hk h
    cases hk with
    | bool b' => cases b <;> cases b' <;> simp_all [lead, text]
    | _ => grind [lead]
  | string s =>
    intro k rest rest' hk h
    have hl := lead_eq (.string s) hk h
    cases hk with
    | string t =>
      obtain ⟨rfl, hrest⟩ := quote_inj (by simpa only [text] using h)
      exact ⟨rfl, hrest⟩
    | _ => grind [lead]
  | @array items hi ih =>
    intro k rest rest' hk h
    have hl := lead_eq (.array hi) hk h
    cases hk with
    | @array others ho =>
      have hinj (h : (itemsText items).toList ++ ']' :: rest =
          (itemsText others).toList ++ ']' :: rest') := itemsText_inj ih ho h
      cases items <;> cases others
      · simpa [text] using h
      · exact absurd (by simpa [text] using h.symm) (text_append_ne (ho _ List.mem_cons_self))
      · exact absurd (by simpa [text] using h) (text_append_ne (hi _ List.mem_cons_self))
      · obtain ⟨hitems, hrest⟩ := hinj (by simpa [text, itemsText] using h)
        exact ⟨congrArg _ hitems, hrest⟩
    | _ => grind [lead]
  | @object members hm ih =>
    intro k rest rest' hk h
    have hl := lead_eq (.object hm) hk h
    cases hk with
    | @object others ho =>
      have hinj (h : (membersText members).toList ++ '\x7d' :: rest =
          (membersText others).toList ++ '\x7d' :: rest') := membersText_inj ih ho h
      cases members <;> cases others
      · simpa [text] using h
      · simp [text, toList_quote] at h
      · simp [text, toList_quote] at h
      · obtain ⟨hmembers, hrest⟩ := hinj (by simpa [text, membersText] using h)
        exact ⟨congrArg _ hmembers, hrest⟩
    | _ => grind [lead]

/-- Documents without numbers are equal if their texts are. -/
theorem text_injective {j k : Json} (hj : j.Numberless) (hk : k.Numberless)
    (h : text j = text k) : j = k := by
  have htext : (text j).toList ++ [] = (text k).toList ++ [] := by rw [h]
  exact (hj.selfDelimiting hk htext).1

end RecordQuery.Json
