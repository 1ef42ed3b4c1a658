import RecordQuery.Proofs.Time.Reading
import RecordQuery.Value

/-!
# Reading values

`Value.Readable kind raw` says that a text can be read as a value of a kind. What is read is a value
of that kind (`Value.kind?_of_ofText?`). Any text is readable as a text, a day is readable as an
instant too, and blanks around a day, a timestamp or an identifier do not matter: what can be read
untrimmed can be read (`Value.readable_date`, `Value.readable_datetime`, `Value.readable_uuid`).
-/

namespace RecordQuery

/-! ## Identifiers -/

namespace Uuid

theorem isBlank_of_hexValue? {c : Char} {n : Nat} (h : hexValue? c = some n) :
    Text.isBlank c = false := by
  have hrange : ('0' ≤ c ∧ c ≤ '9') ∨ ('a' ≤ c ∧ c ≤ 'f') ∨ ('A' ≤ c ∧ c ≤ 'F') := by
    unfold hexValue? at h
    split at h
    · exact .inl ‹_›
    · split at h
      · exact .inr (.inl ‹_›)
      · split at h
        · exact .inr (.inr ‹_›)
        · cases h
  have hle : ∀ {a b : Char}, a ≤ b → a.toNat ≤ b.toNat := fun h => h
  refine Text.isBlank_of_visible ?_
  rcases hrange with ⟨h1, h2⟩ | ⟨h1, h2⟩ | ⟨h1, h2⟩ <;>
    exact ⟨Nat.le_trans (by decide) (hle h1), Nat.le_trans (hle h2) (by decide)⟩

theorem not_blank_of_mapM {cs : List Char} {ds : List Nat} (h : cs.mapM hexValue? = some ds) :
    ∀ c ∈ cs, Text.isBlank c = false := by
  induction cs generalizing ds with
  | nil => nofun
  | cons c cs ih =>
    simp only [List.mapM_cons, Option.bind_eq_bind, Option.bind_eq_some_iff] at h
    obtain ⟨d, hd, ds, hds, -⟩ := h
    exact List.forall_mem_cons.2 ⟨isBlank_of_hexValue? hd, ih hds⟩

theorem not_blank_of_ofDigits? {cs : List Char} {u : Uuid} (h : ofDigits? cs = some u) :
    ∀ c ∈ cs, Text.isBlank c = false := by
  unfold ofDigits? at h
  split at h
  · obtain ⟨ds, hds, -⟩ := Option.map_eq_some_iff.1 h
    exact not_blank_of_mapM hds
  · cases h

/-- A text in groups holds hyphens and its digits and nothing else. -/
theorem mem_of_ungroup? {ns : List Nat} {cs ds : List Char} (hne : ns ≠ [])
    (h : ungroup? ns cs = some ds) : ∀ c ∈ cs, c = '-' ∨ c ∈ ds := by
  fun_induction ungroup? ns cs generalizing ds with
  | case1 => exact absurd rfl hne
  | case2 =>
    cases h
    exact fun c hc => .inr hc
  | case3 => cases h
  | case4 n ns cs hns rest hrest ih =>
    obtain ⟨ds, hds, rfl⟩ := Option.map_eq_some_iff.1 h
    intro c hc
    rw [← List.take_append_drop n cs, hrest, List.mem_append, List.mem_cons] at hc
    rcases hc with hc | rfl | hc
    · exact .inr (List.mem_append_left _ hc)
    · exact .inl rfl
    · rcases ih (by simpa using hns) hds c hc with rfl | hc
      · exact .inl rfl
      · exact .inr (List.mem_append_right _ hc)
  | case5 => cases h

theorem not_blank_of_ofGroups? {cs : List Char} {u : Uuid} (h : ofGroups? cs = some u) :
    ∀ c ∈ cs, Text.isBlank c = false := by
  obtain ⟨ds, hds, hu⟩ := Option.bind_eq_some_iff.1 h
  intro c hc
  rcases mem_of_ungroup? (by decide) hds c hc with rfl | hc
  · decide
  · exact not_blank_of_ofDigits? hu c hc

/-- What stands around the groups is not blank. -/
theorem not_blank_of_unwrap {cs : List Char} (h : ∀ c ∈ unwrap cs, Text.isBlank c = false) :
    ∀ c ∈ cs, Text.isBlank c = false := by
  unfold unwrap at h
  split at h
  · next rest =>
    split at h
    · next hlast =>
      obtain ⟨inner, rfl⟩ := List.getLast?_eq_some_iff.1 hlast
      rw [List.dropLast_concat] at h
      intro c hc
      rw [List.mem_cons, List.mem_append, List.mem_singleton] at hc
      rcases hc with rfl | hc | rfl
      · decide
      · exact h c hc
      · decide
    · exact h
  · split at h
    · next hscheme =>
      intro c hc
      rw [← List.take_append_drop 9 cs, List.mem_append] at hc
      rcases hc with hc | hc
      · have hmem : c.toLower ∈ "urn:uuid:".toList := hscheme ▸ List.mem_map_of_mem hc
        have hvisible : "urn:uuid:".toList.all (! Text.isBlank ·) = true := by decide
        rw [← Text.isBlank_toLower, ← Bool.not_eq_true']
        exact List.all_eq_true.1 hvisible _ hmem
      · exact h c hc
    · exact h

/-- There is no blank in the text of an identifier. -/
theorem not_blank_of_ofText? {s : String} {u : Uuid} (h : ofText? s = some u) :
    ∀ c ∈ s.toList, Text.isBlank c = false := by
  unfold ofText? at h
  rcases Option.or_eq_some_iff.1 h with h | ⟨-, h⟩
  · exact not_blank_of_ofDigits? h
  · exact not_blank_of_unwrap (not_blank_of_ofGroups? h)

theorem ofText?_trim {s : String} {u : Uuid} (h : ofText? s = some u) :
    ofText? (Text.trim s) = some u := by
  have htrim : Text.trim s = s := by
    rw [← String.toList_inj, Text.toList_trim, Text.trimChars_eq_self (not_blank_of_ofText? h)]
  rw [htrim, h]

end Uuid

namespace Value

/-- What a text of a kind reads as is of that kind. -/
theorem kind?_of_ofText? {kind : Kind} {raw : String} {v : Value} (h : ofText? kind raw = some v) :
    v.kind? = some kind := by
  cases kind with
  | text =>
    cases h
    rfl
  | bool | int | float | date | datetime | uuid =>
    simp only [ofText?, Option.map_eq_some_iff] at h
    obtain ⟨_, -, rfl⟩ := h
    rfl

/-- Whether a text can be read as a value of a kind. -/
def Readable (kind : Kind) (raw : String) : Prop := ∃ v, ofText? kind raw = some v

theorem readable_text (raw : String) : Readable .text raw := ⟨_, rfl⟩

theorem readable_date {raw : String} (h : (Date.ofText? raw).isSome = true) :
    Readable .date raw := by
  obtain ⟨d, hd⟩ := Option.isSome_iff_exists.1 h
  exact ⟨.date d, by simp [ofText?, Date.ofText?_trim hd]⟩

/-- What reads as a day reads as an instant too: as its start, where nothing else is found. -/
theorem readable_datetime_of_date {raw : String} (h : Readable .date raw) :
    Readable .datetime raw := by
  obtain ⟨_, hv⟩ := h
  simp only [ofText?, Option.map_eq_some_iff] at hv
  obtain ⟨d, hd, -⟩ := hv
  simp only [Readable, ofText?, Instant.ofText?, hd]
  cases Instant.ofOffsetText? (Text.trim raw) with
  | some i => exact ⟨_, rfl⟩
  | none => cases Instant.ofLocalText? (Text.trim raw) <;> exact ⟨_, rfl⟩

theorem readable_datetime {raw : String} (h : (Instant.ofOffsetText? raw).isSome = true) :
    Readable .datetime raw := by
  obtain ⟨i, hi⟩ := Option.isSome_iff_exists.1 h
  exact ⟨.datetime i, by simp [ofText?, Instant.ofText?, Instant.ofOffsetText?_trim hi]⟩

theorem readable_uuid {raw : String} (h : (Uuid.ofText? raw).isSome = true) :
    Readable .uuid raw := by
  obtain ⟨u, hu⟩ := Option.isSome_iff_exists.1 h
  exact ⟨.uuid u, by simp [ofText?, Uuid.ofText?_trim hu]⟩

end Value

end RecordQuery
