import Mathlib.Tactic.SplitIfs
import RecordQuery.Json.Reader
import RecordQuery.Proofs.Except

/-!
# Reading written texts

`Json.readString` reads a text between quotes back, whatever follows it (`Json.readString_quote`).
A character that needs no escape is written as its own bytes, none of which is taken for a quote, a
backslash or a control character; the others are written as one of the escapes that
`Json.stringBytes` undoes.

What can be read can be passed over as well (`Json.skipString_of_readString`).
-/

namespace RecordQuery.Json

/-! ## Bytes of texts -/

/-- The bytes of characters. -/
def charBytes (cs : List Char) : List UInt8 := cs.flatMap String.utf8EncodeChar

theorem charBytes_append (cs ds : List Char) :
    charBytes (cs ++ ds) = charBytes cs ++ charBytes ds :=
  List.flatMap_append

theorem bytesOf_ofList (cs : List Char) : bytesOf (String.ofList cs) = charBytes cs := by
  simp [bytesOf, charBytes, List.utf8Encode, String.toUTF8]

theorem bytesOf_eq (s : String) : bytesOf s = charBytes s.toList := by
  rw [← bytesOf_ofList, String.ofList_toList]

theorem bytesOf_append (s t : String) : bytesOf (s ++ t) = bytesOf s ++ bytesOf t := by
  simp [bytesOf, String.toUTF8]

theorem ofBytes?_bytesOf (s : String) : Text.ofBytes? (bytesOf s) = some s := by
  have hbytes : (⟨(bytesOf s).toArray⟩ : ByteArray) = s.toByteArray := by
    simp [bytesOf, String.toUTF8]
  rw [Text.ofBytes?, hbytes, String.fromUTF8?, dif_pos s.isValidUTF8]
  rfl

/-- A character of the first 128 is a byte. -/
theorem utf8EncodeChar_ascii {c : Char} (h : c.toNat < 0x80) :
    String.utf8EncodeChar c = [UInt8.ofNat c.toNat] := by
  have hle : c.val.toNat ≤ 127 := Nat.le_of_lt_succ h
  simp only [String.utf8EncodeChar, if_pos hle]
  rfl

/-- The bytes of the other characters lie above those of the first 128. -/
theorem utf8EncodeChar_high {c : Char} (h : 0x80 ≤ c.toNat) {b : UInt8}
    (hb : b ∈ String.utf8EncodeChar c) : 0x80 ≤ b := by
  have hle : ¬ c.val.toNat ≤ 127 := Nat.not_le_of_lt h
  simp only [String.utf8EncodeChar, if_neg hle] at hb
  rw [UInt8.le_iff_toNat_le]
  split_ifs at hb <;> simp only [List.mem_cons, List.not_mem_nil, or_false] at hb <;>
    rcases hb with rfl | rfl | rfl | rfl <;> simp <;> omega

/-! ## Texts between quotes -/

section

variable {acc bs : List UInt8} {b : UInt8} {offset : Nat}

theorem stringBytes_plain (hquote : b ≠ quoteByte) (hslash : b ≠ backslash) (hb : ¬ b < 0x20) :
    stringBytes acc (b :: bs) offset = stringBytes (b :: acc) bs (offset + 1) := by
  rw [stringBytes.eq_def]
  simp [hquote, hslash, hb]

theorem stringBytes_letter {c : UInt8} (hletter : b ≠ lowerU) (hc : simpleEscape? b = some c) :
    stringBytes acc (backslash :: b :: bs) offset = stringBytes (c :: acc) bs (offset + 2) := by
  rw [stringBytes.eq_def]
  have hquote : backslash ≠ quoteByte := by decide
  simp [hquote, hletter, hc]

theorem stringBytes_code {h₁ h₂ h₃ h₄ : UInt8} {n : Nat} (hn : hex4? h₁ h₂ h₃ h₄ = some n)
    (hsmall : n < 0xD800) :
    stringBytes acc (backslash :: lowerU :: h₁ :: h₂ :: h₃ :: h₄ :: bs) offset =
      stringBytes (codeBytes n ++ acc) bs (offset + 6) := by
  rw [stringBytes.eq_def]
  have hquote : backslash ≠ quoteByte := by decide
  have htrailing : isTrailing n = false := by
    simp only [isTrailing, Bool.and_eq_false_iff, decide_eq_false_iff_not]
    omega
  have hleading : isLeading n = false := by
    simp only [isLeading, Bool.and_eq_false_iff, decide_eq_false_iff_not]
    omega
  simp [hquote, hn, htrailing, hleading]

/-- Bytes that need no escape stand for themselves. -/
theorem stringBytes_plains (ps : List UInt8)
    (h : ∀ b ∈ ps, b ≠ quoteByte ∧ b ≠ backslash ∧ ¬ b < 0x20) :
    stringBytes acc (ps ++ bs) offset =
      stringBytes (ps.reverse ++ acc) bs (offset + ps.length) := by
  induction ps generalizing acc offset with
  | nil => rfl
  | cons b ps ih =>
    obtain ⟨hquote, hslash, hb⟩ := h b List.mem_cons_self
    rw [List.cons_append, stringBytes_plain hquote hslash hb,
      ih fun b hb => h b (List.mem_cons_of_mem _ hb)]
    simp [Nat.add_comm, Nat.add_left_comm]

/-- The byte of a hexadecimal digit in lower case. -/
def hexByte (d : Nat) : UInt8 := UInt8.ofNat (Nat.digitChar d).toNat

theorem charBytes_digitChar : ∀ d < 16, charBytes [Nat.digitChar d] = [hexByte d] := by decide

theorem hexValue?_hexByte : ∀ d < 16, hexValue? (hexByte d) = some d := by decide

theorem charBytes_controlCode {c : Char} (hc : c.toNat < 0x20) :
    charBytes (controlCode c) = [0x30, 0x30, hexByte (c.toNat / 16), hexByte (c.toNat % 16)] := by
  have hcode : controlCode c =
      ['0', '0'] ++ [Nat.digitChar (c.toNat / 16)] ++ [Nat.digitChar (c.toNat % 16)] := rfl
  rw [hcode, charBytes_append, charBytes_append, charBytes_digitChar _ (by omega),
    charBytes_digitChar _ (by omega)]
  rfl

theorem hex4?_controlCode {n : Nat} (hn : n < 0x20) :
    hex4? 0x30 0x30 (hexByte (n / 16)) (hexByte (n % 16)) = some n := by
  have hzero : hexValue? 0x30 = some 0 := rfl
  simp [hex4?, hzero, hexValue?_hexByte (n / 16) (by omega), hexValue?_hexByte (n % 16) (by omega),
    Nat.div_add_mod']

/-- A character that is not escaped is written in bytes that stand for themselves. -/
theorem plain_of_mem_utf8EncodeChar {c : Char} (hquote : c ≠ '"') (hslash : c ≠ '\\')
    (hc : ¬ c.toNat < 0x20) (hb : b ∈ String.utf8EncodeChar c) :
    b ≠ quoteByte ∧ b ≠ backslash ∧ ¬ b < 0x20 := by
  by_cases hascii : c.toNat < 0x80
  · rw [utf8EncodeChar_ascii hascii, List.mem_singleton] at hb
    subst hb
    have hnat : (UInt8.ofNat c.toNat).toNat = c.toNat :=
      UInt8.toNat_ofNat_of_lt' (show c.toNat < 256 by omega)
    refine ⟨fun h => hquote ?_, fun h => hslash ?_, fun h => hc ?_⟩
    · exact Char.toNat_inj.1 (by rw [← hnat, h]; rfl)
    · exact Char.toNat_inj.1 (by rw [← hnat, h]; rfl)
    · rwa [UInt8.lt_iff_toNat_lt, hnat] at h
  · have hhigh := utf8EncodeChar_high (Nat.le_of_not_lt hascii) hb
    rw [UInt8.le_iff_toNat_le] at hhigh
    refine ⟨?_, ?_, ?_⟩
    · rintro rfl
      exact absurd hhigh (by decide)
    · rintro rfl
      exact absurd hhigh (by decide)
    · rw [UInt8.lt_iff_toNat_lt]
      exact Nat.not_lt_of_le (Nat.le_trans (by decide) hhigh)

/-- Reading undoes the escape of a character. -/
theorem stringBytes_escape (acc : List UInt8) (offset : Nat) (c : Char) : ∃ offset',
    stringBytes acc (charBytes (escape c) ++ bs) offset =
      stringBytes ((String.utf8EncodeChar c).reverse ++ acc) bs offset' := by
  unfold escape
  split_ifs with h1 h2 h3 h4 h5 h6 h7 h8
  · subst h1; exact ⟨_, stringBytes_letter (by decide) rfl⟩
  · subst h2; exact ⟨_, stringBytes_letter (by decide) rfl⟩
  · subst h3; exact ⟨_, stringBytes_letter (by decide) rfl⟩
  · subst h4; exact ⟨_, stringBytes_letter (by decide) rfl⟩
  · subst h5; exact ⟨_, stringBytes_letter (by decide) rfl⟩
  · subst h6; exact ⟨_, stringBytes_letter (by decide) rfl⟩
  · subst h7; exact ⟨_, stringBytes_letter (by decide) rfl⟩
  · have hbytes : charBytes ('\\' :: 'u' :: controlCode c) =
        [backslash, lowerU] ++ charBytes (controlCode c) := charBytes_append ['\\', 'u'] _
    have hcode : codeBytes c.toNat = (String.utf8EncodeChar c).reverse := by
      rw [codeBytes, Char.ofNat_toNat]
    rw [hbytes, charBytes_controlCode h8, ← hcode]
    exact ⟨_, stringBytes_code (hex4?_controlCode h8) (by omega)⟩
  · have hbytes : charBytes [c] = String.utf8EncodeChar c := List.flatMap_singleton ..
    rw [hbytes]
    exact ⟨_, stringBytes_plains _ fun b hb => plain_of_mem_utf8EncodeChar h1 h2 h8 hb⟩

theorem stringBytes_flatMap_escape (cs : List Char) {rest : List UInt8} : ∃ offset',
    stringBytes acc (charBytes (cs.flatMap escape) ++ quoteByte :: rest) offset =
      .ok (acc.reverse ++ charBytes cs, ⟨rest, offset'⟩) := by
  induction cs generalizing acc offset with
  | nil => exact ⟨offset + 1, by simp [charBytes, stringBytes.eq_def, pure, Except.pure]⟩
  | cons c cs ih =>
    rw [List.flatMap_cons, charBytes_append, List.append_assoc]
    obtain ⟨next, hnext⟩ := stringBytes_escape acc offset c
    rw [hnext]
    obtain ⟨offset', hrest⟩ := @ih ((String.utf8EncodeChar c).reverse ++ acc) next
    exact ⟨offset', by rw [hrest]; simp [charBytes]⟩

end

theorem bytesOf_quote (s : String) : bytesOf (quote s) =
    quoteByte :: (charBytes (s.toList.flatMap escape) ++ [quoteByte]) := by
  rw [quote, bytesOf_ofList, List.cons_append, ← List.singleton_append, charBytes_append,
    charBytes_append]
  rfl

/-- A text between quotes is read back, whatever follows it. -/
theorem readString_quote (s : String) (rest : List UInt8) (offset : Nat) : ∃ offset',
    readString ⟨charBytes (s.toList.flatMap escape) ++ quoteByte :: rest, offset⟩ =
      .ok (s, ⟨rest, offset'⟩) := by
  obtain ⟨offset', h⟩ :=
    @stringBytes_flatMap_escape [] offset s.toList rest
  refine ⟨offset', ?_⟩
  rw [List.reverse_nil, List.nil_append, ← bytesOf_eq] at h
  simp [readString, h, ofBytes?_bytesOf, bind, Except.bind, pure, Except.pure]

/-! ## Passing over -/

theorem skipStringBytes_of_stringBytes {acc bs bytes : List UInt8} {offset : Nat} {c : Cursor}
    (h : stringBytes acc bs offset = .ok (bytes, c)) : skipStringBytes bs offset = .ok c := by
  -- the runs that end in a text do so at a quote, behind an escape, or behind a byte for itself
  fun_induction stringBytes with
  | case2 =>
    cases h
    rw [skipStringBytes.eq_def]
    rfl
  | case16 _ offset e bs hletter l hl hquote ih =>
    rw [skipStringBytes.eq_def, ← ih h]
    simp [hquote, hletter, hl]
  | case19 _ b bs offset hquote hslash hb ih =>
    rw [skipStringBytes.eq_def, ← ih h]
    simp [hquote, hslash, hb]
  | _ => simp_all [skipStringBytes]

/-- Where a text is read, passing over it ends at the same place. -/
theorem skipString_of_readString {s : String} {c after : Cursor}
    (h : readString c = .ok (s, after)) : skipString c = .ok after := by
  unfold readString at h
  obtain ⟨⟨bytes, c'⟩, hbytes, hs⟩ := Except.bind_eq_ok.1 h
  dsimp only at hs
  split at hs
  · cases hs
    exact skipStringBytes_of_stringBytes hbytes
  · cases hs

end RecordQuery.Json
