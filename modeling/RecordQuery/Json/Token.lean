import RecordQuery.Json.Fault
import RecordQuery.Text.Utf8

/-!
# Tokens of JSON texts

A `Json.Cursor` is a place in the bytes of a text. Words, numbers and texts are read from a cursor
by `readWord`, `readNumber` and `readString`, and passed over by `readWord`, `skipNumber` and
`skipString`.

The significand of a number is kept in 64 bits: digits that no longer fit are dropped, those
before the point raising the exponent. A number with a point or an exponent is its significand,
rounded to a double, times or divided by a power of ten, each step rounded (`scaled?`), so it is
not always the nearest double.
-/

namespace RecordQuery.Json

/-- The bytes not yet read and how many have been read. -/
structure Cursor where
  rest : List UInt8
  offset : Nat

namespace Cursor

/-- The offset behind the next byte, or here at the end of the text. -/
def peeked (c : Cursor) : Nat := if c.rest.isEmpty then c.offset else c.offset + 1

end Cursor

/-! ## Bytes -/

def quoteByte : UInt8 := 0x22
def backslash : UInt8 := 0x5C
def lowerU : UInt8 := 0x75

def isDigitByte (b : UInt8) : Bool := 0x30 ≤ b && b ≤ 0x39

/-- The value of a digit. -/
def digitValue (b : UInt8) : Nat := b.toNat - 0x30

def isSpace (b : UInt8) : Bool := b == 0x20 || b == 0x0A || b == 0x09 || b == 0x0D

/-- The cursor behind the blanks. -/
def skipSpace : List UInt8 → Nat → Cursor
  | [], offset => ⟨[], offset⟩
  | b :: bs, offset => if isSpace b then skipSpace bs (offset + 1) else ⟨b :: bs, offset⟩

/-- The cursor behind the blanks. -/
def Cursor.settle (c : Cursor) : Cursor := skipSpace c.rest c.offset

/-- The cursor behind the digits. -/
def skipDigits : List UInt8 → Nat → Cursor
  | [], offset => ⟨[], offset⟩
  | b :: bs, offset => if isDigitByte b then skipDigits bs (offset + 1) else ⟨b :: bs, offset⟩

/-! ## Words -/

/-- The cursor behind the bytes of a word. -/
def readWord : List UInt8 → List UInt8 → Nat → Except Fault Cursor
  | [], bs, offset => pure ⟨bs, offset⟩
  | _ :: _, [], offset => throw ⟨.endInValue, offset⟩
  | w :: ws, b :: bs, offset =>
    if b = w then readWord ws bs (offset + 1) else throw ⟨.expectedWord, offset + 1⟩

/-! ## Numbers -/

/-- Whether a digit more fits into 64 bits. -/
def fits (significand : Nat) (b : UInt8) : Bool :=
  10 * significand + digitValue b < UInt64.size

/-- The digits before the point: the significand, how many digits were dropped, and what follows. -/
def wholeDigits (significand dropped : Nat) : List UInt8 → Nat → Nat × Nat × Cursor
  | [], offset => (significand, dropped, ⟨[], offset⟩)
  | b :: bs, offset =>
    if !isDigitByte b then (significand, dropped, ⟨b :: bs, offset⟩)
    else if dropped = 0 && fits significand b then
      wholeDigits (10 * significand + digitValue b) 0 bs (offset + 1)
    else wholeDigits significand (dropped + 1) bs (offset + 1)

/-- The digits behind the point: the significand, how many digits went into it, and what follows. -/
def partDigits (significand taken : Nat) (full : Bool) : List UInt8 → Nat → Nat × Nat × Cursor
  | [], offset => (significand, taken, ⟨[], offset⟩)
  | b :: bs, offset =>
    if !isDigitByte b then (significand, taken, ⟨b :: bs, offset⟩)
    else if !full && fits significand b then
      partDigits (10 * significand + digitValue b) (taken + 1) false bs (offset + 1)
    else partDigits significand taken true bs (offset + 1)

/-- The digits of an exponent of at most 31 bits, or the cursor behind the digit that no longer
fits. -/
def exponentDigits (n : Nat) : List UInt8 → Nat → Except Cursor (Nat × Cursor)
  | [], offset => pure (n, ⟨[], offset⟩)
  | b :: bs, offset =>
    if !isDigitByte b then pure (n, ⟨b :: bs, offset⟩)
    else if 10 * n + digitValue b < 0x80000000 then
      exponentDigits (10 * n + digitValue b) bs (offset + 1)
    else throw ⟨bs, offset + 1⟩

/-- A magnitude times a power of ten that a double can hold. -/
def scaleOnce? (magnitude : Nat) (exponent : Int) : Option Nat :=
  if 0 ≤ exponent then
    let product := Binary64.mul magnitude (Binary64.powerOfTen exponent.toNat)
    if product = Binary64.infinite then none else some product
  else some (Binary64.div magnitude (Binary64.powerOfTen (-exponent).toNat))

/-- A magnitude times a power of ten, divided first by greatest powers. The steps are bounded, as
two divisions make every significand vanish. -/
def scaleSteps? : Nat → Nat → Int → Option Nat
  | steps, magnitude, exponent =>
    if -308 ≤ exponent ∧ exponent ≤ 308 then scaleOnce? magnitude exponent
    else if magnitude = 0 then some 0
    else if 0 ≤ exponent then none
    else
      match steps with
      | 0 => some 0
      | steps + 1 =>
        scaleSteps? steps (Binary64.div magnitude (Binary64.powerOfTen 308)) (exponent + 308)

/-- The magnitude of a significand times a power of ten; none when it is too large. -/
def scaled? (significand : Nat) (exponent : Int) : Option Nat :=
  scaleSteps? 3 (Binary64.roundRatio significand 1) exponent

/-- The double of a significand and an exponent that were read up to a cursor. -/
def doubleAt (negative : Bool) (significand : Nat) (exponent : Int) (c : Cursor) :
    Except Fault (Number × Cursor) :=
  match scaled? significand exponent with
  | some magnitude => pure (.float (Binary64.ofMagnitude negative magnitude), c)
  | none => throw ⟨.numberOutOfRange, c.offset⟩

/-- The cursor behind a sign of an exponent, and whether it is a minus. -/
def exponentSign (c : Cursor) : Bool × Cursor :=
  match c.rest with
  | b :: bs =>
    if b = 0x2B then (false, ⟨bs, c.offset + 1⟩)
    else if b = 0x2D then (true, ⟨bs, c.offset + 1⟩)
    else (false, c)
  | [] => (false, c)

/-- The number whose exponent begins behind the mark at `c`. -/
def readExponent (negative : Bool) (significand : Nat) (start : Int) (c : Cursor) :
    Except Fault (Number × Cursor) :=
  let (down, c) := exponentSign c
  match c.rest with
  | [] => throw ⟨.endInValue, c.offset⟩
  | b :: bs =>
    if !isDigitByte b then throw ⟨.invalidNumber, c.offset + 1⟩
    else
      match exponentDigits (digitValue b) bs (c.offset + 1) with
      | .ok (n, c) => doubleAt negative significand (if down then start - n else start + n) c
      | .error c =>
        if significand ≠ 0 ∧ !down then throw ⟨.numberOutOfRange, c.offset⟩
        else pure (.float (Binary64.ofMagnitude negative 0), skipDigits c.rest c.offset)

/-- The number whose fraction begins behind the point at `c`. -/
def readPart (negative : Bool) (significand : Nat) (start : Int) (c : Cursor) :
    Except Fault (Number × Cursor) :=
  let (significand, taken, after) := partDigits significand 0 false c.rest c.offset
  if after.offset = c.offset then
    throw ⟨if c.rest.isEmpty then .endInValue else .invalidNumber, c.peeked⟩
  else
    match after.rest with
    | b :: bs =>
      if b = 0x65 ∨ b = 0x45 then
        readExponent negative significand (start - taken) ⟨bs, after.offset + 1⟩
      else doubleAt negative significand (start - taken) after
    | [] => doubleAt negative significand (start - taken) after

/-- A whole number of 64 bits, or the double of a larger one or of minus zero. -/
def wholeNumber (negative : Bool) (n : Nat) : Number :=
  if !negative then .int n
  else if 0 < n ∧ n ≤ 0x8000000000000000 then .int (-(n : Int))
  else .float (Binary64.ofRatio true n 1)

/-- The number whose digits begin at `c`, behind a minus when it is negative. -/
def readNumber (negative : Bool) (c : Cursor) : Except Fault (Number × Cursor) :=
  match c.rest with
  | [] => throw ⟨.endInValue, c.offset⟩
  | b :: bs =>
    if !isDigitByte b then throw ⟨.invalidNumber, c.offset + 1⟩
    else
      let (significand, dropped, after) := wholeDigits (digitValue b) 0 bs (c.offset + 1)
      if b = 0x30 ∧ after.offset ≠ c.offset + 1 then throw ⟨.invalidNumber, c.offset + 2⟩
      else
        let plain := if dropped = 0 then pure (wholeNumber negative significand, after)
          else doubleAt negative significand dropped after
        match after.rest with
        | [] => plain
        | m :: ms =>
          if m = 0x2E then readPart negative significand dropped ⟨ms, after.offset + 1⟩
          else if m = 0x65 ∨ m = 0x45 then
            readExponent negative significand dropped ⟨ms, after.offset + 1⟩
          else plain

/-- The cursor behind the exponent whose mark stands before `c`. -/
def skipExponent (c : Cursor) : Except Fault Cursor :=
  let c := (exponentSign c).2
  match c.rest with
  | [] => throw ⟨.invalidNumber, c.offset⟩
  | b :: bs =>
    if isDigitByte b then pure (skipDigits bs (c.offset + 1))
    else throw ⟨.invalidNumber, c.offset + 1⟩

/-- The cursor behind the number whose digits begin at `c`. -/
def skipNumber (c : Cursor) : Except Fault Cursor :=
  match c.rest with
  | [] => throw ⟨.invalidNumber, c.offset⟩
  | b :: bs =>
    if !isDigitByte b then throw ⟨.invalidNumber, c.offset + 1⟩
    else
      let after := skipDigits bs (c.offset + 1)
      if b = 0x30 ∧ after.offset ≠ c.offset + 1 then throw ⟨.invalidNumber, c.offset + 2⟩
      else
        match after.rest with
        | [] => pure after
        | m :: ms =>
          if m = 0x2E then
            let part := skipDigits ms (after.offset + 1)
            if part.offset = after.offset + 1 then throw ⟨.invalidNumber, part.peeked⟩
            else
              match part.rest with
              | e :: es =>
                if e = 0x65 ∨ e = 0x45 then skipExponent ⟨es, part.offset + 1⟩ else pure part
              | [] => pure part
          else if m = 0x65 ∨ m = 0x45 then skipExponent ⟨ms, after.offset + 1⟩
          else pure after

/-! ## Texts -/

/-- The value of a hexadecimal digit. -/
def hexValue? (b : UInt8) : Option Nat :=
  if 0x30 ≤ b ∧ b ≤ 0x39 then some (b.toNat - 0x30)
  else if 0x61 ≤ b ∧ b ≤ 0x66 then some (b.toNat - 0x61 + 10)
  else if 0x41 ≤ b ∧ b ≤ 0x46 then some (b.toNat - 0x41 + 10)
  else none

/-- The number of four hexadecimal digits. -/
def hex4? (a b c d : UInt8) : Option Nat := do
  return ((← hexValue? a) * 16 + (← hexValue? b)) * 256 + (← hexValue? c) * 16 + (← hexValue? d)

/-- The byte that a letter behind a backslash stands for. -/
def simpleEscape? (b : UInt8) : Option UInt8 :=
  if b = 0x22 ∨ b = 0x5C ∨ b = 0x2F then some b
  else if b = 0x62 then some 0x08
  else if b = 0x66 then some 0x0C
  else if b = 0x6E then some 0x0A
  else if b = 0x72 then some 0x0D
  else if b = 0x74 then some 0x09
  else none

/-- Whether a code is the first half of a pair. -/
def isLeading (n : Nat) : Bool := 0xD800 ≤ n && n ≤ 0xDBFF

/-- Whether a code is the second half of a pair. -/
def isTrailing (n : Nat) : Bool := 0xDC00 ≤ n && n ≤ 0xDFFF

/-- The bytes of a code point, last byte first. -/
def codeBytes (n : Nat) : List UInt8 := (String.utf8EncodeChar (Char.ofNat n)).reverse

/-- The bytes of a text up to its closing quote; `acc` holds those before, last byte first. -/
def stringBytes (acc : List UInt8) : List UInt8 → Nat → Except Fault (List UInt8 × Cursor)
  | [], offset => throw ⟨.endInString, offset⟩
  | b :: bs, offset =>
    if b = quoteByte then pure (acc.reverse, ⟨bs, offset + 1⟩)
    else if b = backslash then
      match bs with
      | [] => throw ⟨.endInString, offset + 1⟩
      | e :: bs =>
        if e = lowerU then
          match bs with
          | h₁ :: h₂ :: h₃ :: h₄ :: bs =>
            match hex4? h₁ h₂ h₃ h₄ with
            | none => throw ⟨.invalidEscape, offset + 6⟩
            | some n =>
              if isTrailing n then throw ⟨.loneSurrogate, offset + 6⟩
              else if isLeading n then
                match bs with
                | [] => throw ⟨.endInString, offset + 6⟩
                | x :: bs =>
                  if x ≠ backslash then throw ⟨.endOfEscape, offset + 7⟩
                  else
                    match bs with
                    | [] => throw ⟨.endInString, offset + 7⟩
                    | y :: bs =>
                      if y ≠ lowerU then throw ⟨.endOfEscape, offset + 8⟩
                      else
                        match bs with
                        | k₁ :: k₂ :: k₃ :: k₄ :: bs =>
                          match hex4? k₁ k₂ k₃ k₄ with
                          | none => throw ⟨.invalidEscape, offset + 12⟩
                          | some m =>
                            if isTrailing m then
                              stringBytes
                                (codeBytes (0x10000 + (n - 0xD800) * 0x400 + (m - 0xDC00)) ++ acc)
                                bs (offset + 12)
                            else throw ⟨.loneSurrogate, offset + 12⟩
                        | short => throw ⟨.endInString, offset + 8 + short.length⟩
              else stringBytes (codeBytes n ++ acc) bs (offset + 6)
          | short => throw ⟨.endInString, offset + 2 + short.length⟩
        else
          match simpleEscape? e with
          | some c => stringBytes (c :: acc) bs (offset + 2)
          | none => throw ⟨.invalidEscape, offset + 2⟩
    else if b < 0x20 then throw ⟨.controlCharacter, offset + 1⟩
    else stringBytes (b :: acc) bs (offset + 1)

/--
The text whose opening quote stands before `c`. Bytes that are no text are noticed behind the
closing quote. Their place is counted back from there by the bytes of the text from the first one on
that begins no character, so where no escape follows it the place is that byte.
-/
def readString (c : Cursor) : Except Fault (String × Cursor) := do
  let (bytes, after) ← stringBytes [] c.rest c.offset
  match Text.ofBytes? bytes with
  | some s => return (s, after)
  | none =>
    throw ⟨.invalidCodePoint, after.offset - (bytes.length - Text.wellFormedLength bytes)⟩

/-- The cursor behind the closing quote of a text. -/
def skipStringBytes : List UInt8 → Nat → Except Fault Cursor
  | [], offset => throw ⟨.endInString, offset⟩
  | b :: bs, offset =>
    if b = quoteByte then pure ⟨bs, offset + 1⟩
    else if b = backslash then
      match bs with
      | [] => throw ⟨.endInString, offset + 1⟩
      | e :: bs =>
        if e = lowerU then
          match bs with
          | h₁ :: h₂ :: h₃ :: h₄ :: bs =>
            if (hex4? h₁ h₂ h₃ h₄).isSome then skipStringBytes bs (offset + 6)
            else throw ⟨.invalidEscape, offset + 6⟩
          | short => throw ⟨.endInString, offset + 2 + short.length⟩
        else if (simpleEscape? e).isSome then skipStringBytes bs (offset + 2)
        else throw ⟨.invalidEscape, offset + 2⟩
    else if b < 0x20 then throw ⟨.controlCharacter, offset⟩
    else skipStringBytes bs (offset + 1)

/-- The cursor behind the text whose opening quote stands before `c`. -/
def skipString (c : Cursor) : Except Fault Cursor := skipStringBytes c.rest c.offset

end RecordQuery.Json
