import RecordQuery.Json.Decoder
import RecordQuery.Kind

/-!
# Kinds in documents

A kind is written as its name. An object whose only member has that name and the value `null` stands
for it as well. `Kind.ofTree` reads a kind from a text and `Kind.ofJson` from a value.
-/

namespace RecordQuery.Kind

open Json (Fault Tree)

/-- The kind of a name that ends at an offset. -/
def ofName (name : String) (stop : Nat) : Except Fault Kind :=
  match ofName? name with
  | some k => pure k
  | none => throw ⟨.unknownVariant name (all.map Kind.name), stop⟩

/-- Accepts `null` only. -/
def checkUnit : Tree → Except Fault Unit
  | .null _ => pure ()
  | t => throw (t.mismatch "unit")

/-- Whether the fault of a value at `start` is reported as it is: one of a text that began with a
quote, or that no value begins there. -/
def isReported (start : Nat) (f : Fault) : Bool :=
  match f.cause with
  | .endInString | .invalidEscape | .controlCharacter | .loneSurrogate | .endOfEscape
  | .invalidCodePoint | .endInObject | .expectedColon => true
  | _ => f.offset = start

/-- The kind that a value beginning at `start` stands for. -/
def ofTree (start : Nat) : Tree → Except Fault Kind
  | .string s stop => ofName s stop
  | .object _ (.member name _ value settled rest) => do
    let k ← ofName (← name.text) name.stop
    checkUnit value
    match rest with
    | .done _ => return k
    | .member .. => throw ⟨.expectedValue, settled⟩
    | .fault reading _ =>
      match reading.cause with
      | .endInObject => throw reading
      | _ => throw ⟨.expectedValue, settled⟩
  | .object _ (.done stop) => throw ⟨.expectedValue, stop⟩
  | .object _ (.fault reading _) => throw reading
  | .deep start true _ => throw (Tree.tooDeep start)
  | .fault reading _ =>
    throw (if isReported start reading then reading else ⟨.expectedValue, start + 1⟩)
  | _ => throw ⟨.expectedValue, start + 1⟩

/-- The kind that a value stands for. -/
def ofJson : Json → Except Fault Kind
  | .string s => ofName s 0
  | .object [(name, value)] => do
    let k ← ofName name 0
    checkUnit (Tree.ofJson value)
    return k
  | .object _ => throw ⟨.invalidValue .map "map with a single key", 0⟩
  | j => throw ((Tree.ofJson j).mismatch "string or map")

end RecordQuery.Kind
