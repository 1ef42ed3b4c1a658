import RecordQuery.Json.Tree

/-!
# Reading wanted forms

Readers of the simple forms that documents have: a text, a truth value, an unsigned number below a
bound, any of them or `null`, a list. `Tree.asFields` reads a structure with a fixed set of named
fields, given as `Slot`s: as an object, whose other members are passed over and whose named members
come at most once, or as an array that holds the fields in their order.
-/

namespace RecordQuery.Json.Tree

/-- A text. -/
def asString : Tree → Except Fault String
  | .string s _ => pure s
  | t => throw (t.mismatch "a string")

/-- A truth value. -/
def asBool : Tree → Except Fault Bool
  | .bool b _ => pure b
  | t => throw (t.mismatch "a boolean")

/-- A whole number from zero on below `bound`; `form` names such numbers. -/
def asNatural (bound : Nat) (form : String) : Tree → Except Fault Nat
  | .number (.int i) stop =>
    if 0 ≤ i ∧ i < bound then pure i.toNat
    else throw ⟨.invalidValue (.number (.int i)) form, stop⟩
  | t => throw (t.mismatch form)

/-- An unsigned number of 32 bits. -/
def asUInt32 (t : Tree) : Except Fault UInt32 := UInt32.ofNat <$> asNatural UInt32.size "u32" t

/-- An unsigned number of 64 bits. -/
def asUInt64 (t : Tree) : Except Fault UInt64 := UInt64.ofNat <$> asNatural UInt64.size "u64" t

/-- An unsigned number that counts things in memory. -/
def asSize : Tree → Except Fault Nat := asNatural UInt64.size "usize"

/-- What a reader makes of a value, or nothing for `null`. -/
def asOption {α : Type} (f : Tree → Except Fault α) : Tree → Except Fault (Option α)
  | .null _ => pure none
  | t => some <$> f t

/-- What a reader makes of each item. -/
def readItems {α : Type} (f : Tree → Except Fault α) : Items → Except Fault (List α)
  | .done _ => pure []
  | .item _ value rest => do
    let a ← f value
    let as ← readItems f rest
    return a :: as
  | .fault reading _ => throw reading

/-- What a reader makes of each item of an array. -/
def asList {α : Type} (f : Tree → Except Fault α) : Tree → Except Fault (List α)
  | .array _ items => readItems f items
  | .deep start false _ => throw (tooDeep start)
  | t => throw (t.mismatch "a sequence")

/-- The members of an object, each with any value. -/
def asMembers : Tree → Except Fault (List (String × Json))
  | .object _ members => membersToJson [] members
  | .deep start true _ => throw (tooDeep start)
  | t => throw (t.mismatch "a map")

/-- What a reader makes of the values of members, given the offset before each; they are put into
those read before. -/
def readMembers {α : Type} (f : Nat → Tree → Except Fault α) (before : List (String × α)) :
    Members → Except Fault (List (String × α))
  | .done _ => pure before
  | .member name start value _ rest => do
    let n ← name.text
    let a ← f start value
    readMembers f (Json.insert n a before) rest
  | .fault reading _ => throw reading

/-- What a reader makes of the value of each member of an object. A name that comes twice takes its
last value. -/
def asDictionary {α : Type} (f : Nat → Tree → Except Fault α) :
    Tree → Except Fault (List (String × α))
  | .object _ members => readMembers f [] members
  | .deep start true _ => throw (tooDeep start)
  | t => throw (t.mismatch "a map")

/-! ## Structures -/

/-- A named field of a structure that is read into `σ`. -/
structure Slot (σ : Type) where
  name : String
  /-- Puts the field's value into the structure. -/
  fill : Tree → σ → Except Fault σ
  /-- Whether the field has been read. -/
  isFilled : σ → Bool
  /-- Whether an object must have the field. -/
  required : Bool
  /-- Whether an array must have the field. -/
  requiredInArray : Bool

variable {σ : Type}

/-- Fills a structure from members; `other` takes the values of members that are no fields. The
offset is that behind the closing brace. -/
def fillMembers (other : Tree → Except Fault Unit) (slots : List (Slot σ)) (s : σ) :
    Members → Except Fault (σ × Nat)
  | .done stop => pure (s, stop)
  | .member name _ value _ rest => do
    let n ← name.text
    match slots.find? (·.name == n) with
    | none => do
      other value
      fillMembers other slots s rest
    | some slot =>
      if slot.isFilled s then throw ⟨.duplicateField n, name.settled⟩
      else do
        let s ← slot.fill value s
        fillMembers other slots s rest
  | .fault reading _ => throw reading

/-- The fault of items that follow the last field. A comma announces one even where the text ends
behind it. -/
def closeItems : Items → Except Fault Unit
  | .done _ => pure ()
  | .item start _ _ => throw ⟨.trailingCharacters, start + 1⟩
  | .fault reading _ =>
    match reading.cause with
    | .expectedListCommaOrEnd | .endInValue => throw ⟨.trailingCharacters, reading.offset⟩
    | _ => throw reading

/-- Fills a structure from items, `count` of which have been read. -/
def fillItems (expected : String) (count : Nat) (s : σ) : List (Slot σ) → Items → Except Fault σ
  | [], items => do
    closeItems items
    return s
  | slot :: slots, .done stop =>
    if slot.requiredInArray then throw ⟨.invalidLength count expected, stop⟩
    else fillItems expected (count + 1) s slots (.done stop)
  | slot :: slots, .item _ value rest => do
    let s ← slot.fill value s
    fillItems expected (count + 1) s slots rest
  | _ :: _, .fault reading _ => throw reading

/-- The first required field that was not read. -/
def missing? (slots : List (Slot σ)) (s : σ) : Option String :=
  (slots.find? fun slot => slot.required && !slot.isFilled s).map (·.name)

/-- A structure of the given name. -/
def asFields (name : String) (slots : List (Slot σ)) (empty : σ) : Tree → Except Fault σ
  | .object _ members => do
    let (s, stop) ← fillMembers skip slots empty members
    match missing? slots s with
    | some field => throw ⟨.missingField field, stop⟩
    | none => return s
  | .array _ items =>
    fillItems ("struct " ++ name ++ " with " ++ toString slots.length ++ " elements") 0 empty slots
      items
  | .deep start _ _ => throw (tooDeep start)
  | t => throw (t.mismatch ("struct " ++ name))

end RecordQuery.Json.Tree
