import RecordQuery.Json.Fault

/-!
# Placed JSON trees

A `Json.Tree` is a JSON text as far as it can be read, with the offsets that messages need. A reader
of some wanted form walks it in the order of the text and reports the first thing that is not as
wanted, so a fault of the text counts only when the walk comes to it.

Values that nobody wants are passed over, by looser rules than those for reading: numbers have no
range, the halves of escaped characters need not match, and nesting has no limit. `Tree.skip` passes
over a value. A `Tree.fault` is a value that cannot be read, with the fault that passing over it
meets, if it meets one; a `Tree.deep` is an array or object below the limit of nesting.

`Tree.toJson` reads any value, and `Tree.ofJson` places a value nowhere.
-/

namespace RecordQuery.Json

/-- The name of a member. `stop` is the offset behind it, and `settled` the one behind the blanks
that follow it and the closing brace if that comes next. -/
structure Name where
  text : Except Fault String
  stop : Nat
  settled : Nat

mutual

/-- A value of a text. `stop` is the offset behind it, `start` that before it. -/
inductive Tree where
  | null (stop : Nat)
  | bool (value : Bool) (stop : Nat)
  | number (value : Number) (stop : Nat)
  | string (value : String) (stop : Nat)
  | array (start : Nat) (items : Items)
  | object (start : Nat) (members : Members)
  | deep (start : Nat) (isObject : Bool) (skipping : Option Fault)
  | fault (reading : Fault) (skipping : Option Fault)

/-- The items of an array from some item on. -/
inductive Items where
  | done (stop : Nat)
  | item (start : Nat) (value : Tree) (rest : Items)
  | fault (reading skipping : Fault)

/-- The members of an object from some member on. `start` is the offset before the value, and
`settled` the one behind the value, the blanks that follow it, and the closing brace if that comes
next. -/
inductive Members where
  | done (stop : Nat)
  | member (name : Name) (start : Nat) (value : Tree) (settled : Nat) (rest : Members)
  | fault (reading skipping : Fault)

end

namespace Tree

/-! ## Passing over -/

mutual

/-- The fault of passing over a value, if it has one. -/
def skip : Tree → Except Fault Unit
  | .array _ items => skipItems items
  | .object _ members => skipMembers members
  | .deep _ _ (some f) => throw f
  | .fault _ (some f) => throw f
  | _ => pure ()

/-- The fault of passing over items. -/
def skipItems : Items → Except Fault Unit
  | .done _ => pure ()
  | .item _ value rest => do
    skip value
    skipItems rest
  | .fault _ skipping => throw skipping

/-- The fault of passing over members. -/
def skipMembers : Members → Except Fault Unit
  | .done _ => pure ()
  | .member _ _ value _ rest => do
    skip value
    skipMembers rest
  | .fault _ skipping => throw skipping

end

/-! ## Reading -/

/-- The fault of a value below the limit of nesting. -/
def tooDeep (start : Nat) : Fault := ⟨.tooDeep, start + 1⟩

/-- The fault of a value that is not of the expected form. A scalar is placed behind itself, an
array or object before itself. -/
def mismatch (expected : String) : Tree → Fault
  | .null stop => ⟨.invalidType .null expected, stop⟩
  | .bool b stop => ⟨.invalidType (.bool b) expected, stop⟩
  | .number n stop => ⟨.invalidType (.number n) expected, stop⟩
  | .string s stop => ⟨.invalidType (.string s) expected, stop⟩
  | .array start _ => ⟨.invalidType .sequence expected, start⟩
  | .object start _ => ⟨.invalidType .map expected, start⟩
  | .deep start isObject _ => ⟨.invalidType (if isObject then .map else .sequence) expected, start⟩
  | .fault reading _ => reading

mutual

/-- Any value. A name that comes twice keeps its first place and takes its last value. -/
def toJson : Tree → Except Fault Json
  | .null _ => pure .null
  | .bool b _ => pure (.bool b)
  | .number n _ => pure (.number n)
  | .string s _ => pure (.string s)
  | .array _ items => Json.array <$> itemsToJson items
  | .object _ members => Json.object <$> membersToJson [] members
  | .deep start _ _ => throw (tooDeep start)
  | .fault reading _ => throw reading

/-- The values of items. -/
def itemsToJson : Items → Except Fault (List Json)
  | .done _ => pure []
  | .item _ value rest => do
    let j ← toJson value
    let js ← itemsToJson rest
    return j :: js
  | .fault reading _ => throw reading

/-- The values of members, put into those read before. -/
def membersToJson (before : List (String × Json)) : Members → Except Fault (List (String × Json))
  | .done _ => pure before
  | .member name _ value _ rest => do
    let n ← name.text
    let j ← toJson value
    membersToJson (Json.insert n j before) rest
  | .fault reading _ => throw reading

end

/-! ## Values without a text -/

mutual

/-- A value that is placed nowhere. -/
def ofJson : Json → Tree
  | .null => .null 0
  | .bool b => .bool b 0
  | .number n => .number n 0
  | .string s => .string s 0
  | .array items => .array 0 (itemsOfJson items)
  | .object members => .object 0 (membersOfJson members)

/-- Items that are placed nowhere. -/
def itemsOfJson : List Json → Items
  | [] => .done 0
  | j :: js => .item 0 (ofJson j) (itemsOfJson js)

/-- Members that are placed nowhere. -/
def membersOfJson : List (String × Json) → Members
  | [] => .done 0
  | (name, j) :: members => .member ⟨.ok name, 0, 0⟩ 0 (ofJson j) 0 (membersOfJson members)

end

end Tree

end RecordQuery.Json
