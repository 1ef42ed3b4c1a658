import RecordQuery.Json.Token
import RecordQuery.Json.Tree

/-!
# Reading JSON texts

`Json.Tree.ofBytes` reads the bytes of a text into a placed tree, and `Json.Document.read` gives the
tree to a reader of some form and then wants the text to end. Arrays and objects may be nested
`Json.maxNesting` deep; what lies deeper is only passed over, without recursion.
-/

namespace RecordQuery.Json

/-- How deep arrays and objects may be nested. -/
def maxNesting : Nat := 127

/-! ## Passing over what is nested too deep -/

/-- What may come next while passing over nested arrays and objects. -/
inductive Awaited where
  /-- The first item or member, or the end. -/
  | firstOrEnd
  /-- A comma or the end. -/
  | commaOrEnd
  /-- An item, or a member with its name. -/
  | next

/-- Where passing over stands: what is awaited, the brackets that are open, the innermost first
(true for a brace), and the cursor. -/
structure Passing where
  awaited : Awaited
  isObject : Bool
  outer : List Bool
  cursor : Cursor

/-- Closes the innermost bracket, which ends the passing when it is the last. -/
def Passing.close (p : Passing) (c : Cursor) : Cursor ⊕ Passing :=
  match p.outer with
  | [] => .inl c
  | o :: os => .inr ⟨.commaOrEnd, o, os, c⟩

/-- Passes over the value at a byte that is no blank. -/
def Passing.value (p : Passing) (c : Cursor) : Except Fault Passing :=
  let after (c : Cursor) : Passing := ⟨.commaOrEnd, p.isObject, p.outer, c⟩
  let inside (isObject : Bool) (c : Cursor) : Passing :=
    ⟨.firstOrEnd, isObject, p.isObject :: p.outer, c⟩
  match c.rest with
  | [] => throw ⟨.endInValue, c.offset⟩
  | b :: bs =>
    if b = 0x6E then after <$> readWord [0x75, 0x6C, 0x6C] bs (c.offset + 1)
    else if b = 0x74 then after <$> readWord [0x72, 0x75, 0x65] bs (c.offset + 1)
    else if b = 0x66 then after <$> readWord [0x61, 0x6C, 0x73, 0x65] bs (c.offset + 1)
    else if b = 0x2D then after <$> skipNumber ⟨bs, c.offset + 1⟩
    else if isDigitByte b then after <$> skipNumber c
    else if b = quoteByte then after <$> skipString ⟨bs, c.offset + 1⟩
    else if b = 0x5B then pure (inside false ⟨bs, c.offset + 1⟩)
    else if b = 0x7B then pure (inside true ⟨bs, c.offset + 1⟩)
    else throw ⟨.expectedValue, c.offset + 1⟩

/-- Passes over the item or member at a cursor. -/
def Passing.entry (p : Passing) (c : Cursor) : Except Fault Passing :=
  if !p.isObject then p.value c.settle
  else do
    let c := c.settle
    match c.rest with
    | [] => throw ⟨.endInObject, c.offset⟩
    | b :: bs =>
      if b ≠ quoteByte then throw ⟨.keyNotString, c.offset + 1⟩
      else
        let c := (← skipString ⟨bs, c.offset + 1⟩).settle
        match c.rest with
        | [] => throw ⟨.endInObject, c.offset⟩
        | b :: bs =>
          if b ≠ 0x3A then throw ⟨.expectedColon, c.offset + 1⟩
          else p.value (Cursor.settle ⟨bs, c.offset + 1⟩)

/-- One step: a bracket closed, a comma, or an item or member. -/
def Passing.step (p : Passing) : Except Fault (Cursor ⊕ Passing) :=
  let c := p.cursor.settle
  let ended : Cause := if p.isObject then .endInObject else .endInList
  let closing : UInt8 := if p.isObject then 0x7D else 0x5D
  let missing : Cause :=
    if p.isObject then .expectedObjectCommaOrEnd else .expectedListCommaOrEnd
  match p.awaited with
  | .firstOrEnd =>
    match c.rest with
    | [] => throw ⟨ended, c.offset⟩
    | b :: bs => if b = closing then pure (p.close ⟨bs, c.offset + 1⟩) else .inr <$> p.entry c
  | .commaOrEnd =>
    match c.rest with
    | [] => throw ⟨ended, c.offset⟩
    | b :: bs =>
      if b = 0x2C then pure (.inr { p with awaited := .next, cursor := ⟨bs, c.offset + 1⟩ })
      else if b = closing then pure (p.close ⟨bs, c.offset + 1⟩)
      else throw ⟨missing, c.offset + 1⟩
  | .next => .inr <$> p.entry c

/-- Passes on for at most `fuel` steps. Each step but those of bytes already counted moves on, so
twice the length of the text is enough. -/
def Passing.run : Nat → Passing → Except Fault Cursor
  | 0, p => pure p.cursor
  | fuel + 1, p =>
    match p.step with
    | .error f => throw f
    | .ok (.inl c) => pure c
    | .ok (.inr p) => run fuel p

/-- Passes over the array or object whose opening bracket stands before `c`. -/
def skipNested (isObject : Bool) (c : Cursor) : Except Fault Cursor :=
  Passing.run (2 * c.rest.length + 2) ⟨.firstOrEnd, isObject, [], c⟩

/-! ## Reading trees -/

/-- The tree of a word, and where it ends. -/
def wordTree (word : List UInt8) (tree : Nat → Tree) (bs : List UInt8) (offset : Nat) :
    Tree × Option Cursor :=
  match readWord word bs offset with
  | .ok c => (tree c.offset, some c)
  | .error f => (.fault f (some f), none)

/-- The tree of a number whose digits begin at `c`, and where it ends. -/
def numberTree (negative : Bool) (c : Cursor) : Tree × Option Cursor :=
  match readNumber negative c, skipNumber c with
  | .ok (n, after), _ => (.number n after.offset, some after)
  | .error f, .ok after => (.fault f none, some after)
  | .error f, .error f' => (.fault f (some f'), none)

/-- The tree of a text whose opening quote stands before `c`, and where it ends. -/
def stringTree (c : Cursor) : Tree × Option Cursor :=
  match readString c, skipString c with
  | .ok (s, after), _ => (.string s after.offset, some after)
  | .error f, .ok after => (.fault f none, some after)
  | .error f, .error f' => (.fault f (some f'), none)

/-- The tree of an array or object that is nested too deep, and where it ends. -/
def deepTree (isObject : Bool) (start : Nat) (c : Cursor) : Tree × Option Cursor :=
  match skipNested isObject c with
  | .ok after => (.deep start isObject none, some after)
  | .error f => (.deep start isObject (some f), none)

/-- Behind the blanks at a cursor, and behind the closing brace if that comes next. -/
def settledOffset (c : Cursor) : Nat :=
  let c := c.settle
  match c.rest with
  | b :: _ => if b = 0x7D then c.offset + 1 else c.offset
  | [] => c.offset

/-- The end of items that stop at a fault which reading and passing over both meet. -/
def Items.stuck (f : Fault) : Items := .fault f f

/-- The end of members that stop at a fault which reading and passing over both meet. -/
def Members.stuck (f : Fault) : Members := .fault f f

mutual

/-- The tree of the value at a cursor and, unless it cannot be passed over, where it ends. `room` is
how many arrays and objects may still be opened. -/
def readValue : Nat → Nat → Cursor → Tree × Option Cursor
  | 0, _, c => (.fault ⟨.endInValue, c.offset⟩ (some ⟨.endInValue, c.offset⟩), none)
  | fuel + 1, room, c =>
    let c := c.settle
    match c.rest with
    | [] => (.fault ⟨.endInValue, c.offset⟩ (some ⟨.endInValue, c.offset⟩), none)
    | b :: bs =>
      let next : Cursor := ⟨bs, c.offset + 1⟩
      if b = 0x6E then wordTree [0x75, 0x6C, 0x6C] Tree.null bs next.offset
      else if b = 0x74 then wordTree [0x72, 0x75, 0x65] (Tree.bool true) bs next.offset
      else if b = 0x66 then wordTree [0x61, 0x6C, 0x73, 0x65] (Tree.bool false) bs next.offset
      else if b = 0x2D then numberTree true next
      else if isDigitByte b then numberTree false c
      else if b = quoteByte then stringTree next
      else if b = 0x5B then
        match room with
        | 0 => deepTree false c.offset next
        | room + 1 =>
          let (items, after) := firstItem fuel room next
          (.array c.offset items, after)
      else if b = 0x7B then
        match room with
        | 0 => deepTree true c.offset next
        | room + 1 =>
          let (members, after) := firstMember fuel room next
          (.object c.offset members, after)
      else
        let f : Fault := ⟨.expectedValue, c.offset + 1⟩
        (.fault f (some f), none)

/-- The items behind an opening bracket. -/
def firstItem : Nat → Nat → Cursor → Items × Option Cursor
  | 0, _, c => (.stuck ⟨.endInList, c.offset⟩, none)
  | fuel + 1, room, c =>
    let c := c.settle
    match c.rest with
    | [] => (.stuck ⟨.endInList, c.offset⟩, none)
    | b :: bs =>
      if b = 0x5D then (.done (c.offset + 1), some ⟨bs, c.offset + 1⟩)
      else readItem fuel room c

/-- The item at a byte that is no blank, and those after it. -/
def readItem : Nat → Nat → Cursor → Items × Option Cursor
  | 0, _, c => (.stuck ⟨.endInList, c.offset⟩, none)
  | fuel + 1, room, c =>
    match readValue fuel room c with
    | (value, none) => (.item c.offset value (.stuck ⟨.endInList, c.offset⟩), none)
    | (value, some after) =>
      let (rest, after) := laterItems fuel room after
      (.item c.offset value rest, after)

/-- The items behind an item. -/
def laterItems : Nat → Nat → Cursor → Items × Option Cursor
  | 0, _, c => (.stuck ⟨.endInList, c.offset⟩, none)
  | fuel + 1, room, c =>
    let c := c.settle
    match c.rest with
    | [] => (.stuck ⟨.endInList, c.offset⟩, none)
    | b :: bs =>
      if b = 0x5D then (.done (c.offset + 1), some ⟨bs, c.offset + 1⟩)
      else if b = 0x2C then
        let c := skipSpace bs (c.offset + 1)
        match c.rest with
        | [] => (.stuck ⟨.endInValue, c.offset⟩, none)
        | b :: _ =>
          if b = 0x5D then
            (.fault ⟨.trailingComma, c.offset + 1⟩ ⟨.expectedValue, c.offset + 1⟩, none)
          else readItem fuel room c
      else (.stuck ⟨.expectedListCommaOrEnd, c.offset + 1⟩, none)

/-- The members behind an opening brace. -/
def firstMember : Nat → Nat → Cursor → Members × Option Cursor
  | 0, _, c => (.stuck ⟨.endInObject, c.offset⟩, none)
  | fuel + 1, room, c =>
    let c := c.settle
    match c.rest with
    | [] => (.stuck ⟨.endInObject, c.offset⟩, none)
    | b :: bs =>
      if b = 0x7D then (.done (c.offset + 1), some ⟨bs, c.offset + 1⟩)
      else if b = quoteByte then readMember fuel room ⟨bs, c.offset + 1⟩
      else (.stuck ⟨.keyNotString, c.offset + 1⟩, none)

/-- The member whose name's opening quote stands before the cursor, and those after it. -/
def readMember : Nat → Nat → Cursor → Members × Option Cursor
  | 0, _, c => (.stuck ⟨.endInObject, c.offset⟩, none)
  | fuel + 1, room, c =>
    match (Prod.fst <$> readString c), skipString c with
    | .error f, .error f' => (.fault f f', none)
    | .ok _, .error f => (.stuck f, none)
    | text, .ok after =>
      let name : Name := ⟨text, after.offset, settledOffset after⟩
      let c := after.settle
      let stop (f : Fault) : Members × Option Cursor :=
        (.member name c.offset (.fault f (some f)) c.offset (.stuck f), none)
      match c.rest with
      | [] => stop ⟨.endInObject, c.offset⟩
      | b :: bs =>
        if b ≠ 0x3A then stop ⟨.expectedColon, c.offset + 1⟩
        else
          let c := skipSpace bs (c.offset + 1)
          match readValue fuel room c with
          | (value, none) =>
            (.member name c.offset value c.offset (.stuck ⟨.endInObject, c.offset⟩), none)
          | (value, some after) =>
            let (rest, stop) := laterMembers fuel room after
            (.member name c.offset value (settledOffset after) rest, stop)

/-- The members behind a member. -/
def laterMembers : Nat → Nat → Cursor → Members × Option Cursor
  | 0, _, c => (.stuck ⟨.endInObject, c.offset⟩, none)
  | fuel + 1, room, c =>
    let c := c.settle
    match c.rest with
    | [] => (.stuck ⟨.endInObject, c.offset⟩, none)
    | b :: bs =>
      if b = 0x7D then (.done (c.offset + 1), some ⟨bs, c.offset + 1⟩)
      else if b = 0x2C then
        let c := skipSpace bs (c.offset + 1)
        match c.rest with
        | [] => (.fault ⟨.endInValue, c.offset⟩ ⟨.endInObject, c.offset⟩, none)
        | b :: bs =>
          if b = quoteByte then readMember fuel room ⟨bs, c.offset + 1⟩
          else if b = 0x7D then
            (.fault ⟨.trailingComma, c.offset + 1⟩ ⟨.keyNotString, c.offset + 1⟩, none)
          else (.stuck ⟨.keyNotString, c.offset + 1⟩, none)
      else (.stuck ⟨.expectedObjectCommaOrEnd, c.offset + 1⟩, none)

end

/-- A text: its tree and, if it does not end behind it, the fault of what follows. -/
structure Document where
  tree : Tree
  trailing : Option Fault

/-- Reads the bytes of a text. Of any three calls of the reader inside one another one takes a byte,
so four times the length of the text is fuel enough. -/
def Document.ofBytes (bytes : List UInt8) : Document :=
  match readValue (4 * bytes.length + 4) maxNesting ⟨bytes, 0⟩ with
  | (tree, none) => ⟨tree, none⟩
  | (tree, some after) =>
    let c := after.settle
    ⟨tree, if c.rest.isEmpty then none else some ⟨.trailingCharacters, c.offset + 1⟩⟩

/-- What a reader with causes of its own makes of the whole text. -/
def Document.readAs {ε α : Type} (d : Document) (ofFault : Fault → ε) (f : Tree → Except ε α) :
    Except ε α := do
  let a ← f d.tree
  match d.trailing with
  | some fault => throw (ofFault fault)
  | none => return a

/-- What a reader makes of the whole text. -/
def Document.read {α : Type} (d : Document) (f : Tree → Except Fault α) : Except Fault α :=
  d.readAs id f

/-- What a reader makes of the whole of some bytes. -/
def readBytes {α : Type} (f : Tree → Except Fault α) (bytes : List UInt8) : Except Fault α :=
  (Document.ofBytes bytes).read f

/-- The bytes of a text. -/
def bytesOf (s : String) : List UInt8 := s.toUTF8.data.toList

/-- What a reader makes of the whole of a text. -/
def readText {α : Type} (f : Tree → Except Fault α) (s : String) : Except Fault α :=
  readBytes f (bytesOf s)

end RecordQuery.Json
