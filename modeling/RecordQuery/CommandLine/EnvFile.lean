import RecordQuery.CommandLine.Variables
import RecordQuery.Text.Alphanumeric
import RecordQuery.Text.Blank
import RecordQuery.Text.Utf8

/-!
# Environment files

An environment file gives variables a value, one a line: a name, an equals sign and a value, with
`export` in front if wanted. A value may be quoted, may run over several lines inside quotes, and
may refer to other variables with a dollar sign. Text behind `#` is a comment. The file is read line
by line, so bytes that are no text spoil only their own line and those that follow
(`EnvFile.lines`).

`EnvFile.bindings` is what a file adds to the variables that there are: a variable that has a value
keeps it, and nothing behind the first line that cannot be read counts.
-/

namespace RecordQuery.EnvFile

/-! ## Lines -/

/-- The lines of some bytes, each with the line break at its end. -/
def byteLines : List UInt8 → List (List UInt8)
  | [] => []
  | b :: bs =>
    if b = 0x0A then [b] :: byteLines bs
    else
      match byteLines bs with
      | [] => [[b]]
      | line :: lines => (b :: line) :: lines

/-- The bytes without the mark of their order in front. -/
def withoutMark : List UInt8 → List UInt8
  | 0xEF :: 0xBB :: 0xBF :: bs => bs
  | bs => bs

/-- The lines that are texts, up to the first one that is not. -/
def textLines : List (List UInt8) → List (List Char)
  | [] => []
  | line :: lines =>
    match Text.ofBytes? line with
    | some s => s.toList :: textLines lines
    | none => []

/-- The lines of a file that can be read. -/
def lines (bytes : List UInt8) : List (List Char) := textLines (byteLines (withoutMark bytes))

/-! ## Logical lines -/

/-- What has been seen of a logical line. -/
inductive LineState where
  | plain
  | blank
  | escape
  | strong
  | strongEscape
  | weak
  | weakEscape
  deriving DecidableEq

/-- The state after one more character; none where a comment begins. -/
def LineState.step (s : LineState) (c : Char) : Option LineState :=
  match s with
  | .escape => some .plain
  | .strong => some (if c = '\\' then .strongEscape else if c = '\'' then .plain else .strong)
  | .strongEscape => some .strong
  | .weak => some (if c = '\\' then .weakEscape else if c = '"' then .plain else .weak)
  | .weakEscape => some .weak
  | s =>
    if s = .blank ∧ c = '#' then none
    else if c = '\\' then some .escape
    else if c = '"' then some .weak
    else if c = '\'' then some .strong
    else if s = .plain ∧ Text.isBlank c ∧ c ≠ '\n' ∧ c ≠ '\r' then some .blank
    else some .plain

/-- The characters before a comment, if one begins here, and the state at the end. -/
def LineState.scan (s : LineState) (before : List Char) : List Char → LineState × Option (List Char)
  | [] => (s, none)
  | c :: cs =>
    match s.step c with
    | none => (s, some before.reverse)
    | some s => s.scan (c :: before) cs

/-- A line without the line break at its end. -/
def chomp (cs : List Char) : List Char :=
  match cs.reverse with
  | '\n' :: '\r' :: rest | '\n' :: rest => rest.reverse
  | _ => cs

/-- The logical lines, of which the last one may be unfinished and is then left out. `begun` holds
what has been read of a logical line. -/
def logicalLines (s : LineState) (begun : List Char) : List (List Char) → List (List Char)
  | [] => []
  | line :: lines =>
    let all := begun ++ line
    if (Text.trimStart all).head? = some '#' then [] :: logicalLines .plain [] lines
    else
      match s.scan [] line with
      | (_, some before) => (begun ++ before) :: logicalLines .plain [] lines
      | (.plain, none) => chomp all :: logicalLines .plain [] lines
      | (s, none) => logicalLines s all lines

/-! ## Values -/

/-- How far a reference to a variable has been read. -/
inductive Reference where
  | none
  | bare (name : List Char)
  | braced (name : List Char)
  deriving DecidableEq

/-- What has been read of a value. Lists hold the latest character first. -/
structure ValueState where
  output : List Char := []
  strong : Bool := false
  weak : Bool := false
  escaped : Bool := false
  /-- Whether only blanks and a comment may follow. -/
  ended : Bool := false
  reference : Reference := .none

/-- The value of a variable, latest character first; nothing for one that has none. -/
def substitute (vars : Variables) (name : List Char) : List Char :=
  ((vars (String.ofList name.reverse)).getD "").toList.reverse

/-- What a backslash and a character stand for. -/
def escape? (c : Char) : Option Char :=
  if c = 'n' then some '\n' else if "\\'\"$ ".toList.contains c then some c else none

/-- The state after a character outside quotes, escapes and references. -/
def ValueState.plain (s : ValueState) (c : Char) : ValueState :=
  if c = '$' then { s with reference := .bare [] }
  else if c = '\\' then { s with escaped := true }
  else if c = '"' then { s with weak := !s.weak }
  else if s.weak then { s with output := c :: s.output }
  else if c = '\'' then { s with strong := true }
  else if c = ' ' ∨ c = '\t' then { s with ended := true }
  else { s with output := c :: s.output }

/-- The state after a character of a reference. -/
def ValueState.referring (vars : Variables) (s : ValueState) (c : Char) : Reference → ValueState
  | .none => s
  | .bare name =>
    if Text.isAlphanumeric c then { s with reference := .bare (c :: name) }
    else if c = '\x7b' ∧ name = [] then { s with reference := .braced [] }
    else
      let output := substitute vars name ++ s.output
      if c = '$' then { s with output := output, reference := .bare [] }
      else { s with output := c :: output, reference := .none }
  | .braced name =>
    if c = '\x7d' then
      { s with output := substitute vars name ++ s.output, reference := .none }
    else { s with reference := .braced (c :: name) }

/-- The state after one more character. -/
def ValueState.step (vars : Variables) (s : ValueState) (c : Char) : Option ValueState :=
  if s.escaped then
    (escape? c).map fun e => { s with output := e :: s.output, escaped := false }
  else if s.strong then
    some (if c = '\'' then { s with strong := false } else { s with output := c :: s.output })
  else if s.reference ≠ .none then some (s.referring vars c s.reference)
  else some (s.plain c)

/-- The value that some characters stand for. -/
def value? (vars : Variables) (s : ValueState) : List Char → Option (List Char)
  | [] =>
    if s.strong || s.weak then none
    else
      match s.reference with
      | .none => some s.output.reverse
      | .bare name => some (substitute vars name ++ s.output).reverse
      | .braced _ => none
  | c :: cs =>
    if s.ended then
      if c = ' ' ∨ c = '\t' then value? vars s cs
      else if c = '#' then value? vars s []
      else none
    else (s.step vars c).bind fun s => value? vars s cs

/-! ## Variables -/

/-- What a logical line says. -/
inductive Line where
  | blank
  | assignment (name value : String)
  | malformed

/-- The name at the beginning, and what follows it. -/
def name? (cs : List Char) : Option (List Char × List Char) :=
  match cs with
  | [] => none
  | c :: _ =>
    if c.isAlpha || c = '_' then
      let isPart (c : Char) : Bool := c.isAlphanum || c = '_' || c = '.'
      some (cs.takeWhile isPart, Text.trimStart (cs.dropWhile isPart))
    else none

/-- What follows the equals sign. -/
def afterEquals? : List Char → Option (List Char)
  | '=' :: cs => some (Text.trimStart cs)
  | _ => none

/-- The name that is given a value, and the text of the value. -/
def assignment? (cs : List Char) : Option (List Char × List Char) := do
  let (name, rest) ← name? cs
  match afterEquals? rest with
  | some text => return (name, text)
  | none =>
    if name = "export".toList then
      let (name, rest) ← name? rest
      return (name, ← afterEquals? rest)
    else none

/-- What a logical line says. -/
def readLine (vars : Variables) (line : List Char) : Line :=
  let cs := Text.trimChars line
  if cs = [] ∨ cs.head? = some '#' then .blank
  else
    match assignment? cs with
    | none => .malformed
    | some (name, text) =>
      if text.head? = some '#' then .assignment (String.ofList name) ""
      else
        match value? vars {} text with
        | some v => .assignment (String.ofList name) (String.ofList v)
        | none => .malformed

/-- The variables that lines add to those that there are. -/
def readLines (vars : Variables) : List (List Char) → List (String × String)
  | [] => []
  | line :: lines =>
    match readLine vars line with
    | .blank => readLines vars lines
    | .malformed => []
    | .assignment name value =>
      match vars name with
      | some _ => readLines vars lines
      | none => (name, value) :: readLines (vars.adding [(name, value)]) lines

/-- The variables that a file adds to those that there are. -/
def bindings (vars : Variables) (bytes : List UInt8) : List (String × String) :=
  readLines vars (logicalLines .plain [] (lines bytes))

/-! ## Names -/

/-- The longest runs of characters of a class. -/
def runs (p : Char → Bool) : List Char → List (List Char)
  | [] => [[]]
  | c :: cs =>
    match p c, runs p cs with
    | true, run :: rest => (c :: run) :: rest
    | true, [] => [[c]]
    | false, rest => [] :: rest

/-- What stands between each opening brace and the next closing one. -/
def braced : List Char → List (List Char)
  | [] => []
  | c :: cs => if c = '\x7b' then cs.takeWhile (· ≠ '\x7d') :: braced cs else braced cs

/-- All names that a file may give a value to or refer to, and others. -/
def names (bytes : List UInt8) : List String :=
  let cs := (lines bytes).flatten
  let parts := runs (fun c => c.isAlphanum || c = '_' || c = '.') cs ++ runs Text.isAlphanumeric cs
    ++ braced cs
  (parts.map String.ofList).filter (· ≠ "")

end RecordQuery.EnvFile
