import RecordQuery.CommandLine

/-!
# Reading command lines

A command line is a list of words. `CommandLine.read` goes through them once: shared options, the
name of a command, and the options and the argument of that command. A value is looked at when the
next option begins or the words end, and a word that no parameter takes is refused before that, so
of several faults the one that is met first in this order is reported.

Options that are missing are taken from the environment. Those given to the command count before
those given in front of it.
-/

namespace RecordQuery.CommandLine

/-- The name of a command. -/
inductive Verb where
  | query
  | schema
  deriving DecidableEq

/-- The command of a word. -/
def Verb.ofText? : String → Option Verb
  | "query" => some .query
  | "schema" => some .schema
  | _ => none

/-- The options behind a command, or in front of it where there is none yet. -/
def options : Option Verb → List Parameter
  | none => Parameter.shared ++ [.version]
  | some .query => Parameter.shared ++ [.query, .filter, .sort, .index, .size, .pretty]
  | some .schema => Parameter.shared

/-- What a word looks like. -/
inductive Word where
  /-- Two hyphens: whatever follows is no option. -/
  | separator
  | named (name : List Char) (value : Option (List Char))
  | lettered (letters : List Char)
  | plain

/-- What a word looks like. -/
def Word.ofChars : List Char → Word
  | ['-', '-'] => .separator
  | '-' :: '-' :: cs =>
    let (name, value) := Text.splitFirst '=' cs
    .named name value
  | '-' :: c :: cs => .lettered (c :: cs)
  | _ => .plain

/-- What has been read in front of a command or behind it. -/
structure Progress where
  /-- The command, once its name has been read. -/
  verb : Option Verb := none
  given : Given := {}
  /-- A parameter whose value is still missing or has not been looked at. -/
  pending : Option (Parameter × Option String) := none
  /-- Whether the argument without a name has been seen. -/
  hasArgument : Bool := false
  /-- Whether options are over. -/
  isTrailing : Bool := false

namespace Progress

/-- The option of a name. -/
def named? (s : Progress) (name : List Char) : Option Parameter :=
  (options s.verb).find? fun p => p.name?.map String.toList == some name

/-- The option of a letter. -/
def lettered? (s : Progress) (c : Char) : Option Parameter :=
  (options s.verb).find? fun p => p.letter? == some c

/-- Looks at the value of the pending parameter. -/
def settle (s : Progress) : Except UsageError Progress :=
  match s.pending with
  | none => pure s
  | some (_, none) => throw .invalidValue
  | some (p, some v) => do return { s with given := ← s.given.put p v, pending := none }

/-- Whether the next word is the value of an option. -/
def awaits (s : Progress) : Bool :=
  match s.pending with
  | some (_, none) => !s.isTrailing
  | _ => false

/-- Gives an option a value that stands in the same word. -/
def assign (s : Progress) (p : Parameter) (v : List Char) : Except UsageError Progress := do
  let s ← s.settle
  return { s with given := ← s.given.put p (String.ofList v) }

/-- Waits for the value of an option. -/
def await (s : Progress) (p : Parameter) : Except UsageError Progress := do
  let s ← s.settle
  return { s with pending := some (p, none) }

/-- Reads an option by name. -/
def readNamed (s : Progress) (name : List Char) (value : Option (List Char)) :
    Except UsageError Progress :=
  match s.named? name with
  | none => throw .unknownArgument
  | some p =>
    match value with
    | some v => if p.isFlag then throw .tooManyValues else s.assign p v
    | none => if p.isFlag then s.assign p [] else s.await p

/-- Reads options by their letters; what follows the letter of an option with a value is the value,
an equals sign between them not counting. -/
def readLettered (s : Progress) : List Char → Except UsageError Progress
  | [] => pure s
  | c :: cs =>
    match s.lettered? c with
    | none => throw .unknownArgument
    | some p =>
      if p.isFlag then do
        let s ← s.assign p []
        readLettered s cs
      else
        match cs with
        | [] => s.await p
        | '=' :: v => s.assign p v
        | v => s.assign p v

/-- Reads a word that is no option. -/
def readPlain (s : Progress) (word : String) : Except UsageError Progress :=
  if s.awaits then
    return { s with pending := s.pending.map fun p => (p.1, some word) }
  else
    match s.verb with
    | some _ =>
      if s.hasArgument then throw .unknownArgument
      else do
        let s ← s.settle
        return { s with pending := some (.data, some word), hasArgument := true }
    | none =>
      if s.isTrailing && (word = "help" || (Verb.ofText? word).isSome) then throw .unknownArgument
      else throw .invalidCommand

/-- Reads a word that is not the name of a command. -/
def readWord (s : Progress) (word : String) : Except UsageError Progress :=
  if s.isTrailing then s.readPlain word
  else
    match Word.ofChars word.toList with
    | .separator => return { s with isTrailing := true }
    | .named name value => s.readNamed name value
    | .lettered letters => s.readLettered letters
    | .plain => s.readPlain word

end Progress

/-- What asking for help comes to, given the words behind it: at most one, naming a command or help
itself. -/
def helpOn : List String → UsageError
  | [] => .helpWanted
  | [word] => if word = "help" || (Verb.ofText? word).isSome then .helpWanted else .invalidCommand
  | _ => .invalidCommand

/-- Reads words up to the name of a command; what follows it is left. -/
def readWords (s : Progress) :
    List String → Except UsageError (Progress × Option (Verb × List String))
  | [] => pure (s, none)
  | word :: words =>
    if s.verb.isSome || s.isTrailing || s.awaits then do
      let s ← s.readWord word
      readWords s words
    else if word = "help" then throw (helpOn words)
    else
      match Verb.ofText? word with
      | some v => pure (s, some (v, words))
      | none => do
        let s ← s.readWord word
        readWords s words

/-- The command of a name and the values behind it. -/
def Given.command (g : Given) : Verb → Except UsageError Command
  | .schema =>
    match g.data with
    | none => throw .missingArgument
    | some data => pure (.schema data)
  | .query =>
    if g.query.isSome && g.filter.isSome then throw .argumentConflict
    else
      match g.data with
      | none => throw .missingArgument
      | some data =>
        pure (.query ⟨data, g.query, g.filter, g.sort, g.index.getD 0, g.size⟩ g.pretty.isSome)

/-- The command and the settings of a command line. -/
def read (env : String → Option String) (words : List String) : Except UsageError Invocation := do
  let (front, rest) ← readWords {} words
  match rest with
  | none => do
    let front ← front.settle
    let given ← front.given.fill env
    throw (if given.overrides = {} then .nothingGiven else .missingCommand)
  | some (verb, words) => do
    let (back, _) ← readWords { verb := some verb } words
    let back ← back.settle
    let _ ← back.given.fill env
    let command ← back.given.command verb
    let front ← front.settle
    let _ ← front.given.fill env
    let both : Given := { overrides := back.given.overrides.or front.given.overrides }
    return ⟨command, (← both.fill env).overrides⟩

end RecordQuery.CommandLine
