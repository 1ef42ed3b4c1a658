import RecordQuery.Program

/-!
# Running the program

Gathers the variables and files that a run may look at, lets `Program` decide what to print, and
prints it.
-/

namespace RecordQuery

/-- A code of the system, which some calls give negated. -/
def systemCode (code : UInt32) : UInt32 := if code < 0x80000000 then code else 0 - code

/-- Why a path could not be read, from the code of the system where there is one. -/
def readFault (e : IO.Error) : ReadFault :=
  match e with
  | .noFileOrDirectory .. => .missing
  | .inappropriateType _ code _ =>
    if systemCode code = 20 then .behindFile else .directory
  | .invalidArgument _ code _ =>
    if systemCode code = 36 then .nameTooLong else .broken (toString e)
  | e => .broken (toString e)

/-- What is found at a path. -/
def readEntry (path : String) : IO Entry := do
  if path.toList.contains '\x00' then
    return .unreadable .nulInName
  try
    return .file (← IO.FS.readBinFile path).data.toList
  catch e =>
    return .unreadable (readFault e)

/-- What is found at some paths; nothing is found at others. -/
def readEntries (paths : List String) : IO Storage := do
  let entries ← paths.mapM fun path => return (path, ← readEntry path)
  return fun path => (entries.lookup path).getD (.unreadable .missing)

/-- The values of some variables. -/
def readVariables (names : List String) : IO Variables := do
  let names := names.filter fun name => !name.toList.contains '\x00'
  let values ← names.mapM fun name => return (name, ← IO.getEnv name)
  return fun name => (values.lookup name).join

end RecordQuery

open RecordQuery in
/-- Runs the program. -/
def main (words : List String) : IO UInt32 := do
  let envFile ← readEntries [Program.envFile]
  let mentioned := match (envFile Program.envFile).bytes with
    | .ok bytes => EnvFile.names bytes
    | .error _ => []
  let env ← readVariables
    (CommandLine.Parameter.shared.filterMap CommandLine.Parameter.environmentName? ++ mentioned)
  let outcome ← match Program.invocation env envFile words with
    | .error e => pure (Program.refuse e)
    | .ok i => pure (Program.perform (← readEntries (Program.files i)) i)
  IO.print outcome.output
  IO.eprint outcome.errors
  return outcome.code.toUInt32
