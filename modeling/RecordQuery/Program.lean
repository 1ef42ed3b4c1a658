import RecordQuery.App
import RecordQuery.CommandLine.EnvFile
import RecordQuery.CommandLine.Reader

/-!
# The program

A whole run of the program as a function of its words, its environment and its files: what it prints
and its exit code. Variables of the environment file `.env` stand in for those that are not set.
-/

namespace RecordQuery.Program

/-- How a run came out. -/
structure Outcome where
  code : UInt8
  output : String := ""
  errors : String := ""

/-- The name and the version of the program. -/
def version : String := "dynq 0.1.0"

/-- How the program is used. -/
def usage : String :=
  "Usage: dynq [OPTIONS] query <DATA> [-q FILE | -f JSON] [-s FIELD[:asc|desc]]... "
    ++ "[-i INDEX] [-n SIZE] [--pretty]\n"
    ++ "       dynq [OPTIONS] schema <DATA>\n\n"
    ++ "Options: -c FILE, --page-size N, --max-page-size N, --cache BOOL, --cache-max-entries N, "
    ++ "--cache-ttl-secs N\n"

/-- The environment file. -/
def envFile : String := ".env"

/-- The variables of a run. -/
def environment (env : Variables) (storage : Storage) : Variables :=
  match (storage envFile).bytes with
  | .error _ => env
  | .ok bytes => env.adding (EnvFile.bindings env bytes)

/-- What the words ask for. -/
def invocation (env : Variables) (storage : Storage) (words : List String) :
    Except UsageError Invocation :=
  CommandLine.read (environment env storage) words

/-- The files that an invocation may read. -/
def files (i : Invocation) : List String :=
  [i.overrides.file.getD Settings.defaultFile] ++
    match i.command with
    | .query a _ => a.data :: a.queryFile.toList
    | .schema data => [data]

/-- The outcome of words that ask for nothing that can be done. -/
def refuse : UsageError → Outcome
  | .versionWanted => { code := 0, output := version ++ "\n" }
  | .helpWanted => { code := 0, output := usage }
  | _ => { code := 2, errors := usage }

/-- The outcome of an invocation. -/
def perform (storage : Storage) (i : Invocation) : Outcome :=
  match App.perform storage i with
  | .ok text => { code := 0, output := text }
  | .error e => { code := 1, errors := "\nError: " ++ e.message ++ "\n\n" }

/-- The outcome of a run. -/
def run (env : Variables) (storage : Storage) (words : List String) : Outcome :=
  match invocation env storage words with
  | .error e => refuse e
  | .ok i => perform storage i

end RecordQuery.Program
