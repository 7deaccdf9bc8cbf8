import SchemaLoom.Command.Run

/-!
# The program

Runs a command on the files of the machine. The result goes to standard output, an error to
standard error.
-/
namespace SchemaLoom
open Output Command

/-- The directory part of a path, empty if there is none. -/
def directoryOf (path : String) : String :=
  String.ofList ((path.toList.reverse.dropWhile (· ≠ '/')).reverse)

def machineFiles : FileAccess IO where
  pathExists path := do
    try
      let _ ← IO.FS.realPath path
      return true
    catch _ => return false
  readText path := do
    try
      let content ← IO.FS.readFile path
      return some content
    catch _ => return none
  writeText path content := do
    try
      let dir := directoryOf path
      if dir ≠ "" then IO.FS.createDirAll dir
      IO.FS.writeFile path content
      return true
    catch _ => return false

def usageText : UsageError → String
  | .helpWanted | .nothingGiven =>
    "Usage: spanner_gen [--config PATH] [--verbose] [--format table|json] COMMAND\n\n"
      ++ "Commands:\n"
      ++ "  generate --definition FILE [--out-dir DIR]  write schema and statement code\n"
      ++ "  ddl --definition FILE                       print the schema statements"
  | .versionWanted => "spanner_gen"
  | .missingSubcommand => "error: a command is required"
  | .missingRequired => "error: --definition is required"
  | .invalidValue => "error: an option has no or an invalid value"
  | .refusedValue => "error: the definition file does not exist"
  | .unknownArgument => "error: unexpected argument"
  | .repeatedOption => "error: an option is given more than once"
  | .invalidSubcommand => "error: unrecognized command"
  | .needlessValue => "error: an option takes no value"

def isRequest : UsageError → Bool
  | .helpWanted | .versionWanted => true
  | _ => false

end SchemaLoom

open SchemaLoom SchemaLoom.Command in
def main (args : List String) : IO UInt32 := do
  match ← call machineFiles args with
  | .printed text =>
    IO.println text
    return 0
  | .failed e =>
    IO.eprintln ("Error: " ++ e.message)
    return 1
  | .usage e =>
    if isRequest e then
      IO.println (usageText e)
      return 0
    else
      IO.eprintln (usageText e)
      return 2
