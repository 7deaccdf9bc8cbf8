import SchemaLoom.Command.Arguments
import SchemaLoom.Definition.Reader
import SchemaLoom.Pass

/-!
# Running a command

The configuration is read first, then the definition, then the command does its work and its
result is formatted for a reader or as JSON.
-/
namespace SchemaLoom.Command
open Output

inductive RunError where
  | compile (error : CompileError)
  | unknownCommand (name : String)
  | unreadable (path : String)
  | invalidConfig (path : String)
  | invalidDefinition (path : String)
  | unwritable (dir : String)
deriving DecidableEq, Repr

def RunError.message : RunError → String
  | .compile e => e.message
  | .unknownCommand name => "Unknown command: " ++ name
  | .unreadable path => "Failed to read " ++ path
  | .invalidConfig path => "Invalid JSON in " ++ path
  | .invalidDefinition path => "Invalid definition in " ++ path
  | .unwritable dir => "Failed to write to " ++ dir

structure WrittenFile where
  path : String
  bytes : Nat
deriving DecidableEq, Repr

/-- What a generation run reports. -/
structure Summary where
  database : String
  tables : Nat
  statements : List String
  files : List WrittenFile
deriving DecidableEq, Repr

namespace Summary

def toTable (s : Summary) : String :=
  "Generated " ++ s.database ++ ":\n  Tables: " ++ toString s.tables ++ "\n  Statements: "
    ++ toString s.statements.length ++ "\n"
    ++ "".intercalate (s.statements.map fun name => "    " ++ name ++ "\n")
    ++ "  Files:\n"
    ++ "".intercalate (s.files.map fun f =>
        "    " ++ f.path ++ " (" ++ toString f.bytes ++ " bytes)\n")

def toJson (s : Summary) : Json :=
  .object [("database", .string s.database), ("tables", .nat s.tables),
    ("statements", .array (s.statements.map .string)),
    ("files", .array (s.files.map fun f =>
      .object [("path", .string f.path), ("bytes", .nat f.bytes)]))]

def format (s : Summary) : OutputFormat → String
  | .table => s.toTable
  | .json => s.toJson.pretty

end Summary

/-- The schema statements one a line, or the schema file. -/
def formatDdl (d : DdlArtifact) : OutputFormat → String
  | .table => "\n".intercalate (d.tables.flatMap fun t =>
      (t.createTable ++ ";") :: t.indexes.map (·.createIndex ++ ";"))
  | .json => d.text

variable {m : Type → Type} [Monad m]

def readOr (fs : FileAccess m) (path : String) : ExceptT RunError m String := do
  match ← fs.readText path with
  | some content => return content
  | none => throw (.unreadable path)

def loadConfig (fs : FileAccess m) (path : String) : ExceptT RunError m Config := do
  match Config.parse? (← readOr fs path) with
  | some c => return c
  | none => throw (.invalidConfig path)

/-- The named configuration, else the one in the working directory, else the defaults. -/
def resolveConfig (fs : FileAccess m) : Option String → ExceptT RunError m Config
  | some path => loadConfig fs path
  | none => do
    if ← fs.pathExists Config.fileName then loadConfig fs Config.fileName else return {}

def loadDefinition (fs : FileAccess m) (path : String) :
    ExceptT RunError m DatabaseDefinition := do
  match DatabaseDefinition.parse? (← readOr fs path) with
  | some d => return d
  | none => throw (.invalidDefinition path)

/-- The definition at `path` and what it generates. -/
def generateFrom (fs : FileAccess m) (path : String) :
    ExceptT RunError m (DatabaseDefinition × Generated) := do
  let d ← loadDefinition fs path
  match d.generate with
  | .ok g => return (d, g)
  | .error e => throw (.compile e)

def runGenerate (fs : FileAccess m) (config : Config) (path : String)
    (outDir : Option String) : ExceptT RunError m Summary := do
  let (d, g) ← generateFrom fs path
  let sink := g.emit d config.runtimePath .empty
  let dir := outDir.getD config.outDir
  match ← ExceptT.lift (sink.writeAll fs dir) with
  | none => throw (.unwritable dir)
  | some written =>
    return { database := g.name
             tables := g.ddl.tables.length
             statements := g.statements.map (·.name)
             files := (written.zip sink.renderAll).map fun (target, _, content) =>
               ⟨target, content.utf8ByteSize⟩ }

/-- Runs a command and gives the text it prints. -/
def run (fs : FileAccess m) (i : Invocation) : ExceptT RunError m String := do
  let config ← resolveConfig fs i.config
  let format := i.format.getD config.format
  match i.command with
  | .generate path outDir => return (← runGenerate fs config path outDir).format format
  | .ddl path =>
    let (_, g) ← generateFrom fs path
    return formatDdl g.ddl format
  | .unknown name => throw (.unknownCommand name)

inductive Outcome where
  | usage (error : UsageError)
  | failed (error : RunError)
  | printed (text : String)

def call (fs : FileAccess m) (args : List String) : m Outcome := do
  match ← (parseArguments fs args).run with
  | .error e => return .usage e
  | .ok i =>
    match ← (run fs i).run with
    | .error e => return .failed e
    | .ok text => return .printed text

end SchemaLoom.Command
