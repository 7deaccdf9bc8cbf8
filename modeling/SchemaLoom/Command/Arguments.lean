import SchemaLoom.Command.Config
import SchemaLoom.Output.Disk

/-!
# Command line arguments

Arguments are read from left to right. Options that apply everywhere may stand before or
after the command. The value of an option is judged when the next option is met or the
arguments of its level end, so an argument that is no option at all is reported first.
-/
namespace SchemaLoom.Command
open Output

/-- Why the arguments do not name a command to run. -/
inductive UsageError where
  /-- Nothing was given. -/
  | nothingGiven
  | missingSubcommand
  | helpWanted
  | versionWanted
  | missingRequired
  | invalidValue
  /-- A value was refused by its check. -/
  | refusedValue
  | unknownArgument
  /-- An option stands twice at one level. -/
  | repeatedOption
  | invalidSubcommand
  /-- A value was attached to an option that takes none. -/
  | needlessValue
deriving DecidableEq, Repr

inductive Subcommand where
  | generate (definition : String) (outDir : Option String)
  | ddl (definition : String)
  | unknown (name : String)
deriving DecidableEq, Repr

structure Invocation where
  config : Option String
  format : Option OutputFormat
  command : Subcommand
deriving DecidableEq, Repr

inductive Flag where
  | verbose
  | help
  | version
deriving DecidableEq, Repr

inductive Setting where
  | config
  | format
  | definition
  | outDir
deriving DecidableEq, Repr

inductive Switch where
  | flag (f : Flag)
  | setting (s : Setting)
deriving DecidableEq, Repr

/-- Where arguments stand: before the command or after it. -/
inductive Level where
  | top
  | generate
  | ddl
deriving DecidableEq, Repr

def Level.accepts (l : Level) : Switch → Bool
  | .flag .version => l = .top
  | .setting .definition => l ≠ .top
  | .setting .outDir => l = .generate
  | _ => true

def longSwitches : List (String × Switch) :=
  [("config", .setting .config), ("verbose", .flag .verbose), ("format", .setting .format),
   ("definition", .setting .definition), ("out-dir", .setting .outDir), ("help", .flag .help),
   ("version", .flag .version)]

def shortSwitches : List (Char × Switch) :=
  [('c', .setting .config), ('v', .flag .verbose), ('d', .setting .definition),
   ('o', .setting .outDir), ('h', .flag .help), ('V', .flag .version)]

def Level.long? (l : Level) (name : String) : Option Switch :=
  (longSwitches.lookup name).filter l.accepts

def Level.short? (l : Level) (c : Char) : Option Switch :=
  (shortSwitches.lookup c).filter l.accepts

structure Given where
  verbose : Bool := false
  config : Option String := none
  format : Option OutputFormat := none
  definition : Option String := none
  outDir : Option String := none
deriving DecidableEq, Repr

namespace Given

def isNothing (g : Given) : Bool := g = {}

def has (g : Given) : Setting → Bool
  | .config => g.config.isSome
  | .format => g.format.isSome
  | .definition => g.definition.isSome
  | .outDir => g.outDir.isSome

end Given

structure Scan where
  given : Given := {}
  /-- An option that is not settled, with its value once that has been met. -/
  pending : Option (Setting × Option String) := none

namespace Scan

variable {m : Type → Type} [Monad m]

/-- Sets an option that has not been set at this level. -/
def assign (fs : FileAccess m) (g : Given) (k : Setting) (value : String) :
    ExceptT UsageError m Given := do
  if g.has k then throw .repeatedOption
  match k with
  | .config => if value = "" then throw .invalidValue else return { g with config := some value }
  | .outDir => if value = "" then throw .invalidValue else return { g with outDir := some value }
  | .format =>
    match OutputFormat.named.lookup value with
    | some f => return { g with format := some f }
    | none => throw .invalidValue
  | .definition =>
    if ← fs.pathExists value then return { g with definition := some value }
    else throw .refusedValue

def settle (fs : FileAccess m) (s : Scan) : ExceptT UsageError m Given :=
  match s.pending with
  | none => return s.given
  | some (_, none) => throw .invalidValue
  | some (k, some value) => assign fs s.given k value

/-- An option whose value, if any, stands in the next argument. -/
def await (fs : FileAccess m) (s : Scan) (k : Setting) : ExceptT UsageError m Scan := do
  let given ← s.settle fs
  return ⟨given, some (k, none)⟩

/-- An option with its value attached. -/
def attach (fs : FileAccess m) (s : Scan) (k : Setting) (value : String) :
    ExceptT UsageError m Scan := do
  let given ← s.settle fs
  let given ← assign fs given k value
  return { given }

def raise (fs : FileAccess m) (s : Scan) (f : Flag) : ExceptT UsageError m Scan := do
  let given ← s.settle fs
  match f with
  | .help => throw .helpWanted
  | .version => throw .versionWanted
  | .verbose =>
    if given.verbose then throw .repeatedOption
    else return { given := { given with verbose := true } }

/-- An argument that begins with two dashes, without them. -/
def long (fs : FileAccess m) (l : Level) (s : Scan) (cs : List Char) :
    ExceptT UsageError m Scan := do
  let name := String.ofList (cs.takeWhile (· ≠ '='))
  let value : Option String := match cs.dropWhile (· ≠ '=') with
    | [] => none
    | _ :: rest => some (String.ofList rest)
  match l.long? name, value with
  | none, _ => throw .unknownArgument
  | some (.flag _), some _ => throw .needlessValue
  | some (.flag f), none => s.raise fs f
  | some (.setting k), some v => s.attach fs k v
  | some (.setting k), none => s.await fs k

/-- The letters after one dash: flags, and at the end an option with or without its value. -/
def short (fs : FileAccess m) (l : Level) (s : Scan) : List Char → ExceptT UsageError m Scan
  | [] => return s
  | c :: cs =>
    match l.short? c with
    | none => throw .unknownArgument
    | some (.flag f) => do
      let next ← s.raise fs f
      next.short fs l cs
    | some (.setting k) =>
      match cs with
      | [] => s.await fs k
      | '=' :: value => s.attach fs k (String.ofList value)
      | value => s.attach fs k (String.ofList value)

end Scan

inductive Shape where
  | escape
  | long (rest : List Char)
  | short (letters : List Char)
  | word
deriving DecidableEq, Repr

def shapeOf (arg : String) : Shape :=
  match arg.toList with
  | ['-', '-'] => .escape
  | '-' :: '-' :: rest => .long rest
  | '-' :: c :: cs => .short (c :: cs)
  | _ => .word

variable {m : Type → Type} [Monad m]

def scanCommand (fs : FileAccess m) (l : Level) : Scan → List String →
    ExceptT UsageError m Given
  | s, [] => s.settle fs
  | s, arg :: rest =>
    match shapeOf arg with
    | .escape => if rest.isEmpty then s.settle fs else throw .unknownArgument
    | .long cs => do
      let next ← s.long fs l cs
      scanCommand fs l next rest
    | .short cs => do
      let next ← s.short fs l cs
      scanCommand fs l next rest
    | .word =>
      match s.pending with
      | some (k, none) => scanCommand fs l { s with pending := some (k, some arg) } rest
      | _ => throw .unknownArgument

/-- The command that follows the arguments before it, with everything after it. -/
inductive Found where
  | nothing
  | command (l : Level) (rest : List String)
  | help (rest : List String)
  | unknown (name : String)

def scanTop (fs : FileAccess m) : Scan → List String → ExceptT UsageError m (Scan × Found)
  | s, [] => return (s, .nothing)
  | s, arg :: rest =>
    match shapeOf arg with
    | .escape =>
      match rest with
      | [] => return (s, .nothing)
      | name :: _ => return (s, .unknown name)
    | .long cs => do
      let next ← s.long fs .top cs
      scanTop fs next rest
    | .short cs => do
      let next ← s.short fs .top cs
      scanTop fs next rest
    | .word =>
      match s.pending with
      | some (k, none) => scanTop fs { s with pending := some (k, some arg) } rest
      | _ =>
        match arg with
        | "generate" => return (s, .command .generate rest)
        | "ddl" => return (s, .command .ddl rest)
        | "help" => return (s, .help rest)
        | _ => return (s, .unknown arg)

/-- The error that asking for help ends with: help is there for the commands only. -/
def helpError : List String → UsageError
  | [] => .helpWanted
  | [name] => if ["generate", "ddl", "help"].contains name then .helpWanted else .invalidSubcommand
  | _ => .invalidSubcommand

/-- The command of a level, whose definition must have been given. -/
def commandOf (l : Level) (g : Given) : Except UsageError Subcommand :=
  match g.definition with
  | none => .error .missingRequired
  | some d => if l = .generate then .ok (.generate d g.outDir) else .ok (.ddl d)

/-- What the arguments ask for; options after the command win over those before it. -/
def parseArguments (fs : FileAccess m) (args : List String) :
    ExceptT UsageError m Invocation := do
  let (s, found) ← scanTop fs {} args
  match found with
  | .nothing =>
    let given ← s.settle fs
    if given.isNothing then throw .nothingGiven else throw .missingSubcommand
  | .help rest => throw (helpError rest)
  | .unknown name =>
    let given ← s.settle fs
    return ⟨given.config, given.format, .unknown name⟩
  | .command l rest =>
    let inner ← scanCommand fs l {} rest
    let command ← ExceptT.mk (pure (commandOf l inner))
    let outer ← s.settle fs
    return ⟨inner.config.or outer.config, inner.format.or outer.format, command⟩

end SchemaLoom.Command
