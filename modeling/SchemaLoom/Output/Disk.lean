import SchemaLoom.Output.Sink

/-!
# Files

How a program reaches files, and a disk in memory that files can be kept on. Places on the
disk are lists of names from the working directory; a place outside of it begins with `..` or
the root.
-/
namespace SchemaLoom.Output

/-- Access to files from a program in `m`. Writing makes the directories it needs and tells
whether it succeeded. -/
structure FileAccess (m : Type → Type) where
  pathExists : String → m Bool
  readText : String → m (Option String)
  writeText : String → String → m Bool

/-- Writes files under a directory in order, up to the first failure. -/
def writeFiles {m : Type → Type} [Monad m] (fs : FileAccess m) (dir : String) :
    List (String × String) → m (Option (List String))
  | [] => pure (some [])
  | (path, content) :: rest => do
    let target := join dir path
    if ← fs.writeText target content then
      let more ← writeFiles fs dir rest
      return more.map (target :: ·)
    else return none

def Sink.writeAll {m : Type → Type} [Monad m] (s : Sink) (fs : FileAccess m) (dir : String) :
    m (Option (List String)) :=
  writeFiles fs dir s.renderAll

abbrev Place := List String

inductive Node where
  | directory
  | file (content : String)
deriving DecidableEq, Repr

structure Disk where
  nodes : List (Place × Node)
deriving Repr

namespace Disk

def empty : Disk := ⟨[]⟩

def root : String := "/"

/-- The directories that are there from the start. -/
def isGiven (p : Place) : Bool := p.all (· = "..") || p = [root]

def node? (d : Disk) (p : Place) : Option Node :=
  if isGiven p then some .directory else d.nodes.lookup p

def isDirectory (d : Disk) (p : Place) : Bool := d.node? p = some .directory

def above (p : Place) : Place :=
  if p = [root] then p
  else if p.all (· = "..") then p ++ [".."]
  else p.dropLast

/-- A name a file system takes. -/
def isName (name : String) : Bool := name.utf8ByteSize ≤ 255 && !name.toList.contains '\x00'

/-- The number of bytes from which on a path is too long for a file system. -/
def pathLimit : Nat := 4096

def isReachable (path : String) : Bool := path ≠ "" && path.utf8ByteSize < pathLimit

/-- The place one segment of a path away from a directory, whether or not it exists. -/
def move (p : Place) (segment : String) : Place :=
  if segment = "" || segment = "." then p
  else if segment = ".." then above p
  else p ++ [segment]

def pathSegments (path : String) : List String := (segments path.toList).map String.ofList

def startOf (path : String) : Place := if isRooted path then [root] else []

/-- The place a path leads to; every directory on the way must exist. -/
def locate (d : Disk) (path : String) : Option Place :=
  if isReachable path then
    (pathSegments path).foldlM (fun p segment =>
      let next := move p segment
      if d.isDirectory p && (d.node? next).isSome then some next else none) (startOf path)
  else none

def pathExists (d : Disk) (path : String) : Bool := (d.locate path).isSome

def readText (d : Disk) (path : String) : Option String :=
  match d.locate path >>= d.node? with
  | some (.file content) => some content
  | _ => none

def put (d : Disk) (p : Place) (n : Node) : Disk :=
  ⟨d.nodes.filter (·.1 ≠ p) ++ [(p, n)]⟩

/-- One step down a path, making the directory if there is nothing. -/
def enter (state : Disk × Place) (segment : String) : Option (Disk × Place) :=
  let (d, p) := state
  let next := move p segment
  match d.node? next with
  | some .directory => some (d, next)
  | some (.file _) => none
  | none => if isName segment then some (d.put next .directory, next) else none

def writeIn (d : Disk) (p : Place) (name content : String) : Disk × Bool :=
  let target := move p name
  if target.length = p.length + 1 && name ≠ ".." && isName name && !d.isDirectory target then
    (d.put target (.file content), true)
  else (d, false)

/-- Writes a file after making its directories. -/
def writeText (d : Disk) (path content : String) : Disk × Bool :=
  let parts := pathSegments path
  if isReachable path then
    match parts.dropLast.foldlM enter (d, startOf path) with
    | none => (d, false)
    | some (made, p) => made.writeIn p (parts.getLast?.getD "") content
  else (d, false)

def isInside (p : Place) : Bool := p.head? ≠ some ".." && p.head? ≠ some root

def insertByPath (entry : String × String) : List (String × String) → List (String × String)
  | [] => [entry]
  | e :: es => if entry.1 < e.1 then entry :: e :: es else e :: insertByPath entry es

/-- The files inside the working directory, in the order of their paths. -/
def files (d : Disk) : List (String × String) :=
  d.nodes.foldl (fun done (p, n) =>
    match n with
    | .file content => if isInside p then insertByPath ("/".intercalate p, content) done else done
    | .directory => done) []

def ofFiles (given : List (String × String)) : Disk :=
  given.foldl (fun d (path, content) => (d.writeText path content).1) empty

/-- File access that works on a disk in memory. -/
def access : FileAccess (StateM Disk) where
  pathExists path := return (← get).pathExists path
  readText path := return (← get).readText path
  writeText path content := modifyGet fun d =>
    let (next, done) := d.writeText path content
    (done, next)

end Disk
end SchemaLoom.Output
