import SchemaLoom.Code.Render
import SchemaLoom.Output.Path

/-!
# The output sink

Content is collected file by file before anything is written. A file is a header, a set of
imports and a list of fragments; files keep the order in which they were first asked for. An index
beside the files says which of them belongs to a path.
-/
namespace SchemaLoom.Output

structure OutputFile where
  path : String
  header : Option String := none
  /-- In order, each once. -/
  imports : List String := []
  fragments : List String := []
deriving DecidableEq, Repr

namespace OutputFile

def useLine (path : String) : String := "use " ++ path ++ ";"

def sections (f : OutputFile) : List String :=
  f.header.toList
    ++ (if f.imports.isEmpty then [] else ["\n".intercalate (f.imports.map useLine)])
    ++ f.fragments

/-- Ends a text that is not empty with a line break. -/
def endLine (text : String) : String :=
  if text = "" || text.toList.getLast? = some '\n' then text else text ++ "\n"

/-- The sections with an empty line between them. -/
def render (f : OutputFile) : String := endLine ("\n\n".intercalate f.sections)

end OutputFile

/-- Numbers under paths. A path is found by every spelling of it. -/
structure PathIndex where
  entries : List (String × Nat)
deriving DecidableEq, Repr

namespace PathIndex

def empty : PathIndex := ⟨[]⟩

def find? (x : PathIndex) (path : String) : Option Nat :=
  (x.entries.find? (samePath path ·.1)).map (·.2)

/-- Puts a number under a path, in place of the one before. -/
def insert (x : PathIndex) (path : String) (number : Nat) : PathIndex :=
  ⟨(path, number) :: x.entries.filter (!samePath path ·.1)⟩

end PathIndex

structure Sink where
  files : List OutputFile
  index : PathIndex
deriving DecidableEq, Repr

namespace Sink

def empty : Sink := ⟨[], .empty⟩

def size (s : Sink) : Nat := s.files.length

/-- The number of the file at `path`, which is added if it is new. -/
def file (s : Sink) (path : String) : Nat × Sink :=
  match s.index.find? path with
  | some i => (i, s)
  | none =>
    let i := s.files.length
    (i, ⟨s.files ++ [{ path }], s.index.insert path i⟩)

def modify (s : Sink) (i : Nat) (f : OutputFile → OutputFile) : Sink :=
  { s with files := s.files.modify i f }

def push (s : Sink) (i : Nat) (fragment : String) : Sink :=
  s.modify i fun f => { f with fragments := f.fragments ++ [fragment] }

def addImport (s : Sink) (i : Nat) (path : String) : Sink :=
  s.modify i fun f => { f with imports := Code.insertSorted path f.imports }

def setHeader (s : Sink) (i : Nat) (header : String) : Sink :=
  s.modify i fun f => { f with header := some header }

def render? (s : Sink) (i : Nat) : Option String := (s.files[i]?).map (·.render)

def renderAll (s : Sink) : List (String × String) := s.files.map fun f => (f.path, f.render)

end Sink
end SchemaLoom.Output
