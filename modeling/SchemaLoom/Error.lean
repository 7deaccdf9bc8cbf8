/-!
# Compile errors

An error has one cause and a chain of labels that say where it arose, the outermost first.
The message is the labels and the text of the cause, joined by commas; the category is that
of the cause.
-/
namespace SchemaLoom

inductive ErrorCategory where
  /-- A required field is absent or empty. -/
  | missingField
  /-- A table, column, column group, search column, type or alias does not exist. -/
  | unresolvedReference
  /-- A reference exists but its shape is wrong for the use. -/
  | invalidShape
  /-- An operator, function, join type or mode is not one of the known ones. -/
  | unknownEnumerant
deriving DecidableEq, Repr

inductive CompileError where
  | missing (field : String)
  /-- `scope` follows the name word for word. -/
  | notFound (what name scope : String)
  | invalid (reason : String)
  | unsupported (what value : String)
  | context (label : String) (inner : CompileError)
deriving DecidableEq, Repr

namespace CompileError

def message : CompileError → String
  | .missing field => field ++ " is missing."
  | .notFound what name scope => what ++ " " ++ name ++ " is not found" ++ scope ++ "."
  | .invalid reason => reason
  | .unsupported what value => what ++ " " ++ value ++ " is not supported."
  | .context label inner => label ++ ", " ++ inner.message

/-- The cause, without its labels. -/
def root : CompileError → CompileError
  | .context _ inner => inner.root
  | e => e

/-- The labels, outermost first. -/
def labels : CompileError → List String
  | .context label inner => label :: inner.labels
  | _ => []

def category : CompileError → ErrorCategory
  | .missing _ => .missingField
  | .notFound .. => .unresolvedReference
  | .invalid _ => .invalidShape
  | .unsupported .. => .unknownEnumerant
  | .context _ inner => inner.category

end CompileError

abbrev Compiled (α : Type) := Except CompileError α

namespace Compiled

def within {α : Type} (label : String) : Compiled α → Compiled α
  | .ok a => .ok a
  | .error e => .error (.context label e)

def ensure (condition : Bool) (e : CompileError) : Compiled Unit :=
  if condition then .ok () else .error e

def orError {α : Type} (e : CompileError) : Option α → Compiled α
  | some a => .ok a
  | none => .error e

/-- Runs a check on every element in order. -/
def forAll {α : Type} (check : α → Compiled Unit) : List α → Compiled Unit
  | [] => .ok ()
  | a :: as => check a >>= fun _ => forAll check as

end Compiled
end SchemaLoom
