import SchemaLoom.Table

/-!
# Aliases in scope

The tables a statement can see, each under its alias, in the order in which they came into
scope. A column without an alias belongs to the first of them.
-/
namespace SchemaLoom

structure Scope where
  defaultAlias : String
  entries : List (String × Table)
deriving Repr

namespace Scope

def single (aliasName : String) (t : Table) : Scope := ⟨aliasName, [(aliasName, t)]⟩

def aliases (s : Scope) : List String := s.entries.map (·.1)

def add (s : Scope) (aliasName : String) (t : Table) : Compiled Scope :=
  if s.aliases.contains aliasName then
    .error (.invalid ("table alias " ++ aliasName ++ " is used more than once."))
  else .ok { s with entries := s.entries ++ [(aliasName, t)] }

/-- The alias that is meant and its table. -/
def table (s : Scope) (aliasName : Option String) : Compiled (String × Table) :=
  let name := aliasName.getD s.defaultAlias
  Compiled.orError (.notFound "table alias" name "") (s.entries.find? (·.1 = name))

def column (s : Scope) (ref : ColumnRef) : Compiled (String × Column) := do
  let (aliasName, t) ← s.table ref.table
  let c ← t.column ref.name
  return (aliasName, c)

def searchColumn (s : Scope) (ref : ColumnRef) :
    Compiled (String × SearchColumnDefinition) := do
  let (aliasName, t) ← s.table ref.table
  let c ← t.searchColumn ref.name
  return (aliasName, c)

end Scope

/-- A name after its alias, where it has one. -/
def qualify (table : Option String) (name : String) : String :=
  match table with
  | some t => t ++ "." ++ name
  | none => name

def ColumnRef.describe (ref : ColumnRef) : String := qualify ref.table ref.name

end SchemaLoom
