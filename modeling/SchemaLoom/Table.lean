import SchemaLoom.Column.Basic
import SchemaLoom.Definition.Basic
import SchemaLoom.Error

/-!
# Tables and the registry

A table that has passed its checks, and the registry of the tables declared so far, in the
order of their declaration. Everything is found by name.
-/
namespace SchemaLoom

structure Column where
  name : String
  type : ColumnType
  allowCommitTimestamp : Bool := false
deriving DecidableEq, Repr

structure KeyPart where
  name : String
  desc : Bool
deriving DecidableEq, Repr

structure Table where
  name : String
  columns : List Column
  primaryKey : List KeyPart
  searchColumns : List SearchColumnDefinition
  columnGroups : List ColumnGroupDefinition
  interleave : Option InterleaveDefinition
  indexes : List IndexDefinition
  searchIndexes : List SearchIndexDefinition
deriving DecidableEq, Repr

namespace Table

/-- The place named in errors about the table's parts. -/
def scope (table : String) : String := " in table " ++ table

end Table

def findColumn (table : String) (columns : List Column) (name : String) : Compiled Column :=
  Compiled.orError (.notFound "column" name (Table.scope table))
    (columns.find? (·.name = name))

namespace Table

def column (t : Table) (name : String) : Compiled Column := findColumn t.name t.columns name

def searchColumn (t : Table) (name : String) : Compiled SearchColumnDefinition :=
  Compiled.orError (.notFound "search column" name (scope t.name))
    (t.searchColumns.find? (·.name = name))

def columnGroup (t : Table) (name : String) : Compiled (List String) :=
  Compiled.orError (.notFound "column group" name (scope t.name))
    ((t.columnGroups.find? (·.name = name)).map (·.columns))

def isPrimaryKey (t : Table) (name : String) : Bool := t.primaryKey.any (·.name = name)

end Table

structure Registry where
  tables : List Table
deriving DecidableEq, Repr

namespace Registry

def empty : Registry := ⟨[]⟩

def find? (r : Registry) (name : String) : Option Table := r.tables.find? (·.name = name)

def table (r : Registry) (name : String) : Compiled Table :=
  Compiled.orError (.notFound "table" name "") (r.find? name)

def contains (r : Registry) (name : String) : Bool := (r.find? name).isSome

def size (r : Registry) : Nat := r.tables.length

def names (r : Registry) : List String := r.tables.map (·.name)

/-- Adds a table at the end, unless its name is taken. -/
def register (r : Registry) (t : Table) : Compiled Registry :=
  if r.contains t.name then
    .error (.invalid ("table " ++ t.name ++ " is declared more than once."))
  else .ok ⟨r.tables ++ [t]⟩

end Registry
end SchemaLoom
