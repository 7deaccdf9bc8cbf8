import SchemaLoom.Ddl.Check

/-!
# Schema statements

For every table the statement that creates it, one statement for each column that adds it to
an older version of the table, and the statements that create its indexes.
-/
namespace SchemaLoom

structure ColumnDdl where
  name : String
  addColumn : String
deriving DecidableEq, Repr

structure IndexDdl where
  name : String
  createIndex : String
deriving DecidableEq, Repr

structure TableDdl where
  name : String
  columns : List ColumnDdl
  createTable : String
  indexes : List IndexDdl
deriving DecidableEq, Repr

/-- The statements for every table, in the order of declaration. -/
structure DdlArtifact where
  tables : List TableDdl
deriving DecidableEq, Repr

namespace Ddl

def commaJoin (parts : List String) : String := ", ".intercalate parts

def columnFragment (c : Column) : String :=
  c.name ++ " " ++ c.type.ddlWithNull
    ++ if c.allowCommitTimestamp then " OPTIONS(allow_commit_timestamp=true)" else ""

def searchColumnFragment (s : SearchColumnDefinition) : String :=
  s.name ++ " TOKENLIST AS (TOKENIZE_FULLTEXT(" ++ " || ' ' || ".intercalate s.sourceColumns
    ++ ")) HIDDEN"

/-- Every column and search column with its fragment, columns first. -/
def fragments (t : Table) : List (String × String) :=
  t.columns.map (fun c => (c.name, columnFragment c))
    ++ t.searchColumns.map (fun s => (s.name, searchColumnFragment s))

def keyFragment (k : KeyPart) : String := k.name ++ " " ++ direction k.desc

def interleaveFragment : Option InterleaveDefinition → String
  | none => ""
  | some i => ", INTERLEAVE IN PARENT " ++ i.parentTable
      ++ if i.cascadeOnDelete then " ON DELETE CASCADE" else ""

def createTable (t : Table) : String :=
  "CREATE TABLE " ++ t.name ++ " (" ++ commaJoin ((fragments t).map (·.2)) ++ ") PRIMARY KEY ("
    ++ commaJoin (t.primaryKey.map keyFragment) ++ ")" ++ interleaveFragment t.interleave

/-- A key column of an index; ascending is not spelt out. -/
def indexKeyFragment (k : KeyColumn) : String := k.name ++ if k.desc then " DESC" else ""

def createIndex (table : String) (i : IndexDefinition) : String :=
  "CREATE " ++ (if i.unique then "UNIQUE " else "")
    ++ (if i.nullFiltered then "NULL_FILTERED " else "") ++ "INDEX " ++ i.name ++ " ON " ++ table
    ++ "(" ++ commaJoin (i.columns.map indexKeyFragment) ++ ")"

/-- A clause over a list of columns, left out when there are none. -/
def listClause (keyword : String) (columns : List String) : String :=
  if columns.isEmpty then "" else keyword ++ commaJoin columns

def createSearchIndex (table : String) (i : SearchIndexDefinition) : String :=
  "CREATE SEARCH INDEX " ++ i.name ++ " ON " ++ table ++ "(" ++ commaJoin i.columns ++ ")"
    ++ listClause " PARTITION BY " i.partitionByColumns
    ++ listClause " ORDER BY " i.orderByColumns

end Ddl

open Ddl in
def Table.ddl (t : Table) : TableDdl where
  name := t.name
  columns := (fragments t).map fun (name, fragment) =>
    ⟨name, "ALTER TABLE " ++ t.name ++ " ADD COLUMN " ++ fragment⟩
  createTable := createTable t
  indexes := t.indexes.map (fun i => ⟨i.name, createIndex t.name i⟩)
    ++ t.searchIndexes.map (fun i => ⟨i.name, createSearchIndex t.name i⟩)

def tableLabel (name : String) : String := "When generating table " ++ name

/-- Checks a definition, registers the table and gives its schema statements. -/
def Registry.declare (catalog : Catalog) (r : Registry) (d : TableDefinition) :
    Compiled (TableDdl × Registry) :=
  Compiled.within (tableLabel d.name) do
    let t ← Table.ofDefinition catalog r d
    let next ← r.register t
    return (t.ddl, next)

end SchemaLoom
