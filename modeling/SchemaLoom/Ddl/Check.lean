import SchemaLoom.Column.Catalog
import SchemaLoom.Table

/-!
# Checking a table definition

A definition becomes a table step by step: columns, search columns, primary key, column
groups, interleaving, indexes and search indexes. The first check that fails decides the
error, labelled with the part it is about.
-/
namespace SchemaLoom
namespace Ddl
open Compiled

def direction (desc : Bool) : String := if desc then "DESC" else "ASC"

/-- One column, after the columns in `done`. -/
def checkColumn (catalog : Catalog) (table : String) (done : List Column)
    (d : ColumnDefinition) : Compiled Column := do
  ensure (d.name ≠ "") (.missing "name of a column")
  ensure (!done.any (·.name = d.name))
    (.invalid ("column " ++ d.name ++ " is declared more than once."))
  let type ← catalog.resolveColumn ("table " ++ table) d
  ensure (!d.allowCommitTimestamp || (type.isPrimitive .timestamp && !type.isArray))
    (.invalid ("column " ++ d.name
      ++ " allows commit timestamp but is not a non-array timestamp."))
  return ⟨d.name, type, d.allowCommitTimestamp⟩

def checkColumns (catalog : Catalog) (table : String) (done : List Column) :
    List ColumnDefinition → Compiled (List Column)
  | [] => .ok done
  | d :: ds => do
    let c ← checkColumn catalog table done d
    checkColumns catalog table (done ++ [c]) ds

/-- A column that a search column may be made of. -/
def checkSource (table : String) (columns : List Column) (source : String) :
    Compiled Unit := do
  let c ← findColumn table columns source
  ensure (c.type.isPrimitive .string && !c.type.isArray)
    (.invalid ("column " ++ source ++ " must be a non-array string to be tokenized."))

def checkSearchColumn (table : String) (columns : List Column)
    (done : List SearchColumnDefinition) (d : SearchColumnDefinition) : Compiled Unit := do
  ensure (!columns.any (·.name = d.name) && !done.any (·.name = d.name))
    (.invalid ("search column " ++ d.name
      ++ " conflicts with another column of the same name."))
  ensure (!d.sourceColumns.isEmpty) (.missing "sourceColumns")
  forAll (checkSource table columns) d.sourceColumns

def checkSearchColumns (table : String) (columns : List Column)
    (done : List SearchColumnDefinition) :
    List SearchColumnDefinition → Compiled (List SearchColumnDefinition)
  | [] => .ok done
  | d :: ds => do
    within ("and when generating search column " ++ d.name)
      (checkSearchColumn table columns done d)
    checkSearchColumns table columns (done ++ [d]) ds

def checkKeyPart (table : String) (columns : List Column) (done : List KeyPart)
    (k : KeyColumn) : Compiled KeyPart := do
  let c ← findColumn table columns k.name
  ensure (!c.type.isArray)
    (.invalid ("primary key column " ++ k.name ++ " cannot be an array."))
  ensure (!done.any (·.name = k.name))
    (.invalid ("primary key column " ++ k.name ++ " is listed more than once."))
  return ⟨k.name, k.desc⟩

def checkKey (table : String) (columns : List Column) (done : List KeyPart) :
    List KeyColumn → Compiled (List KeyPart)
  | [] => .ok done
  | k :: ks => do
    let part ← checkKeyPart table columns done k
    checkKey table columns (done ++ [part]) ks

def checkGroup (table : String) (columns : List Column) (done : List ColumnGroupDefinition)
    (g : ColumnGroupDefinition) : Compiled Unit := do
  ensure (!done.any (·.name = g.name))
    (.invalid ("column group " ++ g.name ++ " is declared more than once."))
  within ("and when generating column group " ++ g.name)
    (forAll (fun name => (fun _ => ()) <$> findColumn table columns name) g.columns)

def checkGroups (table : String) (columns : List Column) (done : List ColumnGroupDefinition) :
    List ColumnGroupDefinition → Compiled (List ColumnGroupDefinition)
  | [] => .ok done
  | g :: gs => do
    checkGroup table columns done g
    checkGroups table columns (done ++ [g]) gs

/-- One position of a key shared with the parent table. -/
def checkKeyPosition (child parent : Table) (position : Nat) (c p : KeyPart) :
    Compiled Unit := do
  ensure (p.name = c.name)
    (.invalid ("primary key at position " ++ toString position ++ " must be " ++ p.name
      ++ " to match parent table " ++ parent.name ++ ", but is " ++ c.name ++ "."))
  ensure (p.desc = c.desc)
    (.invalid ("primary key " ++ c.name ++ " at position " ++ toString position ++ " must be "
      ++ direction p.desc ++ " to match parent table " ++ parent.name ++ "."))
  let parentColumn ← parent.column p.name
  let childColumn ← child.column c.name
  ensure (parentColumn.type = childColumn.type)
    (.invalid ("primary key " ++ c.name ++ " at position " ++ toString position ++ " has type "
      ++ childColumn.type.ddlWithNull ++ " but parent table " ++ parent.name ++ " has type "
      ++ parentColumn.type.ddlWithNull ++ "."))

/-- The positions both keys have, counted from `position`. -/
def checkKeyPositions (child parent : Table) (position : Nat) :
    List KeyPart → List KeyPart → Compiled Unit
  | c :: cs, p :: ps => do
    checkKeyPosition child parent position c p
    checkKeyPositions child parent (position + 1) cs ps
  | _, _ => .ok ()

/-- The key of an interleaved table properly extends the key of its parent. -/
def checkInterleave (child parent : Table) : Compiled Unit := do
  ensure (parent.primaryKey.length < child.primaryKey.length)
    (.invalid ("table " ++ child.name ++ " has " ++ toString child.primaryKey.length
      ++ " primary keys but must have more than the " ++ toString parent.primaryKey.length
      ++ " of parent table " ++ parent.name ++ "."))
  checkKeyPositions child parent 0 child.primaryKey parent.primaryKey

/-- The parent, where there is one, must be declared already. -/
def checkParent (registry : Registry) (t : Table) : Compiled Unit :=
  match t.interleave with
  | none => .ok ()
  | some i => within ("and when interleaving in " ++ i.parentTable) do
    let parent ← registry.table i.parentTable
    checkInterleave t parent

def checkIndex (t : Table) (index : IndexDefinition) : Compiled Unit := do
  ensure (index.name ≠ "") (.missing "name")
  ensure (!index.columns.isEmpty) (.missing "columns")
  forAll (fun k : KeyColumn => do
    let c ← t.column k.name
    ensure (!c.type.isArray)
      (.invalid ("column " ++ k.name ++ " is an array and cannot be indexed."))) index.columns

def checkPartitionColumn (t : Table) (name : String) : Compiled Unit := do
  let c ← t.column name
  ensure (!c.type.isArray)
    (.invalid ("partition by column " ++ name ++ " cannot be an array."))

def checkOrderColumn (t : Table) (index name : String) : Compiled Unit := do
  let c ← t.column name
  ensure (c.type.isPrimitive .int64 && !c.type.isArray && !c.type.nullable)
    (.invalid ("order by column " ++ name ++ " of search index " ++ index
      ++ " must be a non-array, non-nullable int64."))

def checkSearchIndex (t : Table) (index : SearchIndexDefinition) : Compiled Unit := do
  ensure (!index.columns.isEmpty) (.missing "columns")
  forAll (fun name => (fun _ => ()) <$> t.searchColumn name) index.columns
  forAll (checkPartitionColumn t) index.partitionByColumns
  forAll (checkOrderColumn t index.name) index.orderByColumns

end Ddl

open Ddl Compiled in
/-- The table a definition describes, judged against the tables declared before it. -/
def Table.ofDefinition (catalog : Catalog) (registry : Registry) (d : TableDefinition) :
    Compiled Table := do
  ensure (d.name ≠ "") (.missing "name")
  ensure (!d.columns.isEmpty) (.missing "columns")
  ensure (!d.primaryKeys.isEmpty) (.missing "primaryKeys")
  let columns ← checkColumns catalog d.name [] d.columns
  let searchColumns ← checkSearchColumns d.name columns [] d.searchColumns
  let primaryKey ← within "and when generating primary keys"
    (checkKey d.name columns [] d.primaryKeys)
  let columnGroups ← checkGroups d.name columns [] d.columnGroups
  let t : Table :=
    { name := d.name, columns, primaryKey, searchColumns, columnGroups,
      interleave := d.interleave, indexes := d.indexes, searchIndexes := d.searchIndexes }
  checkParent registry t
  forAll (fun i => within ("and when generating index " ++ i.name) (checkIndex t i)) d.indexes
  forAll (fun i => within ("and when generating search index " ++ i.name)
    (checkSearchIndex t i)) d.searchIndexes
  return t

end SchemaLoom
