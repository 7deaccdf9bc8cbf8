/-!
# Definitions

What an author writes: a database with its tables and statements. Operators, join types and
conflict modes stay as written; everything is judged when it is compiled.
-/
namespace SchemaLoom

inductive ExternalKind where
  | enum
  | message
  | service
deriving DecidableEq, Repr

/-- A type declared outside of the database definition. -/
structure ExternalDefinition where
  name : String
  kind : ExternalKind
  importPath : Option String := none
deriving DecidableEq, Repr

structure ColumnDefinition where
  name : String
  /-- A primitive name or the name of an external definition. -/
  typeName : String
  isArray : Bool := false
  nullable : Bool := false
  importPath : Option String := none
  allowCommitTimestamp : Bool := false
deriving DecidableEq, Repr

/-- A key column: a bare name, ascending, or a name with its direction. -/
inductive KeyColumn where
  | bare (name : String)
  | entry (name : String) (desc : Bool)
deriving DecidableEq, Repr

namespace KeyColumn

def name : KeyColumn → String
  | .bare n => n
  | .entry n _ => n

def desc : KeyColumn → Bool
  | .bare _ => false
  | .entry _ d => d

end KeyColumn

structure InterleaveDefinition where
  parentTable : String
  cascadeOnDelete : Bool := false
deriving DecidableEq, Repr

structure IndexDefinition where
  name : String
  columns : List KeyColumn
  unique : Bool := false
  nullFiltered : Bool := false
deriving DecidableEq, Repr

/-- A hidden column of tokens of one or more string columns. -/
structure SearchColumnDefinition where
  name : String
  sourceColumns : List String
deriving DecidableEq, Repr

structure SearchIndexDefinition where
  name : String
  /-- The search columns covered. -/
  columns : List String
  partitionByColumns : List String := []
  orderByColumns : List String := []
deriving DecidableEq, Repr

/-- A named list of columns that can be selected as one. -/
structure ColumnGroupDefinition where
  name : String
  columns : List String
deriving DecidableEq, Repr

structure TaskOptions where
  listPending : Option String := none
  getMetadata : Option String := none
  updateMetadata : Option String := none
deriving DecidableEq, Repr

structure TableDefinition where
  name : String
  columns : List ColumnDefinition := []
  primaryKeys : List KeyColumn := []
  interleave : Option InterleaveDefinition := none
  indexes : List IndexDefinition := []
  searchColumns : List SearchColumnDefinition := []
  searchIndexes : List SearchIndexDefinition := []
  columnGroups : List ColumnGroupDefinition := []
  /-- Names of the derived statements, where they are wanted. -/
  insert : Option String := none
  get : Option String := none
  delete : Option String := none
  update : Option String := none
  task : Option TaskOptions := none
deriving DecidableEq, Repr

/-- A column, qualified by a table alias or of the statement's own table. -/
structure ColumnRef where
  name : String
  table : Option String := none
deriving DecidableEq, Repr

structure Comparison where
  op : String
  left : ColumnRef
  right : Option ColumnRef := none
  func : Option String := none
  paramName : Option String := none
deriving DecidableEq, Repr

inductive Condition where
  | concat (op : String) (parts : List Condition)
  | leaf (comparison : Comparison)

structure InsertDefinition where
  name : String
  table : String
  setColumns : List String := []
  onConflict : Option String := none
deriving DecidableEq, Repr

structure UpdateDefinition where
  name : String
  table : String
  setColumns : List String := []
  condition : Option Condition := none

structure DeleteDefinition where
  name : String
  table : String
  condition : Option Condition := none

structure JoinDefinition where
  joinType : String
  table : String
  aliasName : Option String := none
  condition : Option Condition := none

inductive GetColumn where
  | column (name : String) (table : Option String)
  | all (table : Option String)
  | group (name : String) (table : Option String)
  | call (func name : String) (table : Option String)
deriving DecidableEq, Repr

inductive OrderBy where
  | column (name : String) (table : Option String) (desc : Bool)
  | call (func name : String) (table : Option String) (desc : Bool)
deriving DecidableEq, Repr

structure SelectDefinition where
  name : String
  fromTable : String
  aliasName : Option String := none
  joins : List JoinDefinition := []
  condition : Option Condition := none
  orderBy : List OrderBy := []
  limit : Bool := false
  offset : Bool := false
  getColumns : List GetColumn := []

/-- The statements wanted of a database or of one table. -/
structure StatementSet where
  inserts : List InsertDefinition := []
  updates : List UpdateDefinition := []
  deletes : List DeleteDefinition := []
  selects : List SelectDefinition := []

namespace StatementSet

def size (s : StatementSet) : Nat :=
  s.inserts.length + s.updates.length + s.deletes.length + s.selects.length

def isEmpty (s : StatementSet) : Bool :=
  s.inserts.isEmpty && s.updates.isEmpty && s.deletes.isEmpty && s.selects.isEmpty

end StatementSet

structure DatabaseDefinition where
  name : String
  outputDdl : Option String := none
  outputSql : Option String := none
  definitions : List ExternalDefinition := []
  tables : List TableDefinition := []
  inserts : List InsertDefinition := []
  updates : List UpdateDefinition := []
  deletes : List DeleteDefinition := []
  selects : List SelectDefinition := []

/-- The statements declared for the database itself. -/
def DatabaseDefinition.declared (d : DatabaseDefinition) : StatementSet :=
  ⟨d.inserts, d.updates, d.deletes, d.selects⟩

end SchemaLoom
