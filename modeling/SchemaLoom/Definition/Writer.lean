import SchemaLoom.Definition.Basic
import SchemaLoom.Json.Basic

/-!
# Writing definitions

Every field is written in its order; an absent optional field is left out.
-/
namespace SchemaLoom
open Json

namespace Json

/-- A field that is left out when absent. -/
def optionalField (name : String) (v : Option Json) : List (String × Json) :=
  match v with
  | some j => [(name, j)]
  | none => []

def optionalText (name : String) (s : Option String) : List (String × Json) :=
  optionalField name (s.map .string)

def ofTexts (ss : List String) : Json := .array (ss.map .string)

end Json

def ExternalKind.name : ExternalKind → String
  | .enum => "enum"
  | .message => "message"
  | .service => "service"

def ExternalDefinition.toJson (d : ExternalDefinition) : Json :=
  .object ([("name", .string d.name), ("kind", .string d.kind.name)]
    ++ optionalText "import" d.importPath)

def ColumnDefinition.toJson (d : ColumnDefinition) : Json :=
  .object ([("name", .string d.name), ("type", .string d.typeName), ("isArray", .bool d.isArray),
      ("nullable", .bool d.nullable)]
    ++ optionalText "import" d.importPath
    ++ [("allowCommitTimestamp", .bool d.allowCommitTimestamp)])

def KeyColumn.toJson : KeyColumn → Json
  | .bare name => .string name
  | .entry name desc => .object [("name", .string name), ("desc", .bool desc)]

def InterleaveDefinition.toJson (d : InterleaveDefinition) : Json :=
  .object [("parentTable", .string d.parentTable), ("cascadeOnDelete", .bool d.cascadeOnDelete)]

def IndexDefinition.toJson (d : IndexDefinition) : Json :=
  .object [("name", .string d.name), ("columns", .array (d.columns.map (·.toJson))),
    ("unique", .bool d.unique), ("nullFiltered", .bool d.nullFiltered)]

def SearchColumnDefinition.toJson (d : SearchColumnDefinition) : Json :=
  .object [("name", .string d.name), ("sourceColumns", ofTexts d.sourceColumns)]

def SearchIndexDefinition.toJson (d : SearchIndexDefinition) : Json :=
  .object [("name", .string d.name), ("columns", ofTexts d.columns),
    ("partitionByColumns", ofTexts d.partitionByColumns),
    ("orderByColumns", ofTexts d.orderByColumns)]

def ColumnGroupDefinition.toJson (d : ColumnGroupDefinition) : Json :=
  .object [("name", .string d.name), ("columns", ofTexts d.columns)]

def TaskOptions.toJson (d : TaskOptions) : Json :=
  .object (optionalText "listPending" d.listPending ++ optionalText "getMetadata" d.getMetadata
    ++ optionalText "updateMetadata" d.updateMetadata)

def TableDefinition.toJson (d : TableDefinition) : Json :=
  .object ([("name", .string d.name), ("columns", .array (d.columns.map (·.toJson))),
      ("primaryKeys", .array (d.primaryKeys.map (·.toJson)))]
    ++ optionalField "interleave" (d.interleave.map (·.toJson))
    ++ [("indexes", .array (d.indexes.map (·.toJson))),
      ("searchColumns", .array (d.searchColumns.map (·.toJson))),
      ("searchIndexes", .array (d.searchIndexes.map (·.toJson))),
      ("columnGroups", .array (d.columnGroups.map (·.toJson)))]
    ++ optionalText "insert" d.insert ++ optionalText "get" d.get
    ++ optionalText "delete" d.delete ++ optionalText "update" d.update
    ++ optionalField "task" (d.task.map (·.toJson)))

def ColumnRef.toJson (r : ColumnRef) : Json :=
  .object ([("name", .string r.name)] ++ optionalText "table" r.table)

def Comparison.toJson (c : Comparison) : Json :=
  .object ([("op", .string c.op), ("leftColumn", c.left.toJson)]
    ++ optionalField "rightColumn" (c.right.map (·.toJson))
    ++ optionalText "func" c.func ++ optionalText "paramName" c.paramName)

namespace Condition

mutual
def toJson : Condition → Json
  | .concat op parts => .object [("op", .string op), ("exprs", .array (partsToJson parts))]
  | .leaf c => c.toJson

def partsToJson : List Condition → List Json
  | [] => []
  | c :: cs => c.toJson :: partsToJson cs
end

end Condition

def InsertDefinition.toJson (d : InsertDefinition) : Json :=
  .object ([("name", .string d.name), ("table", .string d.table),
      ("setColumns", ofTexts d.setColumns)]
    ++ optionalText "onConflict" d.onConflict)

def UpdateDefinition.toJson (d : UpdateDefinition) : Json :=
  .object ([("name", .string d.name), ("table", .string d.table),
      ("setColumns", ofTexts d.setColumns)]
    ++ optionalField "where" (d.condition.map (·.toJson)))

def DeleteDefinition.toJson (d : DeleteDefinition) : Json :=
  .object ([("name", .string d.name), ("table", .string d.table)]
    ++ optionalField "where" (d.condition.map (·.toJson)))

def JoinDefinition.toJson (d : JoinDefinition) : Json :=
  .object ([("type", .string d.joinType), ("table", .string d.table)]
    ++ optionalText "as" d.aliasName ++ optionalField "on" (d.condition.map (·.toJson)))

def GetColumn.toJson : GetColumn → Json
  | .column name table =>
    .object ([("kind", .string "column"), ("name", .string name)] ++ optionalText "table" table)
  | .all table => .object ([("kind", .string "all")] ++ optionalText "table" table)
  | .group name table =>
    .object ([("kind", .string "group"), ("name", .string name)] ++ optionalText "table" table)
  | .call func name table =>
    .object ([("kind", .string "func"), ("func", .string func), ("name", .string name)]
      ++ optionalText "table" table)

def OrderBy.toJson : OrderBy → Json
  | .column name table desc =>
    .object ([("kind", .string "column"), ("name", .string name)] ++ optionalText "table" table
      ++ [("desc", .bool desc)])
  | .call func name table desc =>
    .object ([("kind", .string "func"), ("func", .string func), ("name", .string name)]
      ++ optionalText "table" table ++ [("desc", .bool desc)])

def SelectDefinition.toJson (d : SelectDefinition) : Json :=
  .object ([("name", .string d.name), ("fromTable", .string d.fromTable)]
    ++ optionalText "as" d.aliasName
    ++ [("joins", .array (d.joins.map (·.toJson)))]
    ++ optionalField "where" (d.condition.map (·.toJson))
    ++ [("orderBy", .array (d.orderBy.map (·.toJson))), ("limit", .bool d.limit),
      ("offset", .bool d.offset), ("getColumns", .array (d.getColumns.map (·.toJson)))])

def DatabaseDefinition.toJson (d : DatabaseDefinition) : Json :=
  .object ([("name", .string d.name)]
    ++ optionalText "outputDdl" d.outputDdl ++ optionalText "outputSql" d.outputSql
    ++ [("definitions", .array (d.definitions.map (·.toJson))),
      ("tables", .array (d.tables.map (·.toJson))),
      ("inserts", .array (d.inserts.map (·.toJson))),
      ("updates", .array (d.updates.map (·.toJson))),
      ("deletes", .array (d.deletes.map (·.toJson))),
      ("selects", .array (d.selects.map (·.toJson)))])

end SchemaLoom
