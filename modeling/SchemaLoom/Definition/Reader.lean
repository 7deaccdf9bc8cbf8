import SchemaLoom.Definition.Basic
import SchemaLoom.Json.Decoder
import SchemaLoom.Json.Reader

/-!
# Reading definitions

One decoder for each part of a definition. A key column is a name or a record; a condition is
tried as a connective with its parts before it is tried as a comparison.
-/
namespace SchemaLoom
open Json Json.Decoder

namespace ExternalDefinition

def kinds : List (String × ExternalKind) :=
  [("enum", .enum), ("message", .message), ("service", .service)]

def decoder : Decoder ExternalDefinition :=
  struct ["name", "kind", "import"] fun r room => do
    return { name := ← r.required "name" text room
             kind := ← r.required "kind" (choice kinds) room
             importPath := ← r.optional "import" text room }

end ExternalDefinition

def ColumnDefinition.decoder : Decoder ColumnDefinition :=
  struct ["name", "type", "isArray", "nullable", "import", "allowCommitTimestamp"]
    fun r room => do
      return { name := ← r.required "name" text room
               typeName := ← r.required "type" text room
               isArray := ← r.defaulted "isArray" false flag room
               nullable := ← r.defaulted "nullable" false flag room
               importPath := ← r.optional "import" text room
               allowCommitTimestamp := ← r.defaulted "allowCommitTimestamp" false flag room }

namespace KeyColumn

/-- A name, or an object with a name and a direction; never an array. -/
def ofJson? (v : Json) : Option KeyColumn :=
  match v with
  | .string s => some (.bare s)
  | .object _ => do
    let r ← record ["name", "desc"] v
    return .entry (← r.required "name" text 0) (← r.defaulted "desc" false flag 0)
  | _ => none

def decoder : Decoder KeyColumn := held ofJson?

end KeyColumn

def InterleaveDefinition.decoder : Decoder InterleaveDefinition :=
  struct ["parentTable", "cascadeOnDelete"] fun r room => do
    return { parentTable := ← r.required "parentTable" text room
             cascadeOnDelete := ← r.defaulted "cascadeOnDelete" false flag room }

def IndexDefinition.decoder : Decoder IndexDefinition :=
  struct ["name", "columns", "unique", "nullFiltered"] fun r room => do
    return { name := ← r.required "name" text room
             columns := ← r.required "columns" (list KeyColumn.decoder) room
             unique := ← r.defaulted "unique" false flag room
             nullFiltered := ← r.defaulted "nullFiltered" false flag room }

def SearchColumnDefinition.decoder : Decoder SearchColumnDefinition :=
  struct ["name", "sourceColumns"] fun r room => do
    return { name := ← r.required "name" text room
             sourceColumns := ← r.required "sourceColumns" texts room }

def SearchIndexDefinition.decoder : Decoder SearchIndexDefinition :=
  struct ["name", "columns", "partitionByColumns", "orderByColumns"] fun r room => do
    return { name := ← r.required "name" text room
             columns := ← r.required "columns" texts room
             partitionByColumns := ← r.defaulted "partitionByColumns" [] texts room
             orderByColumns := ← r.defaulted "orderByColumns" [] texts room }

def ColumnGroupDefinition.decoder : Decoder ColumnGroupDefinition :=
  struct ["name", "columns"] fun r room => do
    return { name := ← r.required "name" text room
             columns := ← r.required "columns" texts room }

def TaskOptions.decoder : Decoder TaskOptions :=
  struct ["listPending", "getMetadata", "updateMetadata"] fun r room => do
    return { listPending := ← r.optional "listPending" text room
             getMetadata := ← r.optional "getMetadata" text room
             updateMetadata := ← r.optional "updateMetadata" text room }

def TableDefinition.decoder : Decoder TableDefinition :=
  struct ["name", "columns", "primaryKeys", "interleave", "indexes", "searchColumns",
      "searchIndexes", "columnGroups", "insert", "get", "delete", "update", "task"]
    fun r room => do
      return {
        name := ← r.required "name" text room
        columns := ← r.defaulted "columns" [] (list ColumnDefinition.decoder) room
        primaryKeys := ← r.defaulted "primaryKeys" [] (list KeyColumn.decoder) room
        interleave := ← r.optional "interleave" InterleaveDefinition.decoder room
        indexes := ← r.defaulted "indexes" [] (list IndexDefinition.decoder) room
        searchColumns :=
          ← r.defaulted "searchColumns" [] (list SearchColumnDefinition.decoder) room
        searchIndexes :=
          ← r.defaulted "searchIndexes" [] (list SearchIndexDefinition.decoder) room
        columnGroups :=
          ← r.defaulted "columnGroups" [] (list ColumnGroupDefinition.decoder) room
        insert := ← r.optional "insert" text room
        get := ← r.optional "get" text room
        delete := ← r.optional "delete" text room
        update := ← r.optional "update" text room
        task := ← r.optional "task" TaskOptions.decoder room }

def ColumnRef.decoder : Decoder ColumnRef :=
  struct ["name", "table"] fun r room => do
    return { name := ← r.required "name" text room
             table := ← r.optional "table" text room }

def Comparison.ofJson? (v : Json) : Option Comparison :=
  struct ["op", "leftColumn", "rightColumn", "func", "paramName"] (fun r room => do
    return { op := ← r.required "op" text room
             left := ← r.required "leftColumn" ColumnRef.decoder room
             right := ← r.optional "rightColumn" ColumnRef.decoder room
             func := ← r.optional "func" text room
             paramName := ← r.optional "paramName" text room }) v.height v

namespace Condition

/-- The text of the one field of that name, if no two fields have it. -/
def textField (fields : List (String × Json)) (name : String) : Option String :=
  match fields.filter (·.1 = name) with
  | [(_, .string s)] => some s
  | _ => none

mutual
def ofJson? : Json → Option Condition
  | .object fields =>
    (do let op ← textField fields "op"
        let parts ← partsOfFields fields
        return Condition.concat op parts).or (.leaf <$> Comparison.ofJson? (.object fields))
  | .array [.string op, .array items] =>
    (Condition.concat op <$> partsOfItems items).or
      (.leaf <$> Comparison.ofJson? (.array [.string op, .array items]))
  | .array items => .leaf <$> Comparison.ofJson? (.array items)
  | _ => none

/-- The parts in the one field that holds them. -/
def partsOfFields : List (String × Json) → Option (List Condition)
  | [] => none
  | (name, v) :: fields =>
    if name = "exprs" then
      if fields.any (·.1 = "exprs") then none else partsOfValue v
    else partsOfFields fields

def partsOfValue : Json → Option (List Condition)
  | .array items => partsOfItems items
  | _ => none

def partsOfItems : List Json → Option (List Condition)
  | [] => some []
  | v :: vs => do
    let c ← ofJson? v
    let cs ← partsOfItems vs
    return c :: cs
end

def decoder : Decoder Condition := held ofJson?

end Condition

def InsertDefinition.decoder : Decoder InsertDefinition :=
  struct ["name", "table", "setColumns", "onConflict"] fun r room => do
    return { name := ← r.required "name" text room
             table := ← r.required "table" text room
             setColumns := ← r.defaulted "setColumns" [] texts room
             onConflict := ← r.optional "onConflict" text room }

def UpdateDefinition.decoder : Decoder UpdateDefinition :=
  struct ["name", "table", "setColumns", "where"] fun r room => do
    return { name := ← r.required "name" text room
             table := ← r.required "table" text room
             setColumns := ← r.defaulted "setColumns" [] texts room
             condition := ← r.optional "where" Condition.decoder room }

def DeleteDefinition.decoder : Decoder DeleteDefinition :=
  struct ["name", "table", "where"] fun r room => do
    return { name := ← r.required "name" text room
             table := ← r.required "table" text room
             condition := ← r.optional "where" Condition.decoder room }

def JoinDefinition.decoder : Decoder JoinDefinition :=
  struct ["type", "table", "as", "on"] fun r room => do
    return { joinType := ← r.required "type" text room
             table := ← r.required "table" text room
             aliasName := ← r.optional "as" text room
             condition := ← r.optional "on" Condition.decoder room }

namespace GetColumn

def ofJson? (v : Json) : Option GetColumn := do
  let (kind, fields) ← tagged v
  match kind with
  | "column" =>
    let r ← record ["name", "table"] fields
    return .column (← r.required "name" text 0) (← r.optional "table" text 0)
  | "all" =>
    let r ← record ["table"] fields
    return .all (← r.optional "table" text 0)
  | "group" =>
    let r ← record ["name", "table"] fields
    return .group (← r.required "name" text 0) (← r.optional "table" text 0)
  | "func" =>
    let r ← record ["func", "name", "table"] fields
    return .call (← r.required "func" text 0) (← r.required "name" text 0)
      (← r.optional "table" text 0)
  | _ => none

def decoder : Decoder GetColumn := held ofJson?

end GetColumn

namespace OrderBy

def ofJson? (v : Json) : Option OrderBy := do
  let (kind, fields) ← tagged v
  match kind with
  | "column" =>
    let r ← record ["name", "table", "desc"] fields
    return .column (← r.required "name" text 0) (← r.optional "table" text 0)
      (← r.defaulted "desc" false flag 0)
  | "func" =>
    let r ← record ["func", "name", "table", "desc"] fields
    return .call (← r.required "func" text 0) (← r.required "name" text 0)
      (← r.optional "table" text 0) (← r.defaulted "desc" false flag 0)
  | _ => none

def decoder : Decoder OrderBy := held ofJson?

end OrderBy

def SelectDefinition.decoder : Decoder SelectDefinition :=
  struct ["name", "fromTable", "as", "joins", "where", "orderBy", "limit", "offset",
      "getColumns"] fun r room => do
    return { name := ← r.required "name" text room
             fromTable := ← r.required "fromTable" text room
             aliasName := ← r.optional "as" text room
             joins := ← r.defaulted "joins" [] (list JoinDefinition.decoder) room
             condition := ← r.optional "where" Condition.decoder room
             orderBy := ← r.defaulted "orderBy" [] (list OrderBy.decoder) room
             limit := ← r.defaulted "limit" false flag room
             offset := ← r.defaulted "offset" false flag room
             getColumns := ← r.defaulted "getColumns" [] (list GetColumn.decoder) room }

namespace DatabaseDefinition

def decoder : Decoder DatabaseDefinition :=
  struct ["name", "outputDdl", "outputSql", "definitions", "tables", "inserts", "updates",
      "deletes", "selects"] fun r room => do
    return { name := ← r.required "name" text room
             outputDdl := ← r.optional "outputDdl" text room
             outputSql := ← r.optional "outputSql" text room
             definitions := ← r.defaulted "definitions" [] (list ExternalDefinition.decoder) room
             tables := ← r.defaulted "tables" [] (list TableDefinition.decoder) room
             inserts := ← r.defaulted "inserts" [] (list InsertDefinition.decoder) room
             updates := ← r.defaulted "updates" [] (list UpdateDefinition.decoder) room
             deletes := ← r.defaulted "deletes" [] (list DeleteDefinition.decoder) room
             selects := ← r.defaulted "selects" [] (list SelectDefinition.decoder) room }

def parse? (content : String) : Option DatabaseDefinition :=
  Json.parse? content >>= decoder nestingLimit

end DatabaseDefinition
end SchemaLoom
