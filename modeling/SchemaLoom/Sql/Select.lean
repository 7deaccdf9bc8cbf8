import SchemaLoom.Ddl.Check
import SchemaLoom.Sql.Statement

/-!
# Selects

Joins come first and build the scope, then the WHERE clause, the select list, the order and
the paging. A join may make the columns of its own table null, or those of all tables before
it, or both; the fields of such tables are nullable.
-/
namespace SchemaLoom
open Compiled

inductive JoinType where
  | inner
  | cross
  | full
  | left
  | right
deriving DecidableEq, Repr

namespace JoinType

def parse : String → Compiled JoinType
  | "INNER" => .ok .inner
  | "CROSS" => .ok .cross
  | "FULL" => .ok .full
  | "LEFT" => .ok .left
  | "RIGHT" => .ok .right
  | other => .error (.unsupported "join type" other)

def sql : JoinType → String
  | .inner => "INNER JOIN"
  | .cross => "CROSS JOIN"
  | .full => "FULL JOIN"
  | .left => "LEFT JOIN"
  | .right => "RIGHT JOIN"

/-- A row of the tables before may stay without a partner. -/
def padsJoined : JoinType → Bool
  | .left | .full => true
  | _ => false

/-- A row of the joined table may stay without a partner. -/
def padsEarlier : JoinType → Bool
  | .right | .full => true
  | _ => false

end JoinType

structure FromClause where
  scope : Scope
  /-- The aliases whose columns may be null for want of a partner row. -/
  outer : List String
  sql : String
  params : Params

namespace FromClause

/-- A table with its alias, which is spelt out only when it differs. -/
def source (table aliasName : String) : String :=
  if aliasName = table then table else table ++ " AS " ++ aliasName

def start (t : Table) (aliasName : String) : FromClause :=
  ⟨Scope.single aliasName t, [], source t.name aliasName, .empty⟩

def onClause (j : JoinType) (condition : Option Condition) (scope : Scope) (ps : Params) :
    Compiled (String × Params) :=
  match j, condition with
  | .cross, some _ => .error (.invalid "CROSS JOIN takes no join condition.")
  | .cross, none => .ok ("", ps)
  | _, none => .error (.missing "on")
  | _, some c => do
    let (text, ps) ← c.compileOn scope ps
    return (" ON " ++ text, ps)

/-- The aliases padded with nulls once `aliasName` has been joined. -/
def padded (j : JoinType) (outer earlier : List String) (aliasName : String) : List String :=
  outer ++ (if j.padsEarlier then earlier else []) ++ (if j.padsJoined then [aliasName] else [])

def join (registry : Registry) (f : FromClause) (d : JoinDefinition) : Compiled FromClause :=
  let aliasName := d.aliasName.getD d.table
  within ("and when joining " ++ aliasName) do
    ensure (d.table ≠ "") (.missing "table")
    let j ← JoinType.parse d.joinType
    let t ← registry.table d.table
    let scope ← f.scope.add aliasName t
    let (clause, params) ← onClause j d.condition scope f.params
    return { scope, params
             outer := padded j f.outer f.scope.aliases aliasName
             sql := f.sql ++ " " ++ j.sql ++ " " ++ source t.name aliasName ++ clause }

def joinAll (registry : Registry) : FromClause → List JoinDefinition → Compiled FromClause
  | f, [] => .ok f
  | f, d :: ds => do
    let next ← f.join registry d
    next.joinAll registry ds

end FromClause

/-- One item of a select list and the field it fills. -/
structure SelectItem where
  sql : String
  field : OutputField
deriving DecidableEq, Repr

namespace SelectItem

/-- The type of a field: null is possible where the alias may be padded. -/
def fieldType (outer : List String) (aliasName : String) (type : ColumnType) : ColumnType :=
  if outer.contains aliasName then type.asNullable else type

def ofColumn (outer : List String) (aliasName : String) (c : Column) : SelectItem :=
  ⟨aliasName ++ "." ++ c.name, generatedName aliasName c.name "", fieldType outer aliasName c.type⟩

end SelectItem

/-- The items one entry of a select list stands for, and the parameters they need. -/
structure Expansion where
  items : List SelectItem
  params : List Param := []

namespace GetColumn

def describe : GetColumn → String
  | .column name table => qualify table name
  | .all table => qualify table "*"
  | .group name table => qualify table name
  | .call func name table => func ++ "(" ++ qualify table name ++ ")"

def groupColumns (t : Table) : List String → Compiled (List Column)
  | [] => .ok []
  | name :: names => do
    let c ← t.column name
    let cs ← groupColumns t names
    return c :: cs

def expand (scope : Scope) (outer : List String) : GetColumn → Compiled Expansion
  | .column name table => do
    let (aliasName, t) ← scope.table table
    let c ← t.column name
    return { items := [.ofColumn outer aliasName c] }
  | .all table => do
    let (aliasName, t) ← scope.table table
    return { items := t.columns.map (.ofColumn outer aliasName) }
  | .group name table => do
    let (aliasName, t) ← scope.table table
    let names ← t.columnGroup name
    let columns ← groupColumns t names
    return { items := columns.map (.ofColumn outer aliasName) }
  | .call func name table => do
    let f ← SqlFunction.parse func
    let (aliasName, t) ← scope.table table
    let search ← t.searchColumn name
    let drafted := f.call aliasName search.name
    return { items := [⟨drafted.sql, f.fieldName aliasName search.name,
               SelectItem.fieldType outer aliasName f.resultType⟩]
             params := drafted.params }

end GetColumn

/-- Adds items whose fields are all new. -/
def addItems (done : List SelectItem) : List SelectItem → Compiled (List SelectItem)
  | [] => .ok done
  | i :: is => do
    ensure (!done.any (·.field.name = i.field.name))
      (.invalid ("output field " ++ i.field.name ++ " is selected more than once."))
    addItems (done ++ [i]) is

/-- The select list, after the items in `done`. -/
def selectItems (scope : Scope) (outer : List String) (done : List SelectItem) :
    List GetColumn → Params → Compiled (List SelectItem × Params)
  | [], ps => .ok (done, ps)
  | g :: gs, ps => do
    let (items, ps) ← within ("and when generating column " ++ g.describe) do
      let e ← g.expand scope outer
      let ps ← ps.bindAll e.params
      return (e.items, ps)
    let done ← addItems done items
    selectItems scope outer done gs ps

namespace OrderBy

def draft (scope : Scope) : OrderBy → Compiled Draft
  | .column name table desc => do
    let (aliasName, t) ← scope.table table
    let c ← t.column name
    ensure (!c.type.isArray)
      (.invalid ("column " ++ name ++ " is an array and cannot be ordered by."))
    return { sql := aliasName ++ "." ++ c.name ++ " " ++ Ddl.direction desc }
  | .call func name table desc => do
    let f ← SqlFunction.parse func
    let (aliasName, t) ← scope.table table
    let search ← t.searchColumn name
    let drafted := f.call aliasName search.name
    return { drafted with sql := drafted.sql ++ " " ++ Ddl.direction desc }

def compileAll (scope : Scope) : List OrderBy → Params → Compiled (List String × Params)
  | [], ps => .ok ([], ps)
  | o :: os, ps => do
    let d ← o.draft scope
    let (text, ps) ← ps.take d
    let (texts, ps) ← compileAll scope os ps
    return (text :: texts, ps)

end OrderBy

/-- A paging clause with its parameter, where it is wanted. -/
def pagingDraft (wanted : Bool) (keyword name : String) : Draft :=
  if wanted then
    { sql := " " ++ keyword ++ " " ++ placeholder name
      params := [⟨name, .ofPrimitive .int64⟩] }
  else { sql := "" }

namespace SelectDefinition

def whereClause (scope : Scope) (condition : Option Condition) (ps : Params) :
    Compiled (String × Params) :=
  match condition with
  | none => .ok ("", ps)
  | some c => do
    let (text, ps) ← within "and when generating where" (c.compileWhere scope ps)
    return (" WHERE " ++ text, ps)

def orderClause (texts : List String) : String :=
  if texts.isEmpty then "" else " ORDER BY " ++ ", ".intercalate texts

def build (registry : Registry) (d : SelectDefinition) : Compiled Statement := do
  ensure (d.name ≠ "") (.missing "name")
  ensure (d.fromTable ≠ "") (.missing "fromTable")
  ensure (!d.getColumns.isEmpty) (.missing "getColumns")
  let t ← registry.table d.fromTable
  let source ← (FromClause.start t (d.aliasName.getD t.name)).joinAll registry d.joins
  let (filter, ps) ← whereClause source.scope d.condition source.params
  let (items, ps) ← selectItems source.scope source.outer [] d.getColumns ps
  let (order, ps) ← within "and when generating order by"
    (OrderBy.compileAll source.scope d.orderBy ps)
  ensure (d.limit || !d.offset) (.invalid "offset requires limit.")
  let (limit, ps) ← ps.take (pagingDraft d.limit "LIMIT" "limit")
  let (offset, ps) ← ps.take (pagingDraft d.offset "OFFSET" "offset")
  return { name := d.name, kind := .select
           sql := "SELECT " ++ ", ".intercalate (items.map (·.sql)) ++ " FROM " ++ source.sql
             ++ filter ++ orderClause order ++ limit ++ offset
           params := ps.bound
           outputs := items.map (·.field) }

def compile (registry : Registry) (d : SelectDefinition) : Compiled Statement :=
  within (statementLabel d.name) (d.build registry)

end SelectDefinition
end SchemaLoom
