import SchemaLoom.Sql.Clause

/-!
# Statements

A compiled statement is its SQL text, its parameters in the order of their first binding and,
for a select, the fields of a result row. Here are inserts, updates and deletes.
-/
namespace SchemaLoom
open Compiled

inductive StatementKind where
  | insert
  | update
  | delete
  | select
deriving DecidableEq, Repr

def StatementKind.name : StatementKind → String
  | .insert => "insert"
  | .update => "update"
  | .delete => "delete"
  | .select => "select"

structure OutputField where
  name : String
  type : ColumnType
deriving DecidableEq, Repr

structure Statement where
  name : String
  kind : StatementKind
  sql : String
  params : List Param
  outputs : List OutputField := []
deriving DecidableEq, Repr

def statementLabel (name : String) : String := "When generating " ++ name

/-- What an insert does about a row that exists. -/
inductive ConflictMode where
  | ignore
  | update
deriving DecidableEq, Repr

namespace ConflictMode

def parse : String → Compiled ConflictMode
  | "IGNORE" => .ok .ignore
  | "UPDATE" => .ok .update
  | other => .error (.unsupported "on conflict mode" other)

def verb : ConflictMode → String
  | .ignore => "INSERT OR IGNORE"
  | .update => "INSERT OR UPDATE"

end ConflictMode

/-- The value of a column that takes the time of the commit. -/
def commitTimestamp : String := "PENDING_COMMIT_TIMESTAMP()"

/-- The columns to set, each listed once, after the columns in `done`. -/
def settableColumns (t : Table) (done : List Column) : List String → Compiled (List Column)
  | [] => .ok done
  | name :: names => do
    let c ← t.column name
    ensure (!done.any (·.name = c.name))
      (.invalid ("column " ++ name ++ " is set more than once."))
    settableColumns t (done ++ [c]) names

/-- The value a column is set to: the commit time or a parameter of the column's own type. -/
def Column.valueDraft (c : Column) (param : String) : Draft :=
  if c.allowCommitTimestamp then { sql := commitTimestamp }
  else { sql := placeholder param, params := [⟨param, c.type⟩] }

namespace InsertDefinition

def verb (d : InsertDefinition) : Compiled String :=
  match d.onConflict with
  | some mode => ConflictMode.verb <$> ConflictMode.parse mode
  | none => .ok "INSERT"

def build (registry : Registry) (d : InsertDefinition) : Compiled Statement := do
  ensure (d.name ≠ "") (.missing "name")
  ensure (d.table ≠ "") (.missing "table")
  ensure (!d.setColumns.isEmpty) (.missing "setColumns")
  let t ← registry.table d.table
  let verb ← d.verb
  let columns ← settableColumns t [] d.setColumns
  let values := columns.map fun c => c.valueDraft c.name
  let ps ← Params.empty.bindAll (values.flatMap (·.params))
  return { name := d.name, kind := .insert
           sql := verb ++ " " ++ t.name ++ " (" ++ ", ".intercalate d.setColumns ++ ") VALUES ("
             ++ ", ".intercalate (values.map (·.sql)) ++ ")"
           params := ps.bound }

def compile (registry : Registry) (d : InsertDefinition) : Compiled Statement :=
  within (statementLabel d.name) (d.build registry)

end InsertDefinition

/-- The WHERE clause of an update or delete, over the table under its own name. -/
def compileTableWhere (t : Table) (c : Condition) (ps : Params) : Compiled (String × Params) :=
  within "and when generating where" (c.compileWhere (Scope.single t.name t) ps)

namespace UpdateDefinition

def setParam (column : String) : String := "set" ++ Text.upperCamel column

/-- The assignments of a SET clause; a key column cannot be assigned. -/
def assignments (t : Table) : List Column → Params → Compiled (List String × Params)
  | [], ps => .ok ([], ps)
  | c :: cs, ps => do
    ensure (!t.isPrimaryKey c.name)
      (.invalid ("primary key column " ++ c.name ++ " cannot be updated."))
    let (value, ps) ← ps.take (c.valueDraft (setParam c.name))
    let (rest, ps) ← assignments t cs ps
    return ((c.name ++ " = " ++ value) :: rest, ps)

def build (registry : Registry) (d : UpdateDefinition) : Compiled Statement := do
  ensure (d.name ≠ "") (.missing "name")
  ensure (d.table ≠ "") (.missing "table")
  ensure (!d.setColumns.isEmpty) (.missing "setColumns")
  let condition ← orError (.missing "where") d.condition
  let t ← registry.table d.table
  let columns ← settableColumns t [] d.setColumns
  let (sets, ps) ← assignments t columns Params.empty
  let (text, ps) ← compileTableWhere t condition ps
  return { name := d.name, kind := .update
           sql := "UPDATE " ++ t.name ++ " SET " ++ ", ".intercalate sets ++ " WHERE " ++ text
           params := ps.bound }

def compile (registry : Registry) (d : UpdateDefinition) : Compiled Statement :=
  within (statementLabel d.name) (d.build registry)

end UpdateDefinition

namespace DeleteDefinition

def build (registry : Registry) (d : DeleteDefinition) : Compiled Statement := do
  ensure (d.name ≠ "") (.missing "name")
  ensure (d.table ≠ "") (.missing "table")
  let condition ← orError (.missing "where") d.condition
  let t ← registry.table d.table
  let (text, ps) ← compileTableWhere t condition Params.empty
  return { name := d.name, kind := .delete
           sql := "DELETE FROM " ++ t.name ++ " WHERE " ++ text
           params := ps.bound }

def compile (registry : Registry) (d : DeleteDefinition) : Compiled Statement :=
  within (statementLabel d.name) (d.build registry)

end DeleteDefinition
end SchemaLoom
