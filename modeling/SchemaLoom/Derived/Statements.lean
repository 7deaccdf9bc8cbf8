import SchemaLoom.Derived.Task

/-!
# Derived statements

A table can ask for an insert, get, delete and update by primary key; a task table always
gets the statements that list due tasks and read and change a task's bookkeeping. They are
ordinary definitions and are compiled like any other.
-/
namespace SchemaLoom
namespace TableDefinition
open Compiled

def columnNames (d : TableDefinition) : List String := d.columns.map (·.name)

/-- The comparison of a column of the table with a parameter. -/
def compared (op column : String) : Condition := .leaf { op, left := { name := column } }

/-- Every key column equals a parameter; a key of one column needs no AND. -/
def keyCondition (d : TableDefinition) : Compiled Condition :=
  match d.primaryKeys.map fun k => compared "=" k.name with
  | [] => .error (.missing "primaryKeys")
  | [c] => .ok c
  | cs => .ok (.concat "AND" cs)

def derivedInsert (d : TableDefinition) : List InsertDefinition :=
  match d.insert with
  | none => []
  | some name => [{ name, table := d.name, setColumns := d.columnNames }]

def derivedGet (d : TableDefinition) : Compiled (List SelectDefinition) :=
  match d.get with
  | none => .ok []
  | some name => do
    let condition ← d.keyCondition
    return [{ name, fromTable := d.name, condition := some condition, getColumns := [.all none] }]

def derivedDelete (d : TableDefinition) : Compiled (List DeleteDefinition) :=
  match d.delete with
  | none => .ok []
  | some name => do
    let condition ← d.keyCondition
    return [{ name, table := d.name, condition := some condition }]

def plainColumns (d : TableDefinition) : List String :=
  d.columnNames.filter fun c => !d.primaryKeys.any (·.name = c)

def derivedUpdate (d : TableDefinition) : Compiled (List UpdateDefinition) :=
  match d.update with
  | none => .ok []
  | some name => do
    ensure (!d.plainColumns.isEmpty)
      (.invalid ("table " ++ d.name ++ " has no columns besides its primary keys to update."))
    let condition ← d.keyCondition
    return [{ name, table := d.name, setColumns := d.plainColumns, condition := some condition }]

/-- Due tasks in the order of their time, with the columns the author declared. -/
def listPending (d : TableDefinition) (options : TaskOptions) : SelectDefinition :=
  { name := options.listPending.getD ("ListPending" ++ d.name)
    fromTable := d.name
    condition := some (compared "<=" Task.executionTime)
    orderBy := [.column Task.executionTime none false]
    limit := true
    getColumns := (d.columnNames.filter fun c => !Task.reserved.contains c).map (.column · none) }

def getMetadata (d : TableDefinition) (options : TaskOptions) (key : Condition) :
    SelectDefinition :=
  { name := options.getMetadata.getD ("Get" ++ d.name ++ "Metadata")
    fromTable := d.name
    condition := some key
    getColumns := [.column Task.retryCount none, .column Task.executionTime none] }

def updateMetadata (d : TableDefinition) (options : TaskOptions) (key : Condition) :
    UpdateDefinition :=
  { name := options.updateMetadata.getD ("Update" ++ d.name ++ "Metadata")
    table := d.name
    setColumns := [Task.retryCount, Task.executionTime]
    condition := some key }

def taskStatements (d : TableDefinition) :
    Compiled (List SelectDefinition × List UpdateDefinition) :=
  match d.task with
  | none => .ok ([], [])
  | some options => do
    let key ← d.keyCondition
    return ([d.listPending options, d.getMetadata options key], [d.updateMetadata options key])

def derive (d : TableDefinition) : Compiled StatementSet := do
  let gets ← d.derivedGet
  let deletes ← d.derivedDelete
  let updates ← d.derivedUpdate
  let (selects, metadata) ← d.taskStatements
  return { inserts := d.derivedInsert, updates := updates ++ metadata
           deletes, selects := gets ++ selects }

end TableDefinition
end SchemaLoom
