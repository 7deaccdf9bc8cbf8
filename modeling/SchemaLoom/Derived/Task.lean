import SchemaLoom.Definition.Basic
import SchemaLoom.Error

/-!
# Task tables

A task table is a work queue. Three nullable columns are appended for bookkeeping and the
time of execution is indexed, so these columns must not be declared.
-/
namespace SchemaLoom
namespace Task

def retryCount : String := "retryCount"
def executionTime : String := "executionTime"
def createdTime : String := "createdTime"

def reserved : List String := [retryCount, executionTime, createdTime]

def columns : List ColumnDefinition :=
  [{ name := retryCount, typeName := "float64", nullable := true },
   { name := executionTime, typeName := "timestamp", nullable := true },
   { name := createdTime, typeName := "timestamp", nullable := true }]

def index (table : String) : IndexDefinition :=
  { name := table ++ "ByExecutionTime", columns := [.bare executionTime] }

end Task

/-- A task table with its bookkeeping; any other table as it is. -/
def TableDefinition.augment (d : TableDefinition) : Compiled TableDefinition :=
  match d.task with
  | none => .ok d
  | some _ =>
    match d.columns.find? fun c => Task.reserved.contains c.name with
    | some c => .error (.invalid ("column " ++ c.name ++ " is reserved for task tables."))
    | none => .ok { d with
        columns := d.columns ++ Task.columns
        indexes := d.indexes ++ [Task.index d.name] }

end SchemaLoom
