import SchemaLoom.Column.Basic
import SchemaLoom.Definition.Basic
import SchemaLoom.Error

/-!
# Resolving column types

A type name is a primitive or names an external definition. Of several definitions with one
name the last counts.
-/
namespace SchemaLoom

/-- Where type names that are not primitive are looked up, for the owner of a column and with
the import it states. -/
structure Catalog where
  resolve : (owner typeName : String) → (importPath : Option String) → Option ExternalDefinition

namespace Catalog

def ofDefinitions (ds : List ExternalDefinition) : Catalog :=
  ⟨fun _ typeName _ => ds.reverse.find? (·.name = typeName)⟩

/-- The base type that the definition of `column` gives it; `owner` is the column's table in
error messages. -/
def baseOf (owner : String) (column : ColumnDefinition) (d : ExternalDefinition) :
    Compiled BaseType :=
  let path := column.importPath.or d.importPath
  match d.kind with
  | .enum => .ok (.enum column.typeName path)
  | .message => .ok (.message column.typeName path)
  | .service => .error (.invalid ("type " ++ column.typeName ++ " of column " ++ column.name
      ++ " of " ++ owner ++ " is neither an enum nor a message."))

def resolveBase (catalog : Catalog) (owner : String) (column : ColumnDefinition) :
    Compiled BaseType :=
  match PrimitiveType.parse? column.typeName with
  | some p => .ok (.primitive p)
  | none =>
    match catalog.resolve owner column.typeName column.importPath with
    | some d => baseOf owner column d
    | none => .error (.notFound "type" column.typeName
        (" for column " ++ column.name ++ " of " ++ owner))

def resolveColumn (catalog : Catalog) (owner : String) (column : ColumnDefinition) :
    Compiled ColumnType := do
  let base ← catalog.resolveBase owner column
  return { base, isArray := column.isArray, nullable := column.nullable }

end Catalog
end SchemaLoom
