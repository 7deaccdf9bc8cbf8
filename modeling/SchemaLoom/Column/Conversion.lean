import SchemaLoom.Column.Basic

/-!
# Conversions in generated code

Generated code converts the values of a column by calls of the runtime, one scalar conversion inside
the conversions of arrays and of nulls. Here the calls are written as source text, with the host
type of the column and the imports it needs; what the calls compute is defined with the wire values.
-/
namespace SchemaLoom

namespace PrimitiveType

/-- The word for the type in the names of the scalar conversions. -/
def helper : PrimitiveType → String
  | .bool => "bool"
  | .int64 => "int"
  | .float64 => "float"
  | .timestamp => "timestamp"
  | .string => "string"

def hostType : PrimitiveType → String
  | .bool => "bool"
  | .int64 => "i64"
  | .float64 => "f64"
  | .timestamp => "DateTime<Utc>"
  | .string => "String"

end PrimitiveType

namespace BaseType

def helper : BaseType → String
  | .primitive p => p.helper
  | .enum .. => "enum"
  | .message .. => "message"

def hostType : BaseType → String
  | .primitive p => p.hostType
  | .enum n _ => n
  | .message n _ => n

def hostImports : BaseType → List String
  | .primitive .timestamp => ["chrono::\x7bDateTime, Utc\x7d"]
  | .enum n (some path) => [path ++ "::" ++ n]
  | .message n (some path) => [path ++ "::" ++ n]
  | _ => []

def toWireCall (b : BaseType) (argument : String) : String :=
  "runtime::" ++ b.helper ++ "_to_wire(" ++ argument ++ ")"

def fromWireCall (b : BaseType) (argument : String) : String :=
  "runtime::" ++ b.helper ++ "_from_wire(" ++ argument ++ ")"

end BaseType

namespace ColumnType

def hostType (t : ColumnType) : String :=
  let value := if t.isArray then "Vec<" ++ t.base.hostType ++ ">" else t.base.hostType
  if t.nullable then "Option<" ++ value ++ ">" else value

def hostImports (t : ColumnType) : List String := t.base.hostImports

/-- Puts the owned variable `var` on the wire. The variable is lent to the call. -/
def marshal (t : ColumnType) (var : String) : String :=
  match t.nullable, t.isArray with
  | false, false => t.base.toWireCall ("&" ++ var)
  | false, true =>
    "runtime::array_to_wire(&" ++ var ++ ", |v| " ++ t.base.toWireCall "v" ++ ")"
  | true, false =>
    "runtime::nullable_to_wire(" ++ var ++ ".as_ref(), |v| " ++ t.base.toWireCall "v" ++ ")"
  | true, true =>
    "runtime::nullable_to_wire(" ++ var ++ ".as_ref(), |v| runtime::array_to_wire(v, |v| "
      ++ t.base.toWireCall "v" ++ "))"

def unmarshal (t : ColumnType) (cell : String) : String :=
  let value (argument : String) : String :=
    if t.isArray then
      "runtime::array_from_wire(" ++ argument ++ ", |v| " ++ t.base.fromWireCall "v" ++ ")"
    else t.base.fromWireCall argument
  if t.nullable then "runtime::nullable_from_wire(" ++ cell ++ ", |v| " ++ value "v" ++ ")"
  else value cell

end ColumnType
end SchemaLoom
