/-!
# Wire types

The type a parameter is declared with in the query protocol. A timestamp travels as text but
is declared as what it is.
-/
namespace SchemaLoom

inductive WireType where
  | bool
  | int64
  | float64
  | timestamp
  | string
  | bytes
  | array (element : WireType)
deriving DecidableEq, Repr

namespace WireType

def display : WireType → String
  | .bool => "bool"
  | .int64 => "int64"
  | .float64 => "float64"
  | .timestamp => "timestamp"
  | .string => "string"
  | .bytes => "bytes"
  | .array element => "array<" ++ element.display ++ ">"

end WireType
end SchemaLoom
