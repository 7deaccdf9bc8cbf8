import SchemaLoom.Text.Quoted
import SchemaLoom.Wire.Shortest
import SchemaLoom.Wire.Timestamp
import SchemaLoom.WireType

/-!
# Wire values

Values of parameters and result cells as they travel, queries with their bound parameters,
result rows, and what can go wrong with them.
-/
namespace SchemaLoom

inductive WireValue where
  | null
  | bool (b : Bool)
  | int (i : Int64)
  | float (d : Double)
  | string (s : String)
  | bytes (b : ByteArray)
  | array (items : List WireValue)

/-- The word for a value in error messages. -/
def WireValue.kind : WireValue → String
  | .null => "null"
  | .bool _ => "bool"
  | .int _ => "int"
  | .float _ => "float"
  | .string _ => "string"
  | .bytes _ => "bytes"
  | .array _ => "array"

inductive ConversionFault where
  | mismatch (expected got : String)
  | invalidInt (text : String)
  | invalidTimestamp (text : String) (fault : TimestampFault)
  | notEnumNumber (d : Double)
  | unknownEnum (d : Double)
  /-- A message type refused its bytes. -/
  | message (reason : String)
deriving DecidableEq, Repr

def ConversionFault.text : ConversionFault → String
  | .mismatch expected got => "expected " ++ expected ++ ", got " ++ got
  | .invalidInt text => "invalid int64 " ++ Text.quoted text
  | .invalidTimestamp text fault =>
    "invalid timestamp " ++ Text.quoted text ++ ": " ++ fault.message
  | .notEnumNumber d => d.display ++ " is not an enum number"
  | .unknownEnum d => d.display ++ " is not a known enum value"
  | .message reason => reason

inductive QueryError where
  | query (reason : String)
  | conversion (fault : ConversionFault)
  | missingCell (index length : Nat)
deriving DecidableEq, Repr

def QueryError.message : QueryError → String
  | .query reason => "Query failed: " ++ reason
  | .conversion fault => "Conversion failed: " ++ fault.text
  | .missingCell index length =>
    "Row has " ++ toString length ++ " cells, cell " ++ toString index ++ " requested"

structure Binding where
  name : String
  type : WireType
  value : WireValue

/-- A statement with values for its parameters, in the order of their names. -/
structure Query where
  sql : String
  bindings : List Binding := []

namespace Query

/-- Puts a binding in its place; an earlier one of the same name gives way. -/
def insertBinding (b : Binding) : List Binding → List Binding
  | [] => [b]
  | c :: cs =>
    if b.name < c.name then b :: c :: cs
    else if b.name = c.name then b :: cs
    else c :: insertBinding b cs

def bind (q : Query) (b : Binding) : Query :=
  { q with bindings := insertBinding b q.bindings }

end Query

/-- A result row, its cells in the order of the select list. -/
structure Row where
  cells : List WireValue

namespace Row

def size (r : Row) : Nat := r.cells.length

def cell (r : Row) (index : Nat) : Except QueryError WireValue :=
  match r.cells[index]? with
  | some v => .ok v
  | none => .error (.missingCell index r.size)

end Row

/-- Runs a query and parses every row; the first failure ends it. -/
def runSelect {m : Type → Type} [Monad m] {α : Type}
    (run : Query → m (Except QueryError (List Row))) (q : Query)
    (parse : Row → Except QueryError α) : m (Except QueryError (List α)) := do
  let rows ← run q
  return rows >>= (·.mapM parse)

end SchemaLoom
