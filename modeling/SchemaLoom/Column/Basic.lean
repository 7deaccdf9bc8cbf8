import SchemaLoom.WireType

/-!
# Column types

A resolved column type is a primitive, an enum or a message, alone or in an array, with or
without null. It determines the type in the schema language and the type on the wire: enums
are stored as numbers and messages as bytes.
-/
namespace SchemaLoom

inductive PrimitiveType where
  | bool
  | int64
  | float64
  | timestamp
  | string
deriving DecidableEq, Repr

namespace PrimitiveType

/-- The primitive of a type name; two of them have a second, shorter name. -/
def parse? : String → Option PrimitiveType
  | "bool" => some .bool
  | "int64" => some .int64
  | "int" => some .int64
  | "float64" => some .float64
  | "float" => some .float64
  | "timestamp" => some .timestamp
  | "string" => some .string
  | _ => none

def name : PrimitiveType → String
  | .bool => "bool"
  | .int64 => "int64"
  | .float64 => "float64"
  | .timestamp => "timestamp"
  | .string => "string"

def ddlType : PrimitiveType → String
  | .bool => "BOOL"
  | .int64 => "INT64"
  | .float64 => "FLOAT64"
  | .timestamp => "TIMESTAMP"
  | .string => "STRING(MAX)"

def wireType : PrimitiveType → WireType
  | .bool => .bool
  | .int64 => .int64
  | .float64 => .float64
  | .timestamp => .timestamp
  | .string => .string

end PrimitiveType

inductive BaseType where
  | primitive (p : PrimitiveType)
  | enum (name : String) (importPath : Option String)
  | message (name : String) (importPath : Option String)
deriving DecidableEq, Repr

namespace BaseType

def name : BaseType → String
  | .primitive p => p.name
  | .enum n _ => n
  | .message n _ => n

def importPath : BaseType → Option String
  | .primitive _ => none
  | .enum _ path => path
  | .message _ path => path

/-- Equal up to the place the type is imported from. -/
def same : BaseType → BaseType → Bool
  | .primitive p, .primitive q => p = q
  | .enum m _, .enum n _ => m = n
  | .message m _, .message n _ => m = n
  | _, _ => false

def ddlType : BaseType → String
  | .primitive p => p.ddlType
  | .enum .. => "FLOAT64"
  | .message .. => "BYTES(MAX)"

def wireType : BaseType → WireType
  | .primitive p => p.wireType
  | .enum .. => .float64
  | .message .. => .bytes

end BaseType

structure ColumnType where
  base : BaseType
  isArray : Bool := false
  nullable : Bool := false
deriving DecidableEq, Repr

namespace ColumnType

def ofPrimitive (p : PrimitiveType) : ColumnType := { base := .primitive p }

def asNullable (t : ColumnType) : ColumnType := { t with nullable := true }

/-- One value of the type, never null. -/
def scalar (t : ColumnType) : ColumnType := { base := t.base }

/-- An array of values of the type, never null. -/
def arrayOfScalar (t : ColumnType) : ColumnType := { base := t.base, isArray := true }

def isPrimitive (t : ColumnType) (p : PrimitiveType) : Bool := t.base = .primitive p

/-- Values of the two types can be compared: null and imports do not matter. -/
def sameValue (t u : ColumnType) : Bool := t.base.same u.base && t.isArray == u.isArray

def ddlType (t : ColumnType) : String :=
  if t.isArray then "Array<" ++ t.base.ddlType ++ ">" else t.base.ddlType

def wireType (t : ColumnType) : WireType :=
  if t.isArray then .array t.base.wireType else t.base.wireType

/-- The type with its null constraint, as the schema language writes it. -/
def ddlWithNull (t : ColumnType) : String :=
  t.ddlType ++ if t.nullable then "" else " NOT NULL"

end ColumnType
end SchemaLoom
