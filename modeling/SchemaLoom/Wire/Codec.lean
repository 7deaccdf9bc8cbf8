import SchemaLoom.Wire.Value

/-!
# What conversions compute

Every conversion has a type of host values, a function that puts a host value on the wire and
a function that reads it back. Enums travel as numbers and messages as bytes, by way of the
codecs of their types. The conversions of arrays and of nulls are given the conversion of what they
hold.
-/
namespace SchemaLoom

inductive ScalarKind where
  | bool
  | int
  | float
  | timestamp
  | string
  | enum
  | message
deriving DecidableEq, Repr

inductive Conversion where
  | scalar (kind : ScalarKind)
  | array (element : Conversion)
  | nullable (value : Conversion)
deriving DecidableEq, Repr

/-- An enum numbers its symbols. -/
structure EnumCodec (E : Type) where
  toNumber : E → Int32
  ofNumber : Int32 → Option E

structure MessageCodec (M : Type) where
  serialize : M → ByteArray
  deserialize : ByteArray → Except String M

/-- The codecs of the enum and the message type of a conversion. -/
structure Codecs (E M : Type) where
  enum : EnumCodec E
  message : MessageCodec M

namespace ScalarKind

/-- The host values of a scalar conversion. -/
abbrev Host (E M : Type) : ScalarKind → Type
  | .bool => Bool
  | .int => Int64
  | .float => Double
  | .timestamp => Timestamp
  | .string => String
  | .enum => E
  | .message => M

end ScalarKind

namespace Wire

def mismatch {α : Type} (expected : String) (v : WireValue) : Except QueryError α :=
  .error (.conversion (.mismatch expected v.kind))

/-- A sign if wanted and digits, within the range of sixty-four bits. -/
def parseInt? (text : String) : Option Int64 :=
  let (negative, ds) := match text.toList with
    | '-' :: rest => (true, rest)
    | '+' :: rest => (false, rest)
    | cs => (false, cs)
  if ds ≠ [] ∧ ds.all Char.isDigit then
    let magnitude : Int := ds.foldl (fun n c => n * 10 + (c.toNat - '0'.toNat)) 0
    let n := if negative then -magnitude else magnitude
    if Int64.minValue.toInt ≤ n ∧ n ≤ Int64.maxValue.toInt then some (Int64.ofInt n) else none
  else none

/-- An integer, or its decimal text. -/
def toInt : WireValue → Except QueryError Int64
  | .int i => .ok i
  | .string s =>
    match parseInt? s with
    | some i => .ok i
    | none => .error (.conversion (.invalidInt s))
  | v => mismatch "int" v

/-- A double, or the double nearest to an integer. -/
def toDouble : WireValue → Except QueryError Double
  | .float d => .ok d
  | .int i => .ok (Double.ofInt i.toInt)
  | v => mismatch "float" v

def toTimestamp : WireValue → Except QueryError Timestamp
  | .string s =>
    match Timestamp.parse s with
    | .ok t => .ok t
    | .error fault => .error (.conversion (.invalidTimestamp s fault))
  | v => mismatch "timestamp string" v

/-- The number of an enum symbol. It has nothing behind the point and does not lie outside of
thirty-two bits, compared as a double. -/
def enumNumber? (d : Double) : Option Int32 :=
  if d.fract.compare? .zero ≠ some .eq
      ∨ d.compare? (Double.ofInt Int32.minValue.toInt) = some .lt
      ∨ d.compare? (Double.ofInt Int32.maxValue.toInt) = some .gt then none
  else some d.toInt32

def toEnum {E : Type} (codec : EnumCodec E) (v : WireValue) : Except QueryError E := do
  let d ← toDouble v
  match enumNumber? d with
  | none => .error (.conversion (.notEnumNumber d))
  | some n =>
    match codec.ofNumber n with
    | some e => .ok e
    | none => .error (.conversion (.unknownEnum d))

def toMessage {M : Type} (codec : MessageCodec M) : WireValue → Except QueryError M
  | .bytes b =>
    match codec.deserialize b with
    | .ok m => .ok m
    | .error reason => .error (.conversion (.message reason))
  | v => mismatch "bytes" v

section Combinators

variable {α : Type}

def arrayToWire (toWire : α → WireValue) (vs : List α) : WireValue := .array (vs.map toWire)

def arrayOfWire (ofWire : WireValue → Except QueryError α) : WireValue → Except QueryError (List α)
  | .array vs => vs.mapM ofWire
  | v => mismatch "array" v

def nullableToWire (toWire : α → WireValue) : Option α → WireValue
  | none => .null
  | some v => toWire v

def nullableOfWire (ofWire : WireValue → Except QueryError α) :
    WireValue → Except QueryError (Option α)
  | .null => .ok none
  | v => some <$> ofWire v

end Combinators
end Wire

namespace ScalarKind
variable {E M : Type}

def toWire (codecs : Codecs E M) : (k : ScalarKind) → k.Host E M → WireValue
  | .bool, b => .bool b
  | .int, i => .int i
  | .float, d => .float d
  | .timestamp, t => .string t.render
  | .string, s => .string s
  | .enum, e => .float (Double.ofInt (codecs.enum.toNumber e).toInt)
  | .message, m => .bytes (codecs.message.serialize m)

def ofWire (codecs : Codecs E M) : (k : ScalarKind) → WireValue → Except QueryError (k.Host E M)
  | .bool, .bool b => .ok b
  | .bool, v => Wire.mismatch "bool" v
  | .int, v => Wire.toInt v
  | .float, v => Wire.toDouble v
  | .timestamp, v => Wire.toTimestamp v
  | .string, .string s => .ok s
  | .string, v => Wire.mismatch "string" v
  | .enum, v => Wire.toEnum codecs.enum v
  | .message, v => Wire.toMessage codecs.message v

end ScalarKind

namespace Conversion
variable {E M : Type}

def Host (E M : Type) : Conversion → Type
  | .scalar k => k.Host E M
  | .array c => List (c.Host E M)
  | .nullable c => Option (c.Host E M)

def toWire (codecs : Codecs E M) : (c : Conversion) → c.Host E M → WireValue
  | .scalar k => k.toWire codecs
  | .array c => Wire.arrayToWire (c.toWire codecs)
  | .nullable c => Wire.nullableToWire (c.toWire codecs)

def ofWire (codecs : Codecs E M) : (c : Conversion) → WireValue →
    Except QueryError (c.Host E M)
  | .scalar k => k.ofWire codecs
  | .array c => Wire.arrayOfWire (c.ofWire codecs)
  | .nullable c => Wire.nullableOfWire (c.ofWire codecs)

end Conversion
end SchemaLoom
