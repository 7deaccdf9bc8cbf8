import SchemaLoom.Json.Token

/-!
# Reading JSON

A stack machine builds the value from the tokens: each open array or object is a frame, and
the state says what may come next. A text is accepted when the machine holds one whole value
at its end, so nothing may follow the value but blanks.
-/
namespace SchemaLoom.Json

/-- A key as the text gives it; `none` spells no text. -/
abbrev Key := Option String

/-- An array or object that is still open, its parts in reverse. -/
inductive Frame where
  | items (done : List Json)
  /-- The value of `key` comes next. -/
  | fields (done : List (Key × Json)) (key : Key)

inductive State where
  | value (stack : List Frame)
  /-- Just after the bracket that opens an array. -/
  | firstItem (stack : List Frame)
  /-- Just after the bracket that opens an object. -/
  | firstKey (stack : List Frame)
  | key (done : List (Key × Json)) (stack : List Frame)
  | colon (done : List (Key × Json)) (key : Key) (stack : List Frame)
  /-- A value has been completed. -/
  | after (v : Json) (stack : List Frame)

/-- An object of fields in reverse; one ill-spelt key spoils it. -/
def ofReversed (done : List (Key × Json)) : Json :=
  match done.reverse.mapM fun (k, v) => k.map (·, v) with
  | some fields => .object fields
  | none => .unpaired

def key? : Json → Option Key
  | .string s => some (some s)
  | .unpaired => some none
  | _ => none

namespace State

/-- A token where a value may begin. -/
def openValue (stack : List Frame) : Token → Option State
  | .openArray => some (.firstItem stack)
  | .openObject => some (.firstKey stack)
  | .scalar v => some (.after v stack)
  | _ => none

/-- A token after a completed value. -/
def closeValue (v : Json) : List Frame → Token → Option State
  | .items done :: stack, .comma => some (.value (.items (v :: done) :: stack))
  | .items done :: stack, .closeArray => some (.after (.array (v :: done).reverse) stack)
  | .fields done k :: stack, .comma => some (.key ((k, v) :: done) stack)
  | .fields done k :: stack, .closeObject => some (.after (ofReversed ((k, v) :: done)) stack)
  | _, _ => none

def step : State → Token → Option State
  | .value stack, t => openValue stack t
  | .firstItem stack, .closeArray => some (.after (.array []) stack)
  | .firstItem stack, t => openValue (.items [] :: stack) t
  | .firstKey stack, .closeObject => some (.after (.object []) stack)
  | .firstKey stack, .scalar v => (.colon [] · stack) <$> key? v
  | .key done stack, .scalar v => (.colon done · stack) <$> key? v
  | .colon done k stack, .colon => some (.value (.fields done k :: stack))
  | .after v stack, t => closeValue v stack t
  | _, _ => none

def result? : State → Option Json
  | .after v [] => some v
  | _ => none

end State

def ofTokens? (ts : List Token) : Option Json :=
  ts.foldlM State.step (.value []) >>= State.result?

/-- The one value a text holds. -/
def parse? (text : String) : Option Json :=
  tokenize text.toList >>= ofTokens?

end SchemaLoom.Json
