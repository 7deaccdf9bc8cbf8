import SchemaLoom.Json.Basic

/-!
# Decoding JSON into models

A decoder is told how many more arrays and objects may be open. A record is an object, whose
unknown fields are skipped with whatever they hold, or an array of its fields in their order,
whose last fields may be left out if they have a default. Values whose shape has to be tried
out are first held as a whole: then every part of them counts, skipped fields included.
-/
namespace SchemaLoom.Json

/-- Reads a value when the given number of arrays and objects may still be opened. -/
abbrev Decoder (α : Type) := Nat → Json → Option α

abbrev Record := List (String × Json)

/-- The fields `names` of an object or array; a field that occurs twice is refused. -/
def record (names : List String) : Json → Option Record
  | .object fields =>
    let known := fields.filter fun f => names.contains f.1
    if (known.map (·.1)).Nodup then some known else none
  | .array items => if items.length ≤ names.length then some (names.zip items) else none
  | _ => none

def strictRecord (names : List String) (v : Json) : Option Record :=
  match v with
  | .object fields => if fields.all (names.contains ·.1) then record names v else none
  | _ => record names v

namespace Record

def required {α : Type} (r : Record) (name : String) (d : Decoder α) (room : Nat) : Option α :=
  r.lookup name >>= d room

def defaulted {α : Type} (r : Record) (name : String) (default : α) (d : Decoder α)
    (room : Nat) : Option α :=
  match r.lookup name with
  | none => some default
  | some v => d room v

/-- A field that may be absent or null. -/
def optional {α : Type} (r : Record) (name : String) (d : Decoder α) (room : Nat) :
    Option (Option α) :=
  match r.lookup name with
  | none => some none
  | some .null => some none
  | some v => some <$> d room v

end Record

namespace Decoder

def text : Decoder String
  | _, .string s => some s
  | _, _ => none

def flag : Decoder Bool
  | _, .bool b => some b
  | _, _ => none

def list {α : Type} (d : Decoder α) : Decoder (List α)
  | room + 1, .array items => items.mapM (d room)
  | _, _ => none

def texts : Decoder (List String) := list text

/-- A record with the given fields, built from those present. -/
def struct {α : Type} (names : List String) (build : Record → Nat → Option α) : Decoder α
  | room + 1, v => record names v >>= (build · room)
  | 0, _ => none

/-- One of several names, alone or as the one key of an object that holds null. -/
def choice {α : Type} (options : List (String × α)) : Decoder α
  | _, .string s => options.lookup s
  | _ + 1, .object [(s, .null)] => options.lookup s
  | _, _ => none

/-- Holds the whole value before it is read. -/
def held {α : Type} (read : Json → Option α) : Decoder α := fun room v =>
  if v.height ≤ room && v.holdable then read v else none

end Decoder

/-- The `kind` of a tagged record and the record without it. -/
def tagged : Json → Option (String × Json)
  | .object fields =>
    match fields.filter (·.1 = "kind") with
    | [(_, .string k)] => some (k, .object (fields.filter (·.1 ≠ "kind")))
    | _ => none
  | .array (.string k :: rest) => some (k, .array rest)
  | _ => none

/-- How many arrays and objects may be open at once. -/
def nestingLimit : Nat := 127

end SchemaLoom.Json
