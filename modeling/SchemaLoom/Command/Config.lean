import SchemaLoom.Json.Decoder
import SchemaLoom.Json.Reader

/-!
# Configuration

Settings shared by all commands. Every field has a default and a field that is not known is
refused.
-/
namespace SchemaLoom
open Json Json.Decoder

inductive OutputFormat where
  | table
  | json
deriving DecidableEq, Repr

namespace OutputFormat

def name : OutputFormat → String
  | .table => "table"
  | .json => "json"

def named : List (String × OutputFormat) := [("table", .table), ("json", .json)]

def decoder : Decoder OutputFormat := choice named

end OutputFormat

structure Config where
  /-- The module generated code reaches its support code through. -/
  runtimePath : String := "spanner_gen::runtime"
  outDir : String := "."
  format : OutputFormat := .table
deriving DecidableEq, Repr

namespace Config

/-- The file that is read when none is named. -/
def fileName : String := ".spanner_gen.json"

def toJson (c : Config) : Json :=
  .object [("runtimePath", .string c.runtimePath), ("outDir", .string c.outDir),
    ("format", .string c.format.name)]

def decoder : Decoder Config
  | 0, _ => none
  | room + 1, v => do
    let r ← strictRecord ["runtimePath", "outDir", "format"] v
    let default : Config := {}
    return { runtimePath := ← r.defaulted "runtimePath" default.runtimePath text room
             outDir := ← r.defaulted "outDir" default.outDir text room
             format := ← r.defaulted "format" default.format OutputFormat.decoder room }

def parse? (content : String) : Option Config := Json.parse? content >>= decoder nestingLimit

end Config
end SchemaLoom
