import SchemaLoom.Code.Identifier
import SchemaLoom.Column.Conversion
import SchemaLoom.Text.Quoted

/-!
# Generated code

Each statement becomes a function that builds it with its parameters bound. A select also
gets a row type with its parser and a function that runs the statement.
-/
namespace SchemaLoom

def WireType.code : WireType → String
  | .bool => "runtime::WireType::Bool"
  | .int64 => "runtime::WireType::Int64"
  | .float64 => "runtime::WireType::Float64"
  | .timestamp => "runtime::WireType::Timestamp"
  | .string => "runtime::WireType::String"
  | .bytes => "runtime::WireType::Bytes"
  | .array element => "runtime::WireType::array(" ++ element.code ++ ")"

namespace Code

def joinAll (parts : List String) : String := "".intercalate parts

def argument (p : Param) : String := identifier p.name ++ ": " ++ p.type.hostType

def bindCall (p : Param) : String :=
  "\n        .bind(" ++ Text.quoted p.name ++ ", " ++ p.type.wireType.code ++ ", "
    ++ p.type.marshal (identifier p.name) ++ ")"

def fieldDeclaration (o : OutputField) : String :=
  "    pub " ++ identifier o.name ++ ": " ++ o.type.hostType ++ ",\n"

/-- Reads a field from the cell at its own position. -/
def fieldParser (o : OutputField) (position : Nat) : String :=
  "            " ++ identifier o.name ++ ": "
    ++ o.type.unmarshal ("row.cell(" ++ toString position ++ ")?") ++ "?,\n"

def fieldParsers (position : Nat) : List OutputField → List String
  | [] => []
  | o :: os => fieldParser o position :: fieldParsers (position + 1) os

end Code

namespace Statement
open Code

/-- The comment line that shows the SQL text. -/
def docLine (s : Statement) : String := "/// `" ++ s.sql ++ "`"

def renderBuilder (s : Statement) : String :=
  s.docLine ++ "\npub fn " ++ s.builderName ++ "(" ++ ", ".intercalate (s.params.map argument)
    ++ ") -> runtime::Statement \x7b\n    runtime::Statement::new(" ++ Text.quoted s.sql ++ ")"
    ++ joinAll (s.params.map bindCall) ++ "\n\x7d"

def renderRow (s : Statement) : String :=
  "#[derive(Debug, Clone, PartialEq)]\npub struct " ++ s.rowName ++ " \x7b\n"
    ++ joinAll (s.outputs.map fieldDeclaration) ++ "\x7d\n\nimpl " ++ s.rowName
    ++ " \x7b\n    pub fn from_row(row: &runtime::Row) -> Result<Self, runtime::Error> \x7b\n"
    ++ "        Ok(Self \x7b\n" ++ joinAll (fieldParsers 0 s.outputs)
    ++ "        \x7d)\n    \x7d\n\x7d"

def renderRunner (s : Statement) : String :=
  "pub async fn " ++ identifier s.name ++ "("
    ++ ", ".intercalate ((runnerArgument ++ ": &impl runtime::QueryRunner")
      :: s.params.map argument)
    ++ ") -> Result<Vec<" ++ s.rowName ++ ">, runtime::Error> \x7b\n    runtime::run_select("
    ++ runnerArgument ++ ", " ++ s.builderName ++ "("
    ++ ", ".intercalate (s.params.map fun p => identifier p.name) ++ "), " ++ s.rowName
    ++ "::from_row).await\n\x7d"

def render (s : Statement) : String :=
  if s.kind = .select then
    s.renderBuilder ++ "\n\n" ++ s.renderRow ++ "\n\n" ++ s.renderRunner
  else s.renderBuilder

end Statement

namespace Code

def insertSorted (path : String) : List String → List String
  | [] => [path]
  | p :: ps =>
    if path < p then path :: p :: ps
    else if path = p then p :: ps
    else p :: insertSorted path ps

/-- The paths in order, each once. -/
def sortedSet (paths : List String) : List String :=
  paths.foldl (fun done path => insertSorted path done) []

def imports (s : Statement) : List String :=
  sortedSet ((s.params.map (·.type) ++ s.outputs.map (·.type)).flatMap (·.hostImports))

/-- The import that makes the module at `path` known as `runtime`. -/
def runtimeImport (path : String) : String :=
  if path = "runtime" || path.endsWith "::runtime" then path else path ++ " as runtime"

end Code
end SchemaLoom
