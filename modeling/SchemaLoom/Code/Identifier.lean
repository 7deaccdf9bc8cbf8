import SchemaLoom.Sql.Statement

/-!
# Identifiers of generated code

Names become snake-case identifiers; a keyword is written as a raw identifier. Before
rendering, every name must give a usable identifier and no two names of one kind the same.
-/
namespace SchemaLoom
namespace Code
open Compiled

/-- Keywords that can be written as raw identifiers. -/
def rawKeywords : List String :=
  ["abstract", "as", "async", "await", "become", "box", "break", "const", "continue", "do",
   "dyn", "else", "enum", "extern", "false", "final", "fn", "for", "gen", "if", "impl", "in",
   "let", "loop", "macro", "match", "mod", "move", "mut", "override", "priv", "pub", "ref",
   "return", "static", "struct", "trait", "true", "try", "type", "typeof", "unsafe",
   "unsized", "use", "virtual", "where", "while", "yield"]

/-- Keywords that cannot. -/
def reservedWords : List String := ["crate", "self", "Self", "super", "_"]

/-- The first argument of every generated select function. -/
def runnerArgument : String := "runner"

def isIdentStart (c : Char) : Bool := c.isAlpha || c == '_'
def isIdentRest (c : Char) : Bool := c.isAlphanum || c == '_'

/-- The text is a letter or underscore followed by letters, digits and underscores. -/
def isIdent (text : String) : Bool :=
  match text.toList with
  | [] => false
  | c :: cs => isIdentStart c && (c :: cs).all isIdentRest

def identifier (name : String) : String :=
  let ident := Text.snakeCase name
  if rawKeywords.contains ident then "r#" ++ ident else ident

/-- The snake-case form of a name, if it is usable. -/
def checkIdent (what name : String) : Compiled String :=
  let ident := Text.snakeCase name
  if isIdent ident && !reservedWords.contains ident then .ok ident
  else .error (.invalid (what ++ " " ++ name ++ " does not map to a usable Rust identifier."))

/-- Identifiers in use, each with the name it came from. -/
abbrev Claims := List (String × String)

def claim (seen : Claims) (what name ident : String) : Compiled Claims :=
  match seen.lookup ident with
  | some other => .error (.invalid (what ++ " " ++ other ++ " and " ++ name
      ++ " both map to the Rust identifier " ++ ident ++ "."))
  | none => .ok (seen ++ [(ident, name)])

def claimAll (what many : String) (seen : Claims) : List String → Compiled Claims
  | [] => .ok seen
  | name :: names => do
    let ident ← checkIdent what name
    let seen ← claim seen many name ident
    claimAll what many seen names

end Code

namespace Statement
open Code Compiled

def builderName (s : Statement) : String := Text.snakeCase s.name ++ "_statement"

def rowName (s : Statement) : String := Text.upperCamel s.name ++ "Row"

def checkParts (s : Statement) : Compiled Unit := do
  let taken : Claims := if s.kind = .select then [(runnerArgument, runnerArgument)] else []
  let _ ← claimAll "parameter" "parameters" taken (s.params.map (·.name))
  let _ ← claimAll "output field" "output fields" [] (s.outputs.map (·.name))
  return ()

/-- One statement after those whose functions and rows are given. -/
def checkIdentifiers (functions rows : Claims) (s : Statement) : Compiled (Claims × Claims) :=
  within (statementLabel s.name) do
    let ident ← checkIdent "statement" s.name
    let functions ← claim functions "statements" s.name ident
    let rows ← if s.kind = .select then claim rows "statements" s.name s.rowName else .ok rows
    s.checkParts
    return (functions, rows)

end Statement

namespace Code

/-- Every statement renders to distinct, usable identifiers; `functions` and `rows` are those
of the statements before. -/
def checkFrom (functions rows : Claims) : List Statement → Compiled Unit
  | [] => .ok ()
  | s :: ss => do
    let (functions, rows) ← s.checkIdentifiers functions rows
    checkFrom functions rows ss

def checkIdentifiers (statements : List Statement) : Compiled Unit := checkFrom [] [] statements

end Code
end SchemaLoom
