import SchemaLoom.Code.Render
import SchemaLoom.Ddl.Json
import SchemaLoom.Derived.Statements
import SchemaLoom.Output.Sink
import SchemaLoom.Sql.Select

/-!
# A generation pass

Tables are compiled in the order of their declaration, each followed by the statements it
asks for; then come the statements of the database. Statements see only the tables declared
before them. The result is written as a schema file and a source file.
-/
namespace SchemaLoom
open Compiled

structure Generated where
  name : String
  ddl : DdlArtifact
  statements : List Statement
deriving DecidableEq, Repr

namespace Pass

/-- Compiles the inserts, updates, deletes and selects of a set, in this order. -/
def compileSet (registry : Registry) (s : StatementSet) : Compiled (List Statement) := do
  let inserts ← s.inserts.mapM (·.compile registry)
  let updates ← s.updates.mapM (·.compile registry)
  let deletes ← s.deletes.mapM (·.compile registry)
  let selects ← s.selects.mapM (·.compile registry)
  return inserts ++ updates ++ deletes ++ selects

structure Progress where
  registry : Registry
  ddl : List TableDdl
  statements : List Statement

def Progress.start : Progress := ⟨.empty, [], []⟩

/-- One table with the statements it asks for. -/
def step (catalog : Catalog) (p : Progress) (d : TableDefinition) : Compiled Progress := do
  let augmented ← within (tableLabel d.name) d.augment
  let (ddl, registry) ← p.registry.declare catalog augmented
  let derived ← within (tableLabel d.name) augmented.derive
  let statements ← compileSet registry derived
  return ⟨registry, p.ddl ++ [ddl], p.statements ++ statements⟩

def runTables (catalog : Catalog) : Progress → List TableDefinition → Compiled Progress
  | p, [] => .ok p
  | p, d :: ds => do
    let next ← step catalog p d
    runTables catalog next ds

/-- No two statements have one name; `seen` are the names before. -/
def checkNames (seen : List String) : List Statement → Compiled Unit
  | [] => .ok ()
  | s :: ss => do
    within (statementLabel s.name)
      (ensure (!seen.contains s.name)
        (.invalid ("statement " ++ s.name ++ " is declared more than once.")))
    checkNames (seen ++ [s.name]) ss

end Pass

open Pass in
/-- Compiles a database definition with the types of `catalog`. -/
def DatabaseDefinition.generateWith (catalog : Catalog) (d : DatabaseDefinition) :
    Compiled Generated := do
  within "When generating database" (ensure (d.name ≠ "") (.missing "name"))
  let p ← runTables catalog .start d.tables
  let declared ← compileSet p.registry d.declared
  let statements := p.statements ++ declared
  checkNames [] statements
  Code.checkIdentifiers statements
  return { name := d.name, ddl := ⟨p.ddl⟩, statements }

/-- Compiles a database definition with the types it declares itself. -/
def DatabaseDefinition.generate (d : DatabaseDefinition) : Compiled Generated :=
  d.generateWith (.ofDefinitions d.definitions)

namespace Generated
open Output

def ddlPath (g : Generated) (d : DatabaseDefinition) : String :=
  d.outputDdl.getD (Text.snakeCase g.name ++ "_ddl.json")

def sqlPath (g : Generated) (d : DatabaseDefinition) : String :=
  d.outputSql.getD (Text.snakeCase g.name ++ "_sql.rs")

def header (g : Generated) : String :=
  "//! Statements for " ++ g.name ++ ". Generated by spanner_gen; do not edit."

/-- Adds a rendered statement and its imports to a file. -/
def emitStatement (file : Nat) (sink : Sink) (s : Statement) : Sink :=
  ((Code.imports s).foldl (fun k path => k.addImport file path) sink).push file s.render

/-- Fills the sink with both files. -/
def emit (g : Generated) (d : DatabaseDefinition) (runtimePath : String) (sink : Sink) : Sink :=
  let (ddl, sink) := sink.file (g.ddlPath d)
  let sink := sink.push ddl g.ddl.text
  let (sql, sink) := sink.file (g.sqlPath d)
  let sink := sink.setHeader sql g.header
  let sink := sink.addImport sql (Code.runtimeImport runtimePath)
  g.statements.foldl (emitStatement sql) sink

end Generated
end SchemaLoom
