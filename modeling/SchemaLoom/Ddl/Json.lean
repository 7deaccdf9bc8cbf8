import SchemaLoom.Ddl.Artifact
import SchemaLoom.Json.Decoder
import SchemaLoom.Json.Printer

/-!
# The schema file

The schema statements as a JSON document, and back.
-/
namespace SchemaLoom
open Json Json.Decoder

namespace ColumnDdl

def toJson (d : ColumnDdl) : Json :=
  .object [("name", .string d.name), ("addColumnDdl", .string d.addColumn)]

def decoder : Decoder ColumnDdl :=
  struct ["name", "addColumnDdl"] fun r room => do
    return { name := ← r.required "name" text room
             addColumn := ← r.required "addColumnDdl" text room }

end ColumnDdl

namespace IndexDdl

def toJson (d : IndexDdl) : Json :=
  .object [("name", .string d.name), ("createIndexDdl", .string d.createIndex)]

def decoder : Decoder IndexDdl :=
  struct ["name", "createIndexDdl"] fun r room => do
    return { name := ← r.required "name" text room
             createIndex := ← r.required "createIndexDdl" text room }

end IndexDdl

namespace TableDdl

def toJson (d : TableDdl) : Json :=
  .object [("name", .string d.name), ("columns", .array (d.columns.map (·.toJson))),
    ("createTableDdl", .string d.createTable), ("indexes", .array (d.indexes.map (·.toJson)))]

def decoder : Decoder TableDdl :=
  struct ["name", "columns", "createTableDdl", "indexes"] fun r room => do
    return { name := ← r.required "name" text room
             columns := ← r.required "columns" (list ColumnDdl.decoder) room
             createTable := ← r.required "createTableDdl" text room
             indexes := ← r.required "indexes" (list IndexDdl.decoder) room }

end TableDdl

namespace DdlArtifact

def toJson (d : DdlArtifact) : Json := .object [("tables", .array (d.tables.map (·.toJson)))]

def decoder : Decoder DdlArtifact :=
  struct ["tables"] fun r room => do
    return { tables := ← r.required "tables" (list TableDdl.decoder) room }

/-- The text of the schema file, without its last line break. -/
def text (d : DdlArtifact) : String := d.toJson.pretty

end DdlArtifact
end SchemaLoom
