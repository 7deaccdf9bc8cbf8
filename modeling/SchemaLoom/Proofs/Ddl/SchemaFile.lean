import SchemaLoom.Command.Run
import SchemaLoom.Proofs.Compiled
import SchemaLoom.Proofs.Definition.RoundTrip

/-!
# The schema file

The schema statements reach a reader in two ways: through the sink into the schema file, or printed
by a command. Both are one text, which the sink only ends with a line break, and the statements are
read back from it. A schema is never too deep for the reader, whatever stands in it.
-/
namespace SchemaLoom
open Json Json.Decoder Output

/-! ## Schemas are read as they were written -/

namespace ColumnDdl

def layout :=
  Layout.required "name" name text_inverts <|
  .required "addColumnDdl" addColumn text_inverts .nil

theorem decoder_inverts : decoder.Inverts toJson :=
  layout.inverts (by decide) (fun _ => rfl) fun _ => rfl

end ColumnDdl

namespace IndexDdl

def layout :=
  Layout.required "name" name text_inverts <|
  .required "createIndexDdl" createIndex text_inverts .nil

theorem decoder_inverts : decoder.Inverts toJson :=
  layout.inverts (by decide) (fun _ => rfl) fun _ => rfl

end IndexDdl

namespace TableDdl

def layout :=
  Layout.required "name" name text_inverts <|
  .required "columns" columns ColumnDdl.decoder_inverts.list <|
  .required "createTableDdl" createTable text_inverts <|
  .required "indexes" indexes IndexDdl.decoder_inverts.list .nil

theorem decoder_inverts : decoder.Inverts toJson :=
  layout.inverts (by decide) (fun _ => rfl) fun _ => rfl

end TableDdl

namespace DdlArtifact

def layout := Layout.required "tables" tables TableDdl.decoder_inverts.list .nil

theorem decoder_inverts : decoder.Inverts toJson :=
  layout.inverts (by decide) (fun _ => rfl) fun _ => rfl

/-- Artifact, tables, table, columns, column: nothing is deeper. -/
theorem height_toJson_le (d : DdlArtifact) : d.toJson.height ≤ 5 := by
  have hcolumns : ∀ t : TableDdl, heightItems (t.columns.map (·.toJson)) ≤ 1 := fun t =>
    heightItems_map_le t.columns fun c _ => by simp [ColumnDdl.toJson, height, heightFields]
  have hindexes : ∀ t : TableDdl, heightItems (t.indexes.map (·.toJson)) ≤ 1 := fun t =>
    heightItems_map_le t.indexes fun i _ => by simp [IndexDdl.toJson, height, heightFields]
  have htables : heightItems (d.tables.map (·.toJson)) ≤ 3 := by
    apply heightItems_map_le
    intro t _
    have hc := hcolumns t
    have hi := hindexes t
    simp only [TableDdl.toJson, height, heightFields]
    omega
  simp only [toJson, height, heightFields]
  omega

/-- The schema is read back from its text, also where line breaks follow. -/
theorem read_text (d : DdlArtifact) (blanks : List Char) (h : ∀ c ∈ blanks, isBlank c = true) :
    Json.parse? (d.text ++ String.ofList blanks) >>= decoder nestingLimit = some d := by
  have hroom : d.toJson.height ≤ nestingLimit := Nat.le_trans d.height_toJson_le (by decide)
  rw [text, parse?_pretty d.toJson blanks h]
  exact decoder_inverts d nestingLimit hroom

/-- The text ends with a brace, so the line break after it is not its own. -/
theorem endLine_text (d : DdlArtifact) : OutputFile.endLine d.text = d.text ++ "\n" := by
  have hlast : d.text.toList.getLast? = some '\x7d' := by
    simp [text, toJson, pretty, prettyAt, List.getLast?_cons]
  have hne : d.text ≠ "" := by
    intro h
    simp [h] at hlast
  rw [OutputFile.endLine, hlast, if_neg (by simp [hne])]

end DdlArtifact

/-! ## The sink -/

namespace Output

theorem Sink.modify_id (s : Sink) (i : Nat) : s.modify i id = s := by
  rw [modify, List.modify_id]

theorem Sink.modify_modify (s : Sink) (i : Nat) (f g : OutputFile → OutputFile) :
    (s.modify i f).modify i g = s.modify i (g ∘ f) := by
  simp [modify, List.modify_modify_eq]

def OutputFile.withStatement (f : OutputFile) (s : Statement) : OutputFile :=
  { f with
    imports := (Code.imports s).foldl (fun done path => Code.insertSorted path done) f.imports
    fragments := f.fragments ++ [s.render] }

end Output

namespace Generated

theorem addImports_eq (sink : Sink) (i : Nat) (paths : List String) :
    paths.foldl (fun k path => k.addImport i path) sink = sink.modify i fun f => { f with
      imports := paths.foldl (fun done path => Code.insertSorted path done) f.imports } := by
  induction paths generalizing sink with
  | nil => exact (sink.modify_id i).symm
  | cons path paths ih =>
    rw [List.foldl_cons, ih, Sink.addImport, Sink.modify_modify]
    rfl

/-- A statement changes the source file and no other. -/
theorem emitStatement_eq (sink : Sink) (i : Nat) (s : Statement) :
    emitStatement i sink s = sink.modify i (·.withStatement s) := by
  rw [emitStatement, addImports_eq, Sink.push, Sink.modify_modify]
  rfl

theorem emitStatements_eq (sink : Sink) (i : Nat) (ss : List Statement) :
    ss.foldl (emitStatement i) sink = sink.modify i fun f => ss.foldl (·.withStatement ·) f := by
  induction ss generalizing sink with
  | nil => exact (sink.modify_id i).symm
  | cons s ss ih =>
    rw [List.foldl_cons, ih, emitStatement_eq, Sink.modify_modify]
    rfl

def schemaFile (g : Generated) (d : DatabaseDefinition) : OutputFile :=
  { path := g.ddlPath d, fragments := [g.ddl.text] }

def sourceFile (g : Generated) (d : DatabaseDefinition) (runtimePath : String) : OutputFile :=
  g.statements.foldl (·.withStatement ·)
    { path := g.sqlPath d
      header := some g.header
      imports := [Code.runtimeImport runtimePath] }

theorem render_schemaFile (g : Generated) (d : DatabaseDefinition) :
    (g.schemaFile d).render = g.ddl.text ++ "\n" := by
  rw [← g.ddl.endLine_text]
  simp [schemaFile, OutputFile.render, OutputFile.sections]

theorem path_foldl_withStatement (f : OutputFile) (ss : List Statement) :
    (ss.foldl (·.withStatement ·) f).path = f.path := by
  induction ss generalizing f with
  | nil => rfl
  | cons s ss ih => exact ih (f.withStatement s)

/-- Where the paths differ, each file has its own place in the sink. -/
theorem emit_empty (g : Generated) (d : DatabaseDefinition) (runtimePath : String)
    (h : samePath (g.ddlPath d) (g.sqlPath d) = false) :
    (g.emit d runtimePath .empty).files = [g.schemaFile d, g.sourceFile d runtimePath] := by
  have hnew : samePath (g.sqlPath d) (g.ddlPath d) = false := by
    simpa [samePath, eq_comm] using h
  have hfirst : Sink.empty.file (g.ddlPath d) =
      (0, ⟨[{ path := g.ddlPath d }], ⟨[(g.ddlPath d, 0)]⟩⟩) := rfl
  have hsecond : Sink.file ⟨[g.schemaFile d], ⟨[(g.ddlPath d, 0)]⟩⟩ (g.sqlPath d) =
      (1, ⟨[g.schemaFile d, { path := g.sqlPath d }], ⟨[(g.sqlPath d, 1), (g.ddlPath d, 0)]⟩⟩) := by
    simp [Sink.file, PathIndex.find?, PathIndex.insert, hnew]
  have hpush : Sink.push ⟨[{ path := g.ddlPath d }], ⟨[(g.ddlPath d, 0)]⟩⟩ 0 g.ddl.text =
      ⟨[g.schemaFile d], ⟨[(g.ddlPath d, 0)]⟩⟩ := rfl
  -- From here on everything goes into file 1, and the schema file keeps its one fragment.
  simp only [emit, hfirst, hpush, hsecond, emitStatements_eq]
  rfl

end Generated

/-! ## The printed schema -/

namespace Command

/-- A call that asks for the schema of a definition as JSON, on a disk where it finds its
configuration and the definition. -/
structure AsksForSchema (disk : Disk) (i : Invocation) (d : DatabaseDefinition) : Prop where
  configured : ∃ config, (resolveConfig Disk.access i.config).run disk = (.ok config, disk)
  format : i.format = some .json
  found : ∃ path source, i.command = .ddl path ∧ disk.readText path = some source ∧
    DatabaseDefinition.parse? source = some d

theorem run_bind {ε σ α β : Type} {x : ExceptT ε (StateM σ) α} {s t : σ} {a : α}
    (h : x.run s = (.ok a, t)) (f : α → ExceptT ε (StateM σ) β) :
    (x >>= f).run s = (f a).run t := by
  change (x.run >>= ExceptT.bindCont f) s = _
  change (let (r, t) := x.run s; ExceptT.bindCont f r t) = _
  rw [h]
  rfl

theorem run_of_asksForSchema {disk : Disk} {i : Invocation} {d : DatabaseDefinition} {g : Generated}
    (h : AsksForSchema disk i d) (hg : d.generate = .ok g) :
    (run Disk.access i).run disk = (.ok g.ddl.text, disk) := by
  obtain ⟨config, hconfig⟩ := h.configured
  obtain ⟨path, source, hcommand, hread, hparse⟩ := h.found
  have hsource : (readOr Disk.access path).run disk = (.ok source, disk) := by
    have hfile : (ExceptT.lift (Disk.access.readText path) : ExceptT RunError (StateM Disk) _).run
        disk = (.ok (some source), disk) := by
      rw [← hread]
      rfl
    exact run_bind hfile _
  have hload : (loadDefinition Disk.access path).run disk = (.ok d, disk) := by
    rw [loadDefinition, run_bind hsource, hparse]
    rfl
  have hgenerated : (generateFrom Disk.access path).run disk = (.ok (d, g), disk) := by
    rw [generateFrom, run_bind hload, hg]
    rfl
  rw [run, run_bind hconfig, hcommand, h.format]
  exact run_bind hgenerated _

end Command

/-- The schema file is what the command prints, ended with a line break. -/
theorem schema_file_agrees (catalog : Catalog) (d : DatabaseDefinition) (g : Generated)
    (hg : d.generateWith catalog = .ok g) (runtimePath : String)
    (hpaths : samePath (g.ddlPath d) (g.sqlPath d) = false) :
    ∃ schema source,
      (g.emit d runtimePath .empty).renderAll = [(g.ddlPath d, schema), (g.sqlPath d, source)] ∧
      schema = g.ddl.text ++ "\n" ∧
      (∀ disk i, catalog = .ofDefinitions d.definitions → Command.AsksForSchema disk i d →
        (Command.run Disk.access i).run disk = (.ok g.ddl.text, disk)) ∧
      Json.parse? schema >>= DdlArtifact.decoder nestingLimit = some g.ddl := by
  refine ⟨g.ddl.text ++ "\n", (g.sourceFile d runtimePath).render, ?_, rfl, ?_, ?_⟩
  · rw [Sink.renderAll, g.emit_empty d runtimePath hpaths, List.map_cons, g.render_schemaFile d]
    simp [Generated.sourceFile, Generated.schemaFile, Generated.path_foldl_withStatement]
  · rintro disk i rfl hasks
    exact Command.run_of_asksForSchema hasks hg
  · exact g.ddl.read_text ['\n'] (List.forall_mem_singleton.mpr rfl)

namespace Sample

/-- A database whose table and column hold what a string literal escapes. -/
def quoted : DatabaseDefinition where
  name := "Quo\"ted"
  tables := [
    { name := "a\"b\\c\n\x01é→😀"
      columns := [⟨"\t\"\\", "string", false, false, none, false⟩]
      primaryKeys := [.bare "\t\"\\"]
      indexes := [⟨"\x7d, \x0c\x7b", [.bare "\t\"\\"], false, false⟩] }]

def quotedDisk : Disk := .ofFiles [("quoted.json", quoted.toJson.render)]

def printQuoted : Command.Invocation := ⟨none, some .json, .ddl "quoted.json"⟩

theorem printQuoted_asksForSchema : Command.AsksForSchema quotedDisk printQuoted quoted where
  configured := ⟨{}, rfl⟩
  format := rfl
  found := by
    refine ⟨"quoted.json", quoted.toJson.render, rfl, rfl, ?_⟩
    rw [DatabaseDefinition.parse?, parse?_render]
    exact DatabaseDefinition.decoder_inverts quoted nestingLimit (by decide)

end Sample

theorem schema_file_agrees_quoted : ∃ g, Sample.quoted.generate = .ok g ∧
    g.ddl.tables.map (·.name) = ["a\"b\\c\n\x01é→😀"] ∧
    ∃ schema source,
      (g.emit Sample.quoted "runtime" .empty).renderAll =
        [("quo_ted_ddl.json", schema), ("quo_ted_sql.rs", source)] ∧
      (Command.run Disk.access Sample.printQuoted).run Sample.quotedDisk =
        (.ok g.ddl.text, Sample.quotedDisk) ∧
      schema = g.ddl.text ++ "\n" ∧
      Json.parse? schema >>= DdlArtifact.decoder nestingLimit = some g.ddl := by
  have hquoted : (fun g => (g.name, g.ddl.tables.map (·.name))) <$> Sample.quoted.generate =
      .ok ("Quo\"ted", ["a\"b\\c\n\x01é→😀"]) := by decide +kernel
  obtain ⟨g, hg, hnames⟩ := Compiled.map_eq_ok.mp hquoted
  obtain ⟨hname, htables⟩ := Prod.mk.inj hnames
  have hddl : g.ddlPath Sample.quoted = "quo_ted_ddl.json" := by
    rw [Generated.ddlPath, hname]
    decide +kernel
  have hsql : g.sqlPath Sample.quoted = "quo_ted_sql.rs" := by
    rw [Generated.sqlPath, hname]
    decide +kernel
  obtain ⟨schema, source, hfiles, hschema, hprinted, hread⟩ :=
    schema_file_agrees _ Sample.quoted g hg "runtime" (by rw [hddl, hsql]; decide)
  rw [hddl, hsql] at hfiles
  exact ⟨g, hg, htables, schema, source, hfiles,
    hprinted _ _ rfl Sample.printQuoted_asksForSchema, hschema, hread⟩

end SchemaLoom
