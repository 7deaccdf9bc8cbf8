import SchemaLoom.Proofs.Code.Functions
import SchemaLoom.Proofs.Ddl.SchemaFile
import SchemaLoom.Proofs.Sql.LineBreaks

/-!
# Comments of the generated code

The source file begins with a comment that names the database, and every builder with one that
shows its SQL. A comment ends with its line, so it holds what is written into it as long as this has
no line break. The checks of a pass are about identifiers and do not look for line breaks: a name
with one is accepted, and what follows the break is read as code. The SQL stands in the body of the
builder as well, where it is quoted.
-/
namespace SchemaLoom
open Compiled Text Output

/-! ## The source file by its lines -/

/-- A text that is not the first one stands behind a separator. -/
theorem exists_intercalate (sep : String) {t : String} {ts : List String} (h : t ∈ ts)
    (first : String) :
    ∃ before after, sep.intercalate (first :: ts) = before ++ sep ++ t ++ after := by
  induction ts generalizing first with
  | nil => cases h
  | cons u ts ih =>
    rw [String.intercalate_cons_cons]
    rcases List.mem_cons.mp h with rfl | h
    · cases ts with
      | nil => exact ⟨first, "", by simp⟩
      | cons v ts =>
        exact ⟨first, sep ++ sep.intercalate (v :: ts), by
          rw [String.intercalate_cons_cons]
          simp only [String.append_assoc]⟩
    · obtain ⟨before, after, hrest⟩ := ih h u
      exact ⟨first ++ sep ++ before, after, by rw [hrest]; simp only [String.append_assoc]⟩

theorem Code.insertSorted_ne_nil (path : String) (paths : List String) :
    insertSorted path paths ≠ [] := by
  fun_cases insertSorted path paths <;> simp

theorem Code.foldl_insertSorted_ne_nil {done : List String} (h : done ≠ []) (paths : List String) :
    paths.foldl (fun done path => insertSorted path done) done ≠ [] := by
  induction paths generalizing done with
  | nil => exact h
  | cons path paths ih => exact ih (insertSorted_ne_nil path done)

/-- What statements add to a file: imports, and their own texts behind those before. -/
theorem Output.OutputFile.foldl_withStatement (ss : List Statement) {f : OutputFile}
    (h : f.imports ≠ []) :
    (ss.foldl (·.withStatement ·) f).header = f.header ∧
      (ss.foldl (·.withStatement ·) f).imports ≠ [] ∧
      (ss.foldl (·.withStatement ·) f).fragments = f.fragments ++ ss.map Statement.render := by
  induction ss generalizing f with
  | nil => exact ⟨rfl, h, by simp⟩
  | cons s ss ih =>
    obtain ⟨hheader, himports, hfragments⟩ :=
      ih (f := f.withStatement s) (Code.foldl_insertSorted_ne_nil h _)
    refine ⟨hheader, himports, hfragments.trans ?_⟩
    simp [OutputFile.withStatement]

theorem Statement.oneLine_docLine {s : Statement} : OneLine s.docLine ↔ OneLine s.sql := by
  simp +decide [docLine]

theorem Statement.exists_render (s : Statement) : ∃ rest,
    s.render = s.docLine ++ "\n" ++ ("pub fn " ++ s.builderName ++ "(" ++ rest) := by
  have hopen : "\npub fn " = "\n" ++ "pub fn " := rfl
  have hbuilder : ∃ rest,
      s.renderBuilder = s.docLine ++ "\n" ++ ("pub fn " ++ s.builderName ++ "(" ++ rest) := by
    refine ⟨", ".intercalate (s.params.map Code.argument)
      ++ ") -> runtime::Statement \x7b\n    runtime::Statement::new(" ++ quoted s.sql ++ ")"
      ++ Code.joinAll (s.params.map Code.bindCall) ++ "\n\x7d", ?_⟩
    rw [renderBuilder, hopen]
    simp only [String.append_assoc]
  obtain ⟨rest, hrest⟩ := hbuilder
  unfold render
  split
  · exact ⟨rest ++ "\n\n" ++ s.renderRow ++ "\n\n" ++ s.renderRunner, by
      rw [hrest]
      simp only [String.append_assoc]⟩
  · exact ⟨rest, hrest⟩

namespace Generated

theorem sections_sourceFile (g : Generated) (d : DatabaseDefinition) (runtimePath : String) :
    ∃ uses, (g.sourceFile d runtimePath).sections =
      g.header :: uses :: g.statements.map Statement.render := by
  have hfile := OutputFile.foldl_withStatement g.statements
    (f := ⟨g.sqlPath d, some g.header, [Code.runtimeImport runtimePath], []⟩) (by simp)
  obtain ⟨hheader, himports, hfragments⟩ := hfile
  refine ⟨"\n".intercalate ((g.sourceFile d runtimePath).imports.map OutputFile.useLine), ?_⟩
  change (g.sourceFile d runtimePath).header = _ at hheader
  change (g.sourceFile d runtimePath).imports ≠ _ at himports
  change (g.sourceFile d runtimePath).fragments = _ at hfragments
  simp [OutputFile.sections, hheader, himports, hfragments]

/-- The header stands at the start of the source file, and every statement at the start of a line
behind it. -/
theorem render_sourceFile (g : Generated) (d : DatabaseDefinition) (runtimePath : String) :
    (∃ rest, (g.sourceFile d runtimePath).render = g.header ++ "\n" ++ rest) ∧
      ∀ s ∈ g.statements, ∃ before after,
        (g.sourceFile d runtimePath).render = before ++ "\n" ++ (s.render ++ after) := by
  obtain ⟨uses, hsections⟩ := g.sections_sourceFile d runtimePath
  obtain ⟨tail, htail⟩ : ∃ tail, (g.sourceFile d runtimePath).render =
      "\n\n".intercalate (g.header :: uses :: g.statements.map Statement.render) ++ tail := by
    rw [OutputFile.render, hsections, OutputFile.endLine]
    split
    · exact ⟨"", by simp⟩
    · exact ⟨"\n", rfl⟩
  have hbreak : "\n\n" = "\n" ++ "\n" := rfl
  constructor
  · rw [htail, String.intercalate_cons_cons]
    generalize "\n\n".intercalate (uses :: g.statements.map Statement.render) = text
    refine ⟨"\n" ++ text ++ tail, ?_⟩
    rw [hbreak]
    simp only [String.append_assoc]
  · intro s hs
    have hmem : s.render ∈ uses :: g.statements.map Statement.render :=
      List.mem_cons_of_mem _ (List.mem_map_of_mem hs)
    obtain ⟨before, after, htext⟩ := exists_intercalate "\n\n" hmem g.header
    refine ⟨before ++ "\n", after ++ tail, ?_⟩
    rw [htail, htext, hbreak]
    simp only [String.append_assoc]

theorem renderAll_emit (g : Generated) (d : DatabaseDefinition) (runtimePath : String)
    (h : samePath (g.ddlPath d) (g.sqlPath d) = false) :
    (g.emit d runtimePath .empty).renderAll =
      [(g.ddlPath d, (g.schemaFile d).render),
        (g.sqlPath d, (g.sourceFile d runtimePath).render)] := by
  have hpath : (g.sourceFile d runtimePath).path = g.sqlPath d := path_foldl_withStatement _ _
  rw [Sink.renderAll, g.emit_empty d runtimePath h, List.map_cons, List.map_cons, hpath]
  rfl

/-- The comments of a source file hold what is written into them: the header is the first line, and
the line that shows a statement is followed by the line that begins its builder. -/
structure CommentsContained (g : Generated) (source : String) : Prop where
  header : ∃ rest, lines source = g.header :: rest
  builders : ∀ s ∈ g.statements, ∃ before arguments after, lines source =
    before ++ s.docLine :: ("pub fn " ++ s.builderName ++ "(" ++ arguments) :: after

theorem oneLine_header {g : Generated} : OneLine g.header ↔ OneLine g.name := by
  have hopen : OneLine "//! Statements for " := by decide +kernel
  have hclose : OneLine ". Generated by spanner_gen; do not edit." := by decide +kernel
  unfold header
  rw [oneLine_append, oneLine_append, and_iff_left hclose, and_iff_right hopen]

theorem commentsContained_iff {g : Generated} {d : DatabaseDefinition} {runtimePath : String}
    (h : ∀ s ∈ g.statements, OneLine s.builderName) :
    g.CommentsContained (g.sourceFile d runtimePath).render ↔
      OneLine g.name ∧ ∀ s ∈ g.statements, OneLine s.sql := by
  obtain ⟨⟨rest, hheader⟩, hstatements⟩ := g.render_sourceFile d runtimePath
  constructor
  · intro hcontained
    constructor
    · obtain ⟨rest, hlines⟩ := hcontained.header
      exact oneLine_header.mp (oneLine_of_mem_lines (hlines ▸ List.mem_cons_self))
    · intro s hs
      obtain ⟨before, arguments, after, hlines⟩ := hcontained.builders s hs
      exact Statement.oneLine_docLine.mp (oneLine_of_mem_lines (by rw [hlines]; simp))
  · rintro ⟨hname, hsql⟩
    constructor
    · rw [hheader, lines_break, (oneLine_header.mpr hname).lines_eq]
      exact ⟨_, rfl⟩
    · intro s hs
      obtain ⟨before, after, hsource⟩ := hstatements s hs
      obtain ⟨rest, hrender⟩ := s.exists_render
      have hopen : OneLine ("pub fn " ++ s.builderName ++ "(") := by simp +decide [h s hs]
      obtain ⟨arguments, lines', hbuilder⟩ := hopen.exists_lines_append (rest ++ after)
      refine ⟨lines before, arguments, lines', ?_⟩
      rw [hsource, hrender, lines_break, String.append_assoc, lines_break,
        (Statement.oneLine_docLine.mpr (hsql s hs)).lines_eq, String.append_assoc, hbuilder]
      rfl

end Generated

/-! ## Names with line breaks -/

/-- A form that passes the check has no line break, so the name of a builder has none. -/
theorem Statement.oneLine_builderName {s : Statement} (hs : Code.Usable s.name) :
    OneLine s.builderName := by
  have hsnake : OneLine (snakeCase s.name) := fun hmem =>
    absurd (Code.isIdentRest_of_isIdent hs.1 _ hmem) (by decide)
  simp +decide [builderName, hsnake]

theorem Registry.Compiles.oneLine_iff {r : Registry} {qs : List StatementDefinition}
    {ss : List Statement} (h : r.Compiles qs ss) :
    (∀ s ∈ ss, OneLine s.sql) ↔ (∀ q ∈ qs, ∀ n ∈ q.written r, OneLine n) ∧
      ∀ s ∈ ss, ∀ p ∈ s.params, OneLine p.name := by
  induction h with
  | nil => simp
  | cons hs _ ih =>
    simp only [List.forall_mem_cons, StatementDefinition.oneLine_sql_iff hs, ih]
    tauto

/-- The comments of the source file hold what is written into them exactly if the database, the
tables, aliases and columns that its statements write, and their parameters have no line break in
their names. -/
theorem comments_contained_iff (catalog : Catalog) (d : DatabaseDefinition) (g : Generated)
    (h : d.generateWith catalog = .ok g) (runtimePath : String)
    (hpaths : samePath (g.ddlPath d) (g.sqlPath d) = false) :
    ∃ (schema source : String) (augmented : List TableDefinition) (derived : List StatementSet)
        (r : Registry),
      (g.emit d runtimePath .empty).renderAll = [(g.ddlPath d, schema), (g.sqlPath d, source)] ∧
      List.Forall₂ (fun t a => t.augment = .ok a) d.tables augmented ∧
      List.Forall₂ (fun a s => a.derive = .ok s) augmented derived ∧
      r.Compiles (derived.flatMap StatementSet.all ++ d.declared.all) g.statements ∧
      (g.CommentsContained source ↔ OneLine d.name ∧
        (∀ q ∈ derived.flatMap StatementSet.all ++ d.declared.all,
          ∀ n ∈ q.written r, OneLine n) ∧
        ∀ s ∈ g.statements, ∀ p ∈ s.params, OneLine p.name) := by
  have hfiles := g.renderAll_emit d runtimePath hpaths
  simp only [DatabaseDefinition.generateWith, bind_eq_ok, pure_eq_ok] at h
  obtain ⟨-, -, p, hp, declared, hdeclared, -, -, _, hidentifiers, rfl⟩ := h
  obtain ⟨run⟩ := Pass.Run.of_runTables hp
  have hstatements : p.statements = run.compiled := run.statements
  have hcompiles := run.compiles.append (Pass.compileSet_ok hdeclared)
  rw [← hstatements] at hcompiles
  have haccepted := Code.checkIdentifiers_eq_ok.mp hidentifiers
  have hbuilders : ∀ s ∈ p.statements ++ declared, OneLine s.builderName := fun s hs =>
    Statement.oneLine_builderName (haccepted.usable s hs)
  refine ⟨_, _, run.augmented, run.derived, p.registry, hfiles, run.augments, run.derives,
    hcompiles, ?_⟩
  rw [Generated.commentsContained_iff hbuilders, hcompiles.oneLine_iff]

namespace Sample

/-- A table with a line break in its name, from which a delete is derived. -/
def brokenNotes : DatabaseDefinition where
  name := "notes"
  tables := [
    { name := "no\ntes"
      columns := [⟨"id", "string", false, false, none, false⟩]
      primaryKeys := [.bare "id"]
      delete := some "dropNote" }]

end Sample

/-- The name is accepted, and the comment of the delete ends in the middle of it. -/
theorem comments_contained_iff_notes : ∃ g schema source, Sample.brokenNotes.generate = .ok g ∧
    (g.emit Sample.brokenNotes "runtime" .empty).renderAll =
      [("notes_ddl.json", schema), ("notes_sql.rs", source)] ∧
    g.statements.map (·.sql) = ["DELETE FROM no\ntes WHERE no\ntes.id = @noTesIdEq"] ∧
    ¬ g.CommentsContained source := by
  have hnotes : (fun g => (g.name, g.statements.map (·.sql))) <$> Sample.brokenNotes.generate =
      .ok ("notes", ["DELETE FROM no\ntes WHERE no\ntes.id = @noTesIdEq"]) := by decide +kernel
  obtain ⟨g, hg, hparts⟩ := map_eq_ok.mp hnotes
  obtain ⟨hname, hsql⟩ := Prod.mk.inj hparts
  have hddl : g.ddlPath Sample.brokenNotes = "notes_ddl.json" := by
    rw [Generated.ddlPath, hname]
    decide +kernel
  have hsource : g.sqlPath Sample.brokenNotes = "notes_sql.rs" := by
    rw [Generated.sqlPath, hname]
    decide +kernel
  obtain ⟨schema, source, _, _, r, hfiles, -, -, hcompiles, hiff⟩ :=
    comments_contained_iff _ Sample.brokenNotes g hg "runtime" (by rw [hddl, hsource]; decide)
  rw [hddl, hsource] at hfiles
  refine ⟨g, schema, source, hg, hfiles, hsql, fun hcontained => ?_⟩
  have hlines : ∀ text ∈ g.statements.map (·.sql), OneLine text :=
    List.forall_mem_map.mpr (hcompiles.oneLine_iff.mpr (hiff.mp hcontained).2)
  rw [hsql] at hlines
  exact absurd hlines (by decide +kernel)

end SchemaLoom
