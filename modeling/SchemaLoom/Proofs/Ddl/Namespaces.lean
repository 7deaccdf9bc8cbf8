import SchemaLoom.Proofs.Blocks
import SchemaLoom.Proofs.Derived.Task

/-!
# Namespaces of the schema file

The tables of a database share one namespace, the columns and search columns of a table another,
and all indexes a third. A pass makes sure of the first, and of the others as far as columns and
plain indexes go: it asks neither search columns nor search indexes for a name, and it compares no
index with another. So the namespaces are in order exactly if the author saw to these three.
-/
namespace SchemaLoom
open Compiled Pass

/-- Names that can stand in one namespace. -/
structure Namespace (names : List String) : Prop where
  named : ∀ n ∈ names, n ≠ ""
  distinct : names.Nodup

def DdlArtifact.indexNames (a : DdlArtifact) : List String :=
  a.tables.flatMap fun t => t.indexes.map (·.name)

/-- Every namespace of the schema file is in order. -/
structure DdlArtifact.WellNamed (a : DdlArtifact) : Prop where
  tables : Namespace (a.tables.map (·.name))
  columns : ∀ t ∈ a.tables, Namespace (t.columns.map (·.name))
  indexes : Namespace a.indexNames

/-- The names of the indexes of a table: the declared ones, that of the index on the time of
execution where the table is a task table, and those of the search indexes. -/
def TableDefinition.indexNames (d : TableDefinition) : List String :=
  d.indexes.map (·.name) ++ (d.task.map fun _ => (Task.index d.name).name).toList
    ++ d.searchIndexes.map (·.name)

/-- What a pass leaves to the author of the definition. -/
structure DatabaseDefinition.NamesApart (d : DatabaseDefinition) : Prop where
  searchColumns : ∀ t ∈ d.tables, ∀ s ∈ t.searchColumns, s.name ≠ ""
  searchIndexes : ∀ t ∈ d.tables, ∀ i ∈ t.searchIndexes, i.name ≠ ""
  indexes : (d.tables.flatMap TableDefinition.indexNames).Nodup

/-- The bookkeeping of a task table leaves its search columns as they are and adds one index. -/
theorem TableDefinition.augment_names {d a : TableDefinition} (h : d.augment = .ok a) :
    a.searchColumns = d.searchColumns ∧ a.searchIndexes = d.searchIndexes ∧
      a.indexes.map (·.name) ++ a.searchIndexes.map (·.name) = d.indexNames := by
  rcases augment_eq_ok.mp h with ⟨htask, rfl⟩ | ⟨htask, -, rfl⟩
  · simp [indexNames, htask]
  · obtain ⟨options, htask⟩ := Option.ne_none_iff_exists'.mp htask
    simp [asTask, indexNames, htask]

namespace Table

variable {r : Registry} {t : Table}

theorem ddl_columnNames (t : Table) : t.ddl.columns.map (·.name) =
    t.columns.map (·.name) ++ t.searchColumns.map (·.name) := by
  simp [ddl, Ddl.fragments, Function.comp_def]

theorem ddl_indexNames (t : Table) : t.ddl.indexes.map (·.name) =
    t.indexes.map (·.name) ++ t.searchIndexes.map (·.name) := by
  simp [ddl, Function.comp_def]

/-- Columns and search columns never share a name. -/
theorem Checked.columnNames_nodup (h : t.Checked r) : (t.ddl.columns.map (·.name)).Nodup := by
  rw [ddl_columnNames, List.nodup_append]
  refine ⟨h.columnNames, h.searchNames.1, ?_⟩
  rintro n hn _ hsearch rfl
  exact h.searchNames.2 n hsearch hn

/-- A column without a name can only be a search column. -/
theorem Checked.columnsNamed_iff (h : t.Checked r) :
    (∀ n ∈ t.ddl.columns.map (·.name), n ≠ "") ↔ ∀ s ∈ t.searchColumns, s.name ≠ "" := by
  have hcolumns : ∀ n ∈ t.columns.map (·.name), n ≠ "" :=
    List.forall_mem_map.mpr fun c hc => (h.columns c hc).named
  rw [ddl_columnNames, List.forall_mem_append, List.forall_mem_map (l := t.searchColumns)]
  exact and_iff_right hcolumns

/-- An index without a name can only be a search index. -/
theorem Checked.indexesNamed_iff (h : t.Checked r) :
    (∀ n ∈ t.ddl.indexes.map (·.name), n ≠ "") ↔ ∀ i ∈ t.searchIndexes, i.name ≠ "" := by
  have hindexes : ∀ n ∈ t.indexes.map (·.name), n ≠ "" :=
    List.forall_mem_map.mpr fun i hi => (h.indexes i hi).named
  rw [ddl_indexNames, List.forall_mem_append, List.forall_mem_map (l := t.searchIndexes)]
  exact and_iff_right hindexes

end Table

namespace Block

variable {catalog : Catalog} {r : Registry} {d : TableDefinition} {b : Block}

theorem Of.indexNames (h : b.Of catalog r d) :
    b.table.ddl.indexes.map (·.name) = d.indexNames := by
  obtain ⟨a, -, ha, hdescribes, -, -⟩ := h.derived
  obtain ⟨-, -, hindexes⟩ := TableDefinition.augment_names ha
  rw [Table.ddl_indexNames, hdescribes.indexes, hdescribes.searchIndexes, hindexes]

theorem Of.columnsNamed_iff (h : b.Of catalog r d) :
    (∀ n ∈ b.table.ddl.columns.map (·.name), n ≠ "") ↔ ∀ s ∈ d.searchColumns, s.name ≠ "" := by
  obtain ⟨a, -, ha, hdescribes, -, -⟩ := h.derived
  obtain ⟨hsearch, -, -⟩ := TableDefinition.augment_names ha
  rw [h.checked.columnsNamed_iff, hdescribes.searchColumns, hsearch]

theorem Of.indexesNamed_iff (h : b.Of catalog r d) :
    (∀ n ∈ d.indexNames, n ≠ "") ↔ ∀ i ∈ d.searchIndexes, i.name ≠ "" := by
  obtain ⟨a, -, ha, hdescribes, -, -⟩ := h.derived
  obtain ⟨-, hsearch, -⟩ := TableDefinition.augment_names ha
  rw [← h.indexNames, h.checked.indexesNamed_iff, hdescribes.searchIndexes, hsearch]

end Block

namespace Pass.Blocks

variable {catalog : Catalog} {r : Registry} {ds : List TableDefinition} {bs : List Block}

/-- Every block is that of its table behind some tables. -/
theorem forall₂ (h : Blocks catalog r ds bs) :
    List.Forall₂ (fun d b => ∃ r, b.Of catalog r d) ds bs := by
  induction h with
  | nil => exact .nil
  | cons h _ ih => exact .cons ⟨_, h⟩ ih

theorem checked (h : Blocks catalog r ds bs) : ∀ b ∈ bs, ∃ r, b.table.Checked r := by
  intro b hb
  obtain ⟨d, r, hd⟩ := exists_of_forall₂ h.forall₂.flip hb
  exact ⟨r, hd.checked⟩

/-- Every table has a name that no table before it has. -/
theorem fresh_names (h : Blocks catalog r ds bs) : Fresh r.names (bs.map (·.table.name)) := by
  induction h with
  | nil => exact fresh_nil _
  | @cons r d b ds bs h _ ih =>
    have hnames : (r.push b.table).names = r.names ++ [b.table.name] := by
      simp [Registry.push, Registry.names]
    rw [List.map_cons, fresh_cons]
    exact ⟨h.fresh, hnames ▸ ih⟩

theorem tableNames (h : Blocks catalog r ds bs) : Namespace (bs.map (·.table.name)) := by
  refine ⟨List.forall_mem_map.mpr ?_, h.fresh_names.1⟩
  intro b hb
  obtain ⟨r, hchecked⟩ := h.checked b hb
  exact hchecked.named

theorem indexNames (h : Blocks catalog r ds bs) :
    bs.flatMap (fun b => b.table.ddl.indexes.map (·.name)) =
      ds.flatMap TableDefinition.indexNames := by
  apply flatMap_eq_of_forall₂ h.forall₂
  rintro d - b ⟨r, hb⟩
  exact hb.indexNames

theorem columnsNamed_iff (h : Blocks catalog r ds bs) :
    (∀ b ∈ bs, ∀ n ∈ b.table.ddl.columns.map (·.name), n ≠ "") ↔
      ∀ d ∈ ds, ∀ s ∈ d.searchColumns, s.name ≠ "" := by
  symm
  apply forall_mem_iff_of_forall₂ h.forall₂
  rintro d b ⟨r, hb⟩
  exact hb.columnsNamed_iff.symm

theorem indexesNamed_iff (h : Blocks catalog r ds bs) :
    (∀ n ∈ ds.flatMap TableDefinition.indexNames, n ≠ "") ↔
      ∀ d ∈ ds, ∀ i ∈ d.searchIndexes, i.name ≠ "" := by
  have hnamed : ∀ d ∈ ds, ((∀ n ∈ d.indexNames, n ≠ "") ↔ ∀ i ∈ d.searchIndexes, i.name ≠ "") := by
    intro d hd
    obtain ⟨b, r, hb⟩ := exists_of_forall₂ h.forall₂ hd
    exact hb.indexesNamed_iff
  rw [List.forall_mem_flatMap]
  exact forall₂_congr hnamed

end Pass.Blocks

/-- In the schema file of a pass the tables form a namespace, no two columns of a table share a
name, and the indexes are those of the definition. All namespaces are in order exactly if every
search column and search index has a name and no two indexes of the definition have the same. -/
theorem generated_wellNamed_iff (catalog : Catalog) (d : DatabaseDefinition) (g : Generated)
    (h : d.generateWith catalog = .ok g) :
    Namespace (g.ddl.tables.map (·.name)) ∧
    (∀ t ∈ g.ddl.tables, (t.columns.map (·.name)).Nodup) ∧
    g.ddl.indexNames = d.tables.flatMap TableDefinition.indexNames ∧
    (g.ddl.WellNamed ↔ d.NamesApart) := by
  obtain ⟨-, bs, declared, hbs, -, rfl, -, -⟩ := DatabaseDefinition.generateWith_eq_ok.mp h
  have htables : Namespace ((bs.map (·.table.ddl)).map (·.name)) := by
    rw [List.map_map]
    exact hbs.tableNames
  have hcolumns : ∀ t ∈ bs.map (·.table.ddl), (t.columns.map (·.name)).Nodup := by
    intro t ht
    obtain ⟨b, hb, rfl⟩ := List.mem_map.mp ht
    obtain ⟨r, hchecked⟩ := hbs.checked b hb
    exact hchecked.columnNames_nodup
  have hindexes : (Generated.ofBlocks d.name bs declared).ddl.indexNames =
      d.tables.flatMap TableDefinition.indexNames := by
    rw [← hbs.indexNames, DdlArtifact.indexNames, Generated.ofBlocks, List.flatMap_map]
  refine ⟨htables, hcolumns, hindexes, ?_⟩
  constructor
  · rintro ⟨-, hnamed, hspace⟩
    rw [hindexes] at hspace
    refine ⟨hbs.columnsNamed_iff.mp ?_, hbs.indexesNamed_iff.mp hspace.named, hspace.distinct⟩
    intro b hb
    exact (hnamed _ (List.mem_map_of_mem hb)).named
  · intro hapart
    refine ⟨htables, ?_, ?_⟩
    · intro t ht
      obtain ⟨b, hb, rfl⟩ := List.mem_map.mp ht
      exact ⟨hbs.columnsNamed_iff.mpr hapart.searchColumns b hb, hcolumns _ ht⟩
    · rw [hindexes]
      exact ⟨hbs.indexesNamed_iff.mpr hapart.searchIndexes, hapart.indexes⟩

namespace Sample

/-- A task table that declares an index under the name of the one it is given, and a search index
without a name. -/
def archive : DatabaseDefinition where
  name := "archive"
  tables := [
    { name := "books"
      columns := [⟨"id", "string", false, false, none, false⟩,
        ⟨"title", "string", false, false, none, false⟩]
      primaryKeys := [.bare "id"]
      indexes := [⟨"booksByExecutionTime", [.bare "title"], false, false⟩]
      searchColumns := [⟨"words", ["title"]⟩]
      searchIndexes := [⟨"", ["words"], [], []⟩]
      task := some {} }]

end Sample

/-- The pass succeeds on it, and its schema file gives two indexes one name and another none. -/
theorem generated_wellNamed_iff_archive :
    ∃ g, Sample.archive.generate = .ok g ∧
      g.ddl.indexNames = ["booksByExecutionTime", "booksByExecutionTime", ""] ∧
      ¬g.ddl.WellNamed := by
  have harchive : (fun _ => ()) <$> Sample.archive.generate = .ok () := by decide +kernel
  obtain ⟨g, hg, -⟩ := map_eq_ok.mp harchive
  obtain ⟨-, -, hindexes, hiff⟩ := generated_wellNamed_iff _ _ _ hg
  refine ⟨g, hg, hindexes, ?_⟩
  rw [hiff]
  intro hapart
  exact absurd hapart.indexes (by decide)

end SchemaLoom
