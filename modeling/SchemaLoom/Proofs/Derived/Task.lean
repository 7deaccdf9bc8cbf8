import SchemaLoom.Derived.Task
import SchemaLoom.Proofs.Ddl.Validity

/-!
# Task tables extend their base

The bookkeeping of a task table is added to the definition before anything is checked. A table that
gets new columns and indexes passes every check that it passed without them: whatever was found
among its columns is still found. So a task table is accepted wherever its base is, and its schema
statements are those of the base with the bookkeeping inserted.
-/
namespace SchemaLoom
open Compiled

section Wider

variable {columns wider : List Column}

theorem SearchColumnDefinition.Fits.mono {s : SearchColumnDefinition} (h : s.Fits columns)
    (hwider : columns ⊆ wider) : s.Fits wider where
  sources := h.sources
  strings := by
    intro n hn
    obtain ⟨c, hc, hstring⟩ := h.strings n hn
    exact ⟨c, hwider hc, hstring⟩

theorem IndexDefinition.Fits.mono {i : IndexDefinition} (h : i.Fits columns)
    (hwider : columns ⊆ wider) : i.Fits wider where
  named := h.named
  covers := h.covers
  scalars := by
    intro k hk
    obtain ⟨c, hc, hscalar⟩ := h.scalars k hk
    exact ⟨c, hwider hc, hscalar⟩

theorem SearchIndexDefinition.Fits.mono {i : SearchIndexDefinition}
    {searchColumns : List SearchColumnDefinition} (h : i.Fits columns searchColumns)
    (hwider : columns ⊆ wider) : i.Fits wider searchColumns where
  covers := h.covers
  searches := h.searches
  partitions := by
    intro n hn
    obtain ⟨c, hc, hscalar⟩ := h.partitions n hn
    exact ⟨c, hwider hc, hscalar⟩
  orders := by
    intro n hn
    obtain ⟨c, hc, hinteger⟩ := h.orders n hn
    exact ⟨c, hwider hc, hinteger⟩

end Wider

namespace Table

def extend (t : Table) (columns : List Column) (indexes : List IndexDefinition) : Table :=
  { t with columns := t.columns ++ columns, indexes := t.indexes ++ indexes }

variable {r : Registry} {t parent : Table} {columns : List Column} {indexes : List IndexDefinition}

theorem column_extend {n : String} {c : Column} (h : t.column n = .ok c) :
    (t.extend columns indexes).column n = .ok c := by
  have hfind : t.columns.find? (·.name = n) = some c := orError_eq_ok.mp h
  rw [column, findColumn, orError_eq_ok, extend, List.find?_append, hfind, Option.some_or]

theorem ExtendsKey.extend (h : t.ExtendsKey parent) :
    (t.extend columns indexes).ExtendsKey parent where
  longer := h.longer
  starts := h.starts
  types := by
    intro k hk
    obtain ⟨p, c, hp, hc, htype⟩ := h.types k hk
    exact ⟨p, c, hp, column_extend hc, htype⟩

/-- New columns and indexes that are in order themselves leave a checked table checked. -/
theorem Checked.extend (h : t.Checked r) (hproper : ∀ c ∈ columns, c.Proper)
    (hnew : Fresh (t.columns.map (·.name) ++ t.searchColumns.map (·.name)) (columns.map (·.name)))
    (hindexes : ∀ i ∈ indexes, i.Fits (t.columns ++ columns)) :
    (t.extend columns indexes).Checked r := by
  have hwider : t.columns ⊆ t.columns ++ columns := List.subset_append_left _ _
  constructor
  case named => exact h.named
  case hasColumns => exact List.append_ne_nil_of_left_ne_nil h.hasColumns _
  case hasKey => exact h.hasKey
  case columnNames =>
    rw [Table.extend, List.map_append, List.nodup_append]
    refine ⟨h.columnNames, hnew.1, ?_⟩
    rintro n hn _ hn' rfl
    exact hnew.2 n hn' (List.mem_append_left _ hn)
  case columns => exact List.forall_mem_append.mpr ⟨h.columns, hproper⟩
  case searchNames =>
    refine ⟨h.searchNames.1, ?_⟩
    intro n hn hn'
    rw [Table.extend, List.map_append, List.mem_append] at hn'
    rcases hn' with hn' | hn'
    · exact h.searchNames.2 n hn hn'
    · exact hnew.2 n hn' (List.mem_append_right _ hn)
  case searchColumns => exact fun s hs => (h.searchColumns s hs).mono hwider
  case keyNames => exact h.keyNames
  case keyColumns =>
    intro k hk
    obtain ⟨c, hc, hscalar⟩ := h.keyColumns k hk
    exact ⟨c, hwider hc, hscalar⟩
  case groupNames => exact h.groupNames
  case groupColumns =>
    intro g hg n hn
    obtain ⟨c, hc, hname⟩ := h.groupColumns g hg n hn
    exact ⟨c, hwider hc, hname⟩
  case parent =>
    intro i hi
    obtain ⟨p, hp, hkey⟩ := h.parent i hi
    exact ⟨p, hp, hkey.extend⟩
  case indexes =>
    exact List.forall_mem_append.mpr ⟨fun i hi => (h.indexes i hi).mono hwider, hindexes⟩
  case searchIndexes => exact fun i hi => (h.searchIndexes i hi).mono hwider

end Table

namespace Task

/-- The bookkeeping columns as they stand in a table: all of them may be null. -/
def tableColumns : List Column :=
  [⟨"retryCount", ⟨.primitive .float64, false, true⟩, false⟩,
   ⟨"executionTime", ⟨.primitive .timestamp, false, true⟩, false⟩,
   ⟨"createdTime", ⟨.primitive .timestamp, false, true⟩, false⟩]

theorem columns_describe (catalog : Catalog) (table : String) :
    List.Forall₂ (ColumnDefinition.Describes catalog table) columns tableColumns := by
  refine .cons ?_ (.cons ?_ (.cons ?_ .nil))
  all_goals exact ⟨rfl, ⟨.primitive rfl, rfl, rfl⟩, rfl⟩

theorem tableColumns_proper : ∀ c ∈ tableColumns, c.Proper := by
  simp only [tableColumns, List.forall_mem_cons]
  refine ⟨⟨by decide, by decide⟩, ⟨by decide, by decide⟩, ⟨by decide, by decide⟩, by simp⟩

theorem index_fits (table : String) (declared : List Column) :
    (index table).Fits (declared ++ tableColumns) where
  named := by simp [index]
  covers := List.cons_ne_nil _ _
  scalars := by
    simp only [index, List.forall_mem_singleton]
    exact ⟨⟨"executionTime", ⟨.primitive .timestamp, false, true⟩, false⟩,
      List.mem_append_right _ (by decide), rfl, rfl⟩

end Task

namespace TableDefinition

variable {catalog : Catalog} {r : Registry} {d a : TableDefinition} {t : Table}

def asTask (d : TableDefinition) : TableDefinition :=
  { d with columns := d.columns ++ Task.columns, indexes := d.indexes ++ [Task.index d.name] }

/-- All that the augmentation can do. -/
theorem augment_eq_ok : d.augment = .ok a ↔ (d.task = none ∧ a = d) ∨
    (d.task ≠ none ∧ (∀ n ∈ Task.reserved, n ∉ d.columns.map (·.name)) ∧ a = d.asTask) := by
  have hfree : (d.columns.find? fun c => Task.reserved.contains c.name) = none ↔
      ∀ n ∈ Task.reserved, n ∉ d.columns.map (·.name) := by
    simp only [List.find?_eq_none, List.contains_iff_mem, List.mem_map, not_exists, not_and]
    constructor
    · rintro h n hn c hc rfl
      exact h c hc hn
    · intro h c hc hn
      exact h c.name hn c hc rfl
  rw [← hfree]
  unfold augment
  split
  next htask => simp [htask, eq_comm]
  next options htask =>
    have hsame : d.asTask = { d with
        columns := d.columns ++ Task.columns
        indexes := d.indexes ++ [Task.index d.name]
        task := some options } := by rw [← htask, asTask]
    split
    next hfind => simp only [htask, hfind, reduceCtorEq, false_and, and_false, or_self]
    next hfind =>
      simp only [htask, hfind, reduceCtorEq, false_and, false_or, ne_eq, not_false_iff, true_and,
        Except.ok.injEq, hsame]
      exact eq_comm

theorem augment_task (h : d.augment = .ok a) : a.task = d.task := by
  rcases augment_eq_ok.mp h with ⟨-, rfl⟩ | ⟨-, -, rfl⟩
  · rfl
  · rfl

/-- What a definition describes does not depend on its task option. -/
theorem Describes.anyTask (h : d.Describes catalog t) (task : Option TaskOptions) :
    { d with task := task }.Describes catalog t :=
  ⟨h.name, h.columns, h.primaryKey, h.searchColumns, h.columnGroups, h.interleave, h.indexes,
    h.searchIndexes⟩

theorem Describes.asTask (h : d.Describes catalog t) :
    d.asTask.Describes catalog (t.extend Task.tableColumns [Task.index d.name]) where
  name := h.name
  columns := List.rel_append h.columns (Task.columns_describe catalog d.name)
  primaryKey := h.primaryKey
  searchColumns := h.searchColumns
  columnGroups := h.columnGroups
  interleave := h.interleave
  indexes := congrArg (· ++ [Task.index d.name]) h.indexes
  searchIndexes := h.searchIndexes

end TableDefinition

/-- The table with its bookkeeping is checked where the table is, if the names are free. -/
theorem Table.Checked.asTask {r : Registry} {t : Table} (h : t.Checked r)
    (hfree : ∀ n ∈ Task.reserved, n ∉ t.columns.map (·.name) ++ t.searchColumns.map (·.name))
    (table : String) : (t.extend Task.tableColumns [Task.index table]).Checked r := by
  apply h.extend Task.tableColumns_proper
  · exact ⟨by decide, hfree⟩
  · rw [List.forall_mem_singleton]
    exact Task.index_fits table t.columns

/-- Schema statements put together: for every column its name and what it is declared as, what
follows the columns, and the indexes. -/
def TableDdl.assembled (table : String) (columns : List (String × String)) (rest : String)
    (indexes : List IndexDdl) : TableDdl where
  name := table
  columns := columns.map fun (name, fragment) =>
    ⟨name, "ALTER TABLE " ++ table ++ " ADD COLUMN " ++ fragment⟩
  createTable := "CREATE TABLE " ++ table ++ " (" ++ ", ".intercalate (columns.map (·.2)) ++ rest
  indexes := indexes

/-- The schema statements of a task table are those of its base with the bookkeeping inserted: three
columns between the declared ones and the search columns, and an index between the declared ones and
the search indexes. -/
structure Task.Inserted (d : TableDefinition) (base task : TableDdl)
    (columns searchColumns : List (String × String)) (rest : String)
    (indexes searchIndexes : List IndexDdl) : Prop where
  columnNames : columns.map (·.1) = d.columns.map (·.name)
  searchNames : searchColumns.map (·.1) = d.searchColumns.map (·.name)
  indexNames : indexes.map (·.name) = d.indexes.map (·.name)
  searchIndexNames : searchIndexes.map (·.name) = d.searchIndexes.map (·.name)
  base_eq : base = .assembled d.name (columns ++ searchColumns) rest (indexes ++ searchIndexes)
  task_eq : task = .assembled d.name
    (columns ++ [("retryCount", "retryCount FLOAT64"), ("executionTime", "executionTime TIMESTAMP"),
      ("createdTime", "createdTime TIMESTAMP")] ++ searchColumns) rest
    (indexes ++ [⟨d.name ++ "ByExecutionTime", "CREATE INDEX " ++ d.name ++ "ByExecutionTime ON "
      ++ d.name ++ "(executionTime)"⟩] ++ searchIndexes)

theorem Table.ddl_eq_assembled (t : Table) : t.ddl = .assembled t.name (Ddl.fragments t)
    (") PRIMARY KEY (" ++ Ddl.commaJoin (t.primaryKey.map Ddl.keyFragment) ++ ")"
      ++ Ddl.interleaveFragment t.interleave)
    (t.indexes.map (fun i => ⟨i.name, Ddl.createIndex t.name i⟩)
      ++ t.searchIndexes.map fun i => ⟨i.name, Ddl.createSearchIndex t.name i⟩) := by
  unfold Table.ddl TableDdl.assembled Ddl.createTable
  simp only [Ddl.commaJoin, String.append_assoc]

theorem Task.fragments_tableColumns : (tableColumns.map fun c => (c.name, Ddl.columnFragment c)) =
    [("retryCount", "retryCount FLOAT64"), ("executionTime", "executionTime TIMESTAMP"),
      ("createdTime", "createdTime TIMESTAMP")] := by
  decide

theorem Task.createIndex_index (table : String) : Ddl.createIndex table (index table) =
    "CREATE INDEX " ++ table ++ "ByExecutionTime ON " ++ table ++ "(executionTime)" := by
  have hcreate : "CREATE " ++ "" ++ "" ++ "INDEX " = "CREATE INDEX " := by decide
  have hname : "ByExecutionTime" ++ " ON " = "ByExecutionTime ON " := by decide
  have hkey : "(" ++ Ddl.commaJoin ([KeyColumn.bare executionTime].map Ddl.indexKeyFragment)
      ++ ")" = "(executionTime)" := by decide
  calc "CREATE " ++ "" ++ "" ++ "INDEX " ++ (table ++ "ByExecutionTime") ++ " ON " ++ table ++ "("
        ++ Ddl.commaJoin ([KeyColumn.bare executionTime].map Ddl.indexKeyFragment) ++ ")"
      = ("CREATE " ++ "" ++ "" ++ "INDEX ") ++ table ++ ("ByExecutionTime" ++ " ON ") ++ table
        ++ ("(" ++ Ddl.commaJoin ([KeyColumn.bare executionTime].map Ddl.indexKeyFragment)
          ++ ")") := by simp only [String.append_assoc]
    _ = _ := by rw [hcreate, hname, hkey]

theorem TableDefinition.Describes.ddl_inserted {catalog : Catalog} {d : TableDefinition} {t : Table}
    (h : d.Describes catalog t) :
    Task.Inserted d t.ddl (t.extend Task.tableColumns [Task.index d.name]).ddl
      (t.columns.map fun c => (c.name, Ddl.columnFragment c))
      (t.searchColumns.map fun s => (s.name, Ddl.searchColumnFragment s))
      (") PRIMARY KEY (" ++ Ddl.commaJoin (t.primaryKey.map Ddl.keyFragment) ++ ")"
        ++ Ddl.interleaveFragment t.interleave)
      (t.indexes.map fun i => ⟨i.name, Ddl.createIndex t.name i⟩)
      (t.searchIndexes.map fun i => ⟨i.name, Ddl.createSearchIndex t.name i⟩) where
  columnNames := by
    rw [List.map_map]
    exact h.columnNames
  searchNames := by
    rw [List.map_map, h.searchColumns]
    rfl
  indexNames := by
    rw [List.map_map, h.indexes]
    rfl
  searchIndexNames := by
    rw [List.map_map, h.searchIndexes]
    rfl
  base_eq := by
    rw [t.ddl_eq_assembled, h.name]
    rfl
  task_eq := by
    rw [Table.ddl_eq_assembled, ← Task.createIndex_index, ← Task.fragments_tableColumns]
    simp only [Table.extend, Ddl.fragments, List.map_append, h.name]
    rfl

/-- A declared base with free names becomes a declared task table: behind the same tables, with the
columns of the base followed by the bookkeeping and one index more, and all else as it was. -/
theorem TableDefinition.declare_asTask {catalog : Catalog} {r next : Registry} {d : TableDefinition}
    {ddl : TableDdl} (h : r.declare catalog { d with task := none } = .ok (ddl, next))
    (hfree : ∀ n ∈ Task.reserved, n ∉ d.columns.map (·.name) ++ d.searchColumns.map (·.name)) :
    ∃ t, d.Describes catalog t ∧ ddl = t.ddl ∧ next = ⟨r.tables ++ [t]⟩ ∧
      r.declare catalog d.asTask = .ok ((t.extend Task.tableColumns [Task.index d.name]).ddl,
        ⟨r.tables ++ [t.extend Task.tableColumns [Task.index d.name]]⟩) := by
  obtain ⟨t, hbase, hchecked, hfresh, rfl, rfl⟩ := Registry.declare_eq_ok.mp h
  have hdescribes : d.Describes catalog t := hbase.anyTask d.task
  have hfree : ∀ n ∈ Task.reserved,
      n ∉ t.columns.map (·.name) ++ t.searchColumns.map (·.name) := by
    rw [hdescribes.columnNames, hdescribes.searchColumns]
    exact hfree
  refine ⟨t, hdescribes, rfl, rfl, Registry.declare_eq_ok.mpr ?_⟩
  exact ⟨_, hdescribes.asTask, hchecked.asTask hfree d.name, hfresh, rfl, rfl⟩

/-- The bookkeeping of a task table is a conservative extension: where the table without it can be
declared and none of its columns and search columns takes one of the reserved names, the table with
it can be declared as well. It has the columns of its base followed by the three nullable columns of
the bookkeeping, an index on the time of execution behind those of the base, and all else of the
base; and its schema statements are those of the base with these parts inserted. -/
theorem task_table_extends_base (catalog : Catalog) (r next : Registry) (d : TableDefinition)
    (ddl : TableDdl) (htask : d.task ≠ none)
    (hbase : r.declare catalog { d with task := none } = .ok (ddl, next))
    (hfree : ∀ n ∈ Task.reserved, n ∉ d.columns.map (·.name) ++ d.searchColumns.map (·.name)) :
    ∃ (t : Table) (task : TableDdl) (columns searchColumns : List (String × String)) (rest : String)
      (indexes searchIndexes : List IndexDdl),
      d.Describes catalog t ∧ next = ⟨r.tables ++ [t]⟩ ∧
      d.augment = .ok { d with
        columns := d.columns ++ Task.columns
        indexes := d.indexes ++ [Task.index d.name] } ∧
      r.declare catalog { d with
        columns := d.columns ++ Task.columns
        indexes := d.indexes ++ [Task.index d.name] } =
          .ok (task, ⟨r.tables ++ [{ t with
            columns := t.columns ++ Task.tableColumns
            indexes := t.indexes ++ [Task.index d.name] }]⟩) ∧
      Task.Inserted d ddl task columns searchColumns rest indexes searchIndexes := by
  obtain ⟨t, hdescribes, rfl, hnext, hdeclare⟩ := TableDefinition.declare_asTask hbase hfree
  refine ⟨t, _, _, _, _, _, _, hdescribes, hnext, ?_, hdeclare, hdescribes.ddl_inserted⟩
  refine TableDefinition.augment_eq_ok.mpr (.inr ⟨htask, ?_, rfl⟩)
  intro n hn hcolumn
  exact hfree n hn (List.mem_append_left _ hcolumn)

/-- A task table inside another table, with search columns and indexes of both kinds. -/
theorem task_table_extends_base_posts :
    ∃ ddl next, Sample.usersFirst.declare Sample.kinds
        { Sample.posts with
          columns := Sample.posts.columns ++ Task.columns
          indexes := Sample.posts.indexes ++ [Task.index "posts"]
          task := some {} } = .ok (ddl, next) ∧
      ddl.columns.map (·.name) = ["id", "number", "kind", "title", "tags", "retryCount",
        "executionTime", "createdTime", "words"] ∧
      ddl.indexes.map (·.name) = ["postsByKind", "postsByExecutionTime", "postsByWords"] := by
  obtain ⟨t, ddl, columns, search, rest, indexes, searchIndexes, -, -, -, hdeclare, hinserted⟩ :=
    task_table_extends_base Sample.kinds Sample.usersFirst _ { Sample.posts with task := some {} } _
      (by decide) rfl (by decide)
  refine ⟨ddl, _, hdeclare, ?_, ?_⟩
  · have hnames : ddl.columns.map (·.name) =
        columns.map (·.1) ++ Task.reserved ++ search.map (·.1) := by
      simp [hinserted.task_eq, TableDdl.assembled, Function.comp_def, Task.reserved,
        Task.retryCount, Task.executionTime, Task.createdTime]
    rw [hnames, hinserted.columnNames, hinserted.searchNames]
    rfl
  · rw [hinserted.task_eq, TableDdl.assembled, List.map_append, List.map_append,
      hinserted.indexNames, hinserted.searchIndexNames]
    decide

end SchemaLoom
