import SchemaLoom.Proofs.Ddl.StatementText
import SchemaLoom.Proofs.Ddl.Validity

/-!
# What the schema statements say of definitions

Two definitions that are accepted, each by its own registry and with its own catalog, are created by
one statement exactly if they are the same in the schema. Different ways to write a key, and
different types that are stored alike, are not told apart; everything else is. The statements that
add columns to an older version of a table are made of the fragments of the statement that creates
it.
-/
namespace SchemaLoom
open Compiled Text

/-- Two columns, each with its type from its own catalog, are the same in the schema. -/
structure ColumnDefinition.SameSchema (catalog catalog' : Catalog) (owner owner' : String)
    (c c' : ColumnDefinition) : Prop where
  name : c.name = c'.name
  isArray : c.isArray = c'.isArray
  nullable : c.nullable = c'.nullable
  allowCommitTimestamp : c.allowCommitTimestamp = c'.allowCommitTimestamp
  ddlType : ∃ type type', c.HasType catalog owner type ∧ c'.HasType catalog' owner' type' ∧
    type.ddlType = type'.ddlType

/-- Two tables, each with the types of its own catalog, are the same in the schema. -/
structure TableDefinition.SameSchema (catalog catalog' : Catalog) (d d' : TableDefinition) :
    Prop where
  name : d.name = d'.name
  columns : List.Forall₂ (ColumnDefinition.SameSchema catalog catalog' d.owner d'.owner)
    d.columns d'.columns
  searchColumns : d.searchColumns = d'.searchColumns
  primaryKeys : d.primaryKeys.map KeyColumn.part = d'.primaryKeys.map KeyColumn.part
  interleave : d.interleave = d'.interleave

theorem ColumnDefinition.Describes.schema_eq_iff {catalog catalog' : Catalog}
    {table table' : String} {c c' : ColumnDefinition} {col col' : Column}
    (h : c.Describes catalog table col) (h' : c'.Describes catalog' table' col') :
    col.schema = col'.schema ↔
      c.SameSchema catalog catalog' ("table " ++ table) ("table " ++ table') c' := by
  constructor
  · intro hschema
    simp only [Column.schema, ColumnSchema.mk.injEq, h.name, h'.name, h.type.isArray,
      h'.type.isArray, h.type.nullable, h'.type.nullable, h.allowCommitTimestamp,
      h'.allowCommitTimestamp] at hschema
    obtain ⟨hname, htype, harray, hnull, hcommit⟩ := hschema
    exact ⟨hname, harray, hnull, hcommit, _, _, h.type, h'.type, htype⟩
  · intro hsame
    obtain ⟨type, type', htype, htype', hddl⟩ := hsame.ddlType
    rw [htype.unique h.type, htype'.unique h'.type] at hddl
    simp only [Column.schema, h.name, h'.name, h.type.isArray, h'.type.isArray, h.type.nullable,
      h'.type.nullable, h.allowCommitTimestamp, h'.allowCommitTimestamp, hsame.name,
      hsame.isArray, hsame.nullable, hsame.allowCommitTimestamp, hddl]

namespace TableDefinition

variable {catalog catalog' : Catalog} {d d' : TableDefinition} {t t' : Table}

theorem Describes.schema_eq_iff (h : d.Describes catalog t) (h' : d'.Describes catalog' t') :
    t.schema = t'.schema ↔ d.SameSchema catalog catalog' d' := by
  have hcolumns : t.columns.map Column.schema = t'.columns.map Column.schema ↔
      List.Forall₂ (ColumnDefinition.SameSchema catalog catalog' d.owner d'.owner)
        d.columns d'.columns := by
    have hfound {catalog : Catalog} {d : TableDefinition} {t : Table}
        (h : d.Describes catalog t) :
        List.Forall₂ (fun c s => ∃ col, c.Describes catalog d.name col ∧ col.schema = s) d.columns
          (t.columns.map Column.schema) :=
      List.forall₂_map_right_iff.mpr (h.columns.imp fun c col hc => ⟨col, hc, rfl⟩)
    apply eq_iff_forall₂ (hfound h) (hfound h')
    rintro c - c' - _ _ ⟨col, hc, rfl⟩ ⟨col', hc', rfl⟩
    exact hc.schema_eq_iff hc'
  simp only [Table.schema, TableSchema.mk.injEq, h.name, h'.name, hcolumns, h.searchColumns,
    h'.searchColumns, h.primaryKey, h'.primaryKey, h.interleave, h'.interleave]
  constructor
  · rintro ⟨hname, hcols, hsearch, hkeys, hparent⟩
    exact ⟨hname, hcols, hsearch, hkeys, hparent⟩
  · intro hsame
    exact ⟨hsame.name, hsame.columns, hsame.searchColumns, hsame.primaryKeys, hsame.interleave⟩

def givenNames (d : TableDefinition) : List String :=
  d.name :: d.columns.map (·.name) ++ d.searchColumns.map (·.name) ++ d.indexes.map (·.name)
    ++ d.searchIndexes.map (·.name) ++ d.interleave.toList.map (·.parentTable)

def indexSchemas (d : TableDefinition) : List IndexSchema :=
  d.indexes.map IndexDefinition.schema ++ d.searchIndexes.map .search

/-- The names that a checked table uses are names that its definition gives. -/
theorem Describes.plain {r : Registry} (h : d.Describes catalog t) (ht : t.Checked r)
    (hd : ∀ n ∈ d.givenNames, IsName n) : t.Plain := by
  simp only [givenNames, List.cons_append, List.forall_mem_cons, List.forall_mem_append] at hd
  obtain ⟨hname, ⟨⟨⟨hcolumns, hsearch⟩, hindexes⟩, hsearchIndexes⟩, hparent⟩ := hd
  rw [← h.columnNames] at hcolumns
  rw [← h.searchColumns] at hsearch
  rw [← h.indexes] at hindexes
  rw [← h.searchIndexes] at hsearchIndexes
  rw [← h.interleave] at hparent
  have hcolumn {n : String} {P : Column → Prop} (hn : ∃ c ∈ t.columns, c.name = n ∧ P c) :
      IsName n := by
    obtain ⟨c, hc, rfl, -⟩ := hn
    exact hcolumns _ (List.mem_map_of_mem hc)
  constructor
  case name => exact h.name ▸ hname
  case hasColumns => exact ht.hasColumns
  case entries =>
    simp only [Ddl.entries, List.forall_mem_append, List.forall_mem_map]
    refine ⟨fun c hc => hcolumns _ (List.mem_map_of_mem hc), fun s hs => ?_⟩
    exact ⟨hsearch _ (List.mem_map_of_mem hs), (ht.searchColumns s hs).sources,
      fun n hn => hcolumn ((ht.searchColumns s hs).strings n hn)⟩
  case hasKey => exact ht.hasKey
  case keys => exact fun k hk => hcolumn (ht.keyColumns k hk)
  case parent =>
    intro p hp
    exact hparent _ (by simp [Option.mem_def.mp hp])
  case indexes =>
    simp only [Ddl.indexList, List.forall_mem_append, List.forall_mem_map]
    refine ⟨fun i hi => ?_, fun i hi => ?_⟩
    · exact ⟨hindexes _ (List.mem_map_of_mem hi), (ht.indexes i hi).covers,
        fun k hk => hcolumn ((ht.indexes i hi).scalars k hk)⟩
    · have hfits := ht.searchIndexes i hi
      refine ⟨hsearchIndexes _ (List.mem_map_of_mem hi), hfits.covers, fun n hn => ?_,
        fun n hn => hcolumn (hfits.partitions n hn), fun n hn => hcolumn (hfits.orders n hn)⟩
      obtain ⟨s, hs, rfl⟩ := hfits.searches n hn
      exact hsearch _ (List.mem_map_of_mem hs)

/-- The index statements of a table belong to its index schemas, position by position. -/
theorem Describes.getElem?_indexes (h : d.Describes catalog t) {i : Nat} {x : IndexDdl}
    (hx : t.ddl.indexes[i]? = some x) : ∃ index ∈ Ddl.indexList t,
      x.createIndex = Ddl.indexText d.name index ∧
        d.indexSchemas[i]? = some (Ddl.indexSchema index) := by
  have hddl : t.ddl.indexes.map (·.createIndex) =
      (Ddl.indexList t).map (Ddl.indexText d.name) := by
    simp [Table.ddl, Ddl.indexList, Ddl.indexText, h.name, Function.comp_def]
  have hschemas : d.indexSchemas = (Ddl.indexList t).map Ddl.indexSchema := by
    simp [indexSchemas, Ddl.indexList, Ddl.indexSchema, h.indexes, h.searchIndexes,
      Function.comp_def]
  have hx' : (t.ddl.indexes.map (·.createIndex))[i]? = some x.createIndex := by
    rw [List.getElem?_map, hx]
    rfl
  rw [hddl, List.getElem?_map] at hx'
  obtain ⟨index, hindex, htext⟩ := Option.map_eq_some_iff.mp hx'
  refine ⟨index, List.mem_of_getElem? hindex, htext.symm, ?_⟩
  rw [hschemas, List.getElem?_map, hindex]
  rfl

end TableDefinition

/-- The statements about a table share its fragments: they stand in the statement that creates it,
separated by commas and without a comma inside, and each is added by its own statement. There is one
for every column and then one for every search column, which begins with its name. -/
structure TableDdl.Shares (d : TableDefinition) (ddl : TableDdl) (fragments : List String) :
    Prop where
  created : ∃ rest, ddl.createTable =
    "CREATE TABLE " ++ d.name ++ " (" ++ ", ".intercalate fragments ++ ") PRIMARY KEY (" ++ rest
  whole : ∀ f ∈ fragments, ',' ∉ f.toList
  added : ddl.columns.map (·.addColumn) =
    fragments.map ("ALTER TABLE " ++ d.name ++ " ADD COLUMN " ++ ·)
  names : ddl.columns.map (·.name) = d.columns.map (·.name) ++ d.searchColumns.map (·.name)
  headed : List.Forall₂ (fun n f => ∃ text, f = n ++ " " ++ text) (ddl.columns.map (·.name))
    fragments

theorem not_mem_intercalate {c : Char} {sep : String} (hsep : c ∉ sep.toList) {texts : List String}
    (h : ∀ t ∈ texts, c ∉ t.toList) : c ∉ (sep.intercalate texts).toList := by
  induction texts with
  | nil => simp
  | cons t ts ih =>
    cases ts with
    | nil => simpa using h
    | cons u us =>
      rw [List.forall_mem_cons] at h
      rw [String.intercalate_cons_cons, String.toList_append, String.toList_append]
      simp only [List.mem_append, not_or]
      exact ⟨⟨h.1, hsep⟩, ih h.2⟩

namespace Ddl

theorem comma_not_mem_name {n : String} (h : IsName n) : ',' ∉ n.toList :=
  fun hmem => absurd (h _ hmem) (by decide)

theorem comma_not_mem_entry {e : Column ⊕ SearchColumnDefinition} (h : PlainEntry e) :
    ',' ∉ (entryFragment e).toList := by
  cases e with
  | inl c =>
    have htypes : ∀ s ∈ ColumnType.spellings, ',' ∉ s.toList := by decide
    have htype := htypes _ c.type.ddlType_mem_spellings
    have hname := comma_not_mem_name h
    change ',' ∉ (columnFragment c).toList
    unfold columnFragment ColumnType.ddlWithNull
    simp only [String.toList_append, List.mem_append, not_or]
    refine ⟨⟨⟨hname, by decide⟩, htype, ?_⟩, ?_⟩
    · split <;> decide
    · split <;> decide
  | inr s =>
    obtain ⟨hname, -, hsources⟩ := h
    have hsep : ',' ∉ " || ' ' || ".toList := by decide
    have hlist := not_mem_intercalate hsep fun n hn => comma_not_mem_name (hsources n hn)
    change ',' ∉ (searchColumnFragment s).toList
    unfold searchColumnFragment
    simp only [String.toList_append, List.mem_append, not_or]
    exact ⟨⟨⟨comma_not_mem_name hname, by decide⟩, hlist⟩, by decide⟩

end Ddl

theorem TableDefinition.Describes.shares {catalog : Catalog} {d : TableDefinition} {t : Table}
    (h : d.Describes catalog t) (ht : t.Plain) :
    t.ddl.Shares d ((Ddl.entries t).map Ddl.entryFragment) where
  created := by
    refine ⟨Ddl.commaJoin (t.primaryKey.map Ddl.keyFragment) ++ ")"
      ++ Ddl.interleaveFragment t.interleave, ?_⟩
    change Ddl.createTable t = _
    unfold Ddl.createTable Ddl.commaJoin
    rw [Ddl.fragments_eq_entries, h.name]
    simp only [String.append_assoc]
  whole := List.forall_mem_map.mpr fun e he => Ddl.comma_not_mem_entry (ht.entries e he)
  added := by
    rw [← Ddl.fragments_eq_entries, ← h.name]
    simp [Table.ddl, Function.comp_def]
  names := by
    rw [← h.columnNames, ← h.searchColumns]
    simp [Table.ddl, Ddl.fragments, Function.comp_def]
  headed := by
    rw [← Ddl.fragments_eq_entries]
    simp only [Table.ddl, List.map_map, List.forall₂_map_left_iff, List.forall₂_map_right_iff]
    apply List.forall₂_same.mpr
    intro e he
    simp only [Ddl.fragments, List.mem_append, List.mem_map] at he
    rcases he with ⟨c, -, rfl⟩ | ⟨s, -, rfl⟩
    · exact ⟨_, String.append_assoc⟩
    · exact ⟨_, Ddl.searchColumnFragment_eq s⟩

/-- Two accepted definitions with plain names, whatever the registries and the catalogs: their
tables are created by one statement exactly if they are the same in the schema, and two of their
indexes are exactly if they are of one table and the same in the schema. The statements that add
columns add the fragments of the statement that creates the table. -/
theorem ddl_determines_schema {catalog catalog' : Catalog} {r r' next next' : Registry}
    {d d' : TableDefinition} {ddl ddl' : TableDdl} (h : r.declare catalog d = .ok (ddl, next))
    (h' : r'.declare catalog' d' = .ok (ddl', next')) (hd : ∀ n ∈ d.givenNames, IsName n)
    (hd' : ∀ n ∈ d'.givenNames, IsName n) :
    (ddl.createTable = ddl'.createTable ↔ d.SameSchema catalog catalog' d') ∧
    (∀ (i j : Nat) (x y : IndexDdl), ddl.indexes[i]? = some x → ddl'.indexes[j]? = some y →
      (x.createIndex = y.createIndex ↔ d.name = d'.name ∧
        ∃ schema, d.indexSchemas[i]? = some schema ∧ d'.indexSchemas[j]? = some schema)) ∧
    ∃ fragments, ddl.Shares d fragments := by
  obtain ⟨t, hdescribes, hchecked, -, rfl, -⟩ := Registry.declare_eq_ok.mp h
  obtain ⟨t', hdescribes', hchecked', -, rfl, -⟩ := Registry.declare_eq_ok.mp h'
  have ht := hdescribes.plain hchecked hd
  have ht' := hdescribes'.plain hchecked' hd'
  refine ⟨?_, fun i j x y hx hy => ?_, _, hdescribes.shares ht⟩
  · rw [← hdescribes.schema_eq_iff hdescribes']
    exact Ddl.createTable_eq_iff ht ht'
  · obtain ⟨index, hmem, htext, hschema⟩ := hdescribes.getElem?_indexes hx
    obtain ⟨index', hmem', htext', hschema'⟩ := hdescribes'.getElem?_indexes hy
    rw [htext, htext', Ddl.indexText_eq_iff (hdescribes.name ▸ ht.name)
      (hdescribes'.name ▸ ht'.name) (ht.indexes _ hmem) (ht'.indexes _ hmem'), hschema, hschema']
    simp [eq_comm]

namespace Sample

/-- `posts` with its key and a type spelt in other ways. -/
def respelled : TableDefinition :=
  { posts with
    columns := [⟨"id", "string", false, false, none, false⟩,
      ⟨"number", "int64", false, false, none, false⟩, ⟨"kind", "float", false, true, none, false⟩,
      ⟨"title", "string", false, false, none, false⟩, ⟨"tags", "string", true, false, none, false⟩]
    primaryKeys := [.entry "id" false, .entry "number" true] }

/-- `posts` with rows that outlive their parents. -/
def detached : TableDefinition := { posts with interleave := some ⟨"users", false⟩ }

end Sample

/-- An enum is written as the number it is stored as; a cascade cannot be overlooked. -/
theorem ddl_determines_schema_posts :
    Sample.posts.SameSchema Sample.kinds Sample.kinds Sample.respelled ∧
      ¬Sample.posts.SameSchema Sample.kinds Sample.kinds Sample.detached := by
  constructor
  · exact (ddl_determines_schema (rfl : Sample.usersFirst.declare _ _ = .ok (_, _))
      (rfl : Sample.usersFirst.declare _ _ = .ok (_, _)) (by decide) (by decide)).1.mp
      (by decide +kernel)
  · rw [← (ddl_determines_schema (rfl : Sample.usersFirst.declare _ _ = .ok (_, _))
      (rfl : Sample.usersFirst.declare _ _ = .ok (_, _)) (by decide) (by decide)).1]
    decide +kernel

end SchemaLoom
