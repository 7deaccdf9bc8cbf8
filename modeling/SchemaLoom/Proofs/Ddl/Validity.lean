import SchemaLoom.Proofs.Pairs
import SchemaLoom.Proofs.Registry

/-!
# Valid table definitions

Validity is said of a definition as it was written, against the tables declared before it: which
names must be there, distinct and known, and what the columns they name must hold. A declaration
succeeds exactly on the valid definitions. It then appends the table described, and otherwise
changes nothing.
-/
namespace SchemaLoom
open Compiled

/-- The column holds one value of a primitive type, or null where that is allowed. -/
def ColumnDefinition.IsOne (c : ColumnDefinition) (p : PrimitiveType) : Prop :=
  PrimitiveType.parse? c.typeName = some p ∧ c.isArray = false

namespace TableDefinition

def owner (d : TableDefinition) : String := "table " ++ d.name

/-- The key of the definition is longer than that of the parent and agrees with it position by
position in name, direction and type of column. -/
structure ExtendsKeyOf (catalog : Catalog) (d : TableDefinition) (p : Table) : Prop where
  longer : p.primaryKey.length < d.primaryKeys.length
  agrees : ∀ (i : Nat) (k : KeyColumn) (q : KeyPart), d.primaryKeys[i]? = some k →
    p.primaryKey[i]? = some q → k.name = q.name ∧ k.desc = q.desc ∧
      ∃ c ∈ d.columns, ∃ pc ∈ p.columns, c.name = k.name ∧ pc.name = q.name ∧
        c.HasType catalog d.owner pc.type

/-- The definition can be declared after the tables of `r`. -/
structure Valid (catalog : Catalog) (r : Registry) (d : TableDefinition) : Prop where
  named : d.name ≠ ""
  hasColumns : d.columns ≠ []
  hasKey : d.primaryKeys ≠ []
  columnsNamed : ∀ c ∈ d.columns, c.name ≠ ""
  types : ∀ c ∈ d.columns, ∃ b, c.HasBase catalog d.owner b
  commitTimestamps : ∀ c ∈ d.columns, c.allowCommitTimestamp = true → c.IsOne .timestamp
  columnNames : (d.columns.map (·.name) ++ d.searchColumns.map (·.name)).Nodup
  searchSources : ∀ s ∈ d.searchColumns, s.sourceColumns ≠ [] ∧
    ∀ n ∈ s.sourceColumns, ∃ c ∈ d.columns, c.name = n ∧ c.IsOne .string
  keyNames : (d.primaryKeys.map (·.name)).Nodup
  keyColumns : ∀ k ∈ d.primaryKeys, ∃ c ∈ d.columns, c.name = k.name ∧ c.isArray = false
  groupNames : (d.columnGroups.map (·.name)).Nodup
  groupColumns : ∀ g ∈ d.columnGroups, ∀ n ∈ g.columns, ∃ c ∈ d.columns, c.name = n
  parent : ∀ i, d.interleave = some i →
    ∃ p ∈ r.tables, p.name = i.parentTable ∧ d.ExtendsKeyOf catalog p
  indexes : ∀ i ∈ d.indexes, i.name ≠ "" ∧ i.columns ≠ [] ∧
    ∀ k ∈ i.columns, ∃ c ∈ d.columns, c.name = k.name ∧ c.isArray = false
  searchIndexes : ∀ i ∈ d.searchIndexes, i.columns ≠ [] ∧
    (∀ n ∈ i.columns, ∃ s ∈ d.searchColumns, s.name = n) ∧
    (∀ n ∈ i.partitionByColumns, ∃ c ∈ d.columns, c.name = n ∧ c.isArray = false) ∧
    ∀ n ∈ i.orderByColumns, ∃ c ∈ d.columns, c.name = n ∧ c.IsOne .int64 ∧ c.nullable = false
  fresh : d.name ∉ r.names

end TableDefinition

namespace ColumnDefinition

variable {catalog : Catalog} {owner table : String} {d : ColumnDefinition}

theorem HasBase.isPrimitive_iff {b : BaseType} (h : d.HasBase catalog owner b)
    {p : PrimitiveType} : b = .primitive p ↔ PrimitiveType.parse? d.typeName = some p := by
  cases h with
  | primitive hname => simp [hname]
  | enum hname => simp [hname]
  | message hname => simp [hname]

theorem HasBase.unique {b b' : BaseType} (h : d.HasBase catalog owner b)
    (h' : d.HasBase catalog owner b') : b = b' := by
  rw [← Catalog.resolveBase_eq_ok] at h h'
  rw [h] at h'
  exact Except.ok.inj h'

theorem HasType.unique {t t' : ColumnType} (h : d.HasType catalog owner t)
    (h' : d.HasType catalog owner t') : t = t' := by
  cases t
  cases t'
  have hbase := h.base.unique h'.base
  have harray := h.isArray.trans h'.isArray.symm
  have hnull := h.nullable.trans h'.nullable.symm
  simp_all

namespace Describes

variable {c : Column}

theorem isArray (h : d.Describes catalog table c) : d.isArray = false ↔ c.type.isArray = false := by
  rw [h.type.isArray]

theorem isOne (h : d.Describes catalog table c) (p : PrimitiveType) :
    d.IsOne p ↔ c.type.isPrimitive p = true ∧ c.type.isArray = false := by
  rw [IsOne, h.isArray, ColumnType.isPrimitive, decide_eq_true_eq, h.type.base.isPrimitive_iff]

theorem hasType_iff (h : d.Describes catalog table c) {type : ColumnType} :
    d.HasType catalog ("table " ++ table) type ↔ c.type = type := by
  constructor
  · intro htype
    exact h.type.unique htype
  · rintro rfl
    exact h.type

theorem proper_iff (h : d.Describes catalog table c) :
    d.name ≠ "" ∧ (d.allowCommitTimestamp = true → d.IsOne .timestamp) ↔ c.Proper := by
  rw [← h.name, ← h.allowCommitTimestamp, h.isOne]
  constructor
  · rintro ⟨hname, hstamp⟩
    exact ⟨hname, hstamp⟩
  · intro hproper
    exact ⟨hproper.named, hproper.commitTimestamp⟩

end Describes

theorem names_of_describes {ds : List ColumnDefinition} {cs : List Column}
    (h : List.Forall₂ (Describes catalog table) ds cs) : cs.map (·.name) = ds.map (·.name) := by
  induction h with
  | nil => rfl
  | cons hc _ ih => rw [List.map_cons, List.map_cons, hc.name, ih]

end ColumnDefinition

namespace TableDefinition

variable {catalog : Catalog} {r : Registry} {d : TableDefinition} {t : Table}

/-- A definition describes a table as soon as the types of its columns are known. -/
theorem exists_describes (h : ∀ c ∈ d.columns, ∃ b, c.HasBase catalog d.owner b) :
    ∃ t, d.Describes catalog t := by
  have hcolumns : ∀ c ∈ d.columns, ∃ col, c.Describes catalog d.name col := by
    intro c hc
    obtain ⟨b, hb⟩ := h c hc
    exact ⟨⟨c.name, ⟨b, c.isArray, c.nullable⟩, c.allowCommitTimestamp⟩, rfl, ⟨hb, rfl, rfl⟩, rfl⟩
  obtain ⟨columns, hcolumns⟩ := exists_forall₂ hcolumns
  exact ⟨{ name := d.name, columns, primaryKey := d.primaryKeys.map KeyColumn.part,
           searchColumns := d.searchColumns, columnGroups := d.columnGroups,
           interleave := d.interleave, indexes := d.indexes, searchIndexes := d.searchIndexes },
    rfl, hcolumns, rfl, rfl, rfl, rfl, rfl, rfl⟩

namespace Describes

theorem columnNames (h : d.Describes catalog t) :
    t.columns.map (·.name) = d.columns.map (·.name) :=
  ColumnDefinition.names_of_describes h.columns

/-- What is asked of a named column of the definition is asked of that column of the table. -/
theorem exists_column (h : d.Describes catalog t) {P : ColumnDefinition → Prop} {Q : Column → Prop}
    (hPQ : ∀ c col, c.Describes catalog d.name col → (P c ↔ Q col)) (n : String) :
    (∃ c ∈ d.columns, c.name = n ∧ P c) ↔ ∃ col ∈ t.columns, col.name = n ∧ Q col := by
  apply exists_mem_iff_of_forall₂ h.columns
  intro c col hc
  rw [hc.name, hPQ c col hc]

theorem scalar_column (h : d.Describes catalog t) (n : String) :
    (∃ c ∈ d.columns, c.name = n ∧ c.isArray = false) ↔
      ∃ col ∈ t.columns, col.name = n ∧ col.type.isArray = false := by
  apply h.exists_column
  intro c col hc
  exact hc.isArray

theorem primitive_column (h : d.Describes catalog t) (p : PrimitiveType) (n : String) :
    (∃ c ∈ d.columns, c.name = n ∧ c.IsOne p) ↔
      ∃ col ∈ t.columns, col.name = n ∧
        col.type.isPrimitive p = true ∧ col.type.isArray = false := by
  apply h.exists_column
  intro c col hc
  exact hc.isOne p

theorem known_column (h : d.Describes catalog t) (n : String) :
    (∃ c ∈ d.columns, c.name = n) ↔ ∃ col ∈ t.columns, col.name = n := by
  apply exists_mem_iff_of_forall₂ h.columns
  intro c col hc
  rw [hc.name]

theorem integer_column (h : d.Describes catalog t) (n : String) :
    (∃ c ∈ d.columns, c.name = n ∧ c.IsOne .int64 ∧ c.nullable = false) ↔
      ∃ col ∈ t.columns, col.name = n ∧ col.type.isPrimitive .int64 = true ∧
        col.type.isArray = false ∧ col.type.nullable = false := by
  apply h.exists_column
  intro c col hc
  rw [hc.isOne, hc.type.nullable, and_assoc]

theorem typed_column (h : d.Describes catalog t) (type : ColumnType) (n : String) :
    (∃ c ∈ d.columns, c.name = n ∧ c.HasType catalog d.owner type) ↔
      ∃ col ∈ t.columns, col.name = n ∧ col.type = type := by
  apply h.exists_column
  intro c col hc
  exact hc.hasType_iff

/-- The key of a definition agrees with that of a parent as the key of its table does. -/
theorem extendsKeyOf_iff (h : d.Describes catalog t) {p : Table}
    (ht : (t.columns.map (·.name)).Nodup) (hp : (p.columns.map (·.name)).Nodup) :
    d.ExtendsKeyOf catalog p ↔ t.ExtendsKey p := by
  have hlength : t.primaryKey.length = d.primaryKeys.length := by
    rw [h.primaryKey, List.length_map]
  have hposition (i : Nat) : t.primaryKey[i]? = d.primaryKeys[i]?.map KeyColumn.part := by
    rw [h.primaryKey, List.getElem?_map]
  constructor
  · intro hkey
    have hagrees (i : Nat) (hi : i < p.primaryKey.length) (hd : i < d.primaryKeys.length) :=
      hkey.agrees i d.primaryKeys[i] p.primaryKey[i] (List.getElem?_eq_getElem hd)
        (List.getElem?_eq_getElem hi)
    refine ⟨hlength ▸ hkey.longer, List.prefix_iff_getElem?.mpr ?_, ?_⟩
    · intro i hi
      have hd := Nat.lt_trans hi hkey.longer
      obtain ⟨hname, hdesc, -⟩ := hagrees i hi hd
      rw [hposition, List.getElem?_eq_getElem hd, Option.map_some, KeyColumn.part_eq hname hdesc]
    · intro q hq
      obtain ⟨i, hi, rfl⟩ := List.getElem_of_mem hq
      obtain ⟨hname, -, c, hc, pc, hpc, hcname, hpname, htype⟩ :=
        hagrees i hi (Nat.lt_trans hi hkey.longer)
      obtain ⟨col, hcol, hcolname, hcoltype⟩ :=
        (h.typed_column pc.type _).mp ⟨c, hc, hcname, htype⟩
      exact ⟨pc, col, (Table.column_eq_ok hp).mpr ⟨hpc, hpname⟩,
        (Table.column_eq_ok ht).mpr ⟨hcol, hcolname.trans hname⟩, hcoltype.symm⟩
  · intro hkey
    refine ⟨hlength ▸ hkey.longer, ?_⟩
    intro i k q hk hq
    obtain ⟨hi, rfl⟩ := List.getElem?_eq_some_iff.mp hq
    have hpart := List.prefix_iff_getElem?.mp hkey.starts i hi
    rw [hposition, hk, Option.map_some, Option.some.injEq] at hpart
    obtain ⟨pc, col, hpc, hcol, htype⟩ := hkey.types _ (List.getElem_mem hi)
    obtain ⟨hpc, hpname⟩ := (Table.column_eq_ok hp).mp hpc
    obtain ⟨c, hc, hcname, hctype⟩ :=
      (h.typed_column pc.type _).mpr ⟨col, (Table.column_eq_ok ht).mp hcol |>.1,
        (Table.column_eq_ok ht).mp hcol |>.2, htype.symm⟩
    rw [← hpart] at hcname hpname ⊢
    exact ⟨rfl, rfl, c, hc, pc, hpc, hcname, hpname, hctype⟩

theorem proper_columns_iff (h : d.Describes catalog t) :
    (∀ c ∈ d.columns, c.name ≠ "" ∧ (c.allowCommitTimestamp = true → c.IsOne .timestamp)) ↔
      ∀ c ∈ t.columns, c.Proper := by
  apply forall_mem_iff_of_forall₂ h.columns
  intro c col hc
  exact hc.proper_iff

theorem columnNames_iff (h : d.Describes catalog t) :
    (d.columns.map (·.name) ++ d.searchColumns.map (·.name)).Nodup ↔
      (t.columns.map (·.name)).Nodup ∧
        Fresh (t.columns.map (·.name)) (t.searchColumns.map (·.name)) := by
  rw [h.columnNames, h.searchColumns, List.nodup_append, Fresh]
  constructor
  · rintro ⟨hcolumns, hsearch, hapart⟩
    exact ⟨hcolumns, hsearch, fun n hn hn' => hapart n hn' n hn rfl⟩
  · rintro ⟨hcolumns, hsearch, hapart⟩
    refine ⟨hcolumns, hsearch, ?_⟩
    rintro n hn _ hn' rfl
    exact hapart n hn' hn

theorem search_fits_iff (h : d.Describes catalog t) (s : SearchColumnDefinition) :
    (s.sourceColumns ≠ [] ∧ ∀ n ∈ s.sourceColumns, ∃ c ∈ d.columns, c.name = n ∧ c.IsOne .string) ↔
      s.Fits t.columns := by
  simp only [h.primitive_column]
  constructor
  · rintro ⟨hsources, hstrings⟩
    exact ⟨hsources, hstrings⟩
  · intro hfits
    exact ⟨hfits.sources, hfits.strings⟩

theorem index_fits_iff (h : d.Describes catalog t) (i : IndexDefinition) :
    (i.name ≠ "" ∧ i.columns ≠ [] ∧
      ∀ k ∈ i.columns, ∃ c ∈ d.columns, c.name = k.name ∧ c.isArray = false) ↔
      i.Fits t.columns := by
  simp only [h.scalar_column]
  constructor
  · rintro ⟨hname, hcovers, hscalars⟩
    exact ⟨hname, hcovers, hscalars⟩
  · intro hfits
    exact ⟨hfits.named, hfits.covers, hfits.scalars⟩

theorem searchIndex_fits_iff (h : d.Describes catalog t) (i : SearchIndexDefinition) :
    (i.columns ≠ [] ∧ (∀ n ∈ i.columns, ∃ s ∈ d.searchColumns, s.name = n) ∧
      (∀ n ∈ i.partitionByColumns, ∃ c ∈ d.columns, c.name = n ∧ c.isArray = false) ∧
      ∀ n ∈ i.orderByColumns, ∃ c ∈ d.columns, c.name = n ∧ c.IsOne .int64 ∧ c.nullable = false) ↔
      i.Fits t.columns t.searchColumns := by
  simp only [h.scalar_column, h.integer_column, ← h.searchColumns]
  constructor
  · rintro ⟨hcovers, hsearches, hpartitions, horders⟩
    exact ⟨hcovers, hsearches, hpartitions, horders⟩
  · intro hfits
    exact ⟨hfits.covers, hfits.searches, hfits.partitions, hfits.orders⟩

theorem parent_iff (h : d.Describes catalog t) (hr : r.Sound)
    (ht : (t.columns.map (·.name)).Nodup) :
    (∀ i, d.interleave = some i →
      ∃ p ∈ r.tables, p.name = i.parentTable ∧ d.ExtendsKeyOf catalog p) ↔
    ∀ i, t.interleave = some i → ∃ p, r.find? i.parentTable = some p ∧ t.ExtendsKey p := by
  have hparent (i : InterleaveDefinition) (p : Table) :
      (p ∈ r.tables ∧ p.name = i.parentTable ∧ d.ExtendsKeyOf catalog p) ↔
        r.find? i.parentTable = some p ∧ t.ExtendsKey p := by
    rw [hr.find?_eq_some, ← and_assoc]
    apply and_congr_right
    intro hp
    exact h.extendsKeyOf_iff ht (hr.columnNames hp.1)
  simp only [h.interleave, hparent]

/-- The definition is valid exactly if the table it describes meets all conditions and is new. -/
theorem valid_iff (h : d.Describes catalog t) (hr : r.Sound) :
    d.Valid catalog r ↔ t.Checked r ∧ t.name ∉ r.names := by
  have hkeyNames : t.primaryKey.map (·.name) = d.primaryKeys.map (·.name) := by
    rw [h.primaryKey, List.map_map]
    rfl
  have hkeyColumns : (∀ k ∈ t.primaryKey, ∃ c ∈ t.columns, c.name = k.name ∧
      c.type.isArray = false) ↔ ∀ k ∈ d.primaryKeys, ∃ c ∈ d.columns, c.name = k.name ∧
      c.isArray = false := by
    simp only [h.primaryKey, List.forall_mem_map, ← h.scalar_column]
    rfl
  constructor
  · intro hv
    obtain ⟨hcolumnNames, hsearchNames⟩ := h.columnNames_iff.mp hv.columnNames
    refine ⟨?_, h.name ▸ hv.fresh⟩
    constructor
    case named => exact h.name ▸ hv.named
    case hasColumns => simpa [← List.map_eq_nil_iff (f := Column.name), h.columnNames] using hv.hasColumns
    case hasKey => simpa [h.primaryKey] using hv.hasKey
    case columnNames => exact hcolumnNames
    case columns =>
      exact h.proper_columns_iff.mp fun c hc => ⟨hv.columnsNamed c hc, hv.commitTimestamps c hc⟩
    case searchNames => exact hsearchNames
    case searchColumns =>
      rw [h.searchColumns]
      exact fun s hs => (h.search_fits_iff s).mp (hv.searchSources s hs)
    case keyNames => exact hkeyNames ▸ hv.keyNames
    case keyColumns => exact hkeyColumns.mpr hv.keyColumns
    case groupNames => exact h.columnGroups ▸ hv.groupNames
    case groupColumns => simpa only [h.columnGroups, ← h.known_column] using hv.groupColumns
    case parent => exact (h.parent_iff hr hcolumnNames).mp hv.parent
    case indexes =>
      rw [h.indexes]
      exact fun i hi => (h.index_fits_iff i).mp (hv.indexes i hi)
    case searchIndexes =>
      rw [h.searchIndexes]
      exact fun i hi => (h.searchIndex_fits_iff i).mp (hv.searchIndexes i hi)
  · rintro ⟨hc, hfresh⟩
    have hproper := h.proper_columns_iff.mpr hc.columns
    constructor
    case named => exact h.name ▸ hc.named
    case hasColumns =>
      simpa [← List.map_eq_nil_iff (f := Column.name), h.columnNames] using hc.hasColumns
    case hasKey => simpa [h.primaryKey] using hc.hasKey
    case columnsNamed => exact fun c hc => (hproper c hc).1
    case types =>
      intro c hc
      obtain ⟨col, hcol⟩ := exists_of_forall₂ h.columns hc
      exact ⟨col.type.base, hcol.type.base⟩
    case commitTimestamps => exact fun c hc => (hproper c hc).2
    case columnNames => exact h.columnNames_iff.mpr ⟨hc.columnNames, hc.searchNames⟩
    case searchSources =>
      rw [← h.searchColumns]
      exact fun s hs => (h.search_fits_iff s).mpr (hc.searchColumns s hs)
    case keyNames => exact hkeyNames ▸ hc.keyNames
    case keyColumns => exact hkeyColumns.mp hc.keyColumns
    case groupNames => exact h.columnGroups ▸ hc.groupNames
    case groupColumns => simpa only [h.columnGroups, ← h.known_column] using hc.groupColumns
    case parent => exact (h.parent_iff hr hc.columnNames).mpr hc.parent
    case indexes =>
      rw [← h.indexes]
      exact fun i hi => (h.index_fits_iff i).mpr (hc.indexes i hi)
    case searchIndexes =>
      rw [← h.searchIndexes]
      exact fun i hi => (h.searchIndex_fits_iff i).mpr (hc.searchIndexes i hi)
    case fresh => exact h.name ▸ hfresh

end Describes
end TableDefinition

/-- A declaration succeeds exactly on the definitions that are valid against the registry. It then
appends the table described and gives its schema statements; otherwise the registry stays as it
is. -/
theorem declare_iff_valid (r : Registry) (hr : r.Reachable) (catalog : Catalog)
    (d : TableDefinition) :
    ((∃ ddl next, r.declare catalog d = .ok (ddl, next)) ↔ d.Valid catalog r) ∧
      (d.Valid catalog r → ∃ t, d.Describes catalog t ∧
        r.declare catalog d = .ok (t.ddl, r.attempt catalog d) ∧
        r.attempt catalog d = ⟨r.tables ++ [t]⟩) ∧
      (¬d.Valid catalog r →
        (∃ e, r.declare catalog d = .error e) ∧ r.attempt catalog d = r) := by
  have hiff : (∃ ddl next, r.declare catalog d = .ok (ddl, next)) ↔ d.Valid catalog r := by
    constructor
    · rintro ⟨ddl, next, h⟩
      obtain ⟨t, hdescribes, hchecked, hfresh, -, -⟩ := Registry.declare_eq_ok.mp h
      exact (hdescribes.valid_iff hr.sound).mpr ⟨hchecked, hfresh⟩
    · intro hv
      obtain ⟨t, hdescribes⟩ := TableDefinition.exists_describes hv.types
      obtain ⟨hchecked, hfresh⟩ := (hdescribes.valid_iff hr.sound).mp hv
      exact ⟨t.ddl, _, Registry.declare_eq_ok.mpr ⟨t, hdescribes, hchecked, hfresh, rfl, rfl⟩⟩
  refine ⟨hiff, ?_, ?_⟩
  · intro hv
    rcases r.attempt_cases catalog d with ⟨ddl, h⟩ | ⟨⟨e, herror⟩, -⟩
    · obtain ⟨t, hdescribes, -, -, rfl, hnext⟩ := Registry.declare_eq_ok.mp h
      exact ⟨t, hdescribes, h, hnext⟩
    · obtain ⟨ddl, next, h⟩ := hiff.mpr hv
      rw [herror] at h
      cases h
  · intro hv
    rcases r.attempt_cases catalog d with ⟨ddl, h⟩ | ⟨herror, hsame⟩
    · exact absurd (hiff.mp ⟨ddl, _, h⟩) hv
    · exact ⟨herror, hsame⟩

namespace Sample

def kinds : Catalog := .ofDefinitions [⟨"Kind", .enum, none⟩]

def users : TableDefinition where
  name := "users"
  columns := [⟨"id", "string", false, false, none, false⟩,
    ⟨"joined", "timestamp", false, false, none, true⟩]
  primaryKeys := [.bare "id"]

/-- A table inside another, with an enum, a search column and all kinds of parts. -/
def posts : TableDefinition where
  name := "posts"
  columns := [⟨"id", "string", false, false, none, false⟩,
    ⟨"number", "int", false, false, none, false⟩, ⟨"kind", "Kind", false, true, none, false⟩,
    ⟨"title", "string", false, false, none, false⟩, ⟨"tags", "string", true, false, none, false⟩]
  primaryKeys := [.bare "id", .entry "number" true]
  interleave := some ⟨"users", true⟩
  indexes := [⟨"postsByKind", [.bare "kind"], false, true⟩]
  searchColumns := [⟨"words", ["title"]⟩]
  searchIndexes := [⟨"postsByWords", ["words"], ["kind"], ["number"]⟩]
  columnGroups := [⟨"head", ["number", "title"]⟩]

def usersFirst : Registry := Registry.empty.attemptAll [(kinds, users)]

end Sample

/-- The key of the inner table has to run in the direction of the outer one. -/
theorem declare_iff_valid_posts :
    Sample.posts.Valid Sample.kinds Sample.usersFirst ∧
      ¬{ Sample.posts with primaryKeys := [.entry "id" true, .bare "number"] }.Valid Sample.kinds
        Sample.usersFirst := by
  have hr : Sample.usersFirst.Reachable := ⟨_, rfl⟩
  constructor
  · exact (declare_iff_valid _ hr _ _).1.mp ⟨_, _, rfl⟩
  · rw [← (declare_iff_valid _ hr _ _).1]
    rintro ⟨ddl, next, h⟩
    cases h

end SchemaLoom
