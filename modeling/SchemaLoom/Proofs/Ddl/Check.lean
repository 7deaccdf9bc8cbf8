import Mathlib.Data.List.Forall2
import SchemaLoom.Ddl.Check
import SchemaLoom.Proofs.Distinct
import SchemaLoom.Proofs.Sql.Scope

/-!
# What the checks of a table mean

A definition describes a table: its parts one by one, with the types of its columns resolved. The
table is checked part by part along lists of what was accepted before. Here each check is turned
into the condition it stands for, and a definition becomes a table exactly if it describes it and
the table meets all conditions.
-/
namespace SchemaLoom
open Compiled

namespace ColumnDefinition

/-- What the type name of a column stands for: a primitive, or an enum or message found for it. -/
inductive HasBase (catalog : Catalog) (owner : String) (d : ColumnDefinition) : BaseType → Prop where
  | primitive {p : PrimitiveType} (hname : PrimitiveType.parse? d.typeName = some p) :
      HasBase catalog owner d (.primitive p)
  | enum {e : ExternalDefinition} (hname : PrimitiveType.parse? d.typeName = none)
      (hfound : catalog.resolve owner d.typeName d.importPath = some e) (hkind : e.kind = .enum) :
      HasBase catalog owner d (.enum d.typeName (d.importPath.or e.importPath))
  | message {e : ExternalDefinition} (hname : PrimitiveType.parse? d.typeName = none)
      (hfound : catalog.resolve owner d.typeName d.importPath = some e)
      (hkind : e.kind = .message) :
      HasBase catalog owner d (.message d.typeName (d.importPath.or e.importPath))

structure HasType (catalog : Catalog) (owner : String) (d : ColumnDefinition) (t : ColumnType) :
    Prop where
  base : d.HasBase catalog owner t.base
  isArray : t.isArray = d.isArray
  nullable : t.nullable = d.nullable

/-- The column that a definition describes in a table of that name. -/
structure Describes (catalog : Catalog) (table : String) (d : ColumnDefinition) (c : Column) :
    Prop where
  name : c.name = d.name
  type : d.HasType catalog ("table " ++ table) c.type
  allowCommitTimestamp : c.allowCommitTimestamp = d.allowCommitTimestamp

end ColumnDefinition

namespace Catalog

variable {catalog : Catalog} {owner : String} {d : ColumnDefinition}

theorem resolveBase_eq_ok {b : BaseType} :
    catalog.resolveBase owner d = .ok b ↔ d.HasBase catalog owner b := by
  constructor
  · intro h
    cases hname : PrimitiveType.parse? d.typeName with
    | some p =>
      simp only [resolveBase, hname, Except.ok.injEq] at h
      exact h ▸ .primitive hname
    | none =>
      cases hfound : catalog.resolve owner d.typeName d.importPath with
      | none => simp [resolveBase, hname, hfound] at h
      | some e =>
        cases hkind : e.kind <;>
          simp only [resolveBase, baseOf, hname, hfound, hkind, reduceCtorEq, Except.ok.injEq] at h
        · exact h ▸ .enum hname hfound hkind
        · exact h ▸ .message hname hfound hkind
  · intro h
    cases h with
    | primitive hname => simp [resolveBase, hname]
    | enum hname hfound hkind => simp [resolveBase, hname, hfound, baseOf, hkind]
    | message hname hfound hkind => simp [resolveBase, hname, hfound, baseOf, hkind]

theorem resolveColumn_eq_ok {t : ColumnType} :
    catalog.resolveColumn owner d = .ok t ↔ d.HasType catalog owner t := by
  simp only [resolveColumn, bind_eq_ok, pure_eq_ok, resolveBase_eq_ok]
  constructor
  · rintro ⟨b, hb, rfl⟩
    exact ⟨hb, rfl, rfl⟩
  · intro h
    refine ⟨t.base, h.base, ?_⟩
    rw [← h.isArray, ← h.nullable]

end Catalog

/-- A column has a name, and takes the time of the commit only if it holds one timestamp. -/
structure Column.Proper (c : Column) : Prop where
  named : c.name ≠ ""
  commitTimestamp : c.allowCommitTimestamp = true →
    c.type.isPrimitive .timestamp = true ∧ c.type.isArray = false

/-- A search column is made of one or more columns that hold one string each. -/
structure SearchColumnDefinition.Fits (s : SearchColumnDefinition) (columns : List Column) :
    Prop where
  sources : s.sourceColumns ≠ []
  strings : ∀ n ∈ s.sourceColumns, ∃ c ∈ columns, c.name = n ∧
    c.type.isPrimitive .string = true ∧ c.type.isArray = false

/-- An index has a name and covers one or more columns, none of them an array. -/
structure IndexDefinition.Fits (i : IndexDefinition) (columns : List Column) : Prop where
  named : i.name ≠ ""
  covers : i.columns ≠ []
  scalars : ∀ k ∈ i.columns, ∃ c ∈ columns, c.name = k.name ∧ c.type.isArray = false

/-- A search index covers one or more search columns, is partitioned by columns that are no arrays
and ordered by columns that always hold one integer. -/
structure SearchIndexDefinition.Fits (i : SearchIndexDefinition) (columns : List Column)
    (searchColumns : List SearchColumnDefinition) : Prop where
  covers : i.columns ≠ []
  searches : ∀ n ∈ i.columns, ∃ s ∈ searchColumns, s.name = n
  partitions : ∀ n ∈ i.partitionByColumns, ∃ c ∈ columns, c.name = n ∧ c.type.isArray = false
  orders : ∀ n ∈ i.orderByColumns, ∃ c ∈ columns, c.name = n ∧
    c.type.isPrimitive .int64 = true ∧ c.type.isArray = false ∧ c.type.nullable = false

/-- The key of the table properly extends that of its parent: it begins with the same names in the
same directions, and their columns have the same types in both tables. -/
structure Table.ExtendsKey (child parent : Table) : Prop where
  longer : parent.primaryKey.length < child.primaryKey.length
  starts : parent.primaryKey <+: child.primaryKey
  types : ∀ k ∈ parent.primaryKey, ∃ p c, parent.column k.name = .ok p ∧
    child.column k.name = .ok c ∧ p.type = c.type

def KeyColumn.part (k : KeyColumn) : KeyPart := ⟨k.name, k.desc⟩

theorem KeyColumn.part_eq {k : KeyColumn} {q : KeyPart} (hname : k.name = q.name)
    (hdesc : k.desc = q.desc) : k.part = q := by
  rw [part, hname, hdesc]

structure TableDefinition.Describes (catalog : Catalog) (d : TableDefinition) (t : Table) :
    Prop where
  name : t.name = d.name
  columns : List.Forall₂ (ColumnDefinition.Describes catalog d.name) d.columns t.columns
  primaryKey : t.primaryKey = d.primaryKeys.map KeyColumn.part
  searchColumns : t.searchColumns = d.searchColumns
  columnGroups : t.columnGroups = d.columnGroups
  interleave : t.interleave = d.interleave
  indexes : t.indexes = d.indexes
  searchIndexes : t.searchIndexes = d.searchIndexes

/-- The table meets all conditions, the one on its parent against the tables of `r`. -/
structure Table.Checked (r : Registry) (t : Table) : Prop where
  named : t.name ≠ ""
  hasColumns : t.columns ≠ []
  hasKey : t.primaryKey ≠ []
  columnNames : (t.columns.map (·.name)).Nodup
  columns : ∀ c ∈ t.columns, c.Proper
  searchNames : Fresh (t.columns.map (·.name)) (t.searchColumns.map (·.name))
  searchColumns : ∀ s ∈ t.searchColumns, s.Fits t.columns
  keyNames : (t.primaryKey.map (·.name)).Nodup
  keyColumns : ∀ k ∈ t.primaryKey, ∃ c ∈ t.columns, c.name = k.name ∧ c.type.isArray = false
  groupNames : (t.columnGroups.map (·.name)).Nodup
  groupColumns : ∀ g ∈ t.columnGroups, ∀ n ∈ g.columns, ∃ c ∈ t.columns, c.name = n
  parent : ∀ i, t.interleave = some i →
    ∃ p, r.find? i.parentTable = some p ∧ t.ExtendsKey p
  indexes : ∀ i ∈ t.indexes, i.Fits t.columns
  searchIndexes : ∀ i ∈ t.searchIndexes, i.Fits t.columns t.searchColumns

namespace Ddl

variable {catalog : Catalog} {table : String} {columns : List Column}

theorem checkColumn_eq_ok {done : List Column} {d : ColumnDefinition} {c : Column} :
    checkColumn catalog table done d = .ok c ↔
      c.name ∉ done.map (·.name) ∧ c.Proper ∧ d.Describes catalog table c := by
  have hcommit (type : ColumnType) : (!d.allowCommitTimestamp ||
      (type.isPrimitive .timestamp && !type.isArray)) = true ↔ (d.allowCommitTimestamp = true →
      type.isPrimitive .timestamp = true ∧ type.isArray = false) := by
    cases d.allowCommitTimestamp <;> simp
  have hseen : (!done.any (·.name = d.name)) = true ↔ d.name ∉ done.map (·.name) := by
    simp
  simp only [checkColumn, bind_eq_ok, ensure_eq_ok, pure_eq_ok, Catalog.resolveColumn_eq_ok,
    hcommit, hseen, decide_eq_true_eq]
  constructor
  · rintro ⟨-, hname, -, hfresh, type, htype, -, hstamp, rfl⟩
    exact ⟨hfresh, ⟨hname, hstamp⟩, ⟨rfl, htype, rfl⟩⟩
  · rintro ⟨hfresh, hproper, hdescribes⟩
    have hname := hproper.named
    have hstamp := hproper.commitTimestamp
    rw [hdescribes.name] at hfresh hname
    rw [hdescribes.allowCommitTimestamp] at hstamp
    refine ⟨(), hname, (), hfresh, c.type, hdescribes.type, (), hstamp, ?_⟩
    rw [← hdescribes.name, ← hdescribes.allowCommitTimestamp]

theorem checkColumns_eq_ok {done all : List Column} {ds : List ColumnDefinition} :
    checkColumns catalog table done ds = .ok all ↔ ∃ new, all = done ++ new ∧
      List.Forall₂ (ColumnDefinition.Describes catalog table) ds new ∧
      Fresh (done.map (·.name)) (new.map (·.name)) ∧ ∀ c ∈ new, c.Proper := by
  induction ds generalizing done with
  | nil =>
    rw [checkColumns]
    constructor
    · intro h
      cases h
      exact ⟨[], by simp⟩
    · rintro ⟨new, rfl, hnew, -⟩
      cases hnew
      simp
  | cons d ds ih =>
    simp only [checkColumns, bind_eq_ok, checkColumn_eq_ok, ih]
    constructor
    · rintro ⟨c, ⟨hfresh, hproper, hdescribes⟩, new, rfl, hnew, hrest, hall⟩
      refine ⟨c :: new, by simp, .cons hdescribes hnew, ?_, List.forall_mem_cons.mpr ⟨hproper, hall⟩⟩
      rw [List.map_cons, fresh_cons]
      exact ⟨hfresh, by simpa using hrest⟩
    · rintro ⟨new, rfl, hnew, hfresh, hall⟩
      cases hnew with
      | cons hdescribes hrest =>
        rw [List.map_cons, fresh_cons] at hfresh
        rw [List.forall_mem_cons] at hall
        exact ⟨_, ⟨hfresh.1, hall.1, hdescribes⟩, _, by simp, hrest, by simpa using hfresh.2, hall.2⟩

/-- A check that looks a column up and then judges it. -/
theorem findColumn_then_eq_ok (hcolumns : (columns.map (·.name)).Nodup) {n : String}
    {judge : Column → Bool} {e : CompileError} :
    (findColumn table columns n >>= fun c => ensure (judge c) e) = .ok () ↔
      ∃ c ∈ columns, c.name = n ∧ judge c = true := by
  simp only [bind_eq_ok, ensure_eq_ok, findColumn_eq_ok hcolumns, and_assoc]

theorem checkSearchColumn_eq_ok (hcolumns : (columns.map (·.name)).Nodup)
    {done : List SearchColumnDefinition} {d : SearchColumnDefinition} {u : Unit} :
    checkSearchColumn table columns done d = .ok u ↔
      d.name ∉ columns.map (·.name) ++ done.map (·.name) ∧ d.Fits columns := by
  have hseen : (!columns.any (·.name = d.name) && !done.any (·.name = d.name)) = true ↔
      d.name ∉ columns.map (·.name) ++ done.map (·.name) := by
    simp
  have hsource (n : String) : checkSource table columns n = .ok () ↔ ∃ c ∈ columns, c.name = n ∧
      c.type.isPrimitive .string = true ∧ c.type.isArray = false := by
    rw [checkSource, findColumn_then_eq_ok hcolumns]
    simp
  simp only [checkSearchColumn, bind_eq_ok, ensure_eq_ok, forAll_eq_ok, hseen, hsource,
    Bool.not_eq_true', List.isEmpty_eq_false_iff]
  constructor
  · rintro ⟨-, hfresh, -, hsources, hstrings⟩
    exact ⟨hfresh, hsources, hstrings⟩
  · rintro ⟨hfresh, hfits⟩
    exact ⟨(), hfresh, (), hfits.sources, hfits.strings⟩

theorem checkSearchColumns_eq_ok (hcolumns : (columns.map (·.name)).Nodup)
    {done ds all : List SearchColumnDefinition} :
    checkSearchColumns table columns done ds = .ok all ↔ all = done ++ ds ∧
      Fresh (columns.map (·.name) ++ done.map (·.name)) (ds.map (·.name)) ∧
      ∀ d ∈ ds, d.Fits columns := by
  induction ds generalizing done with
  | nil => simp [checkSearchColumns, eq_comm]
  | cons d ds ih =>
    simp only [checkSearchColumns, bind_eq_ok, within_eq_ok, checkSearchColumn_eq_ok hcolumns, ih,
      List.map_cons, List.forall_mem_cons, fresh_cons, List.map_append, List.map_nil,
      List.append_assoc, List.singleton_append, exists_const]
    tauto

theorem checkKeyPart_eq_ok (hcolumns : (columns.map (·.name)).Nodup) {done : List KeyPart}
    {k : KeyColumn} {part : KeyPart} :
    checkKeyPart table columns done k = .ok part ↔ part = k.part ∧
      k.name ∉ done.map (·.name) ∧ ∃ c ∈ columns, c.name = k.name ∧ c.type.isArray = false := by
  have hseen : (!done.any (·.name = k.name)) = true ↔ k.name ∉ done.map (·.name) := by
    simp
  simp only [checkKeyPart, bind_eq_ok, ensure_eq_ok, pure_eq_ok, findColumn_eq_ok hcolumns, hseen,
    Bool.not_eq_true']
  constructor
  · rintro ⟨c, ⟨hc, hname⟩, -, harray, -, hfresh, rfl⟩
    exact ⟨rfl, hfresh, c, hc, hname, harray⟩
  · rintro ⟨rfl, hfresh, c, hc, hname, harray⟩
    exact ⟨c, ⟨hc, hname⟩, (), harray, (), hfresh, rfl⟩

theorem checkKey_eq_ok (hcolumns : (columns.map (·.name)).Nodup) {done all : List KeyPart}
    {ks : List KeyColumn} :
    checkKey table columns done ks = .ok all ↔ all = done ++ ks.map KeyColumn.part ∧
      Fresh (done.map (·.name)) (ks.map (·.name)) ∧
      ∀ k ∈ ks, ∃ c ∈ columns, c.name = k.name ∧ c.type.isArray = false := by
  induction ks generalizing done with
  | nil => simp [checkKey, eq_comm (a := done)]
  | cons k ks ih =>
    have hpart : k.part.name = k.name := rfl
    simp only [checkKey, bind_eq_ok, checkKeyPart_eq_ok hcolumns, ih, List.map_cons, fresh_cons,
      List.forall_mem_cons, List.map_append, List.map_nil, List.append_assoc,
      List.singleton_append]
    constructor
    · rintro ⟨_, ⟨rfl, hfresh, hk⟩, hall, hrest, hks⟩
      exact ⟨hall, ⟨hfresh, hrest⟩, hk, hks⟩
    · rintro ⟨hall, ⟨hfresh, hrest⟩, hk, hks⟩
      exact ⟨_, ⟨rfl, hfresh, hk⟩, hall, hrest, hks⟩

theorem checkGroup_eq_ok (hcolumns : (columns.map (·.name)).Nodup)
    {done : List ColumnGroupDefinition} {g : ColumnGroupDefinition} {u : Unit} :
    checkGroup table columns done g = .ok u ↔
      g.name ∉ done.map (·.name) ∧ ∀ n ∈ g.columns, ∃ c ∈ columns, c.name = n := by
  have hseen : (!done.any (·.name = g.name)) = true ↔ g.name ∉ done.map (·.name) := by
    simp
  simp only [checkGroup, bind_eq_ok, ensure_eq_ok, within_eq_ok, forAll_eq_ok, map_eq_ok,
    findColumn_eq_ok hcolumns, hseen, and_true, exists_const]

theorem checkGroups_eq_ok (hcolumns : (columns.map (·.name)).Nodup)
    {done gs all : List ColumnGroupDefinition} :
    checkGroups table columns done gs = .ok all ↔ all = done ++ gs ∧
      Fresh (done.map (·.name)) (gs.map (·.name)) ∧
      ∀ g ∈ gs, ∀ n ∈ g.columns, ∃ c ∈ columns, c.name = n := by
  induction gs generalizing done with
  | nil => simp [checkGroups, eq_comm]
  | cons g gs ih =>
    simp only [checkGroups, bind_eq_ok, checkGroup_eq_ok hcolumns, ih, List.map_cons,
      List.forall_mem_cons, fresh_cons, List.map_append, List.map_nil, List.append_assoc,
      List.singleton_append, exists_const]
    tauto

theorem checkKeyPosition_eq_ok {child parent : Table} {position : Nat} {c p : KeyPart}
    {u : Unit} :
    checkKeyPosition child parent position c p = .ok u ↔ p = c ∧
      ∃ pc cc, parent.column p.name = .ok pc ∧ child.column p.name = .ok cc ∧
        pc.type = cc.type := by
  simp only [checkKeyPosition, bind_eq_ok, ensure_eq_ok, decide_eq_true_eq]
  constructor
  · rintro ⟨-, hname, -, hdesc, pc, hpc, cc, hcc, htype⟩
    refine ⟨?_, pc, cc, hpc, hname ▸ hcc, htype⟩
    cases p
    cases c
    simp_all
  · rintro ⟨rfl, pc, cc, hpc, hcc, htype⟩
    exact ⟨(), rfl, (), rfl, pc, hpc, cc, hcc, htype⟩

/-- The positions both keys have agree exactly if the shorter key is the start of the longer. -/
theorem checkKeyPositions_eq_ok {child parent : Table} {position : Nat} {cs ps : List KeyPart}
    (hlength : ps.length ≤ cs.length) {u : Unit} :
    checkKeyPositions child parent position cs ps = .ok u ↔ ps <+: cs ∧
      ∀ k ∈ ps, ∃ pc cc, parent.column k.name = .ok pc ∧ child.column k.name = .ok cc ∧
        pc.type = cc.type := by
  induction ps generalizing cs position with
  | nil => simp [checkKeyPositions]
  | cons p ps ih =>
    cases cs with
    | nil => simp at hlength
    | cons c cs =>
      have hlength : ps.length ≤ cs.length := by simpa using hlength
      simp only [checkKeyPositions, bind_eq_ok, checkKeyPosition_eq_ok, ih hlength,
        List.cons_prefix_cons, List.forall_mem_cons, exists_const]
      tauto

theorem checkInterleave_eq_ok {child parent : Table} {u : Unit} :
    checkInterleave child parent = .ok u ↔ child.ExtendsKey parent := by
  simp only [checkInterleave, bind_eq_ok, ensure_eq_ok, decide_eq_true_eq]
  constructor
  · rintro ⟨-, hlength, h⟩
    obtain ⟨hstarts, htypes⟩ := (checkKeyPositions_eq_ok (Nat.le_of_lt hlength)).mp h
    exact ⟨hlength, hstarts, htypes⟩
  · intro h
    exact ⟨(), h.longer, (checkKeyPositions_eq_ok (Nat.le_of_lt h.longer)).mpr ⟨h.starts, h.types⟩⟩

theorem checkParent_eq_ok {r : Registry} {t : Table} {u : Unit} :
    checkParent r t = .ok u ↔ ∀ i, t.interleave = some i →
      ∃ p, r.find? i.parentTable = some p ∧ t.ExtendsKey p := by
  unfold checkParent
  cases t.interleave with
  | none => simp
  | some i =>
    simp only [within_eq_ok, bind_eq_ok, Registry.table, orError_eq_ok, checkInterleave_eq_ok,
      Option.some.injEq, forall_eq']

theorem checkIndex_eq_ok {t : Table} (hcolumns : (t.columns.map (·.name)).Nodup)
    {i : IndexDefinition} {u : Unit} : checkIndex t i = .ok u ↔ i.Fits t.columns := by
  simp only [checkIndex, bind_eq_ok, ensure_eq_ok, forAll_eq_ok, Table.column_eq_ok hcolumns,
    decide_eq_true_eq, Bool.not_eq_true', List.isEmpty_eq_false_iff, and_assoc]
  constructor
  · rintro ⟨-, hname, -, hcovers, hscalars⟩
    exact ⟨hname, hcovers, hscalars⟩
  · intro h
    exact ⟨(), h.named, (), h.covers, h.scalars⟩

theorem checkSearchIndex_eq_ok {t : Table} (hcolumns : (t.columns.map (·.name)).Nodup)
    {i : SearchIndexDefinition} {u : Unit} :
    checkSearchIndex t i = .ok u ↔ i.Fits t.columns t.searchColumns := by
  simp only [checkSearchIndex, checkPartitionColumn, checkOrderColumn, bind_eq_ok, ensure_eq_ok,
    forAll_eq_ok, map_eq_ok, Table.column_eq_ok hcolumns, Bool.not_eq_true',
    List.isEmpty_eq_false_iff, Bool.and_eq_true, and_true, and_assoc, Table.exists_searchColumn]
  constructor
  · rintro ⟨-, hcovers, -, hsearches, -, hpartitions, horders⟩
    exact ⟨hcovers, hsearches, hpartitions, horders⟩
  · intro h
    exact ⟨(), h.covers, (), h.searches, (), h.partitions, h.orders⟩

end Ddl

open Ddl in
/-- A definition becomes a table exactly if it describes it and the table meets all conditions. -/
theorem Table.ofDefinition_eq_ok {catalog : Catalog} {r : Registry} {d : TableDefinition}
    {t : Table} :
    Table.ofDefinition catalog r d = .ok t ↔ d.Describes catalog t ∧ t.Checked r := by
  have hparts (ks : List KeyColumn) : (ks.map KeyColumn.part).map (·.name) = ks.map (·.name) := by
    rw [List.map_map]
    rfl
  simp only [ofDefinition, bind_eq_ok, ensure_eq_ok, within_eq_ok, pure_eq_ok, forAll_eq_ok,
    checkParent_eq_ok, decide_eq_true_eq, Bool.not_eq_true', List.isEmpty_eq_false_iff]
  constructor
  · rintro ⟨-, hname, -, hcolumns, -, hkeys, columns, hcheck, search, hsearch, key, hkey, groups,
      hgroups, -, hparent, -, hindexes, -, hsearchIndexes, rfl⟩
    obtain ⟨new, rfl, hdescribes, hfresh, hproper⟩ := checkColumns_eq_ok.mp hcheck
    have hnodup := fresh_of_nothing.mp hfresh
    obtain ⟨rfl, hsearchNames, hsearchFits⟩ := (checkSearchColumns_eq_ok hnodup).mp hsearch
    obtain ⟨rfl, hkeyNames, hkeyFits⟩ := (checkKey_eq_ok hnodup).mp hkey
    obtain ⟨rfl, hgroupNames, hgroupFits⟩ := (checkGroups_eq_ok hnodup).mp hgroups
    refine ⟨⟨rfl, hdescribes, rfl, rfl, rfl, rfl, rfl, rfl⟩, ?_⟩
    constructor
    case named => exact hname
    case hasColumns =>
      rintro rfl
      exact hcolumns (List.forall₂_nil_right_iff.mp hdescribes)
    case hasKey => simpa using hkeys
    case columnNames => exact hnodup
    case columns => exact hproper
    case searchNames => simpa using hsearchNames
    case searchColumns => exact hsearchFits
    case keyNames => simpa [hparts] using fresh_of_nothing.mp hkeyNames
    case keyColumns => simpa [KeyColumn.part] using hkeyFits
    case groupNames => exact fresh_of_nothing.mp hgroupNames
    case groupColumns => exact hgroupFits
    case parent => exact hparent
    case indexes =>
      intro i hi
      exact (checkIndex_eq_ok hnodup).mp (hindexes i hi)
    case searchIndexes =>
      intro i hi
      exact (checkSearchIndex_eq_ok hnodup).mp (hsearchIndexes i hi)
  · rintro ⟨hdescribes, hchecked⟩
    obtain ⟨name, columns, key, search, groups, interleave, indexes, searchIndexes⟩ := t
    obtain ⟨rfl, hcolumns, rfl, rfl, rfl, rfl, rfl, rfl⟩ := hdescribes
    have hnodup := hchecked.columnNames
    refine ⟨(), hchecked.named, (), ?_, (), ?_, columns, ?_, d.searchColumns, ?_,
      d.primaryKeys.map KeyColumn.part, ?_, d.columnGroups, ?_, (), hchecked.parent, (), ?_, (), ?_, rfl⟩
    · intro hnil
      rw [hnil] at hcolumns
      exact hchecked.hasColumns (List.forall₂_nil_left_iff.mp hcolumns)
    · simpa using hchecked.hasKey
    · exact checkColumns_eq_ok.mpr
        ⟨columns, rfl, hcolumns, fresh_of_nothing.mpr hnodup, hchecked.columns⟩
    · refine (checkSearchColumns_eq_ok hnodup).mpr ⟨rfl, ?_, hchecked.searchColumns⟩
      simpa using hchecked.searchNames
    · refine (checkKey_eq_ok hnodup).mpr ⟨rfl, ?_, ?_⟩
      · exact fresh_of_nothing.mpr (hparts d.primaryKeys ▸ hchecked.keyNames)
      · simpa [KeyColumn.part] using hchecked.keyColumns
    · exact (checkGroups_eq_ok hnodup).mpr
        ⟨rfl, fresh_of_nothing.mpr hchecked.groupNames, hchecked.groupColumns⟩
    · intro i hi
      exact (checkIndex_eq_ok hnodup).mpr (hchecked.indexes i hi)
    · intro i hi
      exact (checkSearchIndex_eq_ok hnodup).mpr (hchecked.searchIndexes i hi)

end SchemaLoom
