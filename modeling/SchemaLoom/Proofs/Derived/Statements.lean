import SchemaLoom.Derived.Statements
import SchemaLoom.Proofs.Derived.Task
import SchemaLoom.Proofs.Pass
import SchemaLoom.Proofs.Sql.Keyed

/-!
# The statements a table asks for

They are derived from the definition of the table before any check, and compiled afterwards like
statements written by hand. For a table that was declared they always compile, if the names
generated for its columns do not meet; and what comes out is the statement by primary key that was
asked for.
-/
namespace SchemaLoom
open Compiled

namespace Task

/-- The time from which a task is due. -/
def timeColumn : Column := ⟨"executionTime", ⟨.primitive .timestamp, false, true⟩, false⟩

/-- The bookkeeping that is read and set for one task. -/
def metadataColumns : List Column :=
  [⟨"retryCount", ⟨.primitive .float64, false, true⟩, false⟩, timeColumn]

def declaredColumns (t : Table) : List Column :=
  t.columns.filter fun c => !reserved.contains c.name

/-- A task table has its bookkeeping behind the columns that were declared, and none of it in its
key. -/
structure Keeps (d : TableDefinition) (t : Table) : Prop where
  columns : t.columns = declaredColumns t ++ tableColumns
  declared : (declaredColumns t).map (·.name) = d.columns.map (·.name)
  hasDeclared : declaredColumns t ≠ []
  keyless : ∀ n ∈ reserved, t.isPrimaryKey n = false

theorem Keeps.metadataColumns_sublist {d : TableDefinition} {t : Table} (h : Keeps d t) :
    metadataColumns.Sublist t.columns := by
  have hsub : metadataColumns.Sublist tableColumns := by decide
  rw [h.columns]
  exact hsub.trans (List.sublist_append_right _ _)

end Task

namespace TableDefinition

variable {catalog : Catalog} {r : Registry} {d a : TableDefinition} {t t' : Table}

def requestedNames (d : TableDefinition) : List String :=
  d.insert.toList ++ d.get.toList ++ d.delete.toList ++ d.update.toList
    ++ d.task.toList.flatMap fun options =>
      options.listPending.toList ++ options.getMetadata.toList ++ options.updateMetadata.toList

/-- The updates that a definition asks for, over the table that it describes. -/
def updateStatements (d : TableDefinition) (t : Table) : List Statement :=
  d.update.toList.map (t.updateRow t.plainColumns)
    ++ d.task.toList.map fun options => t.updateRow Task.metadataColumns
      (options.updateMetadata.getD ("Update" ++ d.name ++ "Metadata"))

def selectStatements (d : TableDefinition) (t : Table) : List Statement :=
  d.get.toList.map (t.getRow t.columns)
    ++ ((d.task.toList.map fun options => t.listRows Task.timeColumn (Task.declaredColumns t)
      (options.listPending.getD ("ListPending" ++ d.name)))
    ++ d.task.toList.map fun options => t.getRow Task.metadataColumns
      (options.getMetadata.getD ("Get" ++ d.name ++ "Metadata")))

def statements (d : TableDefinition) (t : Table) : List Statement :=
  d.insert.toList.map t.insertRow ++ d.updateStatements t ++ d.delete.toList.map t.deleteRow
    ++ d.selectStatements t

/-- The definitions of these statements, with a condition on the key. -/
def derivedSet (d : TableDefinition) (key : Condition) : StatementSet where
  inserts := d.insert.toList.map fun name =>
    { name := name, table := d.name, setColumns := d.columnNames }
  updates := (d.update.toList.map fun name =>
      { name := name, table := d.name, setColumns := d.plainColumns, condition := some key })
    ++ d.task.toList.map (d.updateMetadata · key)
  deletes := d.delete.toList.map fun name =>
    { name := name, table := d.name, condition := some key }
  selects := (d.get.toList.map fun name =>
      { name := name, fromTable := d.name, condition := some key, getColumns := [.all none] })
    ++ (d.task.toList.map d.listPending ++ d.task.toList.map (d.getMetadata · key))

section Derivation

variable {key : Condition}

theorem derivedGet_eq (hkey : d.keyCondition = .ok key) :
    d.derivedGet = .ok (d.get.toList.map fun name =>
      { name := name, fromTable := d.name, condition := some key, getColumns := [.all none] }) := by
  unfold derivedGet
  cases d.get with
  | none => rfl
  | some name => simp only [hkey]; rfl

theorem derivedDelete_eq (hkey : d.keyCondition = .ok key) :
    d.derivedDelete = .ok (d.delete.toList.map fun name =>
      { name := name, table := d.name, condition := some key }) := by
  unfold derivedDelete
  cases d.delete with
  | none => rfl
  | some name => simp only [hkey]; rfl

theorem derivedUpdate_eq_ok (hkey : d.keyCondition = .ok key) {updates : List UpdateDefinition} :
    d.derivedUpdate = .ok updates ↔ (d.update ≠ none → d.plainColumns ≠ []) ∧
      updates = d.update.toList.map fun name =>
        { name := name, table := d.name, setColumns := d.plainColumns, condition := some key } := by
  unfold derivedUpdate
  cases d.update with
  | none =>
    rw [Except.ok.injEq]
    constructor
    · rintro rfl
      exact ⟨fun h => absurd rfl h, rfl⟩
    · rintro ⟨-, rfl⟩
      rfl
  | some name =>
    simp only [hkey, bind_eq_ok, ensure_eq_ok, pure_eq_ok, Except.ok.injEq, exists_eq_left',
      Bool.not_eq_true', List.isEmpty_eq_false_iff]
    constructor
    · rintro ⟨-, hplain, rfl⟩
      exact ⟨fun _ => hplain, rfl⟩
    · rintro ⟨hplain, rfl⟩
      exact ⟨(), hplain (by simp), rfl⟩

theorem taskStatements_eq (hkey : d.keyCondition = .ok key) :
    d.taskStatements = .ok
      (d.task.toList.map d.listPending ++ d.task.toList.map (d.getMetadata · key),
        d.task.toList.map (d.updateMetadata · key)) := by
  unfold taskStatements
  cases d.task with
  | none => rfl
  | some options => simp only [hkey]; rfl

theorem derivedInsert_eq (d : TableDefinition) : d.derivedInsert = d.insert.toList.map fun name =>
    { name := name, table := d.name, setColumns := d.columnNames } := by
  unfold derivedInsert
  cases d.insert <;> rfl

/-- Where there is a key, only an update without columns to set stands in the way. -/
theorem derive_eq_ok (hkey : d.keyCondition = .ok key) {s : StatementSet} :
    d.derive = .ok s ↔ (d.update ≠ none → d.plainColumns ≠ []) ∧ s = d.derivedSet key := by
  simp only [derive, derivedGet_eq hkey, derivedDelete_eq hkey, taskStatements_eq hkey,
    derivedInsert_eq, bind_eq_ok, pure_eq_ok, derivedUpdate_eq_ok hkey, Except.ok.injEq,
    exists_eq_left', derivedSet]
  constructor
  · rintro ⟨_, ⟨hplain, rfl⟩, rfl⟩
    exact ⟨hplain, rfl⟩
  · rintro ⟨hplain, rfl⟩
    exact ⟨_, ⟨hplain, rfl⟩, rfl⟩

theorem derive_eq_error (hkey : d.keyCondition = .ok key) :
    (∃ e, d.derive = .error e) ↔ d.update ≠ none ∧ d.plainColumns = [] := by
  have hok : (∃ s, d.derive = .ok s) ↔ (d.update ≠ none → d.plainColumns ≠ []) := by
    simp [derive_eq_ok hkey]
  cases hderive : d.derive with
  | ok s =>
    have hplain := hok.mp ⟨s, hderive⟩
    simpa using hplain
  | error e =>
    rw [hderive] at hok
    simpa using hok

end Derivation

/-- What a definition describes is determined. -/
theorem Describes.unique (h : d.Describes catalog t) (h' : d.Describes catalog t') : t = t' := by
  have hcolumns : t.columns = t'.columns := by
    refine List.right_unique_forall₂' ?_ h.columns h'.columns
    rintro c ⟨_, _, _⟩ ⟨_, _, _⟩ ⟨rfl, htype, rfl⟩ ⟨rfl, htype', rfl⟩
    cases htype.unique htype'
    rfl
  cases t
  cases t'
  cases hcolumns
  obtain ⟨rfl, -, rfl, rfl, rfl, rfl, rfl, rfl⟩ := h
  obtain ⟨rfl, -, rfl, rfl, rfl, rfl, rfl, rfl⟩ := h'
  rfl

/-- The condition on the key compares the key columns one by one, as the key has them. -/
theorem exists_keyCondition (hd : d.Describes catalog t) (ht : t.Checked r) :
    ∃ key, d.keyCondition = .ok key ∧ t.KeyedBy key := by
  let leaf (k : KeyColumn) : Comparison := { op := "=", left := { name := k.name } }
  let draft (c : Column) : Draft := ⟨t.comparison .eq c, [t.comparand .eq c]⟩
  have hdrafts : List.Forall₂ (fun c d => c.draftWhere (Scope.single t.name t) = .ok d)
      (d.primaryKeys.map leaf) (t.keyColumns.map draft) := by
    have hfound := ht.keyColumns_found
    rw [hd.primaryKey, List.forall₂_map_left_iff] at hfound
    rw [List.forall₂_map_left_iff, List.forall₂_map_right_iff]
    exact hfound.imp fun k c hc => Comparison.draftWhere_column .eq rfl hc.1 hc.2
  have hconditions : (d.primaryKeys.map fun k => compared "=" k.name) =
      (d.primaryKeys.map leaf).map .leaf := List.map_map.symm
  have htexts : t.keyColumns.map (t.comparison .eq) = (t.keyColumns.map draft).map (·.sql) := by
    rw [List.map_map]
    rfl
  have hparams : t.keyParams = (t.keyColumns.map draft).flatMap (·.params) := by
    rw [List.flatMap_map, Table.keyParams, List.map_eq_flatMap]
  have hkey : d.primaryKeys.map leaf ≠ [] := by
    simpa [hd.primaryKey] using ht.hasKey
  unfold keyCondition Table.KeyedBy Table.keyText
  rw [hconditions, htexts, hparams]
  generalize d.primaryKeys.map leaf = cs at hdrafts hkey ⊢
  generalize t.keyColumns.map draft = ds at hdrafts ⊢
  -- a key of one column is compared without parentheses
  cases hdrafts with
  | nil => exact absurd rfl hkey
  | cons hfirst hrest =>
    cases hrest with
    | nil =>
      refine ⟨_, rfl, fun ps next hbinds => ?_⟩
      exact Condition.compile_leaf hfirst (by simpa using hbinds)
    | cons hsecond hrest =>
      refine ⟨_, rfl, fun ps next hbinds => ?_⟩
      have hparts := Condition.compileParts_leaves (.cons hfirst (.cons hsecond hrest)) hbinds
      simp only [Condition.compileWhere, Condition.compile, bind_eq_ok, pure_eq_ok]
      exact ⟨.and, rfl, (), rfl, _, hparts, rfl⟩

namespace Describes

theorem isPrimaryKey (h : d.Describes catalog t) (n : String) :
    t.isPrimaryKey n = d.primaryKeys.any (·.name = n) := by
  rw [Table.isPrimaryKey, h.primaryKey, List.any_map]
  rfl

theorem plainColumns (h : d.Describes catalog t) :
    t.plainColumns.map (·.name) = d.plainColumns := by
  rw [TableDefinition.plainColumns, TableDefinition.columnNames, ← h.columnNames, List.filter_map,
    Table.plainColumns]
  simp only [h.isPrimaryKey, Function.comp_def]

end Describes

theorem plainColumns_eq_nil (d : TableDefinition) :
    d.plainColumns = [] ↔ ∀ c ∈ d.columns, ∃ k ∈ d.primaryKeys, k.name = c.name := by
  simp [plainColumns, columnNames]

end TableDefinition

namespace Task

variable {catalog : Catalog} {r : Registry} {d a : TableDefinition} {t : Table}

/-- The key was there before the bookkeeping, and no reserved name was. -/
theorem keeps_of_declared {out : TableDdl × Registry}
    (hbase : r.declare catalog { d with task := none } = .ok out) (htask : d.task ≠ none)
    (haugment : d.augment = .ok a) (hdescribes : a.Describes catalog t) : Keeps d t := by
  obtain ⟨base, hbase, hchecked, -, -, -⟩ := Registry.declare_eq_ok.mp hbase
  have hbase := hbase.anyTask d.task
  rcases TableDefinition.augment_eq_ok.mp haugment with ⟨hnone, -⟩ | ⟨-, hfree, rfl⟩
  · exact absurd hnone htask
  rw [hdescribes.unique hbase.asTask]
  have hfree : ∀ c ∈ base.columns, c.name ∉ reserved := by
    intro c hc hreserved
    rw [← hbase.columnNames] at hfree
    exact hfree c.name hreserved (List.mem_map_of_mem hc)
  have hdeclared : declaredColumns (base.extend tableColumns [index d.name]) = base.columns := by
    have hnew : tableColumns.filter (fun c => !reserved.contains c.name) = [] := by decide
    rw [declaredColumns, Table.extend, List.filter_append, hnew, List.append_nil,
      List.filter_eq_self]
    simpa using hfree
  constructor
  case columns => rw [hdeclared]; rfl
  case declared => rw [hdeclared, hbase.columnNames]
  case hasDeclared => rw [hdeclared]; exact hchecked.hasColumns
  case keyless =>
    intro n hn
    rw [← Bool.not_eq_true, Table.isPrimaryKey, List.any_eq_true]
    rintro ⟨k, hk, hname⟩
    obtain ⟨c, hc, hcname, -⟩ := hchecked.keyColumns k hk
    rw [decide_eq_true_eq] at hname
    exact hfree c hc (hcname.trans hname ▸ hn)

end Task

/-- A table that was declared last is found under its name. -/
theorem Registry.table_last {r : Registry} {t : Table} (h : t.name ∉ r.names) :
    Registry.table ⟨r.tables ++ [t]⟩ t.name = .ok t := by
  have hnone : r.tables.find? (·.name = t.name) = none := Registry.find?_eq_none.mpr h
  rw [table, orError_eq_ok, find?, List.find?_append, hnone]
  simp

theorem Registry.compiles_map {α : Type} {r : Registry} {f : α → StatementDefinition}
    {g : α → Statement} {as : List α} (h : ∀ a ∈ as, (f a).compile r = .ok (g a)) :
    r.Compiles (as.map f) (as.map g) := by
  rw [Compiles, List.forall₂_map_left_iff, List.forall₂_map_right_iff, List.forall₂_same]
  exact h

theorem getD_ne_empty {o : Option String} {s : String} (ho : ∀ n ∈ o.toList, n ≠ "") (hs : s ≠ "") :
    o.getD s ≠ "" := by
  cases o with
  | none => exact hs
  | some n => exact ho n (by simp)

namespace TableDefinition

variable {catalog : Catalog} {r : Registry} {d base : TableDefinition} {t : Table} {key : Condition}

theorem forall_requestedNames {P : String → Prop} : (∀ n ∈ d.requestedNames, P n) ↔
    (∀ n ∈ d.insert.toList, P n) ∧ (∀ n ∈ d.get.toList, P n) ∧ (∀ n ∈ d.delete.toList, P n) ∧
      (∀ n ∈ d.update.toList, P n) ∧ ∀ options ∈ d.task.toList,
        (∀ n ∈ options.listPending.toList, P n) ∧ (∀ n ∈ options.getMetadata.toList, P n) ∧
          ∀ n ∈ options.updateMetadata.toList, P n := by
  simp only [requestedNames, List.forall_mem_append, List.forall_mem_flatMap, and_assoc]

theorem updates_compile (hd : d.Describes catalog t) (h : t.Addressed r key)
    (hkeeps : ∀ options ∈ d.task.toList, Task.Keeps base t)
    (hnamed : ∀ n ∈ d.requestedNames, n ≠ "")
    (hplain : d.update ≠ none → d.plainColumns ≠ []) :
    r.Compiles ((d.derivedSet key).updates.map .update) (d.updateStatements t) := by
  obtain ⟨-, -, -, hupdate, htask⟩ := forall_requestedNames.mp hnamed
  rw [← hd.plainColumns] at hplain
  simp only [derivedSet, updateStatements, updateMetadata, ← hd.name, ← hd.plainColumns,
    List.map_append, List.map_map]
  refine Registry.Compiles.append (Registry.compiles_map ?_) (Registry.compiles_map ?_)
  · intro name hname
    have hcols : t.plainColumns ≠ [] := by
      have hasked : d.update ≠ none := by
        rintro hnone
        simp [hnone] at hname
      simpa using hplain hasked
    have hkeyless : ∀ c ∈ t.plainColumns, t.isPrimaryKey c.name = false := by
      simp [Table.plainColumns]
    exact h.compile_update (hupdate name hname) hcols List.filter_sublist hkeyless
  · intro options hoptions
    have hkeeps := hkeeps options hoptions
    have hname := getD_ne_empty (s := "Update" ++ t.name ++ "Metadata")
      (htask options hoptions).2.2 (by simp)
    refine h.compile_update hname (by decide) hkeeps.metadataColumns_sublist ?_
    simp only [Task.metadataColumns, List.forall_mem_cons]
    exact ⟨hkeeps.keyless _ (by decide), hkeeps.keyless _ (by decide), by simp⟩

theorem listPending_eq (hd : d.Describes catalog t) (options : TaskOptions) :
    d.listPending options =
      { name := options.listPending.getD ("ListPending" ++ t.name), fromTable := t.name
        condition := some (.leaf { op := "<=", left := { name := Task.timeColumn.name } })
        orderBy := [.column Task.timeColumn.name none false], limit := true
        getColumns := (Task.declaredColumns t).map fun c => .column c.name none } := by
  have hnames : d.columnNames.filter (fun n => !Task.reserved.contains n) =
      (Task.declaredColumns t).map (·.name) := by
    rw [columnNames, ← hd.columnNames, List.filter_map]
    rfl
  rw [listPending, hnames, List.map_map, hd.name]
  rfl

theorem selects_compile (hd : d.Describes catalog t) (h : t.Addressed r key)
    (hkeeps : ∀ options ∈ d.task.toList, Task.Keeps base t)
    (hnamed : ∀ n ∈ d.requestedNames, n ≠ "") :
    r.Compiles ((d.derivedSet key).selects.map .select) (d.selectStatements t) := by
  obtain ⟨-, hget, -, -, htask⟩ := forall_requestedNames.mp hnamed
  obtain ⟨before, hchecked⟩ := h.checked
  simp only [derivedSet, selectStatements, getMetadata, ← hd.name, List.map_append, List.map_map]
  refine Registry.Compiles.append (Registry.compiles_map ?_)
    (Registry.Compiles.append (Registry.compiles_map ?_) (Registry.compiles_map ?_))
  · intro name hname
    exact h.compile_get (hget name hname) hchecked.hasColumns (List.Sublist.refl _) t.lists_all
  · intro options hoptions
    have hkeeps := hkeeps options hoptions
    have hname := getD_ne_empty (s := "ListPending" ++ t.name) (htask options hoptions).1 (by simp)
    have htime : Task.timeColumn ∈ t.columns := by
      rw [hkeeps.columns]
      exact List.mem_append_right _ (by decide)
    change (d.listPending options).compile r = _
    rw [listPending_eq hd]
    exact h.compile_list hname hkeeps.hasDeclared List.filter_sublist htime rfl
  · intro options hoptions
    have hname := getD_ne_empty (s := "Get" ++ t.name ++ "Metadata") (htask options hoptions).2.1
      (by simp)
    have hsub := (hkeeps options hoptions).metadataColumns_sublist
    exact h.compile_get hname (by decide) hsub (Table.lists_columns h.columnNames hsub.subset)

/-- All statements that a table asks for compile, each to the statement that was asked for. -/
theorem derivedSet_compiles (hd : d.Describes catalog t) (h : t.Addressed r key)
    (hkeeps : ∀ options ∈ d.task.toList, Task.Keeps base t)
    (hnamed : ∀ n ∈ d.requestedNames, n ≠ "")
    (hplain : d.update ≠ none → d.plainColumns ≠ []) :
    r.Compiles (d.derivedSet key).all (d.statements t) := by
  obtain ⟨hinsert, -, hdelete, -, -⟩ := forall_requestedNames.mp hnamed
  refine (Registry.Compiles.append (Registry.Compiles.append ?_
    (updates_compile hd h hkeeps hnamed hplain)) ?_).append (selects_compile hd h hkeeps hnamed)
  · simp only [derivedSet, columnNames, ← hd.columnNames, ← hd.name, List.map_map]
    apply Registry.compiles_map
    intro name hname
    exact h.compile_insert (hinsert name hname)
  · simp only [derivedSet, ← hd.name, List.map_map]
    apply Registry.compiles_map
    intro name hname
    exact h.compile_delete (hdelete name hname)

/-- Names that are told apart in the definition are so in its table. -/
theorem Describes.apart (hd : d.Describes catalog t)
    (hcamel : (d.columns.map fun c => Text.upperCamel c.name).Nodup)
    (hset : ∀ c ∈ d.columns, ∀ k ∈ d.primaryKeys,
      UpdateDefinition.setParam c.name ≠ generatedName d.name k.name "Eq") : t.Apart := by
  have hcamels : (t.columns.map fun c => Text.upperCamel c.name) =
      d.columns.map fun c => Text.upperCamel c.name := by
    have hnames := congrArg (List.map Text.upperCamel) hd.columnNames
    rwa [List.map_map, List.map_map] at hnames
  constructor
  · rw [hcamels]
    exact hcamel
  · intro col hcol k hk
    obtain ⟨c, hc, hcol⟩ := exists_mem_of_forall₂ hd.columns hcol
    rw [hd.primaryKey, List.mem_map] at hk
    obtain ⟨k, hk, rfl⟩ := hk
    rw [hcol.name, hd.name]
    exact hset c hc k hk

end TableDefinition

/-- Let a table be declared with the bookkeeping it asks for, where it could be declared without as
well, and let the names generated for its columns be told apart. The derivation of the statements
that it asks for fails exactly if an update is asked for and all columns are key columns. Otherwise
every statement compiles, to the one that was asked for: rows are inserted with all columns, and
read, updated and deleted by their key, each key column in the order of the key being compared once
with a parameter of its own; an update sets the columns outside of the key in their order; and due
tasks are listed with the columns that were declared. -/
theorem derived_statements_by_key (catalog : Catalog) (r next : Registry) (d a : TableDefinition)
    (ddl : TableDdl) (hbase : ∃ out, r.declare catalog { d with task := none } = .ok out)
    (haugment : d.augment = .ok a) (hdeclare : r.declare catalog a = .ok (ddl, next))
    (hnamed : ∀ n ∈ a.requestedNames, n ≠ "")
    (hcamel : (a.columns.map fun c => Text.upperCamel c.name).Nodup)
    (hset : ∀ c ∈ a.columns, ∀ k ∈ a.primaryKeys,
      "set" ++ Text.upperCamel c.name ≠ generatedName a.name k.name "Eq") :
    ((∃ e, a.derive = .error e) ↔
      a.update ≠ none ∧ ∀ c ∈ a.columns, ∃ k ∈ a.primaryKeys, k.name = c.name) ∧
    ∃ t, a.Describes catalog t ∧ next = ⟨r.tables ++ [t]⟩ ∧
      List.Forall₂ (fun k c => c ∈ t.columns ∧ c.name = k.name) a.primaryKeys t.keyColumns ∧
      (d.task ≠ none → (Task.declaredColumns t).map (·.name) = d.columns.map (·.name)) ∧
      ∀ s, a.derive = .ok s →
        List.Forall₂ (fun q st => q.compile next = .ok st) s.all (a.statements t) := by
  obtain ⟨t, hdescribes, hchecked, hfresh, -, rfl⟩ := Registry.declare_eq_ok.mp hdeclare
  obtain ⟨key, hkey, hkeyed⟩ := TableDefinition.exists_keyCondition hdescribes hchecked
  obtain ⟨out, hbase⟩ := hbase
  have hkeeps : d.task ≠ none → Task.Keeps d t := by
    intro htask
    exact Task.keeps_of_declared hbase htask haugment hdescribes
  have hkept : ∀ options ∈ a.task.toList, Task.Keeps d t := by
    intro options hoptions
    rw [TableDefinition.augment_task haugment] at hoptions
    exact hkeeps (by rintro hnone; simp [hnone] at hoptions)
  have haddressed : t.Addressed ⟨r.tables ++ [t]⟩ key :=
    ⟨⟨r, hchecked⟩, Registry.table_last hfresh, hdescribes.apart hcamel hset, hkeyed⟩
  have hkeys := hchecked.keyColumns_found
  rw [hdescribes.primaryKey, List.forall₂_map_left_iff] at hkeys
  refine ⟨?_, t, hdescribes, rfl, ?_, fun htask => (hkeeps htask).declared, ?_⟩
  · rw [TableDefinition.derive_eq_error hkey, TableDefinition.plainColumns_eq_nil]
  · exact hkeys.imp fun k c hc => (Table.column_eq_ok hchecked.columnNames).mp hc.1
  · intro s hs
    obtain ⟨hplain, rfl⟩ := (TableDefinition.derive_eq_ok hkey).mp hs
    exact TableDefinition.derivedSet_compiles hdescribes haddressed hkept hnamed hplain

namespace Sample

/-- A task table that is changed by a key of two columns, in another order than their own. -/
def jobs : TableDefinition where
  name := "jobs"
  columns := [⟨"id", "string", false, false, none, false⟩,
    ⟨"shard", "int64", false, true, none, false⟩, ⟨"labels", "string", true, true, none, false⟩,
    ⟨"changed", "timestamp", false, false, none, true⟩]
  primaryKeys := [.entry "shard" true, .bare "id"]
  update := some "changeJob"
  task := some { listPending := some "dueJobs" }

end Sample

/-- The update binds no parameter for the time of the commit, and the tasks that are due are listed
without their bookkeeping. -/
theorem derived_statements_by_key_jobs :
    ∃ (s : StatementSet) (next : Registry) (sts : List Statement),
      Sample.jobs.asTask.derive = .ok s ∧
      List.Forall₂ (fun q st => q.compile next = .ok st) s.all sts ∧
      sts.map (·.sql) = [
        "UPDATE jobs SET labels = @setLabels, changed = PENDING_COMMIT_TIMESTAMP(), " ++
          "retryCount = @setRetryCount, executionTime = @setExecutionTime, " ++
          "createdTime = @setCreatedTime WHERE (jobs.shard = @jobsShardEq AND jobs.id = @jobsIdEq)",
        "UPDATE jobs SET retryCount = @setRetryCount, executionTime = @setExecutionTime " ++
          "WHERE (jobs.shard = @jobsShardEq AND jobs.id = @jobsIdEq)",
        "SELECT jobs.id, jobs.shard, jobs.labels, jobs.changed FROM jobs WHERE " ++
          "jobs.executionTime <= @jobsExecutionTimeLe ORDER BY jobs.executionTime ASC LIMIT @limit",
        "SELECT jobs.retryCount, jobs.executionTime FROM jobs " ++
          "WHERE (jobs.shard = @jobsShardEq AND jobs.id = @jobsIdEq)"] ∧
      sts.map (fun st => st.params.map (·.name)) = [
        ["setLabels", "setRetryCount", "setExecutionTime", "setCreatedTime", "jobsShardEq",
          "jobsIdEq"],
        ["setRetryCount", "setExecutionTime", "jobsShardEq", "jobsIdEq"],
        ["jobsExecutionTimeLe", "limit"],
        ["jobsShardEq", "jobsIdEq"]] := by
  obtain ⟨-, t, -, hnext, -, -, hcompiles⟩ := derived_statements_by_key Sample.kinds
    Sample.usersFirst _ Sample.jobs Sample.jobs.asTask _ ⟨_, rfl⟩ rfl rfl (by decide)
    (by decide +kernel) (by decide +kernel)
  have ht := List.append_cancel_left (congrArg Registry.tables hnext)
  cases ht
  exact ⟨_, _, _, rfl, hcompiles _ rfl, by decide +kernel, by decide +kernel⟩

end SchemaLoom
