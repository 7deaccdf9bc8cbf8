import SchemaLoom.Proofs.Sql.ClauseRules
import SchemaLoom.Proofs.Sql.Insert

/-!
# Statements over one table by its primary key

Statements that address a row by its key, as they are written: the key column by column, each column
compared once with a parameter of its own. Definitions that ask for them compile to exactly these
statements, as long as the names generated for the columns of the table do not meet.
-/
namespace SchemaLoom
open Compiled

namespace Table

def keyColumns (t : Table) : List Column :=
  t.primaryKey.filterMap fun k => t.columns.find? (·.name = k.name)

def plainColumns (t : Table) : List Column := t.columns.filter fun c => !t.isPrimaryKey c.name

/-- The parameter that a column is compared with: one value of its type. -/
def comparand (t : Table) (op : Operator) (c : Column) : Param :=
  ⟨generatedName t.name c.name op.suffix, c.type.scalar⟩

def comparison (t : Table) (op : Operator) (c : Column) : String :=
  t.name ++ "." ++ c.name ++ " " ++ op.sql ++ " " ++ placeholder (t.comparand op c).name

def keyParams (t : Table) : List Param := t.keyColumns.map (t.comparand .eq)

/-- Every key column equals its parameter. -/
def keyText (t : Table) : String :=
  match t.keyColumns.map (t.comparison .eq) with
  | [text] => text
  | texts => "(" ++ " AND ".intercalate texts ++ ")"

def insertRow (t : Table) (name : String) : Statement where
  name := name
  kind := .insert
  sql := "INSERT " ++ t.name ++ " (" ++ ", ".intercalate (t.columns.map (·.name)) ++ ") VALUES ("
    ++ ", ".intercalate (t.columns.map fun c => (c.valueDraft c.name).sql) ++ ")"
  params := (t.columns.filter fun c => !c.allowCommitTimestamp).map fun c => ⟨c.name, c.type⟩

/-- The parameters of an assignment: one of its full type for every column that does not take the
time of the commit. -/
def assignedParams (cols : List Column) : List Param :=
  (cols.filter fun c => !c.allowCommitTimestamp).map fun c =>
    ⟨UpdateDefinition.setParam c.name, c.type⟩

/-- Some columns of the row with the given key are set. -/
def updateRow (t : Table) (cols : List Column) (name : String) : Statement where
  name := name
  kind := .update
  sql := "UPDATE " ++ t.name ++ " SET " ++ ", ".intercalate (cols.map fun c =>
    c.name ++ " = " ++ (c.valueDraft (UpdateDefinition.setParam c.name)).sql)
    ++ " WHERE " ++ t.keyText
  params := assignedParams cols ++ t.keyParams

def deleteRow (t : Table) (name : String) : Statement where
  name := name
  kind := .delete
  sql := "DELETE FROM " ++ t.name ++ " WHERE " ++ t.keyText
  params := t.keyParams

def fields (t : Table) (cols : List Column) : List OutputField :=
  cols.map fun c => ⟨generatedName t.name c.name "", c.type⟩

/-- The beginning of a select of some columns. -/
def selectList (t : Table) (cols : List Column) : String :=
  "SELECT " ++ ", ".intercalate (cols.map fun c => t.name ++ "." ++ c.name) ++ " FROM " ++ t.name

def getRow (t : Table) (cols : List Column) (name : String) : Statement where
  name := name
  kind := .select
  sql := t.selectList cols ++ " WHERE " ++ t.keyText
  params := t.keyParams
  outputs := t.fields cols

/-- Some columns of the rows up to a given value of the column `due` are read, the lowest first and
no more rows than asked for. -/
def listRows (t : Table) (due : Column) (cols : List Column) (name : String) : Statement where
  name := name
  kind := .select
  sql := t.selectList cols ++ " WHERE " ++ t.comparison .le due ++ " ORDER BY " ++ t.name ++ "."
    ++ due.name ++ " ASC LIMIT @limit"
  params := [t.comparand .le due, ⟨"limit", .ofPrimitive .int64⟩]
  outputs := t.fields cols

/-- The names generated for the columns are told apart: their spelling in `UpperCamel` differs, and
no parameter of an assignment is that of a key column. -/
structure Apart (t : Table) : Prop where
  columns : (t.columns.map fun c => Text.upperCamel c.name).Nodup
  assigned : ∀ c ∈ t.columns, ∀ k ∈ t.primaryKey,
    UpdateDefinition.setParam c.name ≠ generatedName t.name k.name "Eq"

section Names

variable {before : Registry} {t : Table} {cols : List Column}

theorem generatedName_inj {a n n' suffix : String}
    (h : generatedName a n suffix = generatedName a n' suffix) :
    Text.upperCamel n = Text.upperCamel n' := by
  rw [generatedName, generatedName, String.append_assoc, String.append_assoc] at h
  exact (String.append_left_inj suffix).mp ((String.append_right_inj (Text.lowerCamel a)).mp h)

theorem setParam_inj {n n' : String}
    (h : UpdateDefinition.setParam n = UpdateDefinition.setParam n') :
    Text.upperCamel n = Text.upperCamel n' :=
  (String.append_right_inj "set").mp h

theorem Apart.nodup_of_sublist (h : t.Apart) (hsub : cols.Sublist t.columns) : cols.Nodup :=
  (List.Nodup.of_map _ h.columns).sublist hsub

/-- Names from which the `UpperCamel` of a column can be read differ for different columns. -/
theorem Apart.nodup_map (h : t.Apart) (hsub : cols ⊆ t.columns) (hcols : cols.Nodup)
    {f : Column → String}
    (hf : ∀ c c', f c = f c' → Text.upperCamel c.name = Text.upperCamel c'.name) :
    (cols.map f).Nodup := by
  refine List.Nodup.map_on ?_ hcols
  intro c hc c' hc' heq
  exact List.inj_on_of_nodup_map h.columns (hsub hc) (hsub hc') (hf c c' heq)

theorem found_of_subset (ht : (t.columns.map (·.name)).Nodup) (hsub : cols ⊆ t.columns) :
    List.Forall₂ (fun n c => t.column n = .ok c) (cols.map (·.name)) cols := by
  rw [List.forall₂_map_left_iff, List.forall₂_same]
  intro c hc
  exact (column_eq_ok ht).mpr ⟨hsub hc, rfl⟩

/-- Every part of the key has its column, and that is no array. -/
theorem Checked.keyColumns_found (ht : t.Checked before) :
    List.Forall₂ (fun k c => t.column k.name = .ok c ∧ c.type.isArray = false) t.primaryKey
      t.keyColumns := by
  have hfound : ∀ k ∈ t.primaryKey, ∃ c, t.columns.find? (·.name = k.name) = some c := by
    intro k hk
    obtain ⟨c, hc, hname, -⟩ := ht.keyColumns k hk
    exact ⟨c, (find?_eq_some_of_nodup ht.columnNames).mpr ⟨hc, hname⟩⟩
  refine ((List.forall₂_and_left _ _).mpr ⟨ht.keyColumns, forall₂_filterMap hfound⟩).imp ?_
  rintro k c ⟨⟨c', hc', hname, hscalar⟩, hc⟩
  rw [(find?_eq_some_of_nodup ht.columnNames).mpr ⟨hc', hname⟩] at hc
  cases hc
  exact ⟨(column_eq_ok ht.columnNames).mpr ⟨hc', hname⟩, hscalar⟩

theorem Checked.keyColumns_names (ht : t.Checked before) :
    t.keyColumns.map (·.name) = t.primaryKey.map (·.name) :=
  names_of_found (List.forall₂_map_left_iff.mpr (ht.keyColumns_found.imp fun _ _ hc => hc.1))

theorem Checked.keyColumns_subset (ht : t.Checked before) : t.keyColumns ⊆ t.columns := by
  intro c hc
  obtain ⟨k, -, hk, -⟩ := exists_mem_of_forall₂ ht.keyColumns_found hc
  exact (column_ok hk).2

end Names
end Table

section Conditions

variable {t : Table} {ps next : Params}

theorem Scope.single_table (a : String) (t : Table) : (single a t).table none = .ok (a, t) := by
  simp [table, single, orError]

/-- A column compared with a parameter, over the table alone. -/
theorem Comparison.draftWhere_column (op : Operator) (hop : op.isComparison) {n : String}
    {c : Column} (hc : t.column n = .ok c) (hscalar : c.type.isArray = false) :
    draftWhere (Scope.single t.name t) { op := op.sql, left := { name := n } } =
      .ok ⟨t.comparison op c, [t.comparand op c]⟩ := by
  have hcol : (Scope.single t.name t).column { name := n } = .ok (t.name, c) := by
    simp only [Scope.column, bind_eq_ok, pure_eq_ok]
    exact ⟨_, Scope.single_table t.name t, c, hc, rfl⟩
  exact draftWhere_eq_ok.mpr (.order (Operator.parse_eq_ok.mpr rfl) rfl rfl hop hcol hscalar)

theorem Condition.compile_leaf {draft : Comparison → Compiled Draft} {c : Comparison} {d : Draft}
    (hd : draft c = .ok d) (hbind : ps.bindAll d.params = .ok next) :
    (Condition.leaf c).compile draft ps = .ok (d.sql, next) := by
  simp only [compile, within_eq_ok, bind_eq_ok]
  exact ⟨d, hd, Params.take_eq_ok.mpr ⟨rfl, hbind⟩⟩

/-- Comparisons side by side are drafted one by one and bound in order. -/
theorem Condition.compileParts_leaves {draft : Comparison → Compiled Draft} {cs : List Comparison}
    {ds : List Draft} (hdrafts : List.Forall₂ (fun c d => draft c = .ok d) cs ds)
    (hbinds : ps.bindAll (ds.flatMap (·.params)) = .ok next) :
    compileParts draft (cs.map .leaf) ps = .ok (ds.map (·.sql), next) := by
  induction hdrafts generalizing ps with
  | nil =>
    cases hbinds
    rfl
  | @cons c d cs ds hd _ ih =>
    obtain ⟨mid, hbind, hbinds⟩ := Params.bindAll_append.mp hbinds
    simp only [List.map_cons, compileParts, bind_eq_ok, pure_eq_ok, Prod.exists]
    exact ⟨_, _, compile_leaf hd hbind, _, _, ih hbinds, rfl⟩

/-- An order by one column of the table alone needs no parameters. -/
theorem OrderBy.compileAll_column {n : String} {c : Column} (hc : t.column n = .ok c)
    (hscalar : c.type.isArray = false) (desc : Bool) (ps : Params) :
    compileAll (Scope.single t.name t) [.column n none desc] ps =
      .ok ([t.name ++ "." ++ c.name ++ " " ++ Ddl.direction desc], ps) := by
  have hdraft : (OrderBy.column n none desc).draft (Scope.single t.name t) =
      .ok { sql := t.name ++ "." ++ c.name ++ " " ++ Ddl.direction desc } := by
    simp only [draft, bind_eq_ok, ensure_eq_ok, pure_eq_ok]
    exact ⟨_, Scope.single_table t.name t, c, hc, (), by simp [hscalar], rfl⟩
  simp only [compileAll, bind_eq_ok, pure_eq_ok, Prod.exists]
  exact ⟨_, hdraft, _, _, rfl, _, _, rfl, rfl⟩

end Conditions

namespace Table

/-- The condition is compiled to the comparisons of the key, whatever was bound before. -/
def KeyedBy (t : Table) (key : Condition) : Prop :=
  ∀ ps next, ps.bindAll t.keyParams = .ok next →
    key.compileWhere (Scope.single t.name t) ps = .ok (t.keyText, next)

/-- The table can be found, and its rows can be addressed by the condition. -/
structure Addressed (r : Registry) (t : Table) (key : Condition) : Prop where
  checked : ∃ before, t.Checked before
  found : r.table t.name = .ok t
  apart : t.Apart
  keyed : t.KeyedBy key

namespace Addressed

variable {r : Registry} {t : Table} {key : Condition} {cols : List Column} {name : String}
  {gs : List GetColumn}

theorem columnNames (h : t.Addressed r key) : (t.columns.map (·.name)).Nodup := by
  obtain ⟨before, ht⟩ := h.checked
  exact ht.columnNames

theorem named (h : t.Addressed r key) : t.name ≠ "" := by
  obtain ⟨before, ht⟩ := h.checked
  exact ht.named

/-- The parameters of the key are bound behind any parameters of other names. -/
theorem bindAll_keyParams (h : t.Addressed r key) (ps : Params)
    (hps : ∀ k ∈ t.primaryKey, generatedName t.name k.name "Eq" ∉ ps.names) :
    ps.bindAll t.keyParams = .ok ⟨ps.bound ++ t.keyParams⟩ := by
  obtain ⟨before, ht⟩ := h.checked
  have hkey : t.keyColumns.Nodup := by
    refine List.Nodup.of_map (·.name) ?_
    rw [ht.keyColumns_names]
    exact ht.keyNames
  apply Params.bindAll_of_fresh
  · unfold keyParams
    rw [List.map_map]
    refine ⟨h.apart.nodup_map ht.keyColumns_subset hkey fun c c' => generatedName_inj, ?_⟩
    rw [List.forall_mem_map]
    intro c hc
    obtain ⟨k, hk, hfound, -⟩ := exists_mem_of_forall₂ ht.keyColumns_found hc
    change generatedName t.name c.name "Eq" ∉ ps.names
    rw [(column_ok hfound).1]
    exact hps k hk
  · unfold keyParams
    rw [List.forall_mem_map]
    intro c _
    exact generatedName_ne_empty (by decide)

theorem compile_insert (h : t.Addressed r key) (hname : name ≠ "") :
    InsertDefinition.compile r
      { name := name, table := t.name, setColumns := t.columns.map (·.name) } =
        .ok (t.insertRow name) := by
  obtain ⟨before, ht⟩ := h.checked
  have hfound := found_of_subset ht.columnNames (List.Subset.refl t.columns)
  have hset : settableColumns t [] (t.columns.map (·.name)) = .ok t.columns :=
    settableColumns_eq_ok.mpr ⟨_, rfl, hfound, fresh_of_nothing.mpr ht.columnNames⟩
  refine InsertDefinition.compile_eq_ok.mpr ⟨hname, ht.named, ?_, t, "INSERT", t.columns, _,
    h.found, rfl, hset, InsertDefinition.bindAll_values ht hfound ht.columnNames, rfl⟩
  simpa using ht.hasColumns

theorem bindAll_assigned (h : t.Addressed r key) (hsub : cols.Sublist t.columns) :
    Params.empty.bindAll
      (cols.flatMap fun c => (c.valueDraft (UpdateDefinition.setParam c.name)).params) =
        .ok ⟨assignedParams cols⟩ := by
  have hset : (cols.filter fun c => !c.allowCommitTimestamp).Sublist t.columns :=
    List.filter_sublist.trans hsub
  rw [values_params fun c => UpdateDefinition.setParam c.name]
  apply Params.bindAll_of_fresh
  · rw [Params.names_empty, fresh_of_nothing, List.map_map]
    exact h.apart.nodup_map hset.subset (h.apart.nodup_of_sublist hset) fun c c' => setParam_inj
  · rw [List.forall_mem_map]
    intro c _
    simp [UpdateDefinition.setParam]

/-- The columns set are none of the key, so their parameters meet neither each other nor those of
the key. -/
theorem compile_update (h : t.Addressed r key) (hname : name ≠ "") (hcols : cols ≠ [])
    (hsub : cols.Sublist t.columns) (hplain : ∀ c ∈ cols, t.isPrimaryKey c.name = false) :
    UpdateDefinition.compile r
      { name := name, table := t.name, setColumns := cols.map (·.name)
        condition := some key } = .ok (t.updateRow cols name) := by
  have hnodup : (cols.map (·.name)).Nodup := h.columnNames.sublist (hsub.map _)
  have hset : settableColumns t [] (cols.map (·.name)) = .ok cols :=
    settableColumns_eq_ok.mpr
      ⟨_, rfl, found_of_subset h.columnNames hsub.subset, fresh_of_nothing.mpr hnodup⟩
  have hkey : (⟨assignedParams cols⟩ : Params).bindAll t.keyParams =
      .ok ⟨assignedParams cols ++ t.keyParams⟩ := by
    apply h.bindAll_keyParams
    intro k hk hmem
    simp only [Params.names, assignedParams, List.map_map, List.mem_map] at hmem
    obtain ⟨c, hc, heq⟩ := hmem
    exact h.apart.assigned c (hsub.subset (List.mem_of_mem_filter hc)) k hk heq
  exact UpdateDefinition.compile_eq_ok.mpr ⟨hname, h.named, by simpa using hcols, key, t, cols, _,
    _, _, _, rfl, h.found, hset,
    UpdateDefinition.assignments_eq_ok.mpr ⟨hplain, h.bindAll_assigned hsub, rfl⟩,
    h.keyed _ _ hkey, rfl⟩

theorem compile_delete (h : t.Addressed r key) (hname : name ≠ "") :
    DeleteDefinition.compile r { name := name, table := t.name, condition := some key } =
      .ok (t.deleteRow name) :=
  DeleteDefinition.compile_eq_ok.mpr ⟨hname, h.named, key, t, _, _, rfl, h.found,
    h.keyed _ _ (h.bindAll_keyParams .empty (by simp)), rfl⟩

end Addressed

/-- Entries of a select list that stand for columns of the table and need no parameters. -/
def Lists (t : Table) (gs : List GetColumn) (cols : List Column) : Prop :=
  ∃ es, List.Forall₂ (fun g e => g.expand (Scope.single t.name t) [] = .ok e) gs es ∧
    es.flatMap (·.items) = cols.map (.ofColumn [] t.name) ∧ es.flatMap (·.params) = []

theorem lists_all (t : Table) : t.Lists [.all none] t.columns := by
  refine ⟨[{ items := t.columns.map (.ofColumn [] t.name) }], .cons ?_ .nil, ?_, rfl⟩
  · simp only [GetColumn.expand, bind_eq_ok, pure_eq_ok]
    exact ⟨_, Scope.single_table t.name t, rfl⟩
  · simp

theorem lists_columns {t : Table} {cols : List Column} (ht : (t.columns.map (·.name)).Nodup)
    (hsub : cols ⊆ t.columns) : t.Lists (cols.map fun c => .column c.name none) cols := by
  refine ⟨cols.map fun c => { items := [.ofColumn [] t.name c] }, ?_, ?_, ?_⟩
  · rw [List.forall₂_map_left_iff, List.forall₂_map_right_iff, List.forall₂_same]
    intro c hc
    simp only [GetColumn.expand, bind_eq_ok, pure_eq_ok]
    exact ⟨_, Scope.single_table t.name t, c, (column_eq_ok ht).mpr ⟨hsub hc, rfl⟩, rfl⟩
  · rw [List.flatMap_map, List.map_eq_flatMap]
  · simp [List.flatMap_map]

namespace Addressed

variable {r : Registry} {t : Table} {key : Condition} {cols : List Column} {name : String}
  {gs : List GetColumn}

/-- The fields of different columns differ, so that the select list is complete. -/
theorem selectItems (h : t.Addressed r key) (hgs : t.Lists gs cols)
    (hsub : cols.Sublist t.columns) (ps : Params) :
    selectItems (Scope.single t.name t) [] [] gs ps = .ok (cols.map (.ofColumn [] t.name), ps) := by
  obtain ⟨es, hes, hitems, hparams⟩ := hgs
  refine selectItems_eq_ok.mpr ⟨es, hes, ?_, by rw [hitems, List.nil_append], by rw [hparams]; rfl⟩
  rw [hitems, List.map_nil, fresh_of_nothing, List.map_map]
  exact h.apart.nodup_map hsub.subset (h.apart.nodup_of_sublist hsub) fun c c' => generatedName_inj

/-- A select from the table alone is its list followed by the clauses one by one. -/
theorem compile_select (h : t.Addressed r key) (hname : name ≠ "") (hcols : cols ≠ [])
    (hsub : cols.Sublist t.columns) (hgs : t.Lists gs cols) {condition : Condition}
    {orderBy : List OrderBy} {limit : Bool} {text paging : String} {order : List String}
    {ps bound : Params}
    (hwhere : condition.compileWhere (Scope.single t.name t) .empty = .ok (text, ps))
    (horder : OrderBy.compileAll (Scope.single t.name t) orderBy ps = .ok (order, ps))
    (hlimit : ps.take (pagingDraft limit "LIMIT" "limit") = .ok (paging, bound)) :
    SelectDefinition.compile r
      { name := name, fromTable := t.name, condition := some condition, orderBy := orderBy
        limit := limit, getColumns := gs } =
      .ok { name := name, kind := .select
            sql := t.selectList cols ++ " WHERE " ++ text ++ SelectDefinition.orderClause order
              ++ paging
            params := bound.bound
            outputs := t.fields cols } := by
  have hgiven : gs ≠ [] := by
    rintro rfl
    obtain ⟨es, hes, hitems, -⟩ := hgs
    cases hes
    exact hcols (List.map_eq_nil_iff.mp hitems.symm)
  have hfilter : SelectDefinition.whereClause (Scope.single t.name t) (some condition) .empty =
      .ok (" WHERE " ++ text, ps) := by
    simp only [SelectDefinition.whereClause, bind_eq_ok, within_eq_ok, pure_eq_ok]
    exact ⟨_, hwhere, rfl⟩
  refine SelectRun.compile_eq_ok.mpr ⟨hname, h.named, hgiven, by simp, {
    table := t, source := FromClause.start t t.name, filter := " WHERE " ++ text, filtered := ps
    items := cols.map (.ofColumn [] t.name), selected := ps, order := order, ordered := ps
    limit := paging, limited := bound, offset := "", bound := bound
    found := h.found, joined := rfl, filters := hfilter, selects := h.selectItems hgs hsub ps
    orders := horder, limits := hlimit, offsets := rfl }, ?_⟩
  have htexts : (cols.map (SelectItem.ofColumn [] t.name)).map (·.sql) =
      cols.map fun c => t.name ++ "." ++ c.name := List.map_map
  have hfields : (cols.map (SelectItem.ofColumn [] t.name)).map (·.field) = t.fields cols :=
    List.map_map
  simp only [SelectRun.statement, htexts, hfields, FromClause.start, FromClause.source, if_true,
    selectList, String.append_assoc, String.append_empty]

theorem compile_get (h : t.Addressed r key) (hname : name ≠ "") (hcols : cols ≠ [])
    (hsub : cols.Sublist t.columns) (hgs : t.Lists gs cols) :
    SelectDefinition.compile r
      { name := name, fromTable := t.name, condition := some key, getColumns := gs } =
      .ok (t.getRow cols name) := by
  have hkey := h.keyed _ _ (h.bindAll_keyParams .empty (by simp))
  rw [h.compile_select hname hcols hsub hgs hkey rfl rfl, getRow]
  simp [SelectDefinition.orderClause, pagingDraft, Params.empty]

theorem generatedName_le_ne_limit (a n : String) : generatedName a n "Le" ≠ "limit" := by
  intro h
  have hlast := congrArg (fun s : String => s.toList.getLast?) h
  simp [generatedName] at hlast

theorem compile_list (h : t.Addressed r key) (hname : name ≠ "") (hcols : cols ≠ [])
    (hsub : cols.Sublist t.columns) {due : Column} (hdue : due ∈ t.columns)
    (hscalar : due.type.isArray = false) :
    SelectDefinition.compile r
      { name := name, fromTable := t.name
        condition := some (.leaf { op := "<=", left := { name := due.name } })
        orderBy := [.column due.name none false], limit := true
        getColumns := cols.map fun c => .column c.name none } =
      .ok (t.listRows due cols name) := by
  have hfound := (column_eq_ok h.columnNames).mpr ⟨hdue, rfl⟩
  have hbind : Params.empty.bindAll [t.comparand .le due] = .ok ⟨[t.comparand .le due]⟩ := by
    refine Params.bindAll_of_fresh (by simp [Fresh]) ?_
    rw [List.forall_mem_singleton]
    exact generatedName_ne_empty (by decide)
  have hwhere : Condition.compileWhere (Scope.single t.name t)
      (.leaf { op := "<=", left := { name := due.name } }) .empty =
        .ok (t.comparison .le due, ⟨[t.comparand .le due]⟩) :=
    Condition.compile_leaf (Comparison.draftWhere_column .le rfl hfound hscalar) hbind
  have hlimit : (⟨[t.comparand .le due]⟩ : Params).take (pagingDraft true "LIMIT" "limit") =
      .ok (" LIMIT @limit", ⟨[t.comparand .le due, ⟨"limit", .ofPrimitive .int64⟩]⟩) := by
    refine Params.take_eq_ok.mpr ⟨by decide, Params.bindAll_of_fresh ?_ (by simp [pagingDraft])⟩
    have hapart : "limit" ≠ (t.comparand .le due).name := (generatedName_le_ne_limit _ _).symm
    simpa [Fresh, pagingDraft, Params.names] using hapart
  rw [h.compile_select hname hcols hsub (lists_columns h.columnNames hsub.subset) hwhere
    (OrderBy.compileAll_column hfound hscalar false _) hlimit, listRows]
  simp [SelectDefinition.orderClause, Ddl.direction, String.append_assoc]

end Addressed
end Table
end SchemaLoom
