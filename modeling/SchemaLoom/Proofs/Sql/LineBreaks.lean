import SchemaLoom.Proofs.Sql.Nesting
import SchemaLoom.Proofs.Sql.Nullability
import SchemaLoom.Proofs.Text.Lines

/-!
# Line breaks in SQL

Names are written into SQL as they are, and nothing else in it has a line break. So the text of a
compiled statement is on one line exactly if its tables, aliases, columns and parameters are. All
aliases are written in the FROM clause, so that a clause that uses one adds no line break by it.
-/
namespace SchemaLoom
open Compiled Text

@[simp] theorem oneLine_placeholder {n : String} : OneLine (placeholder n) ↔ OneLine n := by
  simp +decide [placeholder]

@[simp] theorem oneLine_operator (op : Operator) : OneLine op.sql := by
  cases op <;> decide

@[simp] theorem oneLine_direction (desc : Bool) : OneLine (Ddl.direction desc) := by
  cases desc <;> decide

/-- The text is on one line exactly if the names in it and the parameters bound in it are. -/
def BreaksWith (names : List String) (sites : List Site) (text : String) : Prop :=
  OneLine text ↔ (∀ n ∈ names, OneLine n) ∧ ∀ s ∈ sites, OneLine s.name

/-- The second text may be read under the assumption that the names of the first have no breaks. -/
theorem BreaksWith.append {names names' : List String} {sites sites' : List Site}
    {text text' : String} (h : BreaksWith names sites text)
    (h' : (∀ n ∈ names, OneLine n) → BreaksWith names' sites' text') :
    BreaksWith (names ++ names') (sites ++ sites') (text ++ text') := by
  unfold BreaksWith at h h' ⊢
  rw [oneLine_append, h, List.forall_mem_append, List.forall_mem_append]
  constructor
  · rintro ⟨⟨hnames, hsites⟩, htext⟩
    obtain ⟨hnames', hsites'⟩ := (h' hnames).mp htext
    exact ⟨⟨hnames, hnames'⟩, hsites, hsites'⟩
  · rintro ⟨⟨hnames, hnames'⟩, hsites, hsites'⟩
    exact ⟨⟨hnames, hsites⟩, (h' hnames).mpr ⟨hnames', hsites'⟩⟩

theorem BreaksWith.after {names : List String} {sites : List Site} {text before : String}
    (h : BreaksWith names sites text) (hbefore : OneLine before) :
    BreaksWith names sites (before ++ text) := by
  unfold BreaksWith at h ⊢
  rw [oneLine_append, h, and_iff_right hbefore]

theorem BreaksWith.intercalate {α : Type} {names : α → List String} {sites : α → List Site}
    {sep : String} (hsep : OneLine sep) {as : List α} {texts : List String}
    (h : List.Forall₂ (fun a text => BreaksWith (names a) (sites a) text) as texts) :
    BreaksWith (as.flatMap names) (as.flatMap sites) (sep.intercalate texts) := by
  have htexts := forall_mem_iff_of_forall₂ h fun a text ha => ha.symm
  unfold BreaksWith
  rw [oneLine_intercalate hsep, ← htexts, List.forall_mem_flatMap, List.forall_mem_flatMap,
    ← forall₂_and]

theorem oneLine_params_iff {ps : List Param} {sites : List Site}
    (h : ps.map (·.name) = Site.names sites) :
    (∀ p ∈ ps, OneLine p.name) ↔ ∀ s ∈ sites, OneLine s.name := by
  calc
    (∀ p ∈ ps, OneLine p.name) ↔ ∀ n ∈ ps.map (·.name), OneLine n := List.forall_mem_map.symm
    _ ↔ ∀ n ∈ Site.names sites, OneLine n := by rw [h]
    _ ↔ ∀ s ∈ sites, OneLine s.name := List.forall_mem_map

/-- The aliases in scope are on one line. -/
def Scope.Unbroken (scope : Scope) : Prop := ∀ a ∈ scope.aliases, OneLine a

namespace Scope.Unbroken

variable {scope : Scope} {ref : ColumnRef} {a : String}

theorem table (h : scope.Unbroken) {o : Option String} {t : Table}
    (ht : scope.table o = .ok (a, t)) : OneLine a :=
  h a (List.mem_map.mpr ⟨_, List.mem_of_find?_eq_some (table_ok ht).2, rfl⟩)

theorem column (h : scope.Unbroken) {c : Column} (hc : scope.column ref = .ok (a, c)) :
    OneLine a ∧ c.name = ref.name := by
  refine ⟨?_, (column_ok hc).2⟩
  simp only [Scope.column, bind_eq_ok, pure_eq_ok, Prod.exists, Prod.mk.injEq] at hc
  obtain ⟨_, t, ht, _, -, rfl, -⟩ := hc
  exact h.table ht

theorem searchColumn (h : scope.Unbroken) {c : SearchColumnDefinition}
    (hc : scope.searchColumn ref = .ok (a, c)) : OneLine a ∧ c.name = ref.name := by
  refine ⟨?_, (searchColumn_ok hc).2⟩
  simp only [Scope.searchColumn, bind_eq_ok, pure_eq_ok, Prod.exists, Prod.mk.injEq] at hc
  obtain ⟨_, t, ht, _, -, rfl, -⟩ := hc
  exact h.table ht

end Scope.Unbroken

/-! ## Conditions -/

theorem SqlFunction.oneLine_call (f : SqlFunction) {a c : String} (ha : OneLine a) :
    OneLine (f.call a c).sql ↔ OneLine c ∧ ∀ p ∈ (f.call a c).params, OneLine p.name := by
  cases f
  simp +decide [call, ha]

namespace Comparison

def columns (c : Comparison) : List String := c.left.name :: c.right.toList.map (·.name)

variable {scope : Scope} {c : Comparison} {d : Draft}

theorem WhereDraft.oneLine_iff (h : WhereDraft scope c d) (hscope : scope.Unbroken) :
    OneLine d.sql ↔ (∀ n ∈ c.columns, OneLine n) ∧ ∀ p ∈ d.params, OneLine p.name := by
  cases h with
  | @call op _ f _ _ _ hright _ _ _ hs =>
    obtain ⟨ha, hname⟩ := hscope.searchColumn hs
    simp +decide [columns, hright, hname, f.oneLine_call ha, and_assoc, or_imp, forall_and]
  | search _ hright _ hs =>
    obtain ⟨ha, hname⟩ := hscope.searchColumn hs
    simp +decide [columns, hright, hname, ha]
  | null _ hright _ _ hcol _ =>
    obtain ⟨ha, hname⟩ := hscope.column hcol
    simp +decide [columns, hright, hname, ha]
  | membership _ hright _ hcol _ =>
    obtain ⟨ha, hname⟩ := hscope.column hcol
    simp +decide [columns, hright, hname, ha]
  | order _ hright _ _ hcol _ =>
    obtain ⟨ha, hname⟩ := hscope.column hcol
    simp +decide [columns, hright, hname, ha]

theorem OnDraft.oneLine_iff (h : OnDraft scope c d) (hscope : scope.Unbroken) :
    OneLine d.sql ↔ (∀ n ∈ c.columns, OneLine n) ∧ ∀ p ∈ d.params, OneLine p.name := by
  cases h with
  | pair _ _ _ hright hleft _ href _ _ =>
    obtain ⟨ha, hname⟩ := hscope.column hleft
    obtain ⟨hb, hother⟩ := hscope.column href
    simp +decide [columns, hright, hname, hother, ha, hb]
  | value _ _ _ hright hleft _ =>
    obtain ⟨ha, hname⟩ := hscope.column hleft
    simp +decide [columns, hright, hname, ha]

end Comparison

namespace Condition

def columns (c : Condition) : List String := c.leaves.flatMap Comparison.columns

variable {draft : Comparison → Compiled Draft} {c : Condition} {scope : Scope} {ps next : Params}
  {text : String}

/-- The connectives and the parentheses have no line break. -/
theorem Written.oneLine_iff (h : Written draft c text) :
    OneLine text ↔ ∀ l ∈ c.leaves, ∀ d, draft l = .ok d → OneLine d.sql := by
  induction c using inductionOn generalizing text with
  | leaf c =>
    cases h with
    | leaf hd => simp [leaves, hd]
  | concat op parts ih =>
    cases h with
    | @concat _ k _ texts _ _ hparts =>
      have hseparator : OneLine k.separator := by cases k <;> decide
      have htexts := forall_mem_iff_of_forall₂ ((List.forall₂_and_left _ _).mpr ⟨ih, hparts⟩)
        fun p t hpt => (hpt.1 hpt.2).symm
      simp +decide only [oneLine_append, oneLine_intercalate hseparator, ← htexts, leaves,
        mem_leavesOf, true_and, and_true, forall_exists_index, and_imp]
      exact ⟨fun h l p hp hl => h p hp l hl, fun h p hp l hl => h l p hp hl⟩

/-- A condition breaks with the comparisons in it, if each of them does. -/
theorem compile_breaks (h : c.compile draft ps = .ok (text, next))
    {sites : Comparison → List Site}
    (hd : ∀ l d, draft l = .ok d → BreaksWith l.columns (sites l) d.sql) :
    BreaksWith c.columns (c.leaves.flatMap sites) text := by
  obtain ⟨ds, hds⟩ := compile_drafted c h
  have hleaves : ∀ l ∈ c.leaves, (∀ d, draft l = .ok d → OneLine d.sql) ↔
      (∀ n ∈ l.columns, OneLine n) ∧ ∀ s ∈ sites l, OneLine s.name := by
    intro l hl
    obtain ⟨d, hl⟩ := exists_of_forall₂ hds.drafts hl
    simpa [hl, BreaksWith] using hd l d hl
  unfold BreaksWith
  rw [(compile_written c h).oneLine_iff, columns, List.forall_mem_flatMap, List.forall_mem_flatMap,
    forall₂_congr hleaves, ← forall₂_and]

theorem compileWhere_breaks (h : c.compileWhere scope ps = .ok (text, next))
    (hscope : scope.Unbroken) :
    BreaksWith c.columns (c.whereSites scope.defaultAlias) text := by
  refine compile_breaks h fun l d hd => ?_
  have hdraft := Comparison.draftWhere_eq_ok.mp hd
  rw [BreaksWith, hdraft.oneLine_iff hscope, oneLine_params_iff hdraft.names]

theorem compileOn_breaks (h : c.compileOn scope ps = .ok (text, next))
    (hscope : scope.Unbroken) : BreaksWith c.columns (c.onSites scope.defaultAlias) text := by
  refine compile_breaks h fun l d hd => ?_
  have hdraft := Comparison.draftOn_eq_ok.mp hd
  rw [BreaksWith, hdraft.oneLine_iff hscope, oneLine_params_iff hdraft.names]

end Condition

/-! ## Inserts, updates and deletes -/

theorem Scope.unbroken_single {a : String} {t : Table} :
    (Scope.single a t).Unbroken ↔ OneLine a := by
  simp [Unbroken, Scope.single, Scope.aliases]

theorem Column.oneLine_valueDraft (c : Column) (param : String) :
    OneLine (c.valueDraft param).sql ↔ ∀ p ∈ (c.valueDraft param).params, OneLine p.name := by
  unfold valueDraft
  split
  · simp +decide
  · simp

/-- The values that columns are set to break with the parameters among them. -/
theorem oneLine_values_iff {r : Registry} {table : String} {t : Table} {names : List String}
    {cols : List Column} (f : String → Site) (ht : r.find? table = some t)
    (h : List.Forall₂ (fun n c => t.column n = .ok c) names cols) :
    (∀ c ∈ cols, OneLine (c.valueDraft (f c.name).name).sql) ↔
      ∀ s ∈ (r.valueColumns table names).map f, OneLine s.name := by
  rw [← oneLine_params_iff (values_names f ht h), List.forall_mem_flatMap]
  exact forall₂_congr fun c _ => c.oneLine_valueDraft _

namespace InsertDefinition

def written (d : InsertDefinition) : List String := d.table :: d.setColumns

theorem oneLine_verb {d : InsertDefinition} {verb : String} (h : d.verb = .ok verb) :
    OneLine verb := by
  unfold InsertDefinition.verb at h
  split at h
  · obtain ⟨mode, -, rfl⟩ := map_eq_ok.mp h
    cases mode <;> decide
  · cases h
    decide

theorem breaks {r : Registry} {d : InsertDefinition} {s : Statement} (h : d.compile r = .ok s) :
    BreaksWith d.written (d.sites r) s.sql := by
  obtain ⟨-, -, -, t, verb, cols, ps, ht, hverb, hcols, -, rfl⟩ := compile_eq_ok.mp h
  obtain ⟨hfind, htname⟩ := Registry.table_ok ht
  have hvalues := oneLine_values_iff .given hfind (settableColumns_ok hcols).1
  have hcomma : OneLine ", " := by decide
  unfold BreaksWith written sites
  rw [← hvalues]
  simp +decide [oneLine_verb hverb, htname, oneLine_intercalate hcomma, and_assoc, Site.name]

end InsertDefinition

/-- The condition of an update or a delete sees one table under its own name. -/
theorem tableWhere_breaks {t : Table} {table : String} (hname : t.name = table) {c : Condition}
    {ps next : Params} {text : String}
    (h : c.compileWhere (Scope.single t.name t) ps = .ok (text, next)) (htable : OneLine table) :
    BreaksWith c.columns (c.whereSites table) (" WHERE " ++ text) := by
  subst hname
  exact (Condition.compileWhere_breaks h (Scope.unbroken_single.mpr htable)).after (by decide)

namespace UpdateDefinition

def written (d : UpdateDefinition) : List String :=
  d.table :: d.setColumns ++ d.condition.toList.flatMap Condition.columns

theorem breaks {r : Registry} {d : UpdateDefinition} {s : Statement} (h : d.compile r = .ok s) :
    BreaksWith d.written (d.sites r) s.sql := by
  obtain ⟨-, -, -, c, t, cols, sets, set, text, ps, hc, ht, hcols, hsets, hps, rfl⟩ :=
    compile_eq_ok.mp h
  obtain ⟨hfind, htname⟩ := Registry.table_ok ht
  obtain ⟨hfound, -⟩ := settableColumns_ok hcols
  obtain ⟨-, -, rfl⟩ := assignments_eq_ok.mp hsets
  have hvalues := oneLine_values_iff .assigned hfind hfound
  have hcomma : OneLine ", " := by decide
  have hset : BreaksWith (d.table :: d.setColumns)
      ((r.valueColumns d.table d.setColumns).map .assigned)
      ("UPDATE " ++ t.name ++ " SET " ++ ", ".intercalate
        (cols.map fun c => c.name ++ " = " ++ (c.valueDraft (setParam c.name)).sql)) := by
    unfold BreaksWith
    rw [← hvalues, ← names_of_found hfound]
    simp +decide [htname, oneLine_intercalate hcomma, forall_and, and_assoc, Site.name]
  have hall := hset.append fun hnames =>
    tableWhere_breaks htname hps (hnames d.table List.mem_cons_self)
  simpa [written, sites, hc, String.append_assoc] using hall

end UpdateDefinition

namespace DeleteDefinition

def written (d : DeleteDefinition) : List String :=
  d.table :: d.condition.toList.flatMap Condition.columns

theorem breaks {r : Registry} {d : DeleteDefinition} {s : Statement} (h : d.compile r = .ok s) :
    BreaksWith d.written d.sites s.sql := by
  obtain ⟨-, -, c, t, text, ps, hc, ht, hps, rfl⟩ := compile_eq_ok.mp h
  have htname := (Registry.table_ok ht).2
  have htable : BreaksWith [d.table] [] ("DELETE FROM " ++ t.name) := by
    simp +decide [BreaksWith, htname]
  have hall := htable.append fun hnames =>
    tableWhere_breaks htname hps (hnames d.table List.mem_cons_self)
  simpa [written, sites, hc, String.append_assoc] using hall

end DeleteDefinition

/-! ## Selects -/

namespace JoinDefinition

def written (j : JoinDefinition) : List String :=
  j.table :: j.sourceAlias :: j.condition.toList.flatMap Condition.columns

end JoinDefinition

namespace FromClause

theorem oneLine_source {table a : String} : OneLine (source table a) ↔ OneLine table ∧ OneLine a := by
  unfold source
  split
  · rename_i h
    simp [h]
  · simp +decide

theorem onClause_breaks {j : JoinType} {condition : Option Condition} {scope : Scope}
    {ps next : Params} {clause : String} (h : onClause j condition scope ps = .ok (clause, next))
    (hscope : scope.Unbroken) :
    BreaksWith (condition.toList.flatMap Condition.columns)
      (condition.toList.flatMap (Condition.onSites scope.defaultAlias)) clause := by
  rcases onClause_ok h with ⟨rfl, rfl, -⟩ | ⟨c, text, rfl, htext, rfl⟩
  · simp +decide [BreaksWith]
  · simpa using (Condition.compileOn_breaks htext hscope).after (by decide)

/-- The clause so far: its text breaks with the names in it, and every alias in scope is one of
them. -/
structure Breaks (f : FromClause) (names : List String) (sites : List Site) : Prop where
  text : BreaksWith names sites f.sql
  scope : (∀ n ∈ names, OneLine n) → f.scope.Unbroken

variable {r : Registry} {f next : FromClause} {names : List String} {sites : List Site}

theorem Breaks.start (t : Table) (a : String) : (FromClause.start t a).Breaks [t.name, a] [] where
  text := by simp [BreaksWith, FromClause.start, oneLine_source]
  scope hnames := Scope.unbroken_single.mpr (hnames a (by simp))

/-- One join adds what it writes. The clause sees its own alias, which stands before it. -/
theorem Breaks.join {d : JoinDefinition} (hf : f.Breaks names sites) (h : f.join r d = .ok next) :
    next.Breaks (names ++ d.written) (sites ++ d.sites f.scope.defaultAlias) := by
  obtain ⟨j, t, clause, -, ht, -, hnext, hclause, -, hsql⟩ := join_ok h
  have htname := (Registry.table_ok ht).2
  have hjoin : OneLine j.sql := by cases j <;> decide
  have hdefault : next.scope.defaultAlias = f.scope.defaultAlias := by rw [hnext]
  have hscope (hnames : ∀ n ∈ names, OneLine n) (ha : OneLine d.sourceAlias) :
      next.scope.Unbroken := by
    unfold Scope.Unbroken
    rw [aliases_join h, List.forall_mem_append]
    exact ⟨hf.scope hnames, List.forall_mem_singleton.mpr ha⟩
  have hsource : BreaksWith [d.table, d.sourceAlias] []
      (" " ++ j.sql ++ " " ++ source t.name d.sourceAlias) := by
    simp +decide [BreaksWith, htname, hjoin, oneLine_source]
  constructor
  · rw [hsql, JoinDefinition.sites, ← hdefault]
    exact hf.text.append fun hnames => hsource.append fun halias =>
      onClause_breaks hclause (hscope hnames (halias _ (by simp)))
  · intro hnames
    rw [List.forall_mem_append] at hnames
    exact hscope hnames.1 (hnames.2 _ (by simp [JoinDefinition.written]))

theorem Breaks.joinAll {ds : List JoinDefinition} (hf : f.Breaks names sites)
    (h : f.joinAll r ds = .ok next) :
    next.Breaks (names ++ ds.flatMap JoinDefinition.written)
      (sites ++ ds.flatMap (JoinDefinition.sites f.scope.defaultAlias)) := by
  induction ds generalizing f names sites with
  | nil =>
    cases h
    simpa using hf
  | cons d ds ih =>
    simp only [FromClause.joinAll, bind_eq_ok] at h
    obtain ⟨mid, hmid, h⟩ := h
    have hrest := ih (hf.join hmid) h
    rw [(join_writes hmid).1] at hrest
    simpa using hrest

end FromClause

namespace SelectTerm

/-- The column or search column that the term is about. -/
def columnName : SelectTerm → String
  | .column _ c => c.name
  | .score _ c => c

/-- The parameters that the term needs. -/
def sites : SelectTerm → List Site
  | .column .. => []
  | .score a c => [.query a c .score]

theorem breaks {term : SelectTerm} (ha : OneLine term.aliasName) :
    BreaksWith [term.columnName] term.sites term.sql := by
  cases term with
  | column a c =>
    have ha : OneLine a := ha
    simp +decide [BreaksWith, columnName, sites, sql, ha]
  | score a c =>
    have ha : OneLine a := ha
    simp +decide [BreaksWith, columnName, sites, sql, SqlFunction.call, Site.name, ha]

theorem Resolves.aliasName_mem {term : SelectTerm} {scope : Scope}
    (h : term.Resolves scope.entries) : term.aliasName ∈ scope.aliases := by
  cases term with
  | column a c =>
    obtain ⟨t, ht, -⟩ := h
    exact List.mem_map_of_mem ht
  | score a c =>
    obtain ⟨t, ht⟩ := h
    exact List.mem_map_of_mem ht

end SelectTerm

/-- The parameters of a compiled entry are those of the terms it stands for. -/
theorem GetColumn.sites_terms {scope : Scope} {outer : List String} {g : GetColumn} {e : Expansion}
    (h : g.expand scope outer = .ok e) :
    g.sites scope.defaultAlias =
      (g.terms scope.defaultAlias scope.entries).flatMap SelectTerm.sites := by
  cases g with
  | column name table => simp [sites, terms, SelectTerm.sites, List.flatMap_assoc]
  | all table => simp [sites, terms, SelectTerm.sites, List.flatMap_assoc]
  | group name table => simp [sites, terms, SelectTerm.sites, List.flatMap_assoc]
  | call func name table =>
    simp only [expand, bind_eq_ok, Prod.exists] at h
    obtain ⟨f, hf, -⟩ := h
    cases f
    simp [sites, terms, SelectTerm.sites, hf]

namespace OrderBy

def columnName : OrderBy → String
  | .column name .. => name
  | .call _ name .. => name

theorem draft_breaks {scope : Scope} {o : OrderBy} {d : Draft} (h : o.draft scope = .ok d)
    (hscope : scope.Unbroken) : BreaksWith [o.columnName] (o.sites scope.defaultAlias) d.sql := by
  have hnames := oneLine_params_iff (draft_names h)
  unfold BreaksWith
  rw [← hnames]
  cases o <;> simp only [draft, bind_eq_ok, ensure_eq_ok, pure_eq_ok, Prod.exists] at h
  case column name table desc =>
    obtain ⟨a, t, ht, c, hc, -, -, rfl⟩ := h
    simp +decide [columnName, hscope.table ht, (Table.column_ok hc).1]
  case call func name table desc =>
    obtain ⟨f, hf, a, t, ht, search, hs, rfl⟩ := h
    simp +decide [columnName, f.oneLine_call (hscope.table ht), (Table.searchColumn_ok hs).1]

theorem compileAll_breaks {scope : Scope} {os : List OrderBy} {texts : List String}
    {ps next : Params} (h : compileAll scope os ps = .ok (texts, next)) (hscope : scope.Unbroken) :
    List.Forall₂ (fun o text => BreaksWith [o.columnName] (o.sites scope.defaultAlias) text) os
      texts := by
  induction os generalizing ps texts with
  | nil =>
    simp only [compileAll, Except.ok.injEq, Prod.mk.injEq] at h
    obtain ⟨rfl, -⟩ := h
    exact .nil
  | cons o os ih =>
    simp only [compileAll, bind_eq_ok, pure_eq_ok, Prod.exists, Prod.mk.injEq] at h
    obtain ⟨d, hd, text, mid, htake, rest, next', hrest, rfl, rfl⟩ := h
    obtain ⟨rfl, -⟩ := Params.take_eq_ok.mp htake
    exact .cons (draft_breaks hd hscope) (ih hrest)

end OrderBy

namespace SelectDefinition

/-- The names that a select writes; those of its aliases stand in the FROM clause. -/
def written (r : Registry) (d : SelectDefinition) : List String :=
  d.fromTable :: d.primaryAlias :: d.joins.flatMap JoinDefinition.written
    ++ d.condition.toList.flatMap Condition.columns ++ (d.terms r).map SelectTerm.columnName
    ++ d.orderBy.map OrderBy.columnName

theorem whereClause_breaks {scope : Scope} {condition : Option Condition} {ps next : Params}
    {text : String} (h : whereClause scope condition ps = .ok (text, next))
    (hscope : scope.Unbroken) :
    BreaksWith (condition.toList.flatMap Condition.columns)
      (condition.toList.flatMap (Condition.whereSites scope.defaultAlias)) text := by
  rcases whereClause_ok h with ⟨rfl, rfl, -⟩ | ⟨c, text, rfl, htext, rfl⟩
  · simp +decide [BreaksWith]
  · simpa using (Condition.compileWhere_breaks htext hscope).after (by decide)

theorem oneLine_orderClause (texts : List String) :
    OneLine (orderClause texts) ↔ OneLine (", ".intercalate texts) := by
  cases texts with
  | nil => decide
  | cons t ts => simp +decide [orderClause]

end SelectDefinition

namespace SelectRun

variable {r : Registry} {d : SelectDefinition}

theorem source_breaks (run : SelectRun r d) :
    run.source.Breaks (d.fromTable :: d.primaryAlias :: d.joins.flatMap JoinDefinition.written)
      (d.joins.flatMap (JoinDefinition.sites d.primaryAlias)) := by
  have hall := (FromClause.Breaks.start run.table (d.aliasName.getD run.table.name)).joinAll
    run.joined
  rw [run.start_alias, run.table_name] at hall
  exact hall

theorem filter_breaks (run : SelectRun r d) (hscope : run.source.scope.Unbroken) :
    BreaksWith (d.condition.toList.flatMap Condition.columns)
      (d.condition.toList.flatMap (Condition.whereSites d.primaryAlias)) run.filter :=
  run.defaultAlias ▸ SelectDefinition.whereClause_breaks run.filters hscope

theorem sites_terms (run : SelectRun r d) :
    d.getColumns.flatMap (GetColumn.sites d.primaryAlias) =
      (d.terms r).flatMap SelectTerm.sites := by
  obtain ⟨es, hes, -⟩ := selectItems_ok run.selects
  rw [SelectDefinition.terms, List.flatMap_assoc, ← run.entries, ← run.defaultAlias]
  apply List.flatMap_congr
  intro g hg
  obtain ⟨e, he⟩ := exists_of_forall₂ hes hg
  exact GetColumn.sites_terms he

theorem items_break (run : SelectRun r d) (hscope : run.source.scope.Unbroken) :
    BreaksWith ((d.terms r).map SelectTerm.columnName)
      (d.getColumns.flatMap (GetColumn.sites d.primaryAlias))
      (", ".intercalate (run.items.map (·.sql))) := by
  obtain ⟨hitems, hresolves⟩ := run.items_terms
  have hsql : run.items.map (·.sql) = (d.terms r).map SelectTerm.sql := by
    simp [hitems, SelectTerm.item_sql, Function.comp_def]
  have hterms : List.Forall₂ (fun term text => BreaksWith [term.columnName] term.sites text)
      (d.terms r) ((d.terms r).map SelectTerm.sql) := by
    rw [List.forall₂_map_right_iff, List.forall₂_same]
    intro term hterm
    exact SelectTerm.breaks (hscope _ (hresolves term hterm).aliasName_mem)
  have hall := BreaksWith.intercalate (by decide : OneLine ", ") hterms
  rwa [run.sites_terms, hsql, List.map_eq_flatMap]

theorem order_breaks (run : SelectRun r d) (hscope : run.source.scope.Unbroken) :
    BreaksWith (d.orderBy.map OrderBy.columnName)
      (d.orderBy.flatMap (OrderBy.sites d.primaryAlias))
      (SelectDefinition.orderClause run.order) := by
  have hentries := OrderBy.compileAll_breaks run.orders hscope
  rw [run.defaultAlias] at hentries
  have hall := BreaksWith.intercalate (by decide : OneLine ", ") hentries
  rwa [BreaksWith, ← SelectDefinition.oneLine_orderClause, ← List.map_eq_flatMap] at hall

theorem paging_breaks {ps next : Params} {wanted : Bool} {keyword text : String} (site : Site)
    (h : ps.take (pagingDraft wanted keyword site.name) = .ok (text, next))
    (hkeyword : OneLine keyword) : BreaksWith [] (if wanted then [site] else []) text := by
  obtain ⟨rfl, -⟩ := Params.take_eq_ok.mp h
  cases wanted <;> simp +decide [BreaksWith, pagingDraft, hkeyword]

/-- A compiled select breaks with the names it writes. The select list stands before the FROM
clause but sees its aliases, so the FROM clause is read first. -/
theorem breaks (run : SelectRun r d) : BreaksWith (d.written r) d.sites run.statement.sql := by
  have hfrom := run.source_breaks
  have hfilter := hfrom.text.append fun hnames => run.filter_breaks (hfrom.scope hnames)
  have hitems := hfilter.append fun hnames =>
    run.items_break (hfrom.scope fun n hn => hnames n (List.mem_append_left _ hn))
  have horder := hitems.append fun hnames => run.order_breaks (hfrom.scope fun n hn =>
    hnames n (List.mem_append_left _ (List.mem_append_left _ hn)))
  have hlimit := horder.append fun _ => paging_breaks .limit run.limits (by decide)
  have hoffset := hlimit.append fun _ => paging_breaks .offset run.offsets (by decide)
  have htext : OneLine run.statement.sql ↔ OneLine (run.source.sql ++ run.filter
      ++ ", ".intercalate (run.items.map (·.sql)) ++ SelectDefinition.orderClause run.order
      ++ run.limit ++ run.offset) := by
    simp +decide only [statement, oneLine_append, true_and, and_true]
    tauto
  rw [List.append_nil, List.append_nil] at hoffset
  exact htext.trans hoffset

end SelectRun

namespace StatementDefinition

/-- The names of tables, aliases and columns that a statement writes. -/
def written (r : Registry) : StatementDefinition → List String
  | .insert d => d.written
  | .update d => d.written
  | .delete d => d.written
  | .select d => d.written r

/-- The text of a compiled statement is on one line exactly if the names it writes and its
parameters are. -/
theorem oneLine_sql_iff {r : Registry} {q : StatementDefinition} {s : Statement}
    (h : q.compile r = .ok s) :
    OneLine s.sql ↔ (∀ n ∈ q.written r, OneLine n) ∧ ∀ p ∈ s.params, OneLine p.name := by
  have hbreaks : BreaksWith (q.written r) (q.sites r) s.sql := by
    cases q with
    | insert d => exact InsertDefinition.breaks h
    | update d => exact UpdateDefinition.breaks h
    | delete d => exact DeleteDefinition.breaks h
    | select d =>
      obtain ⟨run, rfl⟩ := SelectRun.of_compile h
      exact run.breaks
  have hparams : (∀ p ∈ s.params, OneLine p.name) ↔ ∀ site ∈ q.sites r, OneLine site.name := by
    calc
      (∀ p ∈ s.params, OneLine p.name) ↔ ∀ n ∈ s.params.map (·.name), OneLine n :=
        List.forall_mem_map.symm
      _ ↔ ∀ n ∈ Site.names (q.sites r), OneLine n := by simp [params_names h]
      _ ↔ ∀ site ∈ q.sites r, OneLine site.name := List.forall_mem_map
  rw [hparams]
  exact hbreaks

end StatementDefinition
end SchemaLoom
