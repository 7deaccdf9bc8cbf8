import SchemaLoom.Proofs.Sql.Acceptance
import SchemaLoom.Proofs.Sql.Select

/-!
# The rules of the clauses

Every clause of a select has its rule: what must resolve in the scope, which fields it fills and
what it binds. Each clause compiles exactly if it obeys its rule and its bindings can follow those
made before. The scope grows join by join, so a join condition sees no alias that comes later.
-/
namespace SchemaLoom
open Compiled

def Scope.extend (s : Scope) (a : String) (t : Table) : Scope :=
  { s with entries := s.entries ++ [(a, t)] }

/-- A condition that its clause accepts, with what it binds. Whether the bindings agree is a matter
of the whole statement. -/
structure Condition.Accepted (rule : Comparison → List Param → Prop) (c : Condition)
    (bs : List Param) : Prop where
  connected : c.Connected
  obeys : Obey rule c.leaves bs
  named : ∀ b ∈ bs, b.name ≠ ""

namespace Scope

variable {r : Registry} {s : Scope}

theorem HasColumn.name_eq {ref : ColumnRef} {c : Column} (h : s.HasColumn ref c) :
    c.name = ref.name := by
  obtain ⟨t, -, -, hname⟩ := h
  exact hname

theorem add_eq_ok {next : Scope} {a : String} {t : Table} :
    s.add a t = .ok next ↔ a ∉ s.aliases ∧ next = s.extend a t := by
  constructor
  · exact add_ok
  · rintro ⟨hfresh, rfl⟩
    rw [add, if_neg (by simpa using hfresh)]
    rfl

theorem Over.extend {a : String} {t : Table} (h : s.Over r) (ht : t ∈ r.tables)
    (hfresh : a ∉ s.aliases) : (s.extend a t).Over r :=
  .add h ht (add_eq_ok.mpr ⟨hfresh, rfl⟩)

theorem Over.alias_eq_ok (h : s.Over r) {table : Option String} {a : String} {t : Table} :
    s.table table = .ok (a, t) ↔
      a = table.getD s.defaultAlias ∧ (table.getD s.defaultAlias, t) ∈ s.entries :=
  @Over.table_eq_ok r s h ⟨"", table⟩ a t

end Scope

namespace Condition

variable {rule : Comparison → List Param → Prop} {draft : Comparison → Compiled Draft}

theorem compile_iff_accepted
    (hrule : ∀ c bs, (∃ d, draft c = .ok d ∧ d.params = bs) ↔ rule c bs) {c : Condition}
    {ps next : Params} :
    (∃ text, c.compile draft ps = .ok (text, next)) ↔
      ∃ bs, c.Accepted rule bs ∧ ps.bindAll bs = .ok next := by
  rw [compile_eq_ok hrule]
  constructor
  · rintro ⟨hconnected, bs, hbs, hbind⟩
    exact ⟨bs, ⟨hconnected, hbs, Params.names_ne_empty hbind⟩, hbind⟩
  · rintro ⟨bs, hc, hbind⟩
    exact ⟨hc.connected, bs, hc.obeys, hbind⟩

theorem compileOn_iff {r : Registry} {scope : Scope} (hscope : scope.Over r) (hr : r.Sound)
    {c : Condition} {ps next : Params} :
    (∃ text, c.compileOn scope ps = .ok (text, next)) ↔
      ∃ bs, c.Accepted (Comparison.OnRule scope) bs ∧ ps.bindAll bs = .ok next := by
  apply compile_iff_accepted
  intro c bs
  exact Comparison.draftOn_iff_rule hscope hr

theorem compileWhere_iff {r : Registry} {scope : Scope} (hscope : scope.Over r) (hr : r.Sound)
    {c : Condition} {ps next : Params} :
    (∃ text, c.compileWhere scope ps = .ok (text, next)) ↔
      ∃ bs, c.Accepted (Comparison.WhereRule scope) bs ∧ ps.bindAll bs = .ok next := by
  apply compile_iff_accepted
  intro c bs
  exact Comparison.draftWhere_iff_rule hscope hr

end Condition

namespace JoinDefinition

/-- The rule of a join: the scope behind it, and what its condition binds. -/
inductive Rule (r : Registry) (scope : Scope) (j : JoinDefinition) : Scope → List Param → Prop where
  | cross {t : Table} (ht : t ∈ r.tables) (hname : t.name = j.table)
      (hfresh : j.sourceAlias ∉ scope.aliases) (htype : j.joinType = "CROSS")
      (hon : j.condition = none) :
      Rule r scope j (scope.extend j.sourceAlias t) []
  | matched {t : Table} {c : Condition} {bs : List Param} (ht : t ∈ r.tables)
      (hname : t.name = j.table) (hfresh : j.sourceAlias ∉ scope.aliases)
      (htype : j.joinType ∈ ["INNER", "FULL", "LEFT", "RIGHT"]) (hon : j.condition = some c)
      (hc : c.Accepted (Comparison.OnRule (scope.extend j.sourceAlias t)) bs) :
      Rule r scope j (scope.extend j.sourceAlias t) bs

/-- Joins that obey the rule one after the other, each in the scope behind those before it. -/
inductive Rules (r : Registry) : Scope → List JoinDefinition → Scope → List Param → Prop where
  | nil {scope : Scope} : Rules r scope [] scope []
  | cons {scope mid next : Scope} {j : JoinDefinition} {js : List JoinDefinition}
      {bs bs' : List Param} (h : j.Rule r scope mid bs) (hs : Rules r mid js next bs') :
      Rules r scope (j :: js) next (bs ++ bs')

end JoinDefinition

namespace JoinType

theorem parse_eq_cross {s : String} : parse s = .ok .cross ↔ s = "CROSS" := by
  constructor
  · intro h
    unfold parse at h
    split at h <;> simp_all
  · rintro rfl
    rfl

theorem exists_parse_matched {s : String} :
    (∃ j, parse s = .ok j ∧ j ≠ .cross) ↔ s ∈ ["INNER", "FULL", "LEFT", "RIGHT"] := by
  constructor
  · rintro ⟨j, h, hj⟩
    unfold parse at h
    split at h <;> simp_all
  · intro h
    simp only [List.mem_cons, List.not_mem_nil, or_false] at h
    rcases h with rfl | rfl | rfl | rfl
    · exact ⟨.inner, rfl, by decide⟩
    · exact ⟨.full, rfl, by decide⟩
    · exact ⟨.left, rfl, by decide⟩
    · exact ⟨.right, rfl, by decide⟩

end JoinType

namespace FromClause

variable {r : Registry} {f : FromClause} {scope : Scope} {ps : Params}

theorem onClause_cross {condition : Option Condition} {next : Params} :
    (∃ clause, onClause .cross condition scope ps = .ok (clause, next)) ↔
      condition = none ∧ ps.bindAll [] = .ok next := by
  cases condition with
  | none => simp [onClause, Params.bindAll]
  | some c => simp [onClause]

theorem onClause_matched {j : JoinType} (hj : j ≠ .cross) {condition : Option Condition}
    {next : Params} :
    (∃ clause, onClause j condition scope ps = .ok (clause, next)) ↔
      ∃ c, condition = some c ∧ ∃ text, c.compileOn scope ps = .ok (text, next) := by
  cases condition with
  | none => cases j <;> simp_all [onClause]
  | some c =>
    have hon : onClause j (some c) scope ps =
        c.compileOn scope ps >>= fun out => pure (" ON " ++ out.1, out.2) := by
      cases j <;> first | rfl | contradiction
    simp only [hon, bind_eq_ok, pure_eq_ok, Prod.exists, Prod.mk.injEq, Option.some.injEq,
      exists_eq_left']
    constructor
    · rintro ⟨clause, text, next', h, -, rfl⟩
      exact ⟨text, h⟩
    · rintro ⟨text, h⟩
      exact ⟨_, text, next, h, rfl, rfl⟩

/-- What a join needs: its type, its table, a new alias and a clause in the scope behind it. -/
theorem join_iff (hr : r.Sound) {j : JoinDefinition} :
    (∃ next, f.join r j = .ok next ∧ next.scope = scope ∧ next.params = ps) ↔
      ∃ k, JoinType.parse j.joinType = .ok k ∧ ∃ t ∈ r.tables, t.name = j.table ∧
        j.sourceAlias ∉ f.scope.aliases ∧ scope = f.scope.extend j.sourceAlias t ∧
        ∃ clause, onClause k j.condition scope f.params = .ok (clause, ps) := by
  simp only [join, within_eq_ok, bind_eq_ok, ensure_eq_ok, pure_eq_ok, Prod.exists,
    hr.table_eq_ok, Scope.add_eq_ok]
  constructor
  · rintro ⟨_, ⟨-, -, k, hk, t, ⟨ht, hname⟩, _, ⟨hfresh, rfl⟩, clause, ps', h, rfl⟩, rfl, rfl⟩
    exact ⟨k, hk, t, ht, hname, hfresh, rfl, clause, h⟩
  · rintro ⟨k, hk, t, ht, hname, hfresh, rfl, clause, h⟩
    -- the test that the table is named never fails here, since registered tables are
    obtain ⟨before, hchecked⟩ := hr.exists_checked ht
    have htable : decide (j.table ≠ "") = true := by simpa [← hname] using hchecked.named
    exact ⟨_, ⟨(), htable, k, hk, t, ⟨ht, hname⟩, _, ⟨hfresh, rfl⟩, clause, ps, h, rfl⟩, rfl, rfl⟩

theorem join_iff_rule (hscope : f.scope.Over r) (hr : r.Sound) {j : JoinDefinition} :
    (∃ next, f.join r j = .ok next ∧ next.scope = scope ∧ next.params = ps) ↔
      ∃ bs, j.Rule r f.scope scope bs ∧ f.params.bindAll bs = .ok ps := by
  rw [join_iff hr]
  constructor
  · rintro ⟨k, hk, t, ht, hname, hfresh, rfl, hclause⟩
    by_cases hcross : k = .cross
    · subst hcross
      obtain ⟨hon, hbind⟩ := onClause_cross.mp hclause
      exact ⟨[], .cross ht hname hfresh (JoinType.parse_eq_cross.mp hk) hon, hbind⟩
    · have htype := JoinType.exists_parse_matched.mp ⟨k, hk, hcross⟩
      obtain ⟨c, hon, hcompile⟩ := (onClause_matched hcross).mp hclause
      obtain ⟨bs, hc, hbind⟩ := (Condition.compileOn_iff (hscope.extend ht hfresh) hr).mp hcompile
      exact ⟨bs, .matched ht hname hfresh htype hon hc, hbind⟩
  · rintro ⟨bs, hrule, hbind⟩
    cases hrule with
    | @cross t ht hname hfresh htype hon =>
      exact ⟨.cross, JoinType.parse_eq_cross.mpr htype, t, ht, hname, hfresh, rfl,
        onClause_cross.mpr ⟨hon, hbind⟩⟩
    | @matched t c bs ht hname hfresh htype hon hc =>
      obtain ⟨k, hk, hcross⟩ := JoinType.exists_parse_matched.mpr htype
      have hcompile := (Condition.compileOn_iff (hscope.extend ht hfresh) hr).mpr ⟨bs, hc, hbind⟩
      have hclause := (onClause_matched hcross).mpr ⟨c, hon, hcompile⟩
      exact ⟨k, hk, t, ht, hname, hfresh, rfl, hclause⟩

end FromClause

namespace JoinDefinition

variable {r : Registry} {scope next : Scope} {j : JoinDefinition} {js : List JoinDefinition}
  {bs : List Param}

theorem Rule.over (h : j.Rule r scope next bs) (hscope : scope.Over r) : next.Over r := by
  cases h with
  | cross ht _ hfresh => exact hscope.extend ht hfresh
  | matched ht _ hfresh => exact hscope.extend ht hfresh

theorem Rule.named (h : j.Rule r scope next bs) : ∀ b ∈ bs, b.name ≠ "" := by
  cases h with
  | cross => simp
  | matched _ _ _ _ _ hc => exact hc.named

theorem Rules.over (h : Rules r scope js next bs) (hscope : scope.Over r) : next.Over r := by
  induction h with
  | nil => exact hscope
  | cons hj _ ih => exact ih (hj.over hscope)

theorem Rules.named (h : Rules r scope js next bs) : ∀ b ∈ bs, b.name ≠ "" := by
  induction h with
  | nil => simp
  | cons hj _ ih => exact List.forall_mem_append.mpr ⟨hj.named, ih⟩

end JoinDefinition

-- By induction on the joins. The clause behind one join is where the next starts, and only its
-- scope and its parameters matter to what follows.
/-- A run of joins succeeds exactly if they obey the rule one after the other. -/
theorem FromClause.joinAll_iff_rules {r : Registry} {f : FromClause} {scope : Scope} {ps : Params}
    (hscope : f.scope.Over r) (hr : r.Sound) {js : List JoinDefinition} :
    (∃ next, f.joinAll r js = .ok next ∧ next.scope = scope ∧ next.params = ps) ↔
      ∃ bs, JoinDefinition.Rules r f.scope js scope bs ∧ f.params.bindAll bs = .ok ps := by
  induction js generalizing f with
  | nil =>
    simp only [joinAll, Except.ok.injEq]
    constructor
    · rintro ⟨_, rfl, rfl, rfl⟩
      exact ⟨[], .nil, rfl⟩
    · rintro ⟨bs, hrules, hbind⟩
      cases hrules
      cases hbind
      exact ⟨f, rfl, rfl, rfl⟩
  | cons j js ih =>
    simp only [joinAll, bind_eq_ok]
    constructor
    · rintro ⟨next, ⟨mid, hmid, hnext⟩, hend⟩
      obtain ⟨bs, hrule, hbind⟩ := (join_iff_rule hscope hr).mp ⟨mid, hmid, rfl, rfl⟩
      obtain ⟨bs', hrules, hbind'⟩ := (ih (hrule.over hscope)).mp ⟨next, hnext, hend⟩
      exact ⟨bs ++ bs', .cons hrule hrules, Params.bindAll_append.mpr ⟨_, hbind, hbind'⟩⟩
    · rintro ⟨_, hrules, hbind⟩
      cases hrules with
      | cons hrule hrules =>
        obtain ⟨ps', hbind, hbind'⟩ := Params.bindAll_append.mp hbind
        obtain ⟨mid, hmid, rfl, rfl⟩ := (join_iff_rule hscope hr).mpr ⟨_, hrule, hbind⟩
        obtain ⟨next, hnext, hend⟩ := (ih (hrule.over hscope)).mpr ⟨_, hrules, hbind'⟩
        exact ⟨next, ⟨mid, hmid, hnext⟩, hend⟩

def SelectDefinition.WhereRule (scope : Scope) : Option Condition → List Param → Prop
  | none, bs => bs = []
  | some c, bs => c.Accepted (Comparison.WhereRule scope) bs

theorem SelectDefinition.whereClause_iff_rule {r : Registry} {scope : Scope} {ps next : Params}
    (hscope : scope.Over r) (hr : r.Sound) {condition : Option Condition} :
    (∃ text, whereClause scope condition ps = .ok (text, next)) ↔
      ∃ bs, WhereRule scope condition bs ∧ ps.bindAll bs = .ok next := by
  cases condition with
  | none => simp [whereClause, WhereRule, Params.bindAll]
  | some c =>
    simp only [whereClause, WhereRule, bind_eq_ok, within_eq_ok, pure_eq_ok, Prod.exists,
      Prod.mk.injEq, ← Condition.compileWhere_iff hscope hr]
    constructor
    · rintro ⟨_, text, _, h, -, rfl⟩
      exact ⟨text, h⟩
    · rintro ⟨text, h⟩
      exact ⟨_, text, next, h, rfl, rfl⟩

theorem SelectDefinition.WhereRule.named {scope : Scope} {condition : Option Condition}
    {bs : List Param} (h : WhereRule scope condition bs) : ∀ b ∈ bs, b.name ≠ "" := by
  cases condition with
  | none =>
    rw [show bs = [] from h]
    simp
  | some c => exact Condition.Accepted.named h

/-- The binding of the query text that a score is taken for. -/
def Scope.queryParam (s : Scope) (ref : ColumnRef) : Param :=
  ⟨generatedName (s.aliasOf ref) ref.name "ScoreQuery", .ofPrimitive .string⟩

theorem generatedName_ne_empty {a column suffix : String} (h : suffix ≠ "") :
    generatedName a column suffix ≠ "" := by
  simp [generatedName, h]

theorem Scope.queryParam_named (s : Scope) (ref : ColumnRef) : (s.queryParam ref).name ≠ "" :=
  generatedName_ne_empty (by decide)

/-- What is found of a call: the one function there is, and a search column in scope. -/
theorem Scope.Over.call_iff {r : Registry} {scope : Scope} (hscope : scope.Over r)
    {func name : String} {table : Option String} (P : SqlFunction → String → String → Prop) :
    (∃ f, SqlFunction.parse func = .ok f ∧ ∃ a t, scope.table table = .ok (a, t) ∧
      ∃ c, t.searchColumn name = .ok c ∧ P f a c.name) ↔
      func = "SCORE" ∧ scope.HasSearchColumn ⟨name, table⟩ ∧
        P .score (table.getD scope.defaultAlias) name := by
  simp only [hscope.alias_eq_ok]
  constructor
  · rintro ⟨⟨⟩, hf, _, t, ⟨rfl, ht⟩, c, hc, hP⟩
    obtain ⟨hname, hmem⟩ := Table.searchColumn_ok hc
    exact ⟨SqlFunction.parse_ok hf, ⟨t, ht, c, hmem, hname⟩, hname ▸ hP⟩
  · rintro ⟨rfl, ⟨t, ht, hsearch⟩, hP⟩
    obtain ⟨c, hc⟩ := Table.exists_searchColumn.mpr hsearch
    exact ⟨.score, rfl, _, t, ⟨rfl, ht⟩, c, hc, (Table.searchColumn_ok hc).1.symm ▸ hP⟩

namespace GetColumn

/-- The fields that an entry of a select list fills, and what it binds. -/
structure Yield where
  fields : List String
  params : List Param := []

inductive Rule (scope : Scope) : GetColumn → Yield → Prop where
  | column {name : String} {table : Option String} {c : Column}
      (h : scope.HasColumn ⟨name, table⟩ c) :
      Rule scope (.column name table)
        { fields := [generatedName (table.getD scope.defaultAlias) name ""] }
  | all {table : Option String} {t : Table}
      (h : (table.getD scope.defaultAlias, t) ∈ scope.entries) :
      Rule scope (.all table)
        { fields := t.columns.map fun c =>
            generatedName (table.getD scope.defaultAlias) c.name "" }
  | group {g : ColumnGroupDefinition} {table : Option String} {t : Table}
      (h : (table.getD scope.defaultAlias, t) ∈ scope.entries) (hg : g ∈ t.columnGroups) :
      Rule scope (.group g.name table)
        { fields := g.columns.map fun n =>
            generatedName (table.getD scope.defaultAlias) n "" }
  | score {name : String} {table : Option String} (h : scope.HasSearchColumn ⟨name, table⟩) :
      Rule scope (.call "SCORE" name table)
        { fields := [generatedName (table.getD scope.defaultAlias) name "Score"]
          params := [scope.queryParam ⟨name, table⟩] }

end GetColumn

theorem Table.Checked.columnGroup_eq_ok {r : Registry} {t : Table} (h : t.Checked r)
    {name : String} {names : List String} :
    t.columnGroup name = .ok names ↔
      ∃ g ∈ t.columnGroups, g.name = name ∧ g.columns = names := by
  simp only [Table.columnGroup, orError_eq_ok, Option.map_eq_some_iff,
    find?_eq_some_of_nodup h.groupNames, and_assoc]

namespace GetColumn

variable {r : Registry} {scope : Scope} {outer : List String}

/-- The columns of a group are all there. -/
theorem exists_groupColumns {t : Table} (h : t.Checked r) {names : List String}
    (hnames : ∀ n ∈ names, ∃ c ∈ t.columns, c.name = n) : ∃ cs, groupColumns t names = .ok cs := by
  induction names with
  | nil => exact ⟨[], rfl⟩
  | cons n names ih =>
    obtain ⟨⟨c, hc⟩, hrest⟩ := List.forall_mem_cons.mp hnames
    obtain ⟨cs, hcs⟩ := ih hrest
    simp only [groupColumns, bind_eq_ok, pure_eq_ok]
    exact ⟨_, c, (Table.column_eq_ok h.columnNames).mpr hc, cs, hcs, rfl⟩

theorem names_ofColumn {a : String} (cs : List Column) :
    (cs.map (SelectItem.ofColumn outer a)).map (·.field.name) =
      (cs.map (·.name)).map fun n => generatedName a n "" := by
  simp [SelectItem.ofColumn]

theorem expand_column (hscope : scope.Over r) (hr : r.Sound) {name : String}
    {table : Option String} {e : Expansion} :
    expand scope outer (.column name table) = .ok e ↔ ∃ c, scope.HasColumn ⟨name, table⟩ c ∧
      e = { items := [.ofColumn outer (table.getD scope.defaultAlias) c] } := by
  simp only [expand, bind_eq_ok, pure_eq_ok, Prod.exists, hscope.alias_eq_ok]
  constructor
  · rintro ⟨_, t, ⟨rfl, ht⟩, c, hc, rfl⟩
    rw [Table.column_eq_ok (hr.columnNames (hscope.registered _ ht))] at hc
    exact ⟨c, ⟨t, ht, hc⟩, rfl⟩
  · rintro ⟨c, ⟨t, ht, hc⟩, rfl⟩
    rw [← Table.column_eq_ok (hr.columnNames (hscope.registered _ ht))] at hc
    exact ⟨_, t, ⟨rfl, ht⟩, c, hc, rfl⟩

theorem expand_all (hscope : scope.Over r) {table : Option String} {e : Expansion} :
    expand scope outer (.all table) = .ok e ↔
      ∃ t, (table.getD scope.defaultAlias, t) ∈ scope.entries ∧
        e = { items := t.columns.map (.ofColumn outer (table.getD scope.defaultAlias)) } := by
  simp only [expand, bind_eq_ok, pure_eq_ok, Prod.exists, hscope.alias_eq_ok]
  constructor
  · rintro ⟨_, t, ⟨rfl, ht⟩, rfl⟩
    exact ⟨t, ht, rfl⟩
  · rintro ⟨t, ht, rfl⟩
    exact ⟨_, t, ⟨rfl, ht⟩, rfl⟩

theorem expand_group (hscope : scope.Over r) (hr : r.Sound) {name : String}
    {table : Option String} {e : Expansion} :
    expand scope outer (.group name table) = .ok e ↔
      ∃ t, (table.getD scope.defaultAlias, t) ∈ scope.entries ∧
        ∃ g ∈ t.columnGroups, g.name = name ∧ ∃ cs, groupColumns t g.columns = .ok cs ∧
          e = { items := cs.map (.ofColumn outer (table.getD scope.defaultAlias)) } := by
  simp only [expand, bind_eq_ok, pure_eq_ok, Prod.exists, hscope.alias_eq_ok]
  constructor
  · rintro ⟨_, t, ⟨rfl, ht⟩, names, hnames, cs, hcs, rfl⟩
    obtain ⟨before, hchecked⟩ := hr.exists_checked (hscope.registered _ ht)
    obtain ⟨g, hg, hname, rfl⟩ := hchecked.columnGroup_eq_ok.mp hnames
    exact ⟨t, ht, g, hg, hname, cs, hcs, rfl⟩
  · rintro ⟨t, ht, g, hg, hname, cs, hcs, rfl⟩
    obtain ⟨before, hchecked⟩ := hr.exists_checked (hscope.registered _ ht)
    have hnames := hchecked.columnGroup_eq_ok.mpr ⟨g, hg, hname, rfl⟩
    exact ⟨_, t, ⟨rfl, ht⟩, g.columns, hnames, cs, hcs, rfl⟩

theorem expand_call (hscope : scope.Over r) {func name : String} {table : Option String}
    {e : Expansion} :
    expand scope outer (.call func name table) = .ok e ↔
      func = "SCORE" ∧ scope.HasSearchColumn ⟨name, table⟩ ∧
        e = { items := [⟨(SqlFunction.score.call (table.getD scope.defaultAlias) name).sql,
                generatedName (table.getD scope.defaultAlias) name "Score",
                SelectItem.fieldType outer (table.getD scope.defaultAlias) (.ofPrimitive .float64)⟩]
              params := [scope.queryParam ⟨name, table⟩] } := by
  simp only [expand, bind_eq_ok, pure_eq_ok, Prod.exists, eq_comm (a := e)]
  exact hscope.call_iff fun f a n => (⟨[⟨(f.call a n).sql, f.fieldName a n,
    SelectItem.fieldType outer a f.resultType⟩], (f.call a n).params⟩ : Expansion) = e

/-- An entry expands exactly if it obeys its rule, to items for its fields. -/
theorem expand_iff_rule (hscope : scope.Over r) (hr : r.Sound) {g : GetColumn} {y : Yield} :
    (∃ e, g.expand scope outer = .ok e ∧ e.items.map (·.field.name) = y.fields ∧
      e.params = y.params) ↔ g.Rule scope y := by
  constructor
  · rintro ⟨e, h, hfields, hparams⟩
    obtain ⟨fields, params⟩ := y
    dsimp only at hfields hparams
    subst hfields hparams
    cases g with
    | column name table =>
      obtain ⟨c, hc, rfl⟩ := (expand_column hscope hr).mp h
      have hname : c.name = name := hc.name_eq
      subst hname
      exact .column hc
    | all table =>
      obtain ⟨t, ht, rfl⟩ := (expand_all hscope).mp h
      rw [List.map_map]
      exact .all ht
    | group name table =>
      obtain ⟨t, ht, g, hg, rfl, cs, hcs, rfl⟩ := (expand_group hscope hr).mp h
      rw [names_ofColumn, names_of_found (groupColumns_ok hcs)]
      exact .group ht hg
    | call func name table =>
      obtain ⟨rfl, hsearch, rfl⟩ := (expand_call hscope).mp h
      exact .score hsearch
  · intro h
    cases h with
    | column hc =>
      refine ⟨_, (expand_column hscope hr).mpr ⟨_, hc, rfl⟩, ?_, rfl⟩
      simp [SelectItem.ofColumn, hc.name_eq]
    | all ht => exact ⟨_, (expand_all hscope).mpr ⟨_, ht, rfl⟩, by simp [SelectItem.ofColumn], rfl⟩
    | @group g table t ht hg =>
      obtain ⟨before, hchecked⟩ := hr.exists_checked (hscope.registered _ ht)
      obtain ⟨cs, hcs⟩ := exists_groupColumns hchecked (hchecked.groupColumns g hg)
      refine ⟨_, (expand_group hscope hr).mpr ⟨t, ht, g, hg, rfl, cs, hcs, rfl⟩, ?_, rfl⟩
      rw [names_ofColumn, names_of_found (groupColumns_ok hcs)]
    | score hsearch => exact ⟨_, (expand_call hscope).mpr ⟨rfl, hsearch, rfl⟩, rfl, rfl⟩

theorem Rule.named {g : GetColumn} {y : Yield} (h : g.Rule scope y) :
    ∀ b ∈ y.params, b.name ≠ "" := by
  cases h <;> simp [Scope.queryParam_named]

end GetColumn

/-- A select list is compiled exactly if its entries obey their rules and fill distinct fields. -/
theorem selectItems_iff_rule {r : Registry} {scope : Scope} {outer : List String}
    (hscope : scope.Over r) (hr : r.Sound) {gs : List GetColumn} {done : List SelectItem}
    {ps next : Params} {names : List String} :
    (∃ items, selectItems scope outer done gs ps = .ok (items, next) ∧
      items.map (·.field.name) = names) ↔
    ∃ ys, List.Forall₂ (GetColumn.Rule scope) gs ys ∧
      Fresh (done.map (·.field.name)) (ys.flatMap (·.fields)) ∧
      names = done.map (·.field.name) ++ ys.flatMap (·.fields) ∧
      ps.bindAll (ys.flatMap (·.params)) = .ok next := by
  induction gs generalizing done ps with
  | nil => simp [selectItems, Params.bindAll, eq_comm, and_comm]
  | cons g gs ih =>
    simp only [selectItems, bind_eq_ok, within_eq_ok, pure_eq_ok, Prod.exists, Prod.mk.injEq,
      addItems_eq_ok, List.forall₂_cons_left_iff]
    constructor
    · rintro ⟨items, ⟨new, mid, ⟨e, he, ps', hbind, rfl, rfl⟩, _, ⟨hfresh, rfl⟩, h⟩, hnames⟩
      have hrule := (GetColumn.expand_iff_rule (y := ⟨_, _⟩) hscope hr).mp ⟨e, he, rfl, rfl⟩
      obtain ⟨ys, hys, hfresh', rfl, hbind'⟩ := ih.mp ⟨items, h, hnames⟩
      rw [List.map_append] at hfresh'
      -- new against what was done before and against this entry, so new throughout
      refine ⟨_, ⟨_, ys, hrule, hys, rfl⟩, ?_, ?_, ?_⟩
      · exact fresh_append.mpr ⟨hfresh, hfresh'⟩
      · simp
      · exact Params.bindAll_append.mpr ⟨_, hbind, hbind'⟩
    · rintro ⟨_, ⟨y, ys, hrule, hys, rfl⟩, hfresh, hnames, hbind⟩
      obtain ⟨e, he, hfields, hparams⟩ := (GetColumn.expand_iff_rule hscope hr).mpr hrule
      obtain ⟨mid, hbind, hbind'⟩ := Params.bindAll_append.mp hbind
      rw [List.flatMap_cons, ← hfields, fresh_append, ← List.map_append] at hfresh
      rw [List.flatMap_cons, ← hfields, ← List.append_assoc, ← List.map_append] at hnames
      obtain ⟨items, h, hitems⟩ := ih.mpr ⟨ys, hys, hfresh.2, hnames, hbind'⟩
      exact ⟨items, ⟨e.items, mid, ⟨e, he, mid, hparams ▸ hbind, rfl, rfl⟩, _, ⟨hfresh.1, rfl⟩, h⟩,
        hitems⟩

/-- The rule of an entry of an order, with what it binds. -/
inductive OrderBy.Rule (scope : Scope) : OrderBy → List Param → Prop where
  | column {name : String} {table : Option String} {desc : Bool} {c : Column}
      (h : scope.HasColumn ⟨name, table⟩ c) (harray : c.type.isArray = false) :
      Rule scope (.column name table desc) []
  | score {name : String} {table : Option String} {desc : Bool}
      (h : scope.HasSearchColumn ⟨name, table⟩) :
      Rule scope (.call "SCORE" name table desc) [scope.queryParam ⟨name, table⟩]

namespace OrderBy

variable {r : Registry} {scope : Scope}

theorem draft_column (hscope : scope.Over r) (hr : r.Sound) {name : String}
    {table : Option String} {desc : Bool} {d : Draft} :
    draft scope (.column name table desc) = .ok d ↔
      ∃ c, scope.HasColumn ⟨name, table⟩ c ∧ c.type.isArray = false ∧
        d = { sql := table.getD scope.defaultAlias ++ "." ++ c.name ++ " "
                ++ Ddl.direction desc } := by
  simp only [draft, bind_eq_ok, ensure_eq_ok, pure_eq_ok, Prod.exists, hscope.alias_eq_ok,
    Bool.not_eq_true']
  constructor
  · rintro ⟨_, t, ⟨rfl, ht⟩, c, hc, -, harray, rfl⟩
    rw [Table.column_eq_ok (hr.columnNames (hscope.registered _ ht))] at hc
    exact ⟨c, ⟨t, ht, hc⟩, harray, rfl⟩
  · rintro ⟨c, ⟨t, ht, hc⟩, harray, rfl⟩
    rw [← Table.column_eq_ok (hr.columnNames (hscope.registered _ ht))] at hc
    exact ⟨_, t, ⟨rfl, ht⟩, c, hc, (), harray, rfl⟩

theorem draft_call (hscope : scope.Over r) {func name : String} {table : Option String}
    {desc : Bool} {d : Draft} :
    draft scope (.call func name table desc) = .ok d ↔
      func = "SCORE" ∧ scope.HasSearchColumn ⟨name, table⟩ ∧
        d = { sql := (SqlFunction.score.call (table.getD scope.defaultAlias) name).sql ++ " "
                ++ Ddl.direction desc
              params := [scope.queryParam ⟨name, table⟩] } := by
  simp only [draft, bind_eq_ok, pure_eq_ok, Prod.exists, eq_comm (a := d)]
  exact hscope.call_iff fun f a n =>
    (⟨(f.call a n).sql ++ " " ++ Ddl.direction desc, (f.call a n).params⟩ : Draft) = d

theorem draft_iff_rule (hscope : scope.Over r) (hr : r.Sound) {o : OrderBy} {bs : List Param} :
    (∃ d, o.draft scope = .ok d ∧ d.params = bs) ↔ o.Rule scope bs := by
  constructor
  · rintro ⟨d, h, rfl⟩
    cases o with
    | column name table desc =>
      obtain ⟨c, hc, harray, rfl⟩ := (draft_column hscope hr).mp h
      exact .column hc harray
    | call func name table desc =>
      obtain ⟨rfl, hsearch, rfl⟩ := (draft_call hscope).mp h
      exact .score hsearch
  · intro h
    cases h with
    | column hc harray => exact ⟨_, (draft_column hscope hr).mpr ⟨_, hc, harray, rfl⟩, rfl⟩
    | score hsearch => exact ⟨_, (draft_call hscope).mpr ⟨rfl, hsearch, rfl⟩, rfl⟩

theorem Rule.named {o : OrderBy} {bs : List Param} (h : o.Rule scope bs) :
    ∀ b ∈ bs, b.name ≠ "" := by
  cases h <;> simp [Scope.queryParam_named]

theorem compileAll_iff_rule (hscope : scope.Over r) (hr : r.Sound) {os : List OrderBy}
    {ps next : Params} :
    (∃ texts, compileAll scope os ps = .ok (texts, next)) ↔
      ∃ bss, List.Forall₂ (Rule scope) os bss ∧ ps.bindAll bss.flatten = .ok next := by
  induction os generalizing ps with
  | nil => simp [compileAll, Params.bindAll]
  | cons o os ih =>
    simp only [compileAll, bind_eq_ok, pure_eq_ok, Prod.exists, Prod.mk.injEq, Params.take_eq_ok,
      List.forall₂_cons_left_iff]
    constructor
    · rintro ⟨_, d, hd, _, mid, ⟨rfl, hbind⟩, rest, _, hrest, -, rfl⟩
      have hrule := (draft_iff_rule hscope hr).mp ⟨d, hd, rfl⟩
      obtain ⟨bss, hbss, hbind'⟩ := ih.mp ⟨rest, hrest⟩
      exact ⟨_, ⟨_, bss, hrule, hbss, rfl⟩, Params.bindAll_append.mpr ⟨mid, hbind, hbind'⟩⟩
    · rintro ⟨_, ⟨bs, bss, hrule, hbss, rfl⟩, hbind⟩
      obtain ⟨d, hd, rfl⟩ := (draft_iff_rule hscope hr).mpr hrule
      obtain ⟨mid, hbind, hbind'⟩ := Params.bindAll_append.mp hbind
      obtain ⟨rest, hrest⟩ := ih.mpr ⟨bss, hbss, hbind'⟩
      exact ⟨_, d, hd, _, mid, ⟨rfl, hbind⟩, rest, next, hrest, rfl, rfl⟩

end OrderBy

end SchemaLoom
