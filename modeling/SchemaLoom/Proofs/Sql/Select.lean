import SchemaLoom.Proofs.Sql.Statement
import SchemaLoom.Sql.Select

/-!
# Compiled selects

What the compilation of a select goes through: the joins that build the scope, the condition, the
select list, the order and the paging. Parameters are bound in this order, while the text begins
with the select list; so the placeholders of the text are those of the sites up to order.
-/
namespace SchemaLoom
open Compiled Text

def JoinDefinition.sourceAlias (j : JoinDefinition) : String := j.aliasName.getD j.table

/-- The alias of the table after FROM. -/
def SelectDefinition.primaryAlias (d : SelectDefinition) : String := d.aliasName.getD d.fromTable

/-- The tables that joins bring into scope, each under its alias. -/
def JoinDefinition.sources (r : Registry) (js : List JoinDefinition) : List (String × Table) :=
  js.filterMap fun j => (r.find? j.table).map (j.sourceAlias, ·)

def SelectDefinition.sources (r : Registry) (d : SelectDefinition) : List (String × Table) :=
  (r.find? d.fromTable).toList.map (d.primaryAlias, ·) ++ JoinDefinition.sources r d.joins

theorem Stops.append {s t : String} (hs : Stops s) (ht : Stops t) : Stops (s ++ t) := by
  by_cases hne : s = ""
  · simpa [hne] using ht
  · exact stops_append hne hs

namespace FromClause

theorem source_unmarked {table a : String} (ht : Unmarked table) (ha : Unmarked a) :
    Unmarked (source table a) := by
  unfold source
  split
  · exact ht
  · simp +decide [ht, ha]

/-- What one join does to the clause. -/
theorem join_ok {r : Registry} {f next : FromClause} {d : JoinDefinition}
    (h : f.join r d = .ok next) : ∃ (j : JoinType) (t : Table) (clause : String),
      JoinType.parse d.joinType = .ok j ∧ r.table d.table = .ok t ∧
      d.sourceAlias ∉ f.scope.aliases ∧
      next.scope = { f.scope with entries := f.scope.entries ++ [(d.sourceAlias, t)] } ∧
      onClause j d.condition next.scope f.params = .ok (clause, next.params) ∧
      next.outer = padded j f.outer f.scope.aliases d.sourceAlias ∧
      next.sql = f.sql ++ (" " ++ j.sql ++ " " ++ source t.name d.sourceAlias ++ clause) := by
  simp only [join, within_eq_ok, bind_eq_ok, ensure_eq_ok, pure_eq_ok, Prod.exists] at h
  obtain ⟨-, -, j, hj, t, ht, scope, hscope, clause, ps, hclause, rfl⟩ := h
  obtain ⟨hfresh, rfl⟩ := Scope.add_ok hscope
  exact ⟨j, t, clause, hj, ht, hfresh, rfl, hclause, rfl, by simp only [String.append_assoc]; rfl⟩

/-- The clause of a join is empty, or the text of its condition. -/
theorem onClause_ok {j : JoinType} {condition : Option Condition} {scope : Scope}
    {ps next : Params} {clause : String} (h : onClause j condition scope ps = .ok (clause, next)) :
    (condition = none ∧ clause = "" ∧ ps = next) ∨ ∃ c text, condition = some c ∧
      c.compileOn scope ps = .ok (text, next) ∧ clause = " ON " ++ text := by
  cases condition with
  | none =>
    cases j <;> simp only [onClause, reduceCtorEq, Except.ok.injEq, Prod.mk.injEq] at h
    exact .inl ⟨rfl, h.1.symm, h.2⟩
  | some c =>
    cases j <;>
      simp only [onClause, reduceCtorEq, bind_eq_ok, pure_eq_ok, Prod.exists, Prod.mk.injEq] at h
    all_goals
      obtain ⟨text, ps', htext, rfl, rfl⟩ := h
      exact .inr ⟨c, text, rfl, htext, rfl⟩

theorem onClause_writes {j : JoinType} {condition : Option Condition} {scope : Scope}
    {ps next : Params} {clause : String} (h : onClause j condition scope ps = .ok (clause, next)) :
    Writes (IsName scope.defaultAlias ∧ ∀ n ∈ condition.toList.flatMap Condition.mentioned, IsName n)
      ps (condition.toList.flatMap (Condition.onSites scope.defaultAlias)) (placeholders clause)
      next := by
  rcases onClause_ok h with ⟨rfl, rfl, rfl⟩ | ⟨c, text, rfl, htext, rfl⟩
  · exact Writes.nil
  · rw [placeholders_unmarked_append (by decide)]
    simpa using Condition.compileOn_writes htext

end FromClause

namespace JoinDefinition

def sites (defaultAlias : String) (j : JoinDefinition) : List Site :=
  j.condition.toList.flatMap (Condition.onSites defaultAlias)

def mentioned (j : JoinDefinition) : List String :=
  j.table :: j.sourceAlias :: j.condition.toList.flatMap Condition.mentioned

end JoinDefinition

namespace FromClause

theorem join_writes {r : Registry} {f next : FromClause} {d : JoinDefinition}
    (h : f.join r d = .ok next) :
    next.scope.defaultAlias = f.scope.defaultAlias ∧
    next.scope.entries = f.scope.entries ++ JoinDefinition.sources r [d] ∧
    ∃ tail, next.sql = f.sql ++ tail ∧ Stops tail ∧
      Writes (IsName f.scope.defaultAlias ∧ ∀ n ∈ d.mentioned, IsName n) f.params
        (d.sites f.scope.defaultAlias) (placeholders tail) next.params := by
  obtain ⟨j, t, clause, -, ht, -, hscope, hclause, -, hsql⟩ := join_ok h
  obtain ⟨hfind, htname⟩ := Registry.table_ok ht
  have hdefault : next.scope.defaultAlias = f.scope.defaultAlias := by rw [hscope]
  refine ⟨hdefault, by simp [hscope, JoinDefinition.sources, hfind], _, hsql, ?_, ?_⟩
  · simp only [String.append_assoc]
    exact stops_append (by decide) (by decide)
  · have hon := onClause_writes hclause
    rw [hdefault] at hon
    refine ⟨hon.binds, fun ⟨ha, hplain⟩ => ?_⟩
    have htable : Unmarked t.name := htname ▸ (hplain _ (by simp [JoinDefinition.mentioned])).unmarked
    have halias : Unmarked d.sourceAlias := (hplain _ (by simp [JoinDefinition.mentioned])).unmarked
    have hjoin : Unmarked j.sql := by cases j <;> decide
    rw [placeholders_unmarked_append (by simp +decide [hjoin, source_unmarked htable halias]),
      hon.spells ⟨ha, fun n hn =>
        hplain n (by simp only [JoinDefinition.mentioned, List.mem_cons, hn, or_true])⟩]
    rfl

/-- A run of joins keeps the default alias, extends the scope by the joined tables and writes
their conditions in order. -/
theorem joinAll_writes {r : Registry} {f next : FromClause} {ds : List JoinDefinition}
    (h : f.joinAll r ds = .ok next) :
    next.scope.defaultAlias = f.scope.defaultAlias ∧
    next.scope.entries = f.scope.entries ++ JoinDefinition.sources r ds ∧
    ∃ tail, next.sql = f.sql ++ tail ∧ Stops tail ∧
      Writes (IsName f.scope.defaultAlias ∧ ∀ d ∈ ds, ∀ n ∈ d.mentioned, IsName n) f.params
        (ds.flatMap (JoinDefinition.sites f.scope.defaultAlias)) (placeholders tail)
        next.params := by
  induction ds generalizing f with
  | nil =>
    cases h
    exact ⟨rfl, by simp [JoinDefinition.sources], "", by simp, by decide, Writes.nil⟩
  | cons d ds ih =>
    simp only [joinAll, bind_eq_ok] at h
    obtain ⟨mid, hmid, h⟩ := h
    obtain ⟨ha, hentries, tail, hsql, hstops, hw⟩ := join_writes hmid
    obtain ⟨ha', hentries', tail', hsql', hstops', hw'⟩ := ih h
    rw [ha] at ha' hw'
    refine ⟨ha', ?_, tail ++ tail', ?_, hstops.append hstops', ?_⟩
    · rw [hentries', hentries, List.append_assoc]
      simp [JoinDefinition.sources, List.filterMap_cons]
      cases r.find? d.table <;> rfl
    · rw [hsql', hsql, String.append_assoc]
    · rw [placeholders_append hstops', List.flatMap_cons]
      exact (hw.weaken fun hp => ⟨hp.1, hp.2 d (by simp)⟩).append
        (hw'.weaken fun hp => ⟨hp.1, fun e he => hp.2 e (by simp [he])⟩)

end FromClause

namespace GetColumn

def sites (defaultAlias : String) : GetColumn → List Site
  | .call func name table =>
    match SqlFunction.parse func with
    | .ok f => [.query (table.getD defaultAlias) name f]
    | .error _ => []
  | _ => []

/-- The names an entry of a select list mentions, those of the columns it stands for included. -/
def mentioned (defaultAlias : String) (sources : List (String × Table)) :
    GetColumn → List String
  | .column name table => name :: table.toList
  | .all table => table.toList ++
      (sources.find? (·.1 = table.getD defaultAlias)).toList.flatMap fun (_, t) =>
        t.columns.map (·.name)
  | .group name table => table.toList ++
      (sources.find? (·.1 = table.getD defaultAlias)).toList.flatMap fun (_, t) =>
        (t.columnGroups.find? (·.name = name)).toList.flatMap (·.columns)
  | .call _ name table => name :: table.toList

theorem groupColumns_ok {t : Table} {names : List String} {cols : List Column}
    (h : groupColumns t names = .ok cols) :
    List.Forall₂ (fun n c => t.column n = .ok c) names cols := by
  induction names generalizing cols with
  | nil =>
    cases h
    exact .nil
  | cons name names ih =>
    simp only [groupColumns, bind_eq_ok, pure_eq_ok] at h
    obtain ⟨c, hc, cs, hcs, rfl⟩ := h
    exact .cons hc (ih hcs)

theorem ofColumn_unmarked {outer : List String} {a : String} {c : Column} (ha : IsName a)
    (hc : IsName c.name) : placeholders (SelectItem.ofColumn outer a c).sql = [] :=
  placeholders_of_unmarked (by simp +decide [SelectItem.ofColumn, ha.unmarked, hc.unmarked])

theorem expand_names {scope : Scope} {outer : List String} {g : GetColumn} {e : Expansion}
    (h : g.expand scope outer = .ok e) :
    e.params.map (·.name) = Site.names (g.sites scope.defaultAlias) := by
  cases g <;> simp only [expand, bind_eq_ok, pure_eq_ok, Prod.exists] at h
  case column =>
    obtain ⟨a, t, -, c, -, rfl⟩ := h
    rfl
  case all =>
    obtain ⟨a, t, -, rfl⟩ := h
    rfl
  case group =>
    obtain ⟨a, t, -, names, -, cols, -, rfl⟩ := h
    rfl
  case call =>
    obtain ⟨f, hf, a, t, ht, search, hs, rfl⟩ := h
    obtain ⟨rfl, -⟩ := Scope.table_ok ht
    rw [sites, hf, (Table.searchColumn_ok hs).1]
    cases f
    rfl

theorem expand_faithful {scope : Scope} {outer : List String} {g : GetColumn} {e : Expansion}
    (h : g.expand scope outer = .ok e) (ha : IsName scope.defaultAlias)
    (hg : ∀ n ∈ g.mentioned scope.defaultAlias scope.entries, IsName n) :
    e.items.flatMap (fun i => placeholders i.sql) = e.params.map (·.name) := by
  have halias (table : Option String) (ht : ∀ n, table = some n → IsName n) :
      IsName (table.getD scope.defaultAlias) := Comparison.isName_getD ht ha
  cases g <;> simp only [expand, bind_eq_ok, pure_eq_ok, Prod.exists] at h
  case column name table =>
    obtain ⟨a, t, ht, c, hc, rfl⟩ := h
    obtain ⟨rfl, -⟩ := Scope.table_ok ht
    have hname : IsName c.name := (Table.column_ok hc).1 ▸ hg _ (by simp [mentioned])
    have htable := halias table fun n hn => hg n (by simp [mentioned, hn])
    simp [ofColumn_unmarked htable hname]
  case all table =>
    obtain ⟨a, t, ht, rfl⟩ := h
    obtain ⟨rfl, hfind⟩ := Scope.table_ok ht
    have htable := halias table fun n hn => hg n (by simp [mentioned, hn])
    rw [List.flatMap_map]
    refine List.flatMap_eq_nil_iff.mpr fun c hc => ofColumn_unmarked htable (hg _ ?_)
    simp only [mentioned, hfind, Option.toList_some, List.flatMap_cons, List.flatMap_nil]
    exact List.mem_append_right _ (List.mem_append_left _ (List.mem_map_of_mem hc))
  case group name table =>
    obtain ⟨a, t, ht, names, hnames, cols, hcols, rfl⟩ := h
    obtain ⟨rfl, hfind⟩ := Scope.table_ok ht
    have htable := halias table fun n hn => hg n (by simp [mentioned, hn])
    obtain ⟨group, hgroup, rfl⟩ := Option.map_eq_some_iff.mp (orError_eq_ok.mp hnames)
    rw [List.flatMap_map]
    refine List.flatMap_eq_nil_iff.mpr fun c hc => ofColumn_unmarked htable (hg _ ?_)
    have hmem : c.name ∈ group.columns :=
      names_of_found (groupColumns_ok hcols) ▸ List.mem_map_of_mem hc
    simp only [mentioned, hfind, hgroup, Option.toList_some, List.flatMap_cons, List.flatMap_nil]
    exact List.mem_append_right _ (List.mem_append_left _ (List.mem_append_left _ hmem))
  case call func name table =>
    obtain ⟨f, hf, a, t, ht, search, hs, rfl⟩ := h
    obtain ⟨rfl, -⟩ := Scope.table_ok ht
    have hname : IsName search.name :=
      (Table.searchColumn_ok hs).1 ▸ hg _ (by simp [mentioned])
    have htable := halias table fun n hn => hg n (by simp [mentioned, hn])
    have hcall := f.call_faithful htable hname
    unfold Draft.Faithful at hcall
    simpa using hcall

end GetColumn

/-- Items can be added exactly if their fields are new. -/
theorem addItems_eq_ok {done items all : List SelectItem} :
    addItems done items = .ok all ↔
      Fresh (done.map (·.field.name)) (items.map (·.field.name)) ∧ all = done ++ items := by
  induction items generalizing done with
  | nil => simp [addItems, eq_comm]
  | cons i items ih =>
    have hseen : (!done.any (·.field.name = i.field.name)) = true ↔
        i.field.name ∉ done.map (·.field.name) := by simp
    simp only [addItems, bind_eq_ok, ensure_eq_ok, hseen, ih, List.map_cons, fresh_cons,
      List.map_append, List.map_nil, List.append_assoc, List.singleton_append, exists_const,
      and_assoc]

/-- The select list is the items of its entries, whose fields are all new, with their parameters
bound entry by entry. -/
theorem selectItems_eq_ok {scope : Scope} {outer : List String} {done items : List SelectItem}
    {gs : List GetColumn} {ps next : Params} :
    selectItems scope outer done gs ps = .ok (items, next) ↔
      ∃ es, List.Forall₂ (fun g e => g.expand scope outer = .ok e) gs es ∧
        Fresh (done.map (·.field.name)) ((es.flatMap (·.items)).map (·.field.name)) ∧
        items = done ++ es.flatMap (·.items) ∧
        ps.bindAll (es.flatMap (·.params)) = .ok next := by
  induction gs generalizing done ps with
  | nil =>
    rw [selectItems, Except.ok.injEq, Prod.mk.injEq]
    constructor
    · rintro ⟨rfl, rfl⟩
      exact ⟨[], .nil, by simp, by simp, rfl⟩
    · rintro ⟨es, hes, -, rfl, hbind⟩
      cases hes
      cases hbind
      exact ⟨by simp, rfl⟩
  | cons g gs ih =>
    simp only [selectItems, bind_eq_ok, within_eq_ok, pure_eq_ok, Prod.exists, Prod.mk.injEq,
      addItems_eq_ok, ih, List.forall₂_cons_left_iff]
    constructor
    · rintro ⟨_, _, ⟨e, he, mid, hbind, rfl, rfl⟩, _, ⟨hfresh, rfl⟩, es, hes, hfresh', rfl, hbinds⟩
      rw [List.map_append] at hfresh'
      refine ⟨e :: es, ⟨e, es, he, hes, rfl⟩, ?_, by simp, ?_⟩
      · rw [List.flatMap_cons, List.map_append]
        exact fresh_append.mpr ⟨hfresh, hfresh'⟩
      · exact Params.bindAll_append.mpr ⟨_, hbind, hbinds⟩
    · rintro ⟨_, ⟨e, es, he, hes, rfl⟩, hfresh, rfl, hbinds⟩
      obtain ⟨mid, hbind, hbinds⟩ := Params.bindAll_append.mp hbinds
      rw [List.flatMap_cons, List.map_append, fresh_append, ← List.map_append] at hfresh
      exact ⟨_, mid, ⟨e, he, mid, hbind, rfl, rfl⟩, _, ⟨hfresh.1, rfl⟩, es, hes, hfresh.2,
        by simp, hbinds⟩

theorem selectItems_ok {scope : Scope} {outer : List String} {done items : List SelectItem}
    {gs : List GetColumn} {ps next : Params}
    (h : selectItems scope outer done gs ps = .ok (items, next)) :
    ∃ es, List.Forall₂ (fun g e => g.expand scope outer = .ok e) gs es ∧
      items = done ++ es.flatMap (·.items) ∧
      ps.bindAll (es.flatMap (·.params)) = .ok next := by
  obtain ⟨es, hes, -, hitems, hbinds⟩ := selectItems_eq_ok.mp h
  exact ⟨es, hes, hitems, hbinds⟩

theorem selectItems_writes {scope : Scope} {outer : List String} {items : List SelectItem}
    {gs : List GetColumn} {ps next : Params}
    (h : selectItems scope outer [] gs ps = .ok (items, next)) :
    Writes (IsName scope.defaultAlias ∧
        ∀ g ∈ gs, ∀ n ∈ g.mentioned scope.defaultAlias scope.entries, IsName n) ps
      (gs.flatMap (GetColumn.sites scope.defaultAlias))
      (items.flatMap fun i => placeholders i.sql) next := by
  obtain ⟨es, hes, rfl, hbinds⟩ := selectItems_ok h
  have hnames : es.flatMap (fun e => e.params.map (·.name)) =
      gs.flatMap fun g => Site.names (g.sites scope.defaultAlias) :=
    flatMap_eq_of_forall₂ hes fun g _ e he => GetColumn.expand_names he
  refine ⟨⟨_, ?_, hbinds⟩, fun ⟨ha, hplain⟩ => ?_⟩
  · rw [List.map_flatMap, Site.names_flatMap, hnames]
  · rw [List.nil_append, List.flatMap_assoc, Site.names_flatMap]
    exact flatMap_eq_of_forall₂ hes fun g hg e he =>
      (GetColumn.expand_faithful he ha (hplain g hg)).trans (GetColumn.expand_names he)

namespace OrderBy

def sites (defaultAlias : String) : OrderBy → List Site
  | .column .. => []
  | .call func name table _ =>
    match SqlFunction.parse func with
    | .ok f => [.query (table.getD defaultAlias) name f]
    | .error _ => []

def mentioned : OrderBy → List String
  | .column name table _ => name :: table.toList
  | .call _ name table _ => name :: table.toList

theorem draft_names {scope : Scope} {o : OrderBy} {d : Draft} (h : o.draft scope = .ok d) :
    d.params.map (·.name) = Site.names (o.sites scope.defaultAlias) := by
  cases o <;> simp only [draft, bind_eq_ok, ensure_eq_ok, pure_eq_ok, Prod.exists] at h
  case column =>
    obtain ⟨a, t, -, c, -, -, -, rfl⟩ := h
    rfl
  case call =>
    obtain ⟨f, hf, a, t, ht, search, hs, rfl⟩ := h
    obtain ⟨rfl, -⟩ := Scope.table_ok ht
    rw [sites, hf, (Table.searchColumn_ok hs).1]
    cases f
    rfl

theorem unmarked_direction (desc : Bool) : Unmarked (Ddl.direction desc) := by
  cases desc <;> decide

theorem draft_faithful {scope : Scope} {o : OrderBy} {d : Draft} (h : o.draft scope = .ok d)
    (ha : IsName scope.defaultAlias) (ho : ∀ n ∈ o.mentioned, IsName n) : d.Faithful := by
  cases o <;> simp only [draft, bind_eq_ok, ensure_eq_ok, pure_eq_ok, Prod.exists] at h
  case column name table desc =>
    obtain ⟨a, t, ht, c, hc, -, -, rfl⟩ := h
    obtain ⟨rfl, -⟩ := Scope.table_ok ht
    have hname : IsName c.name := (Table.column_ok hc).1 ▸ ho _ (by simp [mentioned])
    have htable : IsName (table.getD scope.defaultAlias) :=
      Comparison.isName_getD (fun n hn => ho n (by simp [mentioned, hn])) ha
    refine placeholders_of_unmarked ?_
    simp +decide [htable.unmarked, hname.unmarked, unmarked_direction]
  case call func name table desc =>
    obtain ⟨f, hf, a, t, ht, search, hs, rfl⟩ := h
    obtain ⟨rfl, -⟩ := Scope.table_ok ht
    have hname : IsName search.name :=
      (Table.searchColumn_ok hs).1 ▸ ho _ (by simp [mentioned])
    have htable : IsName (table.getD scope.defaultAlias) :=
      Comparison.isName_getD (fun n hn => ho n (by simp [mentioned, hn])) ha
    have hcall := f.call_faithful htable hname
    unfold Draft.Faithful at hcall ⊢
    rw [String.append_assoc, placeholders_append (stops_append (by decide) (by decide)), hcall,
      placeholders_of_unmarked (by simp +decide [unmarked_direction]), List.append_nil]

theorem compileAll_writes {scope : Scope} {os : List OrderBy} {texts : List String}
    {ps next : Params} (h : compileAll scope os ps = .ok (texts, next)) :
    Writes (IsName scope.defaultAlias ∧ ∀ o ∈ os, ∀ n ∈ o.mentioned, IsName n) ps
      (os.flatMap (sites scope.defaultAlias)) (texts.flatMap placeholders) next := by
  induction os generalizing ps texts with
  | nil =>
    simp only [compileAll, Except.ok.injEq, Prod.mk.injEq] at h
    obtain ⟨rfl, rfl⟩ := h
    exact Writes.nil
  | cons o os ih =>
    simp only [compileAll, bind_eq_ok, pure_eq_ok, Prod.exists, Prod.mk.injEq] at h
    obtain ⟨d, hd, text, mid, htake, rest, next', hrest, rfl, rfl⟩ := h
    rw [List.flatMap_cons, List.flatMap_cons]
    refine Writes.append (Writes.of_take htake (draft_names hd) ?_)
      ((ih hrest).weaken fun hp => ⟨hp.1, fun o' ho' => hp.2 o' (by simp [ho'])⟩)
    exact fun hp => draft_faithful hd hp.1 (hp.2 o (by simp))

end OrderBy

theorem paging_writes {wanted : Bool} {keyword text : String} (site : Site) {ps next : Params}
    (h : ps.take (pagingDraft wanted keyword site.name) = .ok (text, next))
    (hkeyword : Unmarked keyword) (hsite : IsName site.name) :
    Stops text ∧ Writes True ps (if wanted then [site] else []) (placeholders text) next := by
  constructor
  · obtain ⟨rfl, -⟩ := Params.take_eq_ok.mp h
    cases wanted
    · change Stops ""
      decide
    · change Stops (" " ++ keyword ++ " " ++ placeholder site.name)
      simp only [String.append_assoc]
      exact stops_append (by decide) (by decide)
  · refine Writes.of_take h ?_ fun _ => ?_
    · cases wanted <;> rfl
    · cases wanted
      · rfl
      · exact placeholders_last (by simp +decide [hkeyword]) hsite

namespace SelectDefinition

theorem orderClause_spells (texts : List String) :
    placeholders (orderClause texts) = texts.flatMap placeholders ∧ Stops (orderClause texts) := by
  unfold orderClause
  cases texts with
  | nil => exact ⟨rfl, by decide⟩
  | cons t ts =>
    rw [if_neg (by simp)]
    exact ⟨by rw [placeholders_unmarked_append (by decide), placeholders_comma],
      stops_append (by decide) (by decide)⟩

/-- The filter is empty, or the text of its condition. -/
theorem whereClause_ok {scope : Scope} {condition : Option Condition} {ps next : Params}
    {clause : String} (h : whereClause scope condition ps = .ok (clause, next)) :
    (condition = none ∧ clause = "" ∧ ps = next) ∨ ∃ c text, condition = some c ∧
      c.compileWhere scope ps = .ok (text, next) ∧ clause = " WHERE " ++ text := by
  cases condition with
  | none =>
    simp only [whereClause, Except.ok.injEq, Prod.mk.injEq] at h
    exact .inl ⟨rfl, h.1.symm, h.2⟩
  | some c =>
    simp only [whereClause, bind_eq_ok, within_eq_ok, pure_eq_ok, Prod.exists, Prod.mk.injEq] at h
    obtain ⟨text, ps', htext, rfl, rfl⟩ := h
    exact .inr ⟨c, text, rfl, htext, rfl⟩

theorem whereClause_writes {scope : Scope} {condition : Option Condition} {ps next : Params}
    {clause : String} (h : whereClause scope condition ps = .ok (clause, next)) :
    Stops clause ∧ Writes (IsName scope.defaultAlias ∧
        ∀ n ∈ condition.toList.flatMap Condition.mentioned, IsName n) ps
      (condition.toList.flatMap (Condition.whereSites scope.defaultAlias)) (placeholders clause)
      next := by
  rcases whereClause_ok h with ⟨rfl, rfl, rfl⟩ | ⟨c, text, rfl, htext, rfl⟩
  · exact ⟨by decide, Writes.nil⟩
  · refine ⟨stops_append (by decide) (by decide), ?_⟩
    rw [placeholders_unmarked_append (by decide)]
    simpa using Condition.compileWhere_writes htext

end SelectDefinition

/-- What a compiled select went through: the result of every step with the parameters bound up to
it, and the equations of the steps. -/
structure SelectRun (r : Registry) (d : SelectDefinition) where
  table : Table
  source : FromClause
  filter : String
  filtered : Params
  items : List SelectItem
  selected : Params
  order : List String
  ordered : Params
  limit : String
  limited : Params
  offset : String
  bound : Params
  found : r.table d.fromTable = .ok table
  joined : (FromClause.start table (d.aliasName.getD table.name)).joinAll r d.joins = .ok source
  filters : SelectDefinition.whereClause source.scope d.condition source.params
    = .ok (filter, filtered)
  selects : selectItems source.scope source.outer [] d.getColumns filtered = .ok (items, selected)
  orders : OrderBy.compileAll source.scope d.orderBy selected = .ok (order, ordered)
  limits : ordered.take (pagingDraft d.limit "LIMIT" "limit") = .ok (limit, limited)
  offsets : limited.take (pagingDraft d.offset "OFFSET" "offset") = .ok (offset, bound)

namespace SelectRun

variable {r : Registry} {d : SelectDefinition}

def statement (run : SelectRun r d) : Statement where
  name := d.name
  kind := .select
  sql := "SELECT " ++ ", ".intercalate (run.items.map (·.sql)) ++ " FROM " ++ run.source.sql
    ++ run.filter ++ SelectDefinition.orderClause run.order ++ run.limit ++ run.offset
  params := run.bound.bound
  outputs := run.items.map (·.field)

/-- A select compiles exactly if it says what it must and its run goes through. -/
theorem compile_eq_ok {s : Statement} :
    d.compile r = .ok s ↔ d.name ≠ "" ∧ d.fromTable ≠ "" ∧ d.getColumns ≠ [] ∧
      (d.offset = true → d.limit = true) ∧ ∃ run : SelectRun r d, s = run.statement := by
  have hpaging : (d.limit || !d.offset) = true ↔ (d.offset = true → d.limit = true) := by
    cases d.limit <;> cases d.offset <;> simp
  simp only [SelectDefinition.compile, SelectDefinition.build, within_eq_ok, bind_eq_ok,
    ensure_eq_ok, pure_eq_ok, Prod.exists, hpaging, decide_eq_true_eq, Bool.not_eq_true',
    List.isEmpty_eq_false_iff]
  constructor
  · rintro ⟨-, hname, -, hfrom, -, hselects, t, ht, source, hsource, filter, ps₁, hfilter, items,
      ps₂, hitems, order, ps₃, horder, -, hpaged, limit, ps₄, hlimit, offset, ps₅, hoffset, rfl⟩
    exact ⟨hname, hfrom, hselects, hpaged, ⟨t, source, filter, ps₁, items, ps₂, order, ps₃, limit,
      ps₄, offset, ps₅, ht, hsource, hfilter, hitems, horder, hlimit, hoffset⟩, rfl⟩
  · rintro ⟨hname, hfrom, hselects, hpaged, run, rfl⟩
    exact ⟨(), hname, (), hfrom, (), hselects, _, run.found, _, run.joined, _, _, run.filters, _, _,
      run.selects, _, _, run.orders, (), hpaged, _, _, run.limits, _, _, run.offsets, rfl⟩

theorem of_compile {s : Statement} (h : d.compile r = .ok s) :
    ∃ run : SelectRun r d, s = run.statement := by
  obtain ⟨-, -, -, -, hrun⟩ := compile_eq_ok.mp h
  exact hrun

theorem table_name (run : SelectRun r d) : run.table.name = d.fromTable :=
  (Registry.table_ok run.found).2

theorem start_alias (run : SelectRun r d) :
    d.aliasName.getD run.table.name = d.primaryAlias := by
  rw [run.table_name, SelectDefinition.primaryAlias]

theorem defaultAlias (run : SelectRun r d) : run.source.scope.defaultAlias = d.primaryAlias :=
  (FromClause.joinAll_writes run.joined).1.trans run.start_alias

theorem entries (run : SelectRun r d) : run.source.scope.entries = d.sources r := by
  rw [(FromClause.joinAll_writes run.joined).2.1, run.start_alias, SelectDefinition.sources,
    (Registry.table_ok run.found).1]
  rfl

end SelectRun

namespace SelectDefinition

def sites (d : SelectDefinition) : List Site :=
  d.joins.flatMap (JoinDefinition.sites d.primaryAlias)
    ++ d.condition.toList.flatMap (Condition.whereSites d.primaryAlias)
    ++ d.getColumns.flatMap (GetColumn.sites d.primaryAlias)
    ++ d.orderBy.flatMap (OrderBy.sites d.primaryAlias)
    ++ (if d.limit then [.limit] else []) ++ (if d.offset then [.offset] else [])

def mentioned (r : Registry) (d : SelectDefinition) : List String :=
  d.fromTable :: d.primaryAlias :: d.joins.flatMap JoinDefinition.mentioned
    ++ d.condition.toList.flatMap Condition.mentioned
    ++ d.getColumns.flatMap (GetColumn.mentioned d.primaryAlias (d.sources r))
    ++ d.orderBy.flatMap OrderBy.mentioned

theorem forall_mentioned {r : Registry} {d : SelectDefinition} {P : String → Prop} :
    (∀ n ∈ d.mentioned r, P n) ↔ P d.fromTable ∧ P d.primaryAlias ∧
      (∀ j ∈ d.joins, ∀ n ∈ j.mentioned, P n) ∧
      (∀ n ∈ d.condition.toList.flatMap Condition.mentioned, P n) ∧
      (∀ g ∈ d.getColumns, ∀ n ∈ g.mentioned d.primaryAlias (d.sources r), P n) ∧
      (∀ o ∈ d.orderBy, ∀ n ∈ o.mentioned, P n) := by
  simp only [mentioned, List.cons_append, List.forall_mem_cons, List.forall_mem_append,
    List.forall_mem_flatMap, and_assoc]

def Plain (r : Registry) (d : SelectDefinition) : Prop := ∀ n ∈ d.mentioned r, IsName n

end SelectDefinition

namespace SelectRun

variable {r : Registry} {d : SelectDefinition}

theorem joins_write (run : SelectRun r d) :
    ∃ tail, run.source.sql = FromClause.source d.fromTable d.primaryAlias ++ tail ∧ Stops tail ∧
      Writes (d.Plain r) .empty (d.joins.flatMap (JoinDefinition.sites d.primaryAlias))
        (placeholders tail) run.source.params := by
  obtain ⟨-, -, tail, hsql, htail, hw⟩ := FromClause.joinAll_writes run.joined
  rw [run.start_alias] at hsql hw
  refine ⟨tail, by rw [hsql, ← run.table_name]; rfl, htail, hw.weaken fun hp => ?_⟩
  obtain ⟨-, ha, hjoins, -⟩ := SelectDefinition.forall_mentioned.mp hp
  exact ⟨ha, hjoins⟩

theorem filter_writes (run : SelectRun r d) : Stops run.filter ∧
    Writes (d.Plain r) run.source.params
      (d.condition.toList.flatMap (Condition.whereSites d.primaryAlias)) (placeholders run.filter)
      run.filtered := by
  obtain ⟨hstops, hw⟩ := SelectDefinition.whereClause_writes run.filters
  rw [run.defaultAlias] at hw
  refine ⟨hstops, hw.weaken fun hp => ?_⟩
  obtain ⟨-, ha, -, hcondition, -⟩ := SelectDefinition.forall_mentioned.mp hp
  exact ⟨ha, hcondition⟩

theorem items_write (run : SelectRun r d) :
    Writes (d.Plain r) run.filtered (d.getColumns.flatMap (GetColumn.sites d.primaryAlias))
      (run.items.flatMap fun i => placeholders i.sql) run.selected := by
  have hw := selectItems_writes run.selects
  rw [run.defaultAlias, run.entries] at hw
  refine hw.weaken fun hp => ?_
  obtain ⟨-, ha, -, -, hcolumns, -⟩ := SelectDefinition.forall_mentioned.mp hp
  exact ⟨ha, hcolumns⟩

theorem order_writes (run : SelectRun r d) :
    Writes (d.Plain r) run.selected (d.orderBy.flatMap (OrderBy.sites d.primaryAlias))
      (run.order.flatMap placeholders) run.ordered := by
  have hw := OrderBy.compileAll_writes run.orders
  rw [run.defaultAlias] at hw
  refine hw.weaken fun hp => ?_
  obtain ⟨-, ha, -, -, -, horder⟩ := SelectDefinition.forall_mentioned.mp hp
  exact ⟨ha, horder⟩

/-- A compiled select binds its sites in order, and its text has their placeholders, those of the
select list before all others. -/
theorem writes (run : SelectRun r d) :
    (∃ bs : List Param, bs.map (·.name) = Site.names d.sites ∧
      Params.empty.bindAll bs = .ok run.bound) ∧
    (d.Plain r → (placeholders run.statement.sql).Perm (Site.names d.sites)) := by
  obtain ⟨tail, hsql, htail, hjoins⟩ := run.joins_write
  obtain ⟨hfilter, hwhere⟩ := run.filter_writes
  obtain ⟨hlimit, hlimits⟩ := paging_writes .limit run.limits (by decide) (by decide)
  obtain ⟨hoffset, hoffsets⟩ := paging_writes .offset run.offsets (by decide) (by decide)
  obtain ⟨horder, horderStops⟩ := SelectDefinition.orderClause_spells run.order
  have hall := ((((hjoins.append hwhere).append run.items_write).append run.order_writes).append
    (hlimits.weaken fun _ => trivial)).append (hoffsets.weaken fun _ => trivial)
  refine ⟨hall.binds, fun hp => ?_⟩
  obtain ⟨htable, ha, -⟩ := SelectDefinition.forall_mentioned.mp hp
  have hsource : Unmarked (" FROM " ++ FromClause.source d.fromTable d.primaryAlias) := by
    simp +decide [FromClause.source_unmarked htable.unmarked ha.unmarked]
  have htext : placeholders run.statement.sql =
      (run.items.flatMap fun i => placeholders i.sql) ++ (placeholders tail
        ++ placeholders run.filter) ++ run.order.flatMap placeholders ++ placeholders run.limit
        ++ placeholders run.offset := by
    unfold statement
    simp only [hsql]
    rw [placeholders_append hoffset, placeholders_append hlimit, placeholders_append horderStops,
      placeholders_append hfilter, horder, ← String.append_assoc, placeholders_append htail,
      String.append_assoc, placeholders_append (stops_append (by decide) (by decide)),
      placeholders_of_unmarked hsource, placeholders_unmarked_append (by decide),
      placeholders_comma, List.flatMap_map, List.append_nil]
    simp only [List.append_assoc]
  have hsites : Site.names d.sites = (placeholders tail ++ placeholders run.filter)
      ++ (run.items.flatMap fun i => placeholders i.sql) ++ run.order.flatMap placeholders
      ++ placeholders run.limit ++ placeholders run.offset := (hall.spells hp).symm
  rw [htext, hsites]
  exact ((List.perm_append_comm.append_right _).append_right _).append_right _

end SelectRun
end SchemaLoom
