import SchemaLoom.Proofs.Sql.Agreement
import SchemaLoom.Proofs.Sql.JoinSemantics

/-!
# Fields that are never null

A field of a select that is not nullable is not null in any row, whatever the tables hold and the
joins compare. The FROM clause collects the aliases that may be without a row; along a chain of
joins it keeps that every row has a stored row under every other alias. An alias is collected by its
own join, if that keeps rows without a partner, and by later joins that keep the joined table's.
-/
namespace SchemaLoom
open Compiled

namespace JoinDefinition

/-- The join keeps earlier rows without a partner in its table. -/
def KeepsEarlier (j : JoinDefinition) : Prop := j.joinType = "LEFT" ∨ j.joinType = "FULL"

/-- The join keeps rows of its table without a partner among earlier rows. -/
def KeepsJoined (j : JoinDefinition) : Prop := j.joinType = "RIGHT" ∨ j.joinType = "FULL"

/-- The alias of one of the joins may be without a row. -/
def Padded (js : List JoinDefinition) (a : String) : Prop :=
  ∃ before j after, js = before ++ j :: after ∧ j.sourceAlias = a ∧
    (j.KeepsEarlier ∨ ∃ k ∈ after, k.KeepsJoined)

theorem padded_cons {j : JoinDefinition} {js : List JoinDefinition} {a : String} :
    Padded (j :: js) a ↔
      j.sourceAlias = a ∧ (j.KeepsEarlier ∨ ∃ k ∈ js, k.KeepsJoined) ∨ Padded js a := by
  constructor
  · rintro ⟨before, k, after, heq, ha, hpads⟩
    cases before with
    | nil =>
      cases heq
      exact .inl ⟨ha, hpads⟩
    | cons b before =>
      cases heq
      exact .inr ⟨before, k, after, rfl, ha, hpads⟩
  · rintro (⟨ha, hpads⟩ | ⟨before, k, after, rfl, ha, hpads⟩)
    · exact ⟨[], j, js, rfl, ha, hpads⟩
    · exact ⟨j :: before, k, after, rfl, ha, hpads⟩

end JoinDefinition

/-- An alias of a select may be without a row: its own join keeps rows without a partner, or a
later join keeps rows of its table without one. -/
def SelectDefinition.Padded (d : SelectDefinition) (a : String) : Prop :=
  a = d.primaryAlias ∧ (∃ k ∈ d.joins, k.KeepsJoined) ∨ JoinDefinition.Padded d.joins a

namespace FromClause

theorem padsJoined_iff {d : JoinDefinition} {j : JoinType} (h : JoinType.parse d.joinType = .ok j) :
    j.padsJoined = true ↔ d.KeepsEarlier := by
  unfold JoinType.parse at h
  unfold JoinDefinition.KeepsEarlier
  split at h <;> cases h <;> simp_all [JoinType.padsJoined]

theorem padsEarlier_iff {d : JoinDefinition} {j : JoinType}
    (h : JoinType.parse d.joinType = .ok j) : j.padsEarlier = true ↔ d.KeepsJoined := by
  unfold JoinType.parse at h
  unfold JoinDefinition.KeepsJoined
  split at h <;> cases h <;> simp_all [JoinType.padsEarlier]

variable {r : Registry} {f next : FromClause}

theorem mem_outer_join {d : JoinDefinition} (h : f.join r d = .ok next) {a : String} :
    a ∈ next.outer ↔ a ∈ f.outer ∨ (a ∈ f.scope.aliases ∧ d.KeepsJoined) ∨
      (d.sourceAlias = a ∧ d.KeepsEarlier) := by
  obtain ⟨j, -, -, hj, -, -, -, -, houter, -⟩ := join_ok h
  rw [houter, ← padsJoined_iff hj, ← padsEarlier_iff hj, padded]
  cases j.padsEarlier <;> cases j.padsJoined <;> simp [eq_comm]

theorem aliases_join {d : JoinDefinition} (h : f.join r d = .ok next) :
    next.scope.aliases = f.scope.aliases ++ [d.sourceAlias] := by
  obtain ⟨_, t, _, -, -, -, hscope, -⟩ := join_ok h
  simp [hscope, Scope.aliases]

theorem mem_outer_joinAll {ds : List JoinDefinition} (h : f.joinAll r ds = .ok next) {a : String} :
    a ∈ next.outer ↔ a ∈ f.outer ∨ (a ∈ f.scope.aliases ∧ ∃ k ∈ ds, k.KeepsJoined) ∨
      JoinDefinition.Padded ds a := by
  induction ds generalizing f with
  | nil =>
    cases h
    simp [JoinDefinition.Padded]
  | cons d ds ih =>
    simp only [joinAll, bind_eq_ok] at h
    obtain ⟨mid, hmid, h⟩ := h
    have hlater : (∃ k ∈ d :: ds, k.KeepsJoined) ↔ d.KeepsJoined ∨ ∃ k ∈ ds, k.KeepsJoined := by
      simp
    have hknown : a ∈ mid.scope.aliases ↔ a ∈ f.scope.aliases ∨ d.sourceAlias = a := by
      simp [aliases_join hmid, eq_comm]
    rw [ih h, mem_outer_join hmid, JoinDefinition.padded_cons, hlater, hknown]
    grind

variable {V : Type} {db : Database V} {on : JoinDefinition → JoinedRow V → Bool}

/-- The row has a stored row of the table under the alias, or the alias has been collected. -/
def Holds (db : Database V) (outer : List String) (row : JoinedRow V) (e : String × Table) : Prop :=
  (∃ stored ∈ db e.2.name, row e.1 = some stored) ∨ row e.1 = none ∧ e.1 ∈ outer

/-- Every row holds what the clause says about its aliases. -/
structure Sound (r : Registry) (db : Database V) (f : FromClause) (rows : List (JoinedRow V)) :
    Prop where
  known : ∀ e ∈ f.scope.entries, e.2 ∈ r.tables
  holds : ∀ row ∈ rows, ∀ e ∈ f.scope.entries, Holds db f.outer row e

theorem Sound.start {t : Table} (ht : t ∈ r.tables) (a : String) :
    Sound r db (.start t a)
      ((db t.name).map fun stored => JoinedRow.absent.place a (some stored)) := by
  have hentries : ∀ e ∈ (FromClause.start t a).scope.entries, e = (a, t) := by
    simp [FromClause.start, Scope.single]
  refine ⟨fun e he => hentries e he ▸ ht, fun row hrow e he => ?_⟩
  obtain ⟨s, hs, rfl⟩ := List.mem_map.mp hrow
  cases hentries e he
  exact .inl ⟨s, hs, JoinedRow.place_self ..⟩

/-- One join keeps the rows sound. -/
theorem Sound.join {d : JoinDefinition} {rows : List (JoinedRow V)} (hs : Sound r db f rows)
    (h : f.join r d = .ok next) {j : JoinType} (hj : JoinType.parse d.joinType = .ok j) :
    Sound r db next (j.rows (on d) d.sourceAlias rows (db d.table)) := by
  obtain ⟨_, t, _, -, ht, hfresh, hscope, -⟩ := join_ok h
  obtain ⟨hfind, hname⟩ := Registry.table_ok ht
  have hentries : ∀ e ∈ next.scope.entries, e ∈ f.scope.entries ∨ e = (d.sourceAlias, t) := by
    simp [hscope]
  refine ⟨fun e he => ?_, fun row hrow e he => ?_⟩
  · rcases hentries e he with he | rfl
    · exact hs.known e he
    · exact List.mem_of_find?_eq_some hfind
  · rcases hentries e he with he | rfl
    · -- an earlier alias keeps what it has, unless the joined row came alone
      have hne : e.1 ≠ d.sourceAlias := fun heq => hfresh (heq ▸ List.mem_map_of_mem he)
      have hkept {l : JoinedRow V} (hl : l ∈ rows) : Holds db next.outer l e :=
        (hs.holds l hl e he).imp_right fun ⟨hnone, hmem⟩ =>
          ⟨hnone, (mem_outer_join h).mpr (.inl hmem)⟩
      unfold Holds at hkept ⊢
      rcases JoinType.mem_rows hrow with ⟨l, hl, s, -, rfl⟩ | ⟨-, l, hl, rfl⟩ | ⟨hkeeps, s, -, rfl⟩
      · rw [JoinedRow.place_of_ne _ hne]
        exact hkept hl
      · rw [JoinedRow.place_of_ne _ hne]
        exact hkept hl
      · have hpads : j.padsEarlier = true := by rcases hkeeps with rfl | rfl <;> rfl
        rw [JoinedRow.place_of_ne _ hne]
        exact .inr ⟨rfl, (mem_outer_join h).mpr
          (.inr (.inl ⟨List.mem_map_of_mem he, (padsEarlier_iff hj).mp hpads⟩))⟩
    · rcases JoinType.mem_rows hrow with ⟨l, -, s, hmem, rfl⟩ | ⟨hkeeps, l, -, rfl⟩ | ⟨-, s, hmem, rfl⟩
      · exact .inl ⟨s, hname ▸ hmem, JoinedRow.place_self ..⟩
      · have hpads : j.padsJoined = true := by rcases hkeeps with rfl | rfl <;> rfl
        exact .inr ⟨JoinedRow.place_self .., (mem_outer_join h).mpr
          (.inr (.inr ⟨rfl, (padsJoined_iff hj).mp hpads⟩))⟩
      · exact .inl ⟨s, hname ▸ hmem, JoinedRow.place_self ..⟩

theorem Sound.joinAll {ds : List JoinDefinition} {rows : List (JoinedRow V)}
    (hs : Sound r db f rows) (h : f.joinAll r ds = .ok next) :
    Sound r db next (JoinDefinition.rowsAfter db on rows ds) := by
  induction ds generalizing f rows with
  | nil =>
    cases h
    exact hs
  | cons d ds ih =>
    simp only [FromClause.joinAll, bind_eq_ok] at h
    obtain ⟨mid, hmid, h⟩ := h
    obtain ⟨j, _, _, hj, -⟩ := join_ok hmid
    simp only [JoinDefinition.rowsAfter, hj]
    exact ih (hs.join hmid hj) h

end FromClause

namespace JoinType

theorem sql_of_parse {name : String} {j : JoinType} (h : parse name = .ok j) :
    j.sql = name ++ " JOIN" := by
  unfold parse at h
  split at h <;> cases h <;> rfl

end JoinType

namespace FromClause

variable {r : Registry} {f next : FromClause}

theorem join_spelled {d : JoinDefinition} (h : f.join r d = .ok next) :
    ∃ text, d.Spelled text ∧ next.sql = f.sql ++ text := by
  obtain ⟨j, t, clause, hj, ht, -, -, hclause, -, hsql⟩ := join_ok h
  refine ⟨_, ⟨clause, ?_, ?_⟩, hsql⟩
  · rw [JoinType.sql_of_parse hj, (Registry.table_ok ht).2]
    simp only [String.append_assoc]
    rfl
  · rcases onClause_ok hclause with ⟨hc, hempty, -⟩ | ⟨c, text, hc, htext, hon⟩ <;> rw [hc]
    · exact hempty
    · exact ⟨_, _, _, text, htext, hon⟩

theorem joinAll_spelled {ds : List JoinDefinition} (h : f.joinAll r ds = .ok next) :
    ∃ texts, List.Forall₂ JoinDefinition.Spelled ds texts ∧
      next.sql = f.sql ++ String.join texts := by
  induction ds generalizing f with
  | nil =>
    cases h
    exact ⟨[], .nil, String.append_empty.symm⟩
  | cons d ds ih =>
    simp only [joinAll, bind_eq_ok] at h
    obtain ⟨mid, hmid, h⟩ := h
    obtain ⟨text, htext, hsql⟩ := join_spelled hmid
    obtain ⟨texts, htexts, hrest⟩ := ih h
    refine ⟨text :: texts, .cons htext htexts, ?_⟩
    rw [hrest, hsql, String.append_assoc, String.join_cons]

end FromClause

theorem OrderBy.compileAll_nil {scope : Scope} {os : List OrderBy} {texts : List String}
    {ps next : Params} (h : compileAll scope os ps = .ok (texts, next)) : texts = [] ↔ os = [] := by
  cases os with
  | nil =>
    cases h
    exact iff_of_true rfl rfl
  | cons o os =>
    simp only [compileAll, bind_eq_ok, pure_eq_ok, Prod.exists, Prod.mk.injEq] at h
    obtain ⟨_, -, _, _, -, _, _, -, rfl, -⟩ := h
    exact iff_of_false (List.cons_ne_nil _ _) (List.cons_ne_nil _ _)

namespace SelectTerm

def item (outer : List String) : SelectTerm → SelectItem
  | .column a c => .ofColumn outer a c
  | .score a c => ⟨(SqlFunction.score.call a c).sql, SqlFunction.score.fieldName a c,
      SelectItem.fieldType outer a SqlFunction.score.resultType⟩

theorem item_sql (outer : List String) (term : SelectTerm) : (term.item outer).sql = term.sql := by
  cases term <;> rfl

theorem item_type (outer : List String) (term : SelectTerm) :
    (term.item outer).field.type = SelectItem.fieldType outer term.aliasName term.type := by
  cases term <;> rfl

/-- The term is about a table in scope. -/
def Resolves (entries : List (String × Table)) : SelectTerm → Prop
  | .column a c => ∃ t, (a, t) ∈ entries ∧ c ∈ t.columns
  | .score a _ => ∃ t, (a, t) ∈ entries

end SelectTerm

theorem flatMap_found {t : Table} {names : List String} {cols : List Column}
    (h : List.Forall₂ (fun n c => t.column n = .ok c) names cols) (a : String) :
    (names.flatMap fun n => (t.columns.find? (·.name = n)).toList.map (SelectTerm.column a)) =
      cols.map (.column a) := by
  induction h with
  | nil => rfl
  | cons hc _ ih =>
    have hfind := orError_eq_ok.mp hc
    rw [List.flatMap_cons, hfind, ih]
    rfl

namespace GetColumn

/-- Columns of one table in scope, as items and as terms. -/
theorem columns_terms {entries : List (String × Table)} {a : String} {t : Table}
    (ht : entries.find? (·.1 = a) = some (a, t)) (outer : List String) {cols : List Column}
    (hcols : ∀ c ∈ cols, c ∈ t.columns) {terms : List SelectTerm}
    (hterms : terms = cols.map (.column a)) :
    cols.map (.ofColumn outer a) = terms.map (SelectTerm.item outer) ∧
      ∀ term ∈ terms, term.Resolves entries := by
  subst hterms
  refine ⟨by rw [List.map_map]; rfl, fun term hterm => ?_⟩
  obtain ⟨c, hc, rfl⟩ := List.mem_map.mp hterm
  exact ⟨t, List.mem_of_find?_eq_some ht, hcols c hc⟩

/-- An entry of a select list is compiled to the items of its terms. -/
theorem expand_terms {scope : Scope} {outer : List String} {g : GetColumn} {e : Expansion}
    (h : g.expand scope outer = .ok e) :
    e.items = (g.terms scope.defaultAlias scope.entries).map (SelectTerm.item outer) ∧
      ∀ term ∈ g.terms scope.defaultAlias scope.entries, term.Resolves scope.entries := by
  cases g <;> simp only [expand, bind_eq_ok, pure_eq_ok, Prod.exists] at h
  case column name table =>
    obtain ⟨a, t, ht, c, hc, rfl⟩ := h
    obtain ⟨rfl, hfind⟩ := Scope.table_ok ht
    have hcolumn := orError_eq_ok.mp hc
    exact @columns_terms _ _ _ hfind outer [c] (by simpa using (Table.column_ok hc).2) _
      (by simp [terms, hfind, hcolumn])
  case all table =>
    obtain ⟨a, t, ht, rfl⟩ := h
    obtain ⟨rfl, hfind⟩ := Scope.table_ok ht
    exact columns_terms hfind outer (fun _ hc => hc) (by simp [terms, hfind])
  case group name table =>
    obtain ⟨a, t, ht, names, hnames, cols, hcols, rfl⟩ := h
    obtain ⟨rfl, hfind⟩ := Scope.table_ok ht
    obtain ⟨group, hgroup, rfl⟩ := Option.map_eq_some_iff.mp (orError_eq_ok.mp hnames)
    have hfound := groupColumns_ok hcols
    refine columns_terms hfind outer (mem_columns_of_found hfound) ?_
    rw [← flatMap_found hfound]
    simp [terms, hfind, hgroup]
  case call func name table =>
    obtain ⟨f, hf, a, t, ht, search, hs, rfl⟩ := h
    obtain ⟨rfl, hfind⟩ := Scope.table_ok ht
    cases f
    rw [(Table.searchColumn_ok hs).1]
    exact ⟨rfl, List.forall_mem_singleton.mpr ⟨t, List.mem_of_find?_eq_some hfind⟩⟩

end GetColumn

namespace SelectRun

variable {r : Registry} {d : SelectDefinition}

theorem items_terms (run : SelectRun r d) :
    run.items = (d.terms r).map (SelectTerm.item run.source.outer) ∧
      ∀ term ∈ d.terms r, term.Resolves run.source.scope.entries := by
  obtain ⟨es, hes, hitems, -⟩ := selectItems_ok run.selects
  have hsources := run.entries
  rw [SelectDefinition.terms, ← hsources, ← run.defaultAlias]
  constructor
  · rw [hitems, List.nil_append, List.map_flatMap]
    exact flatMap_eq_of_forall₂ hes fun g _ e he => (GetColumn.expand_terms he).1
  · intro term hterm
    obtain ⟨g, hg, hterm⟩ := List.mem_flatMap.mp hterm
    obtain ⟨e, he⟩ := exists_of_forall₂ hes hg
    exact (GetColumn.expand_terms he).2 term hterm

/-- Behind the FROM clause stands what the definition asks for. -/
theorem narrowed (run : SelectRun r d) : d.Narrowed
    (run.filter ++ SelectDefinition.orderClause run.order ++ run.limit ++ run.offset) := by
  have hfilter : ∃ filter,
      run.filter = if d.condition.isSome then " WHERE " ++ filter else "" := by
    rcases SelectDefinition.whereClause_ok run.filters with ⟨hc, htext, -⟩ | ⟨c, text, hc, -, htext⟩
    · exact ⟨"", by rw [htext, hc]; rfl⟩
    · exact ⟨text, by rw [htext, hc]; rfl⟩
  have horder : SelectDefinition.orderClause run.order =
      if d.orderBy = [] then "" else " ORDER BY " ++ ", ".intercalate run.order := by
    simp only [SelectDefinition.orderClause, List.isEmpty_iff, OrderBy.compileAll_nil run.orders]
  have hpage {wanted : Bool} {keyword name text : String} {ps next : Params}
      (h : ps.take (pagingDraft wanted keyword name) = .ok (text, next)) :
      text = if wanted then " " ++ keyword ++ " " ++ placeholder name else "" := by
    rw [(Params.take_eq_ok.mp h).1, pagingDraft]
    split <;> rfl
  obtain ⟨filter, hfilter⟩ := hfilter
  refine ⟨filter, ", ".intercalate run.order, ?_⟩
  rw [hfilter, horder, hpage run.limits, hpage run.offsets]
  rfl

theorem spelled (run : SelectRun r d) :
    d.Spelled ((d.terms r).map SelectTerm.sql) run.statement.sql := by
  have hjoined := run.joined
  rw [run.start_alias] at hjoined
  obtain ⟨joins, hjoins, hsource⟩ := FromClause.joinAll_spelled hjoined
  refine ⟨joins, _, hjoins, run.narrowed, ?_⟩
  have hitems : run.items.map (·.sql) = (d.terms r).map SelectTerm.sql := by
    rw [run.items_terms.1, List.map_map]
    exact List.map_congr_left fun term _ => term.item_sql _
  simp only [statement, hitems, hsource, FromClause.start, run.table_name, String.append_assoc]

theorem mem_outer (run : SelectRun r d) {a : String} : a ∈ run.source.outer ↔ d.Padded a := by
  rw [FromClause.mem_outer_joinAll run.joined, run.start_alias, SelectDefinition.Padded]
  simp [FromClause.start, Scope.single, Scope.aliases]

theorem sound {V : Type} (run : SelectRun r d) (db : Database V)
    (on : JoinDefinition → JoinedRow V → Bool) :
    FromClause.Sound r db run.source (d.fromRows db on) := by
  have ht : run.table ∈ r.tables := List.mem_of_find?_eq_some (Registry.table_ok run.found).1
  have hjoined := run.joined
  rw [run.start_alias] at hjoined
  have hrows : FromClause.Sound r db run.source (JoinDefinition.rowsAfter db on _ d.joins) :=
    (FromClause.Sound.start ht d.primaryAlias).joinAll hjoined
  rwa [run.table_name] at hrows

/-- A term of an alias that is not padded has a value in every row, if its column must have one. -/
theorem value_isSome {V : Type} (run : SelectRun r d) {db : Database V} (hdb : db.Respects r)
    {on : JoinDefinition → JoinedRow V → Bool} (score : String → StoredRow V → V)
    {row : JoinedRow V} (hrow : row ∈ d.fromRows db on) {term : SelectTerm}
    (hterm : term ∈ d.terms r) (htype : term.type.nullable = false)
    (hpadded : ¬d.Padded term.aliasName) : (term.value score row).isSome = true := by
  have hs := run.sound db on
  have hstored {t : Table} (ht : (term.aliasName, t) ∈ run.source.scope.entries) :
      ∃ stored ∈ db t.name, row term.aliasName = some stored :=
    (hs.holds row hrow _ ht).resolve_right fun hnone => hpadded (run.mem_outer.mp hnone.2)
  have hresolves := run.items_terms.2 term hterm
  cases term with
  | column a c =>
    obtain ⟨t, ht, hc⟩ := hresolves
    obtain ⟨stored, hmem, (heq : row a = some stored)⟩ := hstored ht
    have hvalue : (stored c.name).isSome = true := hdb t (hs.known _ ht) stored hmem c hc htype
    change ((row a).bind fun stored => stored c.name).isSome = true
    rwa [heq]
  | score a c =>
    obtain ⟨t, ht⟩ := hresolves
    obtain ⟨stored, -, (heq : row a = some stored)⟩ := hstored ht
    change ((row a).map (score c)).isSome = true
    rw [heq]
    rfl

end SelectRun

/-- The fields of a compiled select are its terms in order, and its text spells the terms and the
joins. A field is nullable exactly if its column is, or its alias may be without a row; a field that
is not is never null in the rows of these joins. -/
theorem output_nullability {V : Type} (r : Registry) (d : SelectDefinition) (s : Statement)
    (h : d.compile r = .ok s) (db : Database V) (hdb : db.Respects r)
    (on : JoinDefinition → JoinedRow V → Bool) (score : String → StoredRow V → V) :
    s.outputs.length = (d.terms r).length ∧
      d.Spelled ((d.terms r).map SelectTerm.sql) s.sql ∧
      ∀ (i : Nat) (o : OutputField) (term : SelectTerm),
        s.outputs[i]? = some o → (d.terms r)[i]? = some term →
          o.type.base = term.type.base ∧ o.type.isArray = term.type.isArray ∧
          (o.type.nullable = true ↔ term.type.nullable = true ∨ d.Padded term.aliasName) ∧
          (o.type.nullable = false →
            ∀ row ∈ d.fromRows db on, (term.value score row).isSome = true) := by
  obtain ⟨run, rfl⟩ := SelectRun.of_compile h
  obtain ⟨hitems, -⟩ := run.items_terms
  refine ⟨?_, run.spelled, fun i o term ho hterm => ?_⟩
  · simp [SelectRun.statement, hitems]
  · have htype : o.type = SelectItem.fieldType run.source.outer term.aliasName term.type := by
      simp only [SelectRun.statement, hitems, List.map_map, List.getElem?_map, hterm,
        Option.map_some, Option.some.injEq] at ho
      rw [← ho]
      exact term.item_type run.source.outer
    have hnullable : o.type.nullable = true ↔
        term.type.nullable = true ∨ d.Padded term.aliasName := by
      rw [htype, SelectItem.fieldType, ← run.mem_outer]
      split <;> simp_all [ColumnType.asNullable]
    refine ⟨?_, ?_, hnullable, fun hnot row hrow => ?_⟩
    · rw [htype, SelectItem.fieldType]
      split <;> rfl
    · rw [htype, SelectItem.fieldType]
      split <;> rfl
    · have hneither := hnullable.not.mp (by simp [hnot])
      rw [not_or, Bool.not_eq_true] at hneither
      exact run.value_isSome hdb score hrow (List.mem_of_getElem? hterm) hneither.1 hneither.2

/-- One note, and no author to join it with. -/
def Sample.contents : Database Nat := fun table =>
  if table = "notes" then [fun column => if column = "id" then some 1 else some 2] else []

/-- The birth year of a missing author is null; what the note itself holds is not. -/
theorem output_nullability_search :
    Sample.contents.Respects Sample.registry ∧
      ∃ s, Sample.search.compile Sample.registry = .ok s ∧
        s.outputs.map (·.type.nullable) = [false, false, false, false, true] ∧
        (Sample.search.fromRows Sample.contents fun _ _ => true).map (fun row =>
          (Sample.search.terms Sample.registry).map (·.value (fun _ _ => 3) row)) =
            [[some 1, some 2, some 2, some 3, none]] ∧
        ∀ row ∈ Sample.search.fromRows Sample.contents fun _ _ => true,
          ((SelectTerm.score "n" "words").value (fun _ _ => 3) row).isSome = true := by
  refine ⟨by decide, _, rfl, by decide, by decide, ?_⟩
  exact ((output_nullability Sample.registry Sample.search _ rfl Sample.contents (by decide)
    (fun _ _ => true) (fun _ _ => 3)).2.2 3 _ _ rfl rfl).2.2.2 (by decide)

end SchemaLoom
