import SchemaLoom.Proofs.Sql.Site

/-!
# Compiled inserts, updates and deletes

What each of these compilations goes through, and that the statement binds its sites in the order
in which its text has their placeholders: the values of an insert, the assignments of an update
and then the comparisons of its condition, the comparisons of a delete.
-/
namespace SchemaLoom
open Compiled Text

theorem placeholders_comma (texts : List String) :
    placeholders (", ".intercalate texts) = texts.flatMap placeholders :=
  placeholders_intercalate (by decide) (by decide) (by decide) texts

/-- A value is spelt as its parameter, where it has one. -/
theorem Column.valueDraft_faithful (c : Column) {param : String} (h : IsName param) :
    (c.valueDraft param).Faithful := by
  unfold valueDraft
  split
  · rfl
  · exact placeholders_placeholder h

theorem Column.valueDraft_names (c : Column) (param : String) :
    (c.valueDraft param).params.map (·.name) =
      if c.allowCommitTimestamp then [] else [param] := by
  unfold valueDraft
  split <;> rfl

theorem names_of_found {t : Table} {names : List String} {cols : List Column}
    (h : List.Forall₂ (fun n c => t.column n = .ok c) names cols) : cols.map (·.name) = names := by
  induction h with
  | nil => rfl
  | cons hc _ ih => rw [List.map_cons, (Table.column_ok hc).1, ih]

/-- The columns to set are found one by one, and none twice. -/
theorem settableColumns_eq_ok {t : Table} {done cols : List Column} {names : List String} :
    settableColumns t done names = .ok cols ↔ ∃ new, cols = done ++ new ∧
      List.Forall₂ (fun n c => t.column n = .ok c) names new ∧
      Fresh (done.map (·.name)) names := by
  induction names generalizing done with
  | nil => simp [settableColumns, eq_comm]
  | cons name names ih =>
    simp only [settableColumns, bind_eq_ok, ensure_eq_ok, ih, List.forall₂_cons_left_iff,
      fresh_cons, List.map_append, List.map_cons, List.map_nil]
    have hseen (c : Column) : (!done.any (·.name = c.name)) = true ↔
        c.name ∉ done.map (·.name) := by simp
    constructor
    · rintro ⟨c, hc, -, hnew, new, rfl, hfound, hfresh⟩
      rw [hseen, (Table.column_ok hc).1] at hnew
      rw [(Table.column_ok hc).1] at hfresh
      exact ⟨c :: new, by simp, ⟨c, new, hc, hfound, rfl⟩, hnew, hfresh⟩
    · rintro ⟨_, rfl, ⟨c, new, hc, hfound, rfl⟩, hnew, hfresh⟩
      rw [← (Table.column_ok hc).1] at hnew hfresh
      exact ⟨c, hc, (), (hseen c).mpr hnew, new, by simp, hfound, hfresh⟩

theorem settableColumns_ok {t : Table} {cols : List Column} {names : List String}
    (h : settableColumns t [] names = .ok cols) :
    List.Forall₂ (fun n c => t.column n = .ok c) names cols ∧ names.Nodup := by
  obtain ⟨_, rfl, hfound, hfresh⟩ := settableColumns_eq_ok.mp h
  exact ⟨hfound, fresh_of_nothing.mp hfresh⟩

theorem mem_columns_of_found {t : Table} {names : List String} {cols : List Column}
    (h : List.Forall₂ (fun n c => t.column n = .ok c) names cols) : ∀ c ∈ cols, c ∈ t.columns := by
  induction h with
  | nil => simp
  | cons hc _ ih => exact List.forall_mem_cons.mpr ⟨(Table.column_ok hc).2, ih⟩

/-- Every name is found where the table has a column for it. -/
theorem Table.exists_found {t : Table} (h : (t.columns.map (·.name)).Nodup) {names : List String}
    (hnames : ∀ n ∈ names, ∃ c ∈ t.columns, c.name = n) :
    ∃ cols, List.Forall₂ (fun n c => t.column n = .ok c) names cols := by
  apply exists_forall₂
  intro n hn
  obtain ⟨c, hc⟩ := hnames n hn
  exact ⟨c, (Table.column_eq_ok h).mpr hc⟩

/-- The columns among `names` that take a parameter: all but the commit timestamps. -/
def Registry.valueColumns (r : Registry) (table : String) (names : List String) : List String :=
  names.filter fun n =>
    !(r.find? table).any fun t => (t.columns.find? (·.name = n)).any (·.allowCommitTimestamp)

section Values

variable {r : Registry} {table : String} {t : Table} {names : List String} {cols : List Column}

/-- The parameters of the values are one for every column that takes one, of its full type. -/
theorem values_params (param : Column → String) (cols : List Column) :
    (cols.flatMap fun c => (c.valueDraft (param c)).params) =
      (cols.filter fun c => !c.allowCommitTimestamp).map fun c => ⟨param c, c.type⟩ := by
  induction cols with
  | nil => rfl
  | cons c cols ih =>
    rw [List.flatMap_cons, ih, Column.valueDraft]
    cases hstamp : c.allowCommitTimestamp <;> simp [hstamp]

/-- The parameters of the values are the sites of the columns that take one. -/
theorem values_names (f : String → Site) (ht : r.find? table = some t)
    (h : List.Forall₂ (fun n c => t.column n = .ok c) names cols) :
    (cols.flatMap fun c => (c.valueDraft (f c.name).name).params).map (·.name) =
      Site.names ((r.valueColumns table names).map f) := by
  induction h with
  | nil => rfl
  | @cons n c names cols hc _ ih =>
    have hf : t.columns.find? (·.name = n) = some c := orError_eq_ok.mp hc
    have hname := (Table.column_ok hc).1
    rw [List.flatMap_cons, List.map_append, ih, Column.valueDraft_names, hname]
    simp only [Registry.valueColumns, List.filter_cons, ht, Option.any_some, hf]
    cases c.allowCommitTimestamp <;> rfl

theorem values_spells (f : String → Site) (hplain : ∀ c ∈ cols, IsName (f c.name).name) :
    (cols.flatMap fun c => placeholders (c.valueDraft (f c.name).name).sql) =
      (cols.flatMap fun c => (c.valueDraft (f c.name).name).params).map (·.name) := by
  induction cols with
  | nil => rfl
  | cons c cols ih =>
    have hc : (c.valueDraft (f c.name).name).Faithful :=
      c.valueDraft_faithful (hplain c (by simp))
    rw [List.flatMap_cons, List.flatMap_cons, List.map_append, hc,
      ih fun c' hc' => hplain c' (by simp [hc'])]

end Values

namespace InsertDefinition

def sites (r : Registry) (d : InsertDefinition) : List Site :=
  (r.valueColumns d.table d.setColumns).map .given

def mentioned (d : InsertDefinition) : List String := d.table :: d.setColumns

/-- An insert compiles exactly if it says what it must and its steps go through. -/
theorem compile_eq_ok {r : Registry} {d : InsertDefinition} {s : Statement} :
    d.compile r = .ok s ↔ d.name ≠ "" ∧ d.table ≠ "" ∧ d.setColumns ≠ [] ∧
      ∃ (t : Table) (verb : String) (cols : List Column) (ps : Params),
        r.table d.table = .ok t ∧ d.verb = .ok verb ∧
        settableColumns t [] d.setColumns = .ok cols ∧
        Params.empty.bindAll (cols.flatMap fun c => (c.valueDraft c.name).params) = .ok ps ∧
        s = { name := d.name, kind := .insert
              sql := verb ++ " " ++ t.name ++ " (" ++ ", ".intercalate d.setColumns ++ ") VALUES ("
                ++ ", ".intercalate (cols.map fun c => (c.valueDraft c.name).sql) ++ ")"
              params := ps.bound } := by
  simp only [compile, build, within_eq_ok, bind_eq_ok, ensure_eq_ok, pure_eq_ok,
    List.flatMap_map, List.map_map, decide_eq_true_eq, Bool.not_eq_true',
    List.isEmpty_eq_false_iff]
  constructor
  · rintro ⟨-, hname, -, htable, -, hset, t, ht, verb, hverb, cols, hcols, ps, hps, rfl⟩
    exact ⟨hname, htable, hset, t, verb, cols, ps, ht, hverb, hcols, hps, rfl⟩
  · rintro ⟨hname, htable, hset, t, verb, cols, ps, ht, hverb, hcols, hps, rfl⟩
    exact ⟨(), hname, (), htable, (), hset, t, ht, verb, hverb, cols, hcols, ps, hps, rfl⟩

theorem unmarked_verb {d : InsertDefinition} {verb : String} (h : d.verb = .ok verb) :
    Unmarked verb := by
  unfold InsertDefinition.verb at h
  split at h
  · obtain ⟨mode, -, rfl⟩ := map_eq_ok.mp h
    cases mode <;> decide
  · cases h
    decide

theorem writes {r : Registry} {d : InsertDefinition} {s : Statement} (h : d.compile r = .ok s) :
    Writes (∀ n ∈ d.mentioned, IsName n) .empty (d.sites r) (placeholders s.sql) ⟨s.params⟩ := by
  obtain ⟨-, -, -, t, verb, cols, ps, ht, hverb, hcols, hps, rfl⟩ := compile_eq_ok.mp h
  obtain ⟨hfound, -⟩ := settableColumns_ok hcols
  obtain ⟨hfind, htname⟩ := Registry.table_ok ht
  have hnames := values_names .given hfind hfound
  refine ⟨⟨_, hnames, hps⟩, fun hplain => ?_⟩
  have hcolumn : ∀ n ∈ d.setColumns, IsName n := fun n hn => hplain n (by simp [mentioned, hn])
  have hlist : Unmarked (", ".intercalate d.setColumns) :=
    unmarked_intercalate (by decide) fun n hn => (hcolumn n hn).unmarked
  have htable : Unmarked t.name := htname ▸ (hplain d.table (by simp [mentioned])).unmarked
  have hcols : ∀ c ∈ cols, IsName c.name := fun c hc =>
    hcolumn _ (names_of_found hfound ▸ List.mem_map_of_mem hc)
  rw [placeholders_append (by decide), placeholders_unmarked_append, placeholders_comma,
    List.flatMap_map]
  · exact (List.append_nil _).trans ((values_spells .given hcols).trans hnames)
  · simp +decide [unmarked_verb hverb, htable, hlist]

end InsertDefinition

/-- The condition of an update or a delete sees one table under its own name. -/
theorem tableWhere_writes {t : Table} {c : Condition} {ps next : Params} {text : String}
    (h : c.compileWhere (Scope.single t.name t) ps = .ok (text, next)) :
    Writes (IsName t.name ∧ ∀ n ∈ c.mentioned, IsName n) ps (c.whereSites t.name)
      (placeholders text) next :=
  Condition.compileWhere_writes h

namespace UpdateDefinition

def sites (r : Registry) (d : UpdateDefinition) : List Site :=
  (r.valueColumns d.table d.setColumns).map .assigned
    ++ d.condition.toList.flatMap (Condition.whereSites d.table)

def mentioned (d : UpdateDefinition) : List String :=
  d.table :: d.setColumns ++ d.condition.toList.flatMap Condition.mentioned

theorem assignments_eq_ok {t : Table} {cols : List Column} {ps next : Params}
    {sets : List String} :
    assignments t cols ps = .ok (sets, next) ↔ (∀ c ∈ cols, t.isPrimaryKey c.name = false) ∧
      ps.bindAll (cols.flatMap fun c => (c.valueDraft (setParam c.name)).params) = .ok next ∧
      sets = cols.map fun c => c.name ++ " = " ++ (c.valueDraft (setParam c.name)).sql := by
  induction cols generalizing ps next sets with
  | nil =>
    rw [assignments, Except.ok.injEq, Prod.mk.injEq]
    constructor
    · rintro ⟨rfl, rfl⟩
      exact ⟨by simp, rfl, rfl⟩
    · rintro ⟨-, hbind, rfl⟩
      cases hbind
      exact ⟨rfl, rfl⟩
  | cons c cols ih =>
    simp only [assignments, bind_eq_ok, ensure_eq_ok, pure_eq_ok, Prod.exists, Prod.mk.injEq,
      Params.take_eq_ok, ih, List.forall_mem_cons, List.flatMap_cons, Params.bindAll_append,
      Bool.not_eq_true', List.map_cons]
    constructor
    · rintro ⟨-, hkey, _, mid, ⟨rfl, hbind⟩, _, _, ⟨hkeys, hbinds, rfl⟩, rfl, rfl⟩
      exact ⟨⟨hkey, hkeys⟩, ⟨mid, hbind, hbinds⟩, rfl⟩
    · rintro ⟨⟨hkey, hkeys⟩, ⟨mid, hbind, hbinds⟩, rfl⟩
      exact ⟨(), hkey, _, mid, ⟨rfl, hbind⟩, _, next, ⟨hkeys, hbinds, rfl⟩, rfl, rfl⟩

/-- An update compiles exactly if it says what it must and its steps go through. -/
theorem compile_eq_ok {r : Registry} {d : UpdateDefinition} {s : Statement} :
    d.compile r = .ok s ↔ d.name ≠ "" ∧ d.table ≠ "" ∧ d.setColumns ≠ [] ∧
      ∃ (condition : Condition) (t : Table) (cols : List Column) (sets : List String) (set : Params)
        (text : String) (ps : Params),
        d.condition = some condition ∧ r.table d.table = .ok t ∧
        settableColumns t [] d.setColumns = .ok cols ∧
        assignments t cols .empty = .ok (sets, set) ∧
        condition.compileWhere (Scope.single t.name t) set = .ok (text, ps) ∧
        s = { name := d.name, kind := .update
              sql := "UPDATE " ++ t.name ++ " SET " ++ ", ".intercalate sets ++ " WHERE " ++ text
              params := ps.bound } := by
  simp only [compile, build, compileTableWhere, within_eq_ok, bind_eq_ok, ensure_eq_ok,
    orError_eq_ok, pure_eq_ok, Prod.exists, decide_eq_true_eq, Bool.not_eq_true',
    List.isEmpty_eq_false_iff]
  constructor
  · rintro ⟨-, hname, -, htable, -, hset, c, hc, t, ht, cols, hcols, sets, set, hsets, text, ps, hps,
      rfl⟩
    exact ⟨hname, htable, hset, c, t, cols, sets, set, text, ps, hc, ht, hcols, hsets, hps, rfl⟩
  · rintro ⟨hname, htable, hset, c, t, cols, sets, set, text, ps, hc, ht, hcols, hsets, hps, rfl⟩
    exact ⟨(), hname, (), htable, (), hset, c, hc, t, ht, cols, hcols, sets, set, hsets, text, ps,
      hps, rfl⟩

theorem isName_setParam {c : String} (h : IsName c) : IsName (setParam c) := by
  have hset : IsName "set" := by decide
  exact hset.append h.upperCamel

/-- The assignments write the sites of the columns that take a parameter. -/
theorem assignments_writes {r : Registry} {table : String} {t : Table} {names : List String}
    {cols : List Column} {sets : List String} {next : Params} (ht : r.find? table = some t)
    (hfound : List.Forall₂ (fun n c => t.column n = .ok c) names cols)
    (h : assignments t cols .empty = .ok (sets, next)) :
    Writes (∀ n ∈ names, IsName n) .empty ((r.valueColumns table names).map .assigned)
      (sets.flatMap placeholders) next := by
  obtain ⟨-, hbinds, rfl⟩ := assignments_eq_ok.mp h
  have hnames := values_names .assigned ht hfound
  refine ⟨⟨_, hnames, hbinds⟩, fun hplain => ?_⟩
  have hcol : ∀ c ∈ cols, IsName c.name := fun c hc =>
    hplain _ (names_of_found hfound ▸ List.mem_map_of_mem hc)
  have hvalues : ∀ c ∈ cols,
      placeholders (c.name ++ " = " ++ (c.valueDraft (setParam c.name)).sql) =
        placeholders (c.valueDraft (setParam c.name)).sql := by
    intro c hc
    exact placeholders_unmarked_append (by simp +decide [(hcol c hc).unmarked])
  rw [List.flatMap_map, List.flatMap_congr hvalues]
  exact (values_spells .assigned fun c hc => isName_setParam (hcol c hc)).trans hnames

theorem writes {r : Registry} {d : UpdateDefinition} {s : Statement} (h : d.compile r = .ok s) :
    Writes (∀ n ∈ d.mentioned, IsName n) .empty (d.sites r) (placeholders s.sql) ⟨s.params⟩ := by
  obtain ⟨-, -, -, c, t, cols, sets, set, text, ps, hc, ht, hcols, hsets, hps, rfl⟩ :=
    compile_eq_ok.mp h
  obtain ⟨hfound, -⟩ := settableColumns_ok hcols
  obtain ⟨hfind, htname⟩ := Registry.table_ok ht
  have hset := (assignments_writes hfind hfound hsets).weaken
    (fun hplain : ∀ n ∈ d.mentioned, IsName n => fun n hn => hplain n (by simp [mentioned, hn]))
  have hwhere := (tableWhere_writes hps).weaken
    (fun hplain : ∀ n ∈ d.mentioned, IsName n =>
      ⟨hplain t.name (by simp [mentioned, htname]),
        fun n hn => hplain n (by simp [mentioned, hc, hn])⟩)
  have hall := hset.append hwhere
  have hsites : d.sites r = (r.valueColumns d.table d.setColumns).map .assigned
      ++ c.whereSites t.name := by simp [sites, hc, htname]
  rw [hsites]
  refine ⟨hall.binds, fun hplain => ?_⟩
  have htable : Unmarked t.name := (hplain t.name (by simp [mentioned, htname])).unmarked
  rw [← hall.spells hplain, String.append_assoc,
    placeholders_append (stops_append (by decide) (by decide)),
    placeholders_unmarked_append (by simp +decide [htable]), placeholders_comma,
    placeholders_unmarked_append (by decide)]

end UpdateDefinition

namespace DeleteDefinition

def sites (d : DeleteDefinition) : List Site :=
  d.condition.toList.flatMap (Condition.whereSites d.table)

def mentioned (d : DeleteDefinition) : List String :=
  d.table :: d.condition.toList.flatMap Condition.mentioned

/-- A delete compiles exactly if it says what it must and its condition compiles. -/
theorem compile_eq_ok {r : Registry} {d : DeleteDefinition} {s : Statement} :
    d.compile r = .ok s ↔ d.name ≠ "" ∧ d.table ≠ "" ∧
      ∃ (condition : Condition) (t : Table) (text : String) (ps : Params),
        d.condition = some condition ∧ r.table d.table = .ok t ∧
        condition.compileWhere (Scope.single t.name t) .empty = .ok (text, ps) ∧
        s = { name := d.name, kind := .delete
              sql := "DELETE FROM " ++ t.name ++ " WHERE " ++ text
              params := ps.bound } := by
  simp only [compile, build, compileTableWhere, within_eq_ok, bind_eq_ok, ensure_eq_ok,
    orError_eq_ok, pure_eq_ok, Prod.exists, decide_eq_true_eq]
  constructor
  · rintro ⟨-, hname, -, htable, c, hc, t, ht, text, ps, hps, rfl⟩
    exact ⟨hname, htable, c, t, text, ps, hc, ht, hps, rfl⟩
  · rintro ⟨hname, htable, c, t, text, ps, hc, ht, hps, rfl⟩
    exact ⟨(), hname, (), htable, c, hc, t, ht, text, ps, hps, rfl⟩

theorem writes {r : Registry} {d : DeleteDefinition} {s : Statement} (h : d.compile r = .ok s) :
    Writes (∀ n ∈ d.mentioned, IsName n) .empty d.sites (placeholders s.sql) ⟨s.params⟩ := by
  obtain ⟨-, -, c, t, text, ps, hc, ht, hps, rfl⟩ := compile_eq_ok.mp h
  have htname := (Registry.table_ok ht).2
  have hwhere := (tableWhere_writes hps).weaken
    (fun hplain : ∀ n ∈ d.mentioned, IsName n =>
      ⟨hplain t.name (by simp [mentioned, htname]),
        fun n hn => hplain n (by simp [mentioned, hc, hn])⟩)
  have hsites : d.sites = c.whereSites t.name := by simp [sites, hc, htname]
  rw [hsites]
  refine ⟨hwhere.binds, fun hplain => ?_⟩
  have htable : Unmarked t.name := (hplain t.name (by simp [mentioned, htname])).unmarked
  refine Eq.trans ?_ (hwhere.spells hplain)
  exact placeholders_unmarked_append (by simp +decide [htable])

end DeleteDefinition
end SchemaLoom
