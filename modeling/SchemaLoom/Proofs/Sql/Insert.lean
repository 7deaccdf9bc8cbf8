import SchemaLoom.Proofs.Ddl.Validity
import SchemaLoom.Proofs.Sql.Statement

/-!
# Which inserts are accepted

An insert binds its parameters by the names of its columns. Registered columns are named and
distinct, so neither can a binding fail nor can two columns meet in one parameter: an insert
compiles exactly if its columns are there and none is listed twice. Its values then follow its
columns position by position.
-/
namespace SchemaLoom
open Compiled

namespace InsertDefinition

/-- The insert can be compiled against the registry. -/
structure Accepted (r : Registry) (d : InsertDefinition) : Prop where
  named : d.name ≠ ""
  tableNamed : d.table ≠ ""
  setsColumns : d.setColumns ≠ []
  conflict : d.onConflict = none ∨ d.onConflict = some "IGNORE" ∨ d.onConflict = some "UPDATE"
  columns : ∃ t ∈ r.tables, t.name = d.table ∧ ∀ n ∈ d.setColumns, ∃ c ∈ t.columns, c.name = n
  distinct : d.setColumns.Nodup

/-- How an insert is written: the columns in their order, a value for each of them at the same
position, and a parameter of its full type for each column that does not take the commit time. -/
structure WrittenAs (r : Registry) (d : InsertDefinition) (s : Statement) (t : Table)
    (cols : List Column) (word : String) (values : List String) : Prop where
  registered : t ∈ r.tables ∧ t.name = d.table
  columns : List.Forall₂ (fun n c => c ∈ t.columns ∧ c.name = n) d.setColumns cols
  verb : d.verb = .ok word
  length : values.length = d.setColumns.length
  value : ∀ (i : Nat) (c : Column), cols[i]? = some c → values[i]? =
    some (if c.allowCommitTimestamp then "PENDING_COMMIT_TIMESTAMP()" else "@" ++ c.name)
  statement : s = { name := d.name, kind := .insert
                    sql := word ++ " " ++ d.table ++ " (" ++ ", ".intercalate d.setColumns
                      ++ ") VALUES (" ++ ", ".intercalate values ++ ")"
                    params := (cols.filter fun c => !c.allowCommitTimestamp).map fun c =>
                      ⟨c.name, c.type⟩ }
  unshared : (s.params.map (·.name)).Nodup

theorem exists_verb {d : InsertDefinition} : (∃ verb, d.verb = .ok verb) ↔
    d.onConflict = none ∨ d.onConflict = some "IGNORE" ∨ d.onConflict = some "UPDATE" := by
  unfold InsertDefinition.verb
  cases d.onConflict with
  | none => simp
  | some mode =>
    simp only [map_eq_ok, reduceCtorEq, false_or, Option.some.injEq]
    constructor
    · rintro ⟨verb, parsed, h, -⟩
      unfold ConflictMode.parse at h
      split at h
      · exact .inl rfl
      · exact .inr rfl
      · cases h
    · rintro (rfl | rfl)
      · exact ⟨_, .ignore, rfl, rfl⟩
      · exact ⟨_, .update, rfl, rfl⟩

section Checked

variable {before : Registry} {t : Table} {names : List String} {cols : List Column}

theorem params_nodup (hfound : List.Forall₂ (fun n c => t.column n = .ok c) names cols)
    (hdistinct : names.Nodup) :
    (((cols.filter fun c => !c.allowCommitTimestamp).map fun c : Column =>
      (⟨c.name, c.type⟩ : Param)).map (·.name)).Nodup := by
  rw [List.map_map]
  exact (names_of_found hfound ▸ hdistinct).sublist (List.filter_sublist.map Column.name)

/-- The parameters of distinct columns of a checked table are bound as they stand. -/
theorem bindAll_values (ht : t.Checked before)
    (hfound : List.Forall₂ (fun n c => t.column n = .ok c) names cols) (hdistinct : names.Nodup) :
    Params.empty.bindAll (cols.flatMap fun c => (c.valueDraft c.name).params) =
      .ok ⟨(cols.filter fun c => !c.allowCommitTimestamp).map fun c => ⟨c.name, c.type⟩⟩ := by
  rw [values_params]
  refine Params.bindAll_of_fresh (fresh_of_nothing.mpr (params_nodup hfound hdistinct)) ?_
  rw [List.forall_mem_map]
  intro c hc
  exact (ht.columns c (mem_columns_of_found hfound c (List.mem_of_mem_filter hc))).named

end Checked

variable {r : Registry} {d : InsertDefinition} {s : Statement}

/-- An accepted insert compiles: no binding can fail. -/
theorem Accepted.exists_compile (hr : r.Sound) (h : d.Accepted r) : ∃ s, d.compile r = .ok s := by
  obtain ⟨verb, hverb⟩ := exists_verb.mpr h.conflict
  obtain ⟨t, ht, htable, hcolumns⟩ := h.columns
  obtain ⟨before, hchecked⟩ := hr.exists_checked ht
  obtain ⟨cols, hfound⟩ := Table.exists_found hchecked.columnNames hcolumns
  have hset : settableColumns t [] d.setColumns = .ok cols :=
    settableColumns_eq_ok.mpr ⟨cols, rfl, hfound, fresh_of_nothing.mpr h.distinct⟩
  exact ⟨_, compile_eq_ok.mpr ⟨h.named, h.tableNamed, h.setsColumns, t, verb, cols, _,
    hr.table_eq_ok.mpr ⟨ht, htable⟩, hverb, hset, bindAll_values hchecked hfound h.distinct, rfl⟩⟩

theorem accepted_of_compile (hr : r.Sound) (h : d.compile r = .ok s) : d.Accepted r := by
  obtain ⟨hname, htable, hset, t, verb, cols, ps, ht, hverb, hcols, -, -⟩ := compile_eq_ok.mp h
  obtain ⟨ht, htname⟩ := hr.table_eq_ok.mp ht
  obtain ⟨hfound, hdistinct⟩ := settableColumns_ok hcols
  refine ⟨hname, htable, hset, exists_verb.mp ⟨verb, hverb⟩, ⟨t, ht, htname, ?_⟩, hdistinct⟩
  intro n hn
  obtain ⟨c, hc⟩ := exists_of_forall₂ hfound hn
  obtain ⟨hname, hmem⟩ := Table.column_ok hc
  exact ⟨c, hmem, hname⟩

/-- A compiled insert is written column by column. -/
theorem exists_writtenAs (hr : r.Sound) (h : d.compile r = .ok s) :
    ∃ t cols verb values, d.WrittenAs r s t cols verb values := by
  obtain ⟨-, -, -, t, verb, cols, ps, ht, hverb, hcols, hps, rfl⟩ := compile_eq_ok.mp h
  obtain ⟨ht, htname⟩ := hr.table_eq_ok.mp ht
  obtain ⟨before, hchecked⟩ := hr.exists_checked ht
  obtain ⟨hfound, hdistinct⟩ := settableColumns_ok hcols
  rw [bindAll_values hchecked hfound hdistinct] at hps
  cases hps
  refine ⟨t, cols, verb, cols.map fun c => (c.valueDraft c.name).sql, ⟨ht, htname⟩, ?_, hverb, ?_,
    ?_, by rw [htname], params_nodup hfound hdistinct⟩
  · exact hfound.imp fun n c hc => (Table.column_eq_ok hchecked.columnNames).mp hc
  · rw [List.length_map, hfound.length_eq]
  · intro i c hc
    rw [List.getElem?_map, hc, Option.map_some, Column.valueDraft]
    split <;> rfl

end InsertDefinition

/-- Against a reachable registry an insert compiles exactly if it names itself, a registered table
and one or more columns of it, none of them twice, and a known conflict mode or none. It is then
written column by column: a value stands at the position of its column, and the parameters are the
columns that do not take the time of the commit, in order and with their full types. -/
theorem insert_accepted_iff (r : Registry) (hr : r.Reachable) (d : InsertDefinition) :
    ((∃ s, d.compile r = .ok s) ↔ d.Accepted r) ∧
      ∀ s, d.compile r = .ok s → ∃ t cols verb values, d.WrittenAs r s t cols verb values := by
  refine ⟨⟨?_, ?_⟩, ?_⟩
  · rintro ⟨s, h⟩
    exact InsertDefinition.accepted_of_compile hr.sound h
  · intro h
    exact h.exists_compile hr.sound
  · intro s h
    exact InsertDefinition.exists_writtenAs hr.sound h

namespace Sample

/-- A user with the time of the commit. -/
def addUser (columns : List String) : InsertDefinition where
  name := "addUser"
  table := "users"
  setColumns := columns
  onConflict := some "UPDATE"

end Sample

/-- The time of joining takes no parameter, and the id cannot be set twice. -/
theorem insert_accepted_iff_users :
    (∃ s, (Sample.addUser ["joined", "id"]).compile Sample.usersFirst = .ok s ∧
      s.sql = "INSERT OR UPDATE users (joined, id) VALUES (PENDING_COMMIT_TIMESTAMP(), @id)" ∧
      s.params = [⟨"id", .ofPrimitive .string⟩]) ∧
    (Sample.addUser ["joined", "id"]).Accepted Sample.usersFirst ∧
    ¬(Sample.addUser ["id", "id"]).Accepted Sample.usersFirst := by
  have hr : Sample.usersFirst.Reachable := ⟨_, rfl⟩
  refine ⟨⟨_, rfl, by decide, by decide⟩, ?_, ?_⟩
  · exact (insert_accepted_iff _ hr _).1.mp ⟨_, rfl⟩
  · rw [← (insert_accepted_iff _ hr _).1]
    rintro ⟨s, h⟩
    cases h

end SchemaLoom
