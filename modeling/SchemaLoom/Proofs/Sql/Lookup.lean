import SchemaLoom.Proofs.Derived.Task
import SchemaLoom.Proofs.Pass

/-!
# Look-ups of a compilation

A statement is compiled by looking up the tables that its definition names, and no others. The
statements that a table asks for name that table only.
-/
namespace SchemaLoom
open Compiled

theorem Compiled.mapM_congr {α β : Type} {f g : α → Compiled β} {as : List α}
    (h : ∀ a ∈ as, f a = g a) : as.mapM f = as.mapM g := by
  induction as with
  | nil => rfl
  | cons a as ih =>
    rw [List.forall_mem_cons] at h
    rw [List.mapM_cons, List.mapM_cons, h.1, ih h.2]

def StatementDefinition.tableNames : StatementDefinition → List String
  | .insert d => [d.table]
  | .update d => [d.table]
  | .delete d => [d.table]
  | .select d => d.fromTable :: d.joins.map (·.table)

section
variable {r r' : Registry}

theorem FromClause.joinAll_congr {ds : List JoinDefinition}
    (h : ∀ d ∈ ds, r.find? d.table = r'.find? d.table) (f : FromClause) :
    f.joinAll r ds = f.joinAll r' ds := by
  induction ds generalizing f with
  | nil => rfl
  | cons d ds ih =>
    rw [List.forall_mem_cons] at h
    have hjoin : f.join r d = f.join r' d := by rw [join, join, Registry.table, h.1]; rfl
    rw [joinAll, joinAll, hjoin]
    exact bind_congr fun next => ih h.2 next

/-- Two registries that agree on the tables a statement names compile it alike. -/
theorem StatementDefinition.compile_congr {d : StatementDefinition}
    (h : ∀ n ∈ d.tableNames, r.find? n = r'.find? n) : d.compile r = d.compile r' := by
  have htable : ∀ n ∈ d.tableNames, r.table n = r'.table n := by
    intro n hn
    rw [Registry.table, Registry.table, h n hn]
  cases d with
  | insert d =>
    have ht := htable d.table List.mem_cons_self
    simp only [compile, InsertDefinition.compile, InsertDefinition.build, ht]
  | update d =>
    have ht := htable d.table List.mem_cons_self
    simp only [compile, UpdateDefinition.compile, UpdateDefinition.build, ht]
  | delete d =>
    have ht := htable d.table List.mem_cons_self
    simp only [compile, DeleteDefinition.compile, DeleteDefinition.build, ht]
  | select d =>
    have ht := htable d.fromTable List.mem_cons_self
    have hjoins (f : FromClause) : f.joinAll r d.joins = f.joinAll r' d.joins := by
      apply FromClause.joinAll_congr
      intro j hj
      exact h _ (List.mem_cons_of_mem _ (List.mem_map_of_mem hj))
    simp only [compile, SelectDefinition.compile, SelectDefinition.build, ht, hjoins]

theorem Pass.compileSet_congr {s : StatementSet}
    (h : ∀ d ∈ s.all, ∀ n ∈ d.tableNames, r.find? n = r'.find? n) :
    compileSet r s = compileSet r' s := by
  simp only [StatementSet.all, List.forall_mem_append, List.forall_mem_map] at h
  obtain ⟨⟨⟨hinserts, hupdates⟩, hdeletes⟩, hselects⟩ := h
  have hi : s.inserts.mapM (·.compile r) = s.inserts.mapM (·.compile r') :=
    mapM_congr fun d hd => StatementDefinition.compile_congr (d := .insert d) (hinserts d hd)
  have hu : s.updates.mapM (·.compile r) = s.updates.mapM (·.compile r') :=
    mapM_congr fun d hd => StatementDefinition.compile_congr (d := .update d) (hupdates d hd)
  have hd : s.deletes.mapM (·.compile r) = s.deletes.mapM (·.compile r') :=
    mapM_congr fun d hd => StatementDefinition.compile_congr (d := .delete d) (hdeletes d hd)
  have hs : s.selects.mapM (·.compile r) = s.selects.mapM (·.compile r') :=
    mapM_congr fun d hd => StatementDefinition.compile_congr (d := .select d) (hselects d hd)
  simp only [compileSet, hi, hu, hd, hs]

end

namespace TableDefinition

theorem augment_keeps {d a : TableDefinition} (h : d.augment = .ok a) :
    a.name = d.name ∧ a.interleave = d.interleave := by
  rcases augment_eq_ok.mp h with ⟨-, rfl⟩ | ⟨-, -, rfl⟩
  · exact ⟨rfl, rfl⟩
  · exact ⟨rfl, rfl⟩

theorem derivedInsert_table (d : TableDefinition) : ∀ q ∈ d.derivedInsert, q.table = d.name := by
  unfold derivedInsert
  cases d.insert with
  | none => simp
  | some name => simp

theorem derivedGet_table {d : TableDefinition} {gets : List SelectDefinition}
    (h : d.derivedGet = .ok gets) : ∀ q ∈ gets, q.fromTable = d.name ∧ q.joins = [] := by
  unfold derivedGet at h
  split at h
  · cases h
    simp
  · simp only [bind_eq_ok, pure_eq_ok] at h
    obtain ⟨condition, -, rfl⟩ := h
    simp

theorem derivedDelete_table {d : TableDefinition} {deletes : List DeleteDefinition}
    (h : d.derivedDelete = .ok deletes) : ∀ q ∈ deletes, q.table = d.name := by
  unfold derivedDelete at h
  split at h
  · cases h
    simp
  · simp only [bind_eq_ok, pure_eq_ok] at h
    obtain ⟨condition, -, rfl⟩ := h
    simp

theorem derivedUpdate_table {d : TableDefinition} {updates : List UpdateDefinition}
    (h : d.derivedUpdate = .ok updates) : ∀ q ∈ updates, q.table = d.name := by
  unfold derivedUpdate at h
  split at h
  · cases h
    simp
  · simp only [bind_eq_ok, pure_eq_ok] at h
    obtain ⟨-, -, condition, -, rfl⟩ := h
    simp

theorem taskStatements_table {d : TableDefinition} {selects : List SelectDefinition}
    {updates : List UpdateDefinition} (h : d.taskStatements = .ok (selects, updates)) :
    (∀ q ∈ selects, q.fromTable = d.name ∧ q.joins = []) ∧ ∀ q ∈ updates, q.table = d.name := by
  unfold taskStatements at h
  split at h
  · cases h
    simp
  · simp only [bind_eq_ok, pure_eq_ok, Prod.mk.injEq] at h
    obtain ⟨key, -, rfl, rfl⟩ := h
    simp [listPending, getMetadata, updateMetadata]

/-- The statements that a table asks for look up nothing but the table. -/
theorem derive_tableNames {d : TableDefinition} {s : StatementSet} (h : d.derive = .ok s) :
    ∀ q ∈ s.all, ∀ n ∈ q.tableNames, n = d.name := by
  simp only [derive, bind_eq_ok, pure_eq_ok, Prod.exists] at h
  obtain ⟨gets, hgets, deletes, hdeletes, updates, hupdates, selects, metadata, htask, rfl⟩ := h
  obtain ⟨hselects, hmetadata⟩ := taskStatements_table htask
  have halone (q : SelectDefinition) (hq : q.fromTable = d.name ∧ q.joins = []) :
      q.fromTable = d.name ∧ ∀ j ∈ q.joins, j.table = d.name := by simp [hq]
  simp only [StatementSet.all, List.forall_mem_append, List.forall_mem_map,
    StatementDefinition.tableNames, List.forall_mem_singleton, List.forall_mem_cons]
  exact ⟨⟨⟨derivedInsert_table d, derivedUpdate_table hupdates, hmetadata⟩,
    derivedDelete_table hdeletes⟩, fun q hq => halone q (derivedGet_table hgets q hq),
    fun q hq => halone q (hselects q hq)⟩

end TableDefinition
end SchemaLoom
