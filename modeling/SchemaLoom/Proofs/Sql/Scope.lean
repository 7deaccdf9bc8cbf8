import SchemaLoom.Proofs.Compiled
import SchemaLoom.Sql.Scope

/-!
# What a look-up finds

Everything is found by name, so what is found bears the name it was looked up by, and it belongs
to the table, the scope or the registry that was asked.
-/
namespace SchemaLoom
open Compiled

theorem Table.column_ok {t : Table} {name : String} {c : Column} (h : t.column name = .ok c) :
    c.name = name ∧ c ∈ t.columns := by
  have hf := orError_eq_ok.mp h
  exact ⟨by simpa using List.find?_some hf, List.mem_of_find?_eq_some hf⟩

theorem Table.searchColumn_ok {t : Table} {name : String} {s : SearchColumnDefinition}
    (h : t.searchColumn name = .ok s) : s.name = name ∧ s ∈ t.searchColumns := by
  have hf := orError_eq_ok.mp h
  exact ⟨by simpa using List.find?_some hf, List.mem_of_find?_eq_some hf⟩

theorem Table.exists_searchColumn {t : Table} {name : String} :
    (∃ s, t.searchColumn name = .ok s) ↔ ∃ s ∈ t.searchColumns, s.name = name := by
  constructor
  · rintro ⟨s, hs⟩
    obtain ⟨hname, hmem⟩ := Table.searchColumn_ok hs
    exact ⟨s, hmem, hname⟩
  · rintro ⟨s, hmem, hname⟩
    simp only [Table.searchColumn, orError_eq_ok, ← Option.isSome_iff_exists, List.find?_isSome]
    exact ⟨s, hmem, by simpa using hname⟩

theorem Registry.table_ok {r : Registry} {name : String} {t : Table}
    (h : r.table name = .ok t) : r.find? name = some t ∧ t.name = name := by
  have hf := orError_eq_ok.mp h
  exact ⟨hf, by simpa using List.find?_some hf⟩

namespace Scope

theorem table_ok {s : Scope} {ref : Option String} {a : String} {t : Table}
    (h : s.table ref = .ok (a, t)) :
    a = ref.getD s.defaultAlias ∧ s.entries.find? (·.1 = a) = some (a, t) := by
  have hf := orError_eq_ok.mp h
  have ha : a = ref.getD s.defaultAlias := by simpa using List.find?_some hf
  exact ⟨ha, ha ▸ hf⟩

theorem column_ok {s : Scope} {ref : ColumnRef} {a : String} {c : Column}
    (h : s.column ref = .ok (a, c)) :
    a = ref.table.getD s.defaultAlias ∧ c.name = ref.name := by
  simp only [column, bind_eq_ok, pure_eq_ok, Prod.exists, Prod.mk.injEq] at h
  obtain ⟨a', t, ht, c', hc, rfl, rfl⟩ := h
  exact ⟨(table_ok ht).1, (Table.column_ok hc).1⟩

theorem searchColumn_ok {s : Scope} {ref : ColumnRef} {a : String} {c : SearchColumnDefinition}
    (h : s.searchColumn ref = .ok (a, c)) :
    a = ref.table.getD s.defaultAlias ∧ c.name = ref.name := by
  simp only [searchColumn, bind_eq_ok, pure_eq_ok, Prod.exists, Prod.mk.injEq] at h
  obtain ⟨a', t, ht, c', hc, rfl, rfl⟩ := h
  exact ⟨(table_ok ht).1, (Table.searchColumn_ok hc).1⟩

theorem add_ok {s next : Scope} {a : String} {t : Table} (h : s.add a t = .ok next) :
    a ∉ s.aliases ∧ next = { s with entries := s.entries ++ [(a, t)] } := by
  unfold add at h
  split at h
  · cases h
  · rename_i ha
    cases h
    exact ⟨by simpa using ha, rfl⟩

end Scope
end SchemaLoom
