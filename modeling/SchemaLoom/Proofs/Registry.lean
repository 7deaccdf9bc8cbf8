import SchemaLoom.Ddl.Artifact
import SchemaLoom.Proofs.Ddl.Check

/-!
# Registries that declarations reach

A declaration that succeeds appends one table, checked against the tables before it; a declaration
that fails leaves the registry as it is. So along any sequence of declarations every table stands
behind the tables it was checked against, and no two tables have one name.
-/
namespace SchemaLoom
open Compiled

namespace Registry

theorem find?_eq_none {r : Registry} {name : String} :
    r.find? name = none ↔ name ∉ r.names := by
  simp [find?, names]

/-- A look-up that succeeded still finds the same table once others have been appended. -/
theorem find?_of_before {r : Registry} {before after : List Table}
    (h : r.tables = before ++ after) {name : String} {t : Table}
    (ht : (⟨before⟩ : Registry).find? name = some t) : r.find? name = some t := by
  rw [find?] at ht ⊢
  rw [h, List.find?_append, ht]
  rfl

theorem register_eq_ok {r next : Registry} {t : Table} :
    r.register t = .ok next ↔ t.name ∉ r.names ∧ next = ⟨r.tables ++ [t]⟩ := by
  have htaken : r.contains t.name = false ↔ t.name ∉ r.names := by
    rw [contains, Option.isSome_eq_false_iff, Option.isNone_iff_eq_none, find?_eq_none]
  unfold register
  cases hc : r.contains t.name with
  | true => simp [← htaken, hc]
  | false => simp [← htaken, hc, eq_comm]

/-- All that a successful declaration does. -/
theorem declare_eq_ok {catalog : Catalog} {r next : Registry} {d : TableDefinition}
    {ddl : TableDdl} :
    r.declare catalog d = .ok (ddl, next) ↔ ∃ t, d.Describes catalog t ∧ t.Checked r ∧
      t.name ∉ r.names ∧ ddl = t.ddl ∧ next = ⟨r.tables ++ [t]⟩ := by
  simp only [declare, within_eq_ok, bind_eq_ok, pure_eq_ok, Table.ofDefinition_eq_ok,
    register_eq_ok, Prod.mk.injEq]
  constructor
  · rintro ⟨t, ⟨hdescribes, hchecked⟩, next, ⟨hfresh, rfl⟩, rfl, rfl⟩
    exact ⟨t, hdescribes, hchecked, hfresh, rfl, rfl⟩
  · rintro ⟨t, hdescribes, hchecked, hfresh, rfl, rfl⟩
    exact ⟨t, ⟨hdescribes, hchecked⟩, _, ⟨hfresh, rfl⟩, rfl, rfl⟩

def attempt (r : Registry) (catalog : Catalog) (d : TableDefinition) : Registry :=
  match r.declare catalog d with
  | .ok (_, next) => next
  | .error _ => r

/-- The registry after a sequence of declarations, each with the types it may name. -/
def attemptAll : Registry → List (Catalog × TableDefinition) → Registry
  | r, [] => r
  | r, (catalog, d) :: calls => (r.attempt catalog d).attemptAll calls

/-- Some sequence of declarations leads from nothing to the registry. -/
def Reachable (r : Registry) : Prop := ∃ calls, empty.attemptAll calls = r

theorem attempt_cases (r : Registry) (catalog : Catalog) (d : TableDefinition) :
    (∃ ddl, r.declare catalog d = .ok (ddl, r.attempt catalog d)) ∨
      (∃ e, r.declare catalog d = .error e) ∧ r.attempt catalog d = r := by
  unfold attempt
  cases r.declare catalog d with
  | error e => exact .inr ⟨⟨e, rfl⟩, rfl⟩
  | ok result => exact .inl ⟨result.1, rfl⟩

/-- Every table was checked against the tables before it, and no two have one name. -/
structure Sound (r : Registry) : Prop where
  checked : ∀ before t after, r.tables = before ++ t :: after → t.Checked ⟨before⟩
  names : r.names.Nodup

theorem Sound.empty : Sound empty where
  checked := by
    intro before t after h
    simp [Registry.empty] at h
  names := by simp [Registry.empty, Registry.names]

/-- A successful declaration keeps the registry sound. -/
theorem Sound.declare {r next : Registry} {catalog : Catalog} {d : TableDefinition}
    {ddl : TableDdl} (hr : r.Sound) (h : r.declare catalog d = .ok (ddl, next)) : next.Sound := by
  obtain ⟨new, -, hchecked, hfresh, -, rfl⟩ := declare_eq_ok.mp h
  constructor
  · intro before t after heq
    -- the table is the new one or stands among the old ones
    rcases List.eq_nil_or_concat after with rfl | ⟨rest, last, rfl⟩
    · obtain ⟨rfl, hlast⟩ := List.append_inj' heq rfl
      cases hlast
      exact hchecked
    · rw [List.concat_eq_append, ← List.cons_append, ← List.append_assoc] at heq
      obtain ⟨htables, -⟩ := List.append_inj' heq rfl
      exact hr.checked before t rest htables
  · simpa [Registry.names] using List.Nodup.concat hfresh hr.names

/-- So does every declaration, and with it every sequence of declarations. -/
theorem Sound.attemptAll {r : Registry} (hr : r.Sound) (calls : List (Catalog × TableDefinition)) :
    (r.attemptAll calls).Sound := by
  induction calls generalizing r with
  | nil => exact hr
  | cons call calls ih =>
    apply ih
    rcases r.attempt_cases call.1 call.2 with ⟨ddl, h⟩ | ⟨-, h⟩
    · exact hr.declare h
    · rw [h]
      exact hr

theorem Reachable.sound {r : Registry} (h : r.Reachable) : r.Sound := by
  obtain ⟨calls, rfl⟩ := h
  exact Sound.empty.attemptAll calls

theorem Sound.find?_eq_some {r : Registry} (hr : r.Sound) {name : String} {t : Table} :
    r.find? name = some t ↔ t ∈ r.tables ∧ t.name = name :=
  find?_eq_some_of_nodup hr.names

theorem Sound.table_eq_ok {r : Registry} (hr : r.Sound) {name : String} {t : Table} :
    r.table name = .ok t ↔ t ∈ r.tables ∧ t.name = name := by
  rw [table, orError_eq_ok, hr.find?_eq_some]

theorem Sound.exists_checked {r : Registry} (hr : r.Sound) {t : Table} (ht : t ∈ r.tables) :
    ∃ before, t.Checked before := by
  obtain ⟨before, after, h⟩ := List.append_of_mem ht
  exact ⟨⟨before⟩, hr.checked before t after h⟩

theorem Sound.columnNames {r : Registry} (hr : r.Sound) {t : Table} (ht : t ∈ r.tables) :
    (t.columns.map (·.name)).Nodup := by
  obtain ⟨before, hchecked⟩ := hr.exists_checked ht
  exact hchecked.columnNames

end Registry
end SchemaLoom
