import SchemaLoom.Pass
import SchemaLoom.Proofs.Sql.Growth

/-!
# What a pass produces

A pass goes through the tables of a database, each followed by the statements it asks for, and then
through the statements of the database. A statement is compiled when it is reached, but what comes
out is what the finished registry gives for it. So the outcome is a list of compiled definitions in
which nothing is lost, repeated or moved.
-/
namespace SchemaLoom
open Compiled

theorem Compiled.mapM_eq_ok {α β : Type} {f : α → Compiled β} {as : List α} {bs : List β} :
    as.mapM f = .ok bs ↔ List.Forall₂ (fun a b => f a = .ok b) as bs := by
  induction as generalizing bs with
  | nil => cases bs <;> simp [pure_eq_ok]
  | cons a as ih =>
    rw [List.mapM_cons]
    simp only [bind_eq_ok, pure_eq_ok, ih]
    constructor
    · rintro ⟨b, hb, bs, hbs, rfl⟩
      exact .cons hb hbs
    · intro h
      cases h with
      | cons hb hbs => exact ⟨_, hb, _, hbs, rfl⟩

/-- The statements of a set in the order in which they are compiled. -/
def StatementSet.all (s : StatementSet) : List StatementDefinition :=
  s.inserts.map .insert ++ s.updates.map .update ++ s.deletes.map .delete ++ s.selects.map .select

namespace Registry

/-- Every statement is what its definition compiles to, in order. -/
def Compiles (r : Registry) : List StatementDefinition → List Statement → Prop :=
  List.Forall₂ fun d s => d.compile r = .ok s

variable {r r' : Registry} {ds ds' : List StatementDefinition} {ss ss' : List Statement}

theorem Compiles.append (h : r.Compiles ds ss) (h' : r.Compiles ds' ss') :
    r.Compiles (ds ++ ds') (ss ++ ss') :=
  List.rel_append h h'

/-- What was compiled before further tables were declared is what they would give as well. -/
theorem Compiles.grow (h : r.Compiles ds ss) (hr : r.Within r') : r'.Compiles ds ss := by
  apply h.imp
  intro d s hs
  exact (d.compile_grows hr).eq_ok hs

theorem attemptAll_append (r : Registry) (calls calls' : List (Catalog × TableDefinition)) :
    r.attemptAll (calls ++ calls') = (r.attemptAll calls).attemptAll calls' := by
  induction calls generalizing r with
  | nil => rfl
  | cons call calls ih => exact ih _

end Registry

namespace Pass

theorem compileSet_ok {r : Registry} {s : StatementSet} {ss : List Statement}
    (h : compileSet r s = .ok ss) : r.Compiles s.all ss := by
  simp only [compileSet, bind_eq_ok, pure_eq_ok, mapM_eq_ok] at h
  obtain ⟨inserts, hinserts, updates, hupdates, deletes, hdeletes, selects, hselects, rfl⟩ := h
  have hinserts : r.Compiles (s.inserts.map .insert) inserts :=
    List.forall₂_map_left_iff.mpr hinserts
  have hupdates : r.Compiles (s.updates.map .update) updates :=
    List.forall₂_map_left_iff.mpr hupdates
  have hdeletes : r.Compiles (s.deletes.map .delete) deletes :=
    List.forall₂_map_left_iff.mpr hdeletes
  have hselects : r.Compiles (s.selects.map .select) selects :=
    List.forall₂_map_left_iff.mpr hselects
  exact ((hinserts.append hupdates).append hdeletes).append hselects

theorem checkNames_eq_ok {seen : List String} {ss : List Statement} {u : Unit} :
    checkNames seen ss = .ok u ↔ Fresh seen (ss.map (·.name)) := by
  induction ss generalizing seen with
  | nil => simp [checkNames]
  | cons s ss ih =>
    simp only [checkNames, bind_eq_ok, within_eq_ok, ensure_eq_ok, ih, List.map_cons, fresh_cons]
    simp

/-- What the pass has done on its way from `p` to `q` over the tables `ds`. -/
structure Run (catalog : Catalog) (p : Progress) (ds : List TableDefinition) (q : Progress) where
  augmented : List TableDefinition
  derived : List StatementSet
  tables : List Table
  compiled : List Statement
  augments : List.Forall₂ (fun d a => d.augment = .ok a) ds augmented
  derives : List.Forall₂ (fun a s => a.derive = .ok s) augmented derived
  describes : List.Forall₂ (TableDefinition.Describes catalog) augmented tables
  reaches : q.registry = p.registry.attemptAll (augmented.map (catalog, ·))
  registers : q.registry.tables = p.registry.tables ++ tables
  ddl : q.ddl = p.ddl ++ tables.map Table.ddl
  statements : q.statements = p.statements ++ compiled
  compiles : q.registry.Compiles (derived.flatMap StatementSet.all) compiled

namespace Run
variable {catalog : Catalog} {p mid q : Progress} {ds ds' : List TableDefinition}

def nothing (catalog : Catalog) (p : Progress) : Run catalog p [] p where
  augmented := []
  derived := []
  tables := []
  compiled := []
  augments := .nil
  derives := .nil
  describes := .nil
  reaches := rfl
  registers := by simp
  ddl := by simp
  statements := by simp
  compiles := .nil

/-- Runs one after the other. The statements of the first are carried over to the registry of the
second, which begins with the same tables. -/
def append (a : Run catalog p ds mid) (b : Run catalog mid ds' q) :
    Run catalog p (ds ++ ds') q where
  augmented := a.augmented ++ b.augmented
  derived := a.derived ++ b.derived
  tables := a.tables ++ b.tables
  compiled := a.compiled ++ b.compiled
  augments := List.rel_append a.augments b.augments
  derives := List.rel_append a.derives b.derives
  describes := List.rel_append a.describes b.describes
  reaches := by rw [b.reaches, a.reaches, List.map_append, Registry.attemptAll_append]
  registers := by rw [b.registers, a.registers, List.append_assoc]
  ddl := by rw [b.ddl, a.ddl, List.map_append, List.append_assoc]
  statements := by rw [b.statements, a.statements, List.append_assoc]
  compiles := by
    have hgrow : mid.registry.Within q.registry := ⟨b.tables, b.registers.symm⟩
    rw [List.flatMap_append]
    exact (a.compiles.grow hgrow).append b.compiles

theorem of_step {d : TableDefinition} (h : step catalog p d = .ok q) :
    Nonempty (Run catalog p [d] q) := by
  simp only [step, bind_eq_ok, within_eq_ok, pure_eq_ok, Prod.exists] at h
  obtain ⟨a, ha, ddl, r, hr, s, hs, compiled, hcompiled, rfl⟩ := h
  have hattempt : p.registry.attempt catalog a = r := by simp [Registry.attempt, hr]
  obtain ⟨t, hdescribes, -, -, rfl, rfl⟩ := Registry.declare_eq_ok.mp hr
  refine ⟨[a], [s], [t], compiled, .cons ha .nil, .cons hs .nil, .cons hdescribes .nil,
    hattempt.symm, rfl, rfl, rfl, ?_⟩
  simpa using compileSet_ok hcompiled

theorem of_runTables (h : runTables catalog p ds = .ok q) : Nonempty (Run catalog p ds q) := by
  induction ds generalizing p with
  | nil =>
    cases h
    exact ⟨nothing catalog _⟩
  | cons d ds ih =>
    simp only [runTables, bind_eq_ok] at h
    obtain ⟨mid, hstep, hrest⟩ := h
    obtain ⟨first⟩ := of_step hstep
    obtain ⟨rest⟩ := ih hrest
    exact ⟨first.append rest⟩

end Run
end Pass

namespace Sample

end Sample

end SchemaLoom
