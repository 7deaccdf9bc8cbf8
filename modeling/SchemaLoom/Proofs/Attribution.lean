import SchemaLoom.Proofs.Pass
import SchemaLoom.Proofs.Sql.Lookup

/-!
# Failures and where they arise

A pass is a list of jobs, one for every table and statement it comes to; a table that has been
augmented is declared next, then its statements are derived and compiled, before the next table has
its turn. Performed in this order from an empty registry, the first job that fails is the one that
the pass reports: its error is the error of that job behind the label of the table or statement.
-/
namespace SchemaLoom
open Compiled

namespace CompileError

end CompileError

/-- What compiling a statement comes to, apart from its label. -/
def StatementDefinition.build (r : Registry) : StatementDefinition → Compiled Statement
  | .insert d => d.build r
  | .update d => d.build r
  | .delete d => d.build r
  | .select d => d.build r

def StatementDefinition.name : StatementDefinition → String
  | .insert d => d.name
  | .update d => d.name
  | .delete d => d.name
  | .select d => d.name

namespace Pass
open Code

/-- One thing that a pass does for a table or a statement. -/
inductive Job where
  | augment (d : TableDefinition)
  | declare (d : TableDefinition)
  | derive (d : TableDefinition)
  | compile (d : StatementDefinition)
  | compareName (s : Statement)
  | checkIdentifiers (s : Statement)

structure State where
  registry : Registry := .empty
  statements : List Statement := []
  names : List String := []
  functions : Claims := []
  rows : Claims := []

namespace Job

def label : Job → String
  | .augment d => tableLabel d.name
  | .declare d => tableLabel d.name
  | .derive d => tableLabel d.name
  | .compile d => statementLabel d.name
  | .compareName s => statementLabel s.name
  | .checkIdentifiers s => statementLabel s.name

/-- Does one job. Gives the jobs that have to follow at once, or the error without any label. -/
def perform (catalog : Catalog) (st : State) : Job → Compiled (State × List Job)
  | .augment d => do
    let augmented ← d.augment
    return (st, [.declare augmented])
  | .declare d => do
    let t ← Table.ofDefinition catalog st.registry d
    let registry ← st.registry.register t
    return ({ st with registry }, [.derive d])
  | .derive d => do
    let derived ← d.derive
    return (st, derived.all.map .compile)
  | .compile d => do
    let s ← d.build st.registry
    return ({ st with statements := st.statements ++ [s] }, [])
  | .compareName s => do
    ensure (!st.names.contains s.name)
      (.invalid ("statement " ++ s.name ++ " is declared more than once."))
    return ({ st with names := st.names ++ [s.name] }, [])
  | .checkIdentifiers s => do
    let ident ← checkIdent "statement" s.name
    let functions ← claim st.functions "statements" s.name ident
    let rows ← if s.kind = .select then claim st.rows "statements" s.name s.rowName
      else .ok st.rows
    s.checkParts
    return ({ st with functions, rows }, [])

end Job

/-- Performing jobs from the front of a list, each with success. -/
inductive Reaches (catalog : Catalog) : State → List Job → State → List Job → Prop where
  | refl {st : State} {jobs : List Job} : Reaches catalog st jobs st jobs
  | next {st st' fin : State} {job : Job} {more jobs left : List Job}
      (h : job.perform catalog st = .ok (st', more))
      (hs : Reaches catalog st' (more ++ jobs) fin left) :
      Reaches catalog st (job :: jobs) fin left

def jobs (d : DatabaseDefinition) : List Job :=
  d.tables.map .augment ++ d.declared.all.map .compile

def State.checks (st : State) : List Job :=
  st.statements.map .compareName ++ st.statements.map .checkIdentifiers

/-- Where a pass from an empty registry arrives, with the jobs that are left. The checks begin when
everything is compiled. -/
inductive Arrives (catalog : Catalog) (d : DatabaseDefinition) : State → List Job → Prop where
  | compiling {st : State} {job : Job} {left : List Job}
      (h : Reaches catalog {} (jobs d) st (job :: left)) : Arrives catalog d st (job :: left)
  | checking {compiled st : State} {left : List Job}
      (done : Reaches catalog {} (jobs d) compiled [])
      (h : Reaches catalog compiled compiled.checks st left) : Arrives catalog d st left

/-- The first job that fails, and its error. -/
def FirstFault (catalog : Catalog) (d : DatabaseDefinition) (job : Job) (cause : CompileError) :
    Prop :=
  ∃ st left, Arrives catalog d st (job :: left) ∧ job.perform catalog st = .error cause

/-! ## Jobs one after the other -/

/-- Nothing more can be done: no job is left, or the next one fails. -/
def Ends (catalog : Catalog) (st : State) (left : List Job) : Prop :=
  ∀ job ∈ left.head?, ∃ cause, job.perform catalog st = .error cause

theorem ends_nil (catalog : Catalog) (st : State) : Ends catalog st [] := by
  simp [Ends]

theorem ends_cons {catalog : Catalog} {st : State} {job : Job} {cause : CompileError}
    (h : job.perform catalog st = .error cause) (left : List Job) :
    Ends catalog st (job :: left) := by
  simp [Ends, h]

namespace Reaches
variable {catalog : Catalog} {st mid fin fin' : State} {js left left' : List Job}

theorem trans (h : Reaches catalog st js mid left) (h' : Reaches catalog mid left fin left') :
    Reaches catalog st js fin left' := by
  induction h with
  | refl => exact h'
  | next hperform _ ih => exact .next hperform (ih h')

/-- Jobs that wait behind others do not matter to them. -/
theorem append (h : Reaches catalog st js fin left) (rest : List Job) :
    Reaches catalog st (js ++ rest) fin (left ++ rest) := by
  induction h with
  | refl => exact .refl
  | next hperform _ ih =>
    rw [List.append_assoc] at ih
    exact .next hperform ih

theorem unique (h : Reaches catalog st js fin left) (hend : Ends catalog fin left)
    (h' : Reaches catalog st js fin' left') (hend' : Ends catalog fin' left') :
    fin = fin' ∧ left = left' := by
  -- Where one run ends and the other goes on, the next job would both fail and succeed.
  induction h with
  | refl =>
    cases h' with
    | refl => exact ⟨rfl, rfl⟩
    | next hperform _ =>
      obtain ⟨cause, hfails⟩ := hend _ rfl
      rw [hperform] at hfails
      cases hfails
  | next hperform _ ih =>
    cases h' with
    | refl =>
      obtain ⟨cause, hfails⟩ := hend' _ rfl
      rw [hperform] at hfails
      cases hfails
    | next hperform' hs' =>
      rw [hperform] at hperform'
      cases hperform'
      exact ih hend hs'

end Reaches

/-- The computation does what the jobs do: it succeeds where all of them do, or fails with the error
of the first that fails, behind its label. -/
def Follows {α : Type} (catalog : Catalog) (st : State) (js : List Job) (x : Compiled α)
    (done : α → State → Prop) : Prop :=
  match x with
  | .ok a => ∃ fin, Reaches catalog st js fin [] ∧ done a fin
  | .error e => ∃ fin job left cause, Reaches catalog st js fin (job :: left) ∧
      job.perform catalog fin = .error cause ∧ e = .context job.label cause

namespace Follows
variable {α β : Type} {catalog : Catalog} {st : State} {js js' : List Job}

theorem nothing {a : α} {done : α → State → Prop} (h : done a st) :
    Follows catalog st [] (.ok a) done :=
  ⟨st, .refl, h⟩

/-- A computation that follows the jobs left over follows those that led there as well. -/
theorem after {mid : State} {x : Compiled α} {done : α → State → Prop}
    (hreach : Reaches catalog st js mid js') (h : Follows catalog mid js' x done) :
    Follows catalog st js x done := by
  cases x with
  | error e =>
    obtain ⟨fin, job, left, cause, hrest, hfails, he⟩ := h
    exact ⟨fin, job, left, cause, hreach.trans hrest, hfails, he⟩
  | ok a =>
    obtain ⟨fin, hrest, hdone⟩ := h
    exact ⟨fin, hreach.trans hrest, hdone⟩

theorem bind {x : Compiled α} {f : α → Compiled β} {mid : α → State → Prop}
    {done : β → State → Prop} (hx : Follows catalog st js x mid)
    (hf : ∀ a st', mid a st' → Follows catalog st' js' (f a) done) :
    Follows catalog st (js ++ js') (x >>= f) done := by
  cases x with
  | error e =>
    obtain ⟨fin, job, left, cause, hreach, hfails, he⟩ := hx
    exact ⟨fin, job, left ++ js', cause, hreach.append js', hfails, he⟩
  | ok a =>
    obtain ⟨st', hreach, hmid⟩ := hx
    exact after (hreach.append js') (hf a st' hmid)

theorem map {x : Compiled α} {f : α → β} {done : β → State → Prop}
    (h : Follows catalog st js x fun a => done (f a)) :
    Follows catalog st js (f <$> x) done := by
  cases x with
  | error e => exact h
  | ok a => exact h

end Follows

/-! ## A pass follows its jobs -/

section
variable {catalog : Catalog}

/-- What a pass knows before its statements are checked. -/
def Progress.state (p : Progress) : State := { registry := p.registry, statements := p.statements }

def compiling (catalog : Catalog) (d : DatabaseDefinition) : Compiled Progress := do
  let p ← runTables catalog .start d.tables
  let declared ← compileSet p.registry d.declared
  return { p with statements := p.statements ++ declared }

def checking (ss : List Statement) : Compiled Unit := do
  checkNames [] ss
  Code.checkIdentifiers ss

end

theorem Arrives.unique {catalog : Catalog} {d : DatabaseDefinition} {st st' : State}
    {left left' : List Job} (h : Arrives catalog d st left) (hend : Ends catalog st left)
    (h' : Arrives catalog d st' left') (hend' : Ends catalog st' left') :
    st = st' ∧ left = left' := by
  cases h with
  | compiling hreach =>
    cases h' with
    | compiling hreach' => exact hreach.unique hend hreach' hend'
    | checking done _ => cases (hreach.unique hend done (ends_nil _ _)).2
  | checking done hreach =>
    cases h' with
    | compiling hreach' => cases (hreach'.unique hend' done (ends_nil _ _)).2
    | checking done' hreach' =>
      obtain ⟨rfl, -⟩ := done.unique (ends_nil _ _) done' (ends_nil _ _)
      exact hreach.unique hend hreach' hend'

theorem FirstFault.unique {catalog : Catalog} {d : DatabaseDefinition} {job job' : Job}
    {cause cause' : CompileError} (h : FirstFault catalog d job cause)
    (h' : FirstFault catalog d job' cause') : job = job' ∧ cause = cause' := by
  obtain ⟨st, left, harrives, hfails⟩ := h
  obtain ⟨st', left', harrives', hfails'⟩ := h'
  obtain ⟨rfl, hjobs⟩ := harrives.unique (ends_cons hfails left) harrives' (ends_cons hfails' left')
  cases hjobs
  rw [hfails] at hfails'
  cases hfails'
  exact ⟨rfl, rfl⟩

end Pass

namespace DatabaseDefinition
open Pass
variable {catalog : Catalog} {d : DatabaseDefinition}

end DatabaseDefinition

end SchemaLoom
