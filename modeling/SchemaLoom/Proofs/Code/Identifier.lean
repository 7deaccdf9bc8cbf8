import SchemaLoom.Code.Identifier
import SchemaLoom.Proofs.Distinct

/-!
# Identifiers that are accepted

Statements are checked one after the other against the identifiers claimed so far. What a whole
check accepts does not depend on this order: every name has a usable form, and no two names that
are checked together have the same one.
-/
namespace SchemaLoom
open Compiled

namespace Code

theorem isIdentRest_of_isIdent {text : String} (h : isIdent text) :
    ∀ c ∈ text.toList, isIdentRest c := by
  unfold isIdent at h
  split at h
  · cases h
  · rename_i c cs htext
    rw [Bool.and_eq_true, List.all_eq_true] at h
    rw [htext]
    exact h.2

/-- The snake-case form of the name can stand as an identifier. -/
def Usable (name : String) : Prop :=
  isIdent (Text.snakeCase name) ∧ Text.snakeCase name ∉ reservedWords

instance (name : String) : Decidable (Usable name) := inferInstanceAs (Decidable (_ ∧ _))

theorem checkIdent_eq_ok {what name ident : String} :
    checkIdent what name = .ok ident ↔ Usable name ∧ ident = Text.snakeCase name := by
  have husable : (isIdent (Text.snakeCase name) && !reservedWords.contains (Text.snakeCase name))
      = true ↔ Usable name := by simp [Usable]
  unfold checkIdent
  by_cases h : Usable name
  · rw [if_pos (husable.mpr h), Except.ok.injEq, eq_comm]
    exact (and_iff_right h).symm
  · rw [if_neg (mt husable.mp h)]
    simp [h]

theorem claim_eq_ok {seen next : Claims} {what name ident : String} :
    claim seen what name ident = .ok next ↔
      ident ∉ seen.map (·.1) ∧ next = seen ++ [(ident, name)] := by
  have hnew : seen.lookup ident = none ↔ ident ∉ seen.map (·.1) := by
    simp only [List.lookup_eq_none_iff, bne_iff_ne, List.mem_map, not_exists, not_and]
    exact forall₂_congr fun _ _ => ne_comm
  unfold claim
  cases h : seen.lookup ident with
  | none =>
    rw [Except.ok.injEq, eq_comm]
    exact (and_iff_right (hnew.mp h)).symm
  | some other =>
    have hmem : ident ∈ seen.map (·.1) := by
      by_contra hn
      rw [hnew.mpr hn] at h
      cases h
    simp [hmem]

theorem claimAll_eq_ok (what many : String) (seen : Claims) (names : List String) :
    (∃ next, claimAll what many seen names = .ok next) ↔
      (∀ n ∈ names, Usable n) ∧ Fresh (seen.map (·.1)) (names.map Text.snakeCase) := by
  induction names generalizing seen with
  | nil => simp [claimAll]
  | cons n names ih =>
    simp only [claimAll, bind_eq_ok, checkIdent_eq_ok, claim_eq_ok, List.forall_mem_cons,
      List.map_cons, fresh_cons]
    constructor
    · rintro ⟨next, _, ⟨husable, rfl⟩, _, ⟨hnew, rfl⟩, hrest⟩
      obtain ⟨hall, hfresh⟩ := (ih _).mp ⟨next, hrest⟩
      exact ⟨⟨husable, hall⟩, hnew, by simpa using hfresh⟩
    · rintro ⟨⟨husable, hall⟩, hnew, hfresh⟩
      obtain ⟨next, hrest⟩ := (ih (seen ++ [(Text.snakeCase n, n)])).mpr
        ⟨hall, by simpa using hfresh⟩
      exact ⟨next, _, ⟨husable, rfl⟩, _, ⟨hnew, rfl⟩, hrest⟩

end Code

namespace Statement
open Code

/-- The arguments and the row fields of a statement get identifiers of their own; the function of
a select has one argument more. -/
structure Separated (s : Statement) : Prop where
  params : ∀ p ∈ s.params, Usable p.name
  arguments : Fresh (if s.kind = .select then [runnerArgument] else [])
    (s.params.map fun p => Text.snakeCase p.name)
  outputs : ∀ o ∈ s.outputs, Usable o.name
  fields : (s.outputs.map fun o => Text.snakeCase o.name).Nodup

theorem checkParts_eq_ok {s : Statement} {u : Unit} : s.checkParts = .ok u ↔ s.Separated := by
  have htaken : (if s.kind = .select then [(runnerArgument, runnerArgument)] else [] : Claims).map
      (·.1) = if s.kind = .select then [runnerArgument] else [] := by
    split <;> rfl
  have hparams := claimAll_eq_ok "parameter" "parameters"
    (if s.kind = .select then [(runnerArgument, runnerArgument)] else [])
    (s.params.map (·.name))
  have houtputs := claimAll_eq_ok "output field" "output fields" [] (s.outputs.map (·.name))
  rw [htaken] at hparams
  simp only [List.forall_mem_map, List.map_map, List.map_nil, fresh_of_nothing] at hparams houtputs
  simp only [checkParts, bind_eq_ok, pure_eq_ok]
  constructor
  · rintro ⟨arguments, hargs, fields, hfields, -⟩
    obtain ⟨husable, hfresh⟩ := hparams.mp ⟨arguments, hargs⟩
    obtain ⟨husable', hnodup⟩ := houtputs.mp ⟨fields, hfields⟩
    exact ⟨husable, hfresh, husable', hnodup⟩
  · intro h
    obtain ⟨arguments, hargs⟩ := hparams.mpr ⟨h.params, h.arguments⟩
    obtain ⟨fields, hfields⟩ := houtputs.mpr ⟨h.outputs, h.fields⟩
    exact ⟨arguments, hargs, fields, hfields, trivial⟩

end Statement

namespace Code

def rowNames (ss : List Statement) : List String :=
  (ss.filter (·.kind = .select)).map Statement.rowName

/-- Statements that can be rendered next to each other. -/
structure Accepted (ss : List Statement) : Prop where
  usable : ∀ s ∈ ss, Usable s.name
  functions : (ss.map fun s => Text.snakeCase s.name).Nodup
  rows : (rowNames ss).Nodup
  parts : ∀ s ∈ ss, s.Separated

theorem rowNames_append (ss ss' : List Statement) :
    rowNames (ss ++ ss') = rowNames ss ++ rowNames ss' := by
  simp [rowNames]

/-- What one statement adds to the identifiers claimed before it. -/
theorem checkIdentifiers_step {s : Statement} {functions rows functions' rows' : Claims} :
    s.checkIdentifiers functions rows = .ok (functions', rows') ↔
      (Usable s.name ∧ s.Separated) ∧ Text.snakeCase s.name ∉ functions.map (·.1) ∧
      functions' = functions ++ [(Text.snakeCase s.name, s.name)] ∧
      Fresh (rows.map (·.1)) (rowNames [s]) ∧
      rows' = rows ++ (rowNames [s]).map fun row => (row, s.name) := by
  simp only [Statement.checkIdentifiers, within_eq_ok]
  by_cases hkind : s.kind = .select
  · have hrows : rowNames [s] = [s.rowName] := by simp [rowNames, hkind]
    simp only [hkind, if_true, bind_eq_ok, pure_eq_ok, checkIdent_eq_ok, claim_eq_ok,
      Statement.checkParts_eq_ok, Prod.mk.injEq, hrows, fresh_cons, fresh_nil, and_true,
      List.map_cons, List.map_nil]
    constructor
    · rintro ⟨_, ⟨husable, rfl⟩, _, ⟨hnew, rfl⟩, _, ⟨hrow, rfl⟩, _, hparts, rfl, rfl⟩
      exact ⟨⟨husable, hparts⟩, hnew, rfl, hrow, rfl⟩
    · rintro ⟨⟨husable, hparts⟩, hnew, rfl, hrow, rfl⟩
      exact ⟨_, ⟨husable, rfl⟩, _, ⟨hnew, rfl⟩, _, ⟨hrow, rfl⟩, (), hparts, rfl, rfl⟩
  · have hrows : rowNames [s] = [] := by simp [rowNames, hkind]
    simp only [hkind, if_false, bind_eq_ok, pure_eq_ok, checkIdent_eq_ok, claim_eq_ok,
      Statement.checkParts_eq_ok, Prod.mk.injEq, Except.ok.injEq, hrows, fresh_nil, true_and,
      List.map_nil, List.append_nil]
    constructor
    · rintro ⟨_, ⟨husable, rfl⟩, _, ⟨hnew, rfl⟩, _, rfl, _, hparts, rfl, rfl⟩
      exact ⟨⟨husable, hparts⟩, hnew, rfl, rfl⟩
    · rintro ⟨⟨husable, hparts⟩, hnew, rfl, rfl⟩
      exact ⟨_, ⟨husable, rfl⟩, _, ⟨hnew, rfl⟩, _, rfl, (), hparts, rfl, rfl⟩

theorem checkFrom_eq_ok {ss : List Statement} {functions rows : Claims} {u : Unit} :
    checkFrom functions rows ss = .ok u ↔
      (∀ s ∈ ss, Usable s.name ∧ s.Separated) ∧
      Fresh (functions.map (·.1)) (ss.map fun s => Text.snakeCase s.name) ∧
      Fresh (rows.map (·.1)) (rowNames ss) := by
  induction ss generalizing functions rows with
  | nil => simp [checkFrom, rowNames]
  | cons s ss ih =>
    have hrows : rowNames (s :: ss) = rowNames [s] ++ rowNames ss := rowNames_append [s] ss
    simp only [checkFrom, bind_eq_ok, Prod.exists, checkIdentifiers_step, ih,
      List.forall_mem_cons, List.map_cons, fresh_cons, hrows, fresh_append]
    constructor
    · rintro ⟨_, _, ⟨hs, hnew, rfl, hrow, rfl⟩, hall, hfunctions, hrest⟩
      exact ⟨⟨hs, hall⟩, ⟨hnew, by simpa using hfunctions⟩, hrow,
        by simpa [Function.comp_def] using hrest⟩
    · rintro ⟨⟨hs, hall⟩, ⟨hnew, hfunctions⟩, hrow, hrest⟩
      exact ⟨_, _, ⟨hs, hnew, rfl, hrow, rfl⟩, hall, by simpa using hfunctions,
        by simpa [Function.comp_def] using hrest⟩

theorem checkIdentifiers_eq_ok {ss : List Statement} {u : Unit} :
    checkIdentifiers ss = .ok u ↔ Accepted ss := by
  simp only [checkIdentifiers, checkFrom_eq_ok, List.map_nil, fresh_of_nothing]
  constructor
  · rintro ⟨hall, hfunctions, hrows⟩
    exact ⟨fun s hs => (hall s hs).1, hfunctions, hrows, fun s hs => (hall s hs).2⟩
  · intro h
    exact ⟨fun s hs => ⟨h.usable s hs, h.parts s hs⟩, h.functions, h.rows⟩

/-- The order of the statements does not matter. -/
theorem Accepted.perm {ss ss' : List Statement} (h : Accepted ss) (hperm : ss.Perm ss') :
    Accepted ss' where
  usable s hs := h.usable s (hperm.mem_iff.mpr hs)
  functions := (hperm.map _).nodup_iff.mp h.functions
  rows := ((hperm.filter _).map _).nodup_iff.mp h.rows
  parts s hs := h.parts s (hperm.mem_iff.mpr hs)

end Code
end SchemaLoom
