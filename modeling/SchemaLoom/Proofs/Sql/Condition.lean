import SchemaLoom.Proofs.Pairs
import SchemaLoom.Proofs.Params
import SchemaLoom.Proofs.Sql.Placeholder
import SchemaLoom.Sql.Clause

/-!
# Compiled conditions

A compiled condition is the drafts of its comparisons from left to right: their parameters are
bound in this order, and their placeholders follow each other in this order in the text, whatever
the connectives and the parentheses around them.
-/
namespace SchemaLoom
open Compiled

/-- The placeholders of the text are the parameters, in order. -/
def Draft.Faithful (d : Draft) : Prop := placeholders d.sql = d.params.map (·.name)

namespace Condition

mutual
def leaves : Condition → List Comparison
  | .leaf c => [c]
  | .concat _ parts => leavesOf parts

def leavesOf : List Condition → List Comparison
  | [] => []
  | c :: cs => c.leaves ++ leavesOf cs
end

theorem stops_separator (k : Connective) :
    k.separator ≠ "" ∧ Stops k.separator ∧ Unmarked k.separator := by
  cases k <;> decide

variable {draft : Comparison → Compiled Draft}

/-- What a run over comparisons leaves: their drafts, bound and written in order. -/
structure Drafted (draft : Comparison → Compiled Draft) (cs : List Comparison)
    (ps : Params) (written : List String) (next : Params) (ds : List Draft) : Prop where
  drafts : List.Forall₂ (fun c d => draft c = .ok d) cs ds
  binds : ps.bindAll (ds.flatMap (·.params)) = .ok next
  spells : written = ds.flatMap fun d => placeholders d.sql

theorem Drafted.append {cs cs' : List Comparison} {ps mid next : Params} {w w' : List String}
    {ds ds' : List Draft} (h : Drafted draft cs ps w mid ds)
    (h' : Drafted draft cs' mid w' next ds') :
    Drafted draft (cs ++ cs') ps (w ++ w') next (ds ++ ds') where
  drafts := List.rel_append h.drafts h'.drafts
  binds := by
    rw [List.flatMap_append]
    exact Params.bindAll_append.mpr ⟨mid, h.binds, h'.binds⟩
  spells := by rw [h.spells, h'.spells, List.flatMap_append]

-- The induction is on the tree: one case for a comparison, one for a connective, whose parts
-- are taken in turn by the second theorem.
mutual
theorem compile_drafted : (c : Condition) → {ps next : Params} → {text : String} →
    c.compile draft ps = .ok (text, next) →
    ∃ ds, Drafted draft c.leaves ps (placeholders text) next ds
  | .leaf c, ps, next, text, h => by
    simp only [compile, within_eq_ok, bind_eq_ok] at h
    obtain ⟨d, hd, h⟩ := h
    obtain ⟨rfl, hbind⟩ := Params.take_eq_ok.mp h
    exact ⟨[d], .cons hd .nil, by simpa using hbind, by simp⟩
  | .concat op parts, ps, next, text, h => by
    simp only [compile, bind_eq_ok, ensure_eq_ok, pure_eq_ok, Prod.exists, Prod.mk.injEq] at h
    obtain ⟨k, -, -, -, texts, ps', hparts, rfl, rfl⟩ := h
    obtain ⟨ds, hds⟩ := compileParts_drafted parts hparts
    refine ⟨ds, hds.drafts, hds.binds, ?_⟩
    obtain ⟨hne, hstops, hmark⟩ := stops_separator k
    rw [← hds.spells, String.append_assoc, placeholders_unmarked_append (by decide),
      placeholders_append (by decide), placeholders_intercalate hne hstops hmark]
    exact List.append_nil _

theorem compileParts_drafted : (cs : List Condition) → {ps next : Params} →
    {texts : List String} → compileParts draft cs ps = .ok (texts, next) →
    ∃ ds, Drafted draft (leavesOf cs) ps (texts.flatMap placeholders) next ds
  | [], ps, next, texts, h => by
    simp only [compileParts, Except.ok.injEq, Prod.mk.injEq] at h
    obtain ⟨rfl, rfl⟩ := h
    exact ⟨[], .nil, rfl, rfl⟩
  | c :: cs, ps, next, texts, h => by
    simp only [compileParts, bind_eq_ok, pure_eq_ok, Prod.exists, Prod.mk.injEq] at h
    obtain ⟨text, mid, hc, rest, next', hcs, rfl, rfl⟩ := h
    obtain ⟨ds, hds⟩ := compile_drafted c hc
    obtain ⟨ds', hds'⟩ := compileParts_drafted cs hcs
    exact ⟨ds ++ ds', hds.append hds'⟩
end

end Condition
end SchemaLoom
