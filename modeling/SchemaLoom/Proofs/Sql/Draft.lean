import SchemaLoom.Proofs.Sql.Condition
import SchemaLoom.Proofs.Sql.Scope

/-!
# Drafts of comparisons

A drafted comparison has one of a few shapes, each under its own conditions. The relations here
list the shapes for WHERE and for ON, and a comparison is drafted exactly if it has one of them.
In each shape the text holds one placeholder for every parameter, in the order of binding, as
long as all names in the comparison are plain.
-/
namespace SchemaLoom
open Compiled Text

namespace Comparison

inductive WhereDraft (scope : Scope) (c : Comparison) : Draft → Prop where
  | call {op : Operator} {func : String} {f : SqlFunction} {a : String}
      {s : SearchColumnDefinition} (hop : Operator.parse c.op = .ok op) (hright : c.right = none)
      (hfunc : c.func = some func) (hparse : SqlFunction.parse func = .ok f)
      (hallows : f.allows op) (hs : scope.searchColumn c.left = .ok (a, s)) :
      WhereDraft scope c
        { sql := (f.call a s.name).sql ++ " " ++ op.sql ++ " "
            ++ placeholder (c.paramName.getD (f.comparandName a s.name op))
          params := (f.call a s.name).params
            ++ [⟨c.paramName.getD (f.comparandName a s.name op), f.resultType⟩] }
  | search {a : String} {s : SearchColumnDefinition} (hop : Operator.parse c.op = .ok .search)
      (hright : c.right = none) (hfunc : c.func = none)
      (hs : scope.searchColumn c.left = .ok (a, s)) :
      WhereDraft scope c
        { sql := "SEARCH(" ++ a ++ "." ++ s.name ++ ", "
            ++ placeholder (c.paramName.getD (generatedName a s.name Operator.search.suffix)) ++ ")"
          params := [⟨c.paramName.getD (generatedName a s.name Operator.search.suffix),
            .ofPrimitive .string⟩] }
  | null {op : Operator} {a : String} {col : Column} (hop : Operator.parse c.op = .ok op)
      (hright : c.right = none) (hfunc : c.func = none) (hnull : op = .isNull ∨ op = .isNotNull)
      (hcol : scope.column c.left = .ok (a, col)) (hnullable : col.type.nullable) :
      WhereDraft scope c { sql := a ++ "." ++ col.name ++ " " ++ op.sql }
  | membership {a : String} {col : Column} (hop : Operator.parse c.op = .ok .isIn)
      (hright : c.right = none) (hfunc : c.func = none)
      (hcol : scope.column c.left = .ok (a, col)) (harray : col.type.isArray = false) :
      WhereDraft scope c
        { sql := a ++ "." ++ col.name ++ " IN UNNEST("
            ++ placeholder (c.paramName.getD (generatedName a col.name Operator.isIn.suffix)) ++ ")"
          params := [⟨c.paramName.getD (generatedName a col.name Operator.isIn.suffix),
            col.type.arrayOfScalar⟩] }
  | order {op : Operator} {a : String} {col : Column} (hop : Operator.parse c.op = .ok op)
      (hright : c.right = none) (hfunc : c.func = none) (horder : op.isComparison)
      (hcol : scope.column c.left = .ok (a, col)) (harray : col.type.isArray = false) :
      WhereDraft scope c
        { sql := a ++ "." ++ col.name ++ " " ++ op.sql ++ " "
            ++ placeholder (c.paramName.getD (generatedName a col.name op.suffix))
          params := [⟨c.paramName.getD (generatedName a col.name op.suffix), col.type.scalar⟩] }

theorem draftWhere_eq_ok {scope : Scope} {c : Comparison} {d : Draft} :
    c.draftWhere scope = .ok d ↔ WhereDraft scope c d := by
  constructor
  · intro h
    simp only [draftWhere, bind_eq_ok, ensure_eq_ok, Option.isNone_iff_eq_none] at h
    obtain ⟨op, hop, -, hright, h⟩ := h
    cases hfunc : c.func with
    | some func =>
      simp only [hfunc, draftCall, bind_eq_ok, ensure_eq_ok, pure_eq_ok, Prod.exists] at h
      obtain ⟨f, hparse, -, hallows, a, s, hs, rfl⟩ := h
      exact .call hop hright hfunc hparse hallows hs
    | none =>
      simp only [hfunc] at h
      by_cases hsearch : op = .search
      · subst hsearch
        simp only [if_pos, draftSearch, bind_eq_ok, pure_eq_ok, Prod.exists] at h
        obtain ⟨a, s, hs, rfl⟩ := h
        exact .search hop hright hfunc hs
      · simp only [if_neg hsearch, draftColumn, bind_eq_ok, Prod.exists] at h
        obtain ⟨a, col, hcol, h⟩ := h
        cases op <;>
          simp only [bind_eq_ok, ensure_eq_ok, rejectArray, pure_eq_ok, Bool.not_eq_true'] at h <;>
          obtain ⟨-, hcheck, rfl⟩ := h
        case isNull => exact .null hop hright hfunc (by simp) hcol hcheck
        case isNotNull => exact .null hop hright hfunc (by simp) hcol hcheck
        case isIn => exact .membership hop hright hfunc hcol hcheck
        case search => exact absurd rfl hsearch
        all_goals exact .order hop hright hfunc rfl hcol hcheck
  · intro h
    simp only [draftWhere, bind_eq_ok, ensure_eq_ok, Option.isNone_iff_eq_none]
    cases h with
    | call hop hright hfunc hparse hallows hs =>
      refine ⟨_, hop, (), hright, ?_⟩
      simp only [hfunc, draftCall, bind_eq_ok, ensure_eq_ok, pure_eq_ok, Prod.exists]
      exact ⟨_, hparse, (), hallows, _, _, hs, rfl⟩
    | search hop hright hfunc hs =>
      refine ⟨_, hop, (), hright, ?_⟩
      simp only [hfunc, if_pos, draftSearch, bind_eq_ok, pure_eq_ok, Prod.exists]
      exact ⟨_, _, hs, rfl⟩
    | null hop hright hfunc hnull hcol hnullable =>
      refine ⟨_, hop, (), hright, ?_⟩
      rcases hnull with rfl | rfl <;>
        simp only [hfunc, reduceCtorEq, if_false, draftColumn, bind_eq_ok, ensure_eq_ok,
          pure_eq_ok, Prod.exists] <;>
        exact ⟨_, _, hcol, (), hnullable, rfl⟩
    | membership hop hright hfunc hcol harray =>
      refine ⟨_, hop, (), hright, ?_⟩
      simp only [hfunc, reduceCtorEq, if_false, draftColumn, rejectArray, bind_eq_ok,
        ensure_eq_ok, pure_eq_ok, Prod.exists]
      exact ⟨_, _, hcol, (), by simp [harray], rfl⟩
    | @order op _ _ hop hright hfunc horder hcol harray =>
      refine ⟨_, hop, (), hright, ?_⟩
      cases op
      case isNull | isNotNull | isIn | search => cases horder
      all_goals
        simp only [hfunc, reduceCtorEq, if_false, draftColumn, rejectArray, bind_eq_ok,
          ensure_eq_ok, pure_eq_ok, Prod.exists]
        exact ⟨_, _, hcol, (), by simp [harray], rfl⟩

inductive OnDraft (scope : Scope) (c : Comparison) : Draft → Prop where
  | pair {op : Operator} {a b : String} {left right : Column} {ref : ColumnRef}
      (hop : Operator.parse c.op = .ok op) (horder : op.isComparison) (hfunc : c.func = none)
      (hright : c.right = some ref) (hleft : scope.column c.left = .ok (a, left))
      (hlarray : left.type.isArray = false) (href : scope.column ref = .ok (b, right))
      (hrarray : right.type.isArray = false) (hsame : left.type.sameValue right.type) :
      OnDraft scope c { sql := a ++ "." ++ left.name ++ " " ++ op.sql ++ " " ++ b ++ "."
        ++ right.name }
  | value {op : Operator} {a : String} {left : Column}
      (hop : Operator.parse c.op = .ok op) (horder : op.isComparison) (hfunc : c.func = none)
      (hright : c.right = none) (hleft : scope.column c.left = .ok (a, left))
      (hlarray : left.type.isArray = false) :
      OnDraft scope c
        { sql := a ++ "." ++ left.name ++ " " ++ op.sql ++ " "
            ++ placeholder (c.paramName.getD (generatedName a left.name op.suffix))
          params := [⟨c.paramName.getD (generatedName a left.name op.suffix), left.type.scalar⟩] }

theorem draftOn_eq_ok {scope : Scope} {c : Comparison} {d : Draft} :
    c.draftOn scope = .ok d ↔ OnDraft scope c d := by
  constructor
  · intro h
    simp only [draftOn, rejectArray, bind_eq_ok, ensure_eq_ok, Option.isNone_iff_eq_none,
      Prod.exists, Bool.not_eq_true'] at h
    obtain ⟨op, hop, -, horder, -, hfunc, a, left, hleft, -, hlarray, h⟩ := h
    cases hright : c.right with
    | some ref =>
      simp only [hright, draftPair, rejectArray, bind_eq_ok, within_eq_ok, ensure_eq_ok,
        pure_eq_ok, Prod.exists, Bool.not_eq_true'] at h
      obtain ⟨b, right, href, -, hrarray, -, hsame, rfl⟩ := h
      exact .pair hop horder hfunc hright hleft hlarray href hrarray hsame
    | none =>
      simp only [hright, pure_eq_ok] at h
      subst h
      exact .value hop horder hfunc hright hleft hlarray
  · intro h
    simp only [draftOn, rejectArray, bind_eq_ok, ensure_eq_ok, Option.isNone_iff_eq_none,
      Prod.exists, Bool.not_eq_true']
    cases h with
    | pair hop horder hfunc hright hleft hlarray href hrarray hsame =>
      refine ⟨_, hop, (), horder, (), hfunc, _, _, hleft, (), hlarray, ?_⟩
      simp only [hright, draftPair, rejectArray, bind_eq_ok, within_eq_ok, ensure_eq_ok,
        pure_eq_ok, Prod.exists, Bool.not_eq_true']
      exact ⟨_, _, href, (), hrarray, (), hsame, rfl⟩
    | value hop horder hfunc hright hleft hlarray =>
      refine ⟨_, hop, (), horder, (), hfunc, _, _, hleft, (), hlarray, ?_⟩
      simp only [hright, pure_eq_ok]

end Comparison

section Plain

theorem placeholders_last {s name : String} (hs : Unmarked s) (hn : IsName name) :
    placeholders (s ++ placeholder name) = [name] := by
  rw [placeholders_unmarked_append hs, placeholders_placeholder hn]

theorem placeholders_enclosed {s name : String} (hs : Unmarked s) (hn : IsName name) :
    placeholders (s ++ placeholder name ++ ")") = [name] := by
  rw [placeholders_append (by decide), placeholders_last hs hn]
  exact List.append_nil _

theorem isName_suffix (op : Operator) : IsName op.suffix := by
  cases op <;> decide

@[simp] theorem unmarked_operator (op : Operator) : Unmarked op.sql := by
  cases op <;> decide

theorem isName_generatedName {a column suffix : String} (ha : IsName a) (hc : IsName column)
    (hs : IsName suffix) : IsName (generatedName a column suffix) :=
  (ha.lowerCamel.append hc.upperCamel).append hs

theorem isName_comparandName (f : SqlFunction) {a column : String} (ha : IsName a)
    (hc : IsName column) (op : Operator) : IsName (f.comparandName a column op) := by
  cases f
  have hscore : IsName "Score" := by decide
  exact isName_generatedName ha hc (hscore.append (isName_suffix op))

theorem SqlFunction.call_faithful (f : SqlFunction) {a column : String} (ha : IsName a)
    (hc : IsName column) : (f.call a column).Faithful := by
  cases f
  have hquery : IsName (generatedName a column "ScoreQuery") :=
    isName_generatedName ha hc (by decide)
  refine placeholders_enclosed ?_ hquery
  simp +decide [ha.unmarked, hc.unmarked]

def Comparison.mentioned (c : Comparison) : List String :=
  c.left.name :: c.left.table.toList ++ c.paramName.toList
    ++ c.right.toList.flatMap fun ref => ref.name :: ref.table.toList

namespace Comparison

variable {scope : Scope} {c : Comparison} {d : Draft}

theorem isName_getD {o : Option String} {s : String} (ho : ∀ n, o = some n → IsName n)
    (hs : IsName s) : IsName (o.getD s) := by
  cases o with
  | none => exact hs
  | some n => exact ho n rfl

theorem WhereDraft.faithful (h : WhereDraft scope c d) (hc : ∀ n ∈ c.mentioned, IsName n)
    (ha : IsName scope.defaultAlias) : d.Faithful := by
  have halias : IsName (c.left.table.getD scope.defaultAlias) :=
    isName_getD (fun n hn => hc n (by simp [mentioned, hn])) ha
  have hname : IsName c.left.name := hc _ (by simp [mentioned])
  have hvalue {s : String} (hs : IsName s) : IsName (c.paramName.getD s) :=
    isName_getD (fun n hn => hc n (by simp [mentioned, hn])) hs
  cases h with
  | @call op _ f _ _ _ _ _ _ _ hs =>
    obtain ⟨rfl, hn⟩ := Scope.searchColumn_ok hs
    rw [← hn] at hname
    have hcall := f.call_faithful halias hname
    have hlast := hvalue (isName_comparandName f halias hname op)
    unfold Draft.Faithful at hcall ⊢
    rw [List.map_append, ← hcall, String.append_assoc, String.append_assoc, String.append_assoc,
      placeholders_append (stops_append (by decide) (by decide)), ← String.append_assoc,
      ← String.append_assoc, placeholders_last ?_ hlast]
    · rfl
    · simp +decide
  | search _ _ _ hs =>
    obtain ⟨rfl, hn⟩ := Scope.searchColumn_ok hs
    rw [← hn] at hname
    refine placeholders_enclosed ?_ (hvalue (isName_generatedName halias hname (isName_suffix _)))
    simp +decide [halias.unmarked, hname.unmarked]
  | @null op _ _ _ _ _ _ hcol _ =>
    obtain ⟨rfl, hn⟩ := Scope.column_ok hcol
    rw [← hn] at hname
    refine placeholders_of_unmarked ?_
    simp +decide [halias.unmarked, hname.unmarked]
  | membership _ _ _ hcol _ =>
    obtain ⟨rfl, hn⟩ := Scope.column_ok hcol
    rw [← hn] at hname
    refine placeholders_enclosed ?_ (hvalue (isName_generatedName halias hname (isName_suffix _)))
    simp +decide [halias.unmarked, hname.unmarked]
  | @order op _ _ _ _ _ _ hcol _ =>
    obtain ⟨rfl, hn⟩ := Scope.column_ok hcol
    rw [← hn] at hname
    refine placeholders_last ?_ (hvalue (isName_generatedName halias hname (isName_suffix _)))
    simp +decide [halias.unmarked, hname.unmarked]

theorem OnDraft.faithful (h : OnDraft scope c d) (hc : ∀ n ∈ c.mentioned, IsName n)
    (ha : IsName scope.defaultAlias) : d.Faithful := by
  have halias : IsName (c.left.table.getD scope.defaultAlias) :=
    isName_getD (fun n hn => hc n (by simp [mentioned, hn])) ha
  have hname : IsName c.left.name := hc _ (by simp [mentioned])
  cases h with
  | @pair op _ _ _ _ ref _ _ _ hright hleft _ href _ _ =>
    obtain ⟨rfl, hn⟩ := Scope.column_ok hleft
    obtain ⟨rfl, hn'⟩ := Scope.column_ok href
    have hotherAlias : IsName (ref.table.getD scope.defaultAlias) :=
      isName_getD (fun n hn => hc n (by simp [mentioned, hright, hn])) ha
    have hother : IsName ref.name := hc _ (by simp [mentioned, hright])
    rw [← hn] at hname
    rw [← hn'] at hother
    refine placeholders_of_unmarked ?_
    simp +decide [halias.unmarked, hname.unmarked, hotherAlias.unmarked, hother.unmarked]
  | @value op _ _ _ _ _ _ hleft _ =>
    obtain ⟨rfl, hn⟩ := Scope.column_ok hleft
    rw [← hn] at hname
    have hvalue : IsName (c.paramName.getD
        (generatedName (c.left.table.getD scope.defaultAlias) _ op.suffix)) :=
      isName_getD (fun n hn => hc n (by simp [mentioned, hn]))
        (isName_generatedName halias hname (isName_suffix op))
    refine placeholders_last ?_ hvalue
    simp +decide [halias.unmarked, hname.unmarked]

end Comparison
end Plain
end SchemaLoom
