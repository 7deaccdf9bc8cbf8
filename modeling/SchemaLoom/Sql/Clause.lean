import SchemaLoom.Sql.Operator
import SchemaLoom.Sql.Scope

/-!
# Conditions

A comparison is drafted on its own: its text and the parameters it needs depend only on the
scope. A condition is compiled from left to right, binding the parameters of each comparison
before the next is looked at. Every AND and OR gets exactly one pair of parentheses.
-/
namespace SchemaLoom
open Compiled

/-- The column is not an array, as the operator demands. -/
def rejectArray (c : Column) (op : Operator) : Compiled Unit :=
  ensure (!c.type.isArray)
    (.invalid ("column " ++ c.name ++ " is an array and cannot be used with " ++ op.sql ++ "."))

namespace Comparison

/-- A function result compared with a parameter. -/
def draftCall (scope : Scope) (c : Comparison) (op : Operator) (func : String) :
    Compiled Draft := do
  let f ← SqlFunction.parse func
  ensure (f.allows op)
    (.invalid ("operator " ++ op.sql ++ " cannot be applied to " ++ func ++ "."))
  let (aliasName, search) ← scope.searchColumn c.left
  let call := f.call aliasName search.name
  let name := c.paramName.getD (f.comparandName aliasName search.name op)
  return { sql := call.sql ++ " " ++ op.sql ++ " " ++ placeholder name
           params := call.params ++ [⟨name, f.resultType⟩] }

/-- A search column searched for a query text. -/
def draftSearch (scope : Scope) (c : Comparison) : Compiled Draft := do
  let (aliasName, search) ← scope.searchColumn c.left
  let name := c.paramName.getD (generatedName aliasName search.name Operator.search.suffix)
  return { sql := "SEARCH(" ++ aliasName ++ "." ++ search.name ++ ", " ++ placeholder name ++ ")"
           params := [⟨name, .ofPrimitive .string⟩] }

/-- A column tested for null, membership or order. -/
def draftColumn (scope : Scope) (c : Comparison) (op : Operator) : Compiled Draft := do
  let (aliasName, column) ← scope.column c.left
  let qualified := aliasName ++ "." ++ column.name
  let name := c.paramName.getD (generatedName aliasName column.name op.suffix)
  match op with
  | .isNull | .isNotNull =>
    ensure column.type.nullable
      (.invalid ("column " ++ column.name ++ " is not nullable and cannot be used with "
        ++ op.sql ++ "."))
    return { sql := qualified ++ " " ++ op.sql }
  | .isIn =>
    rejectArray column op
    return { sql := qualified ++ " IN UNNEST(" ++ placeholder name ++ ")"
             params := [⟨name, column.type.arrayOfScalar⟩] }
  | _ =>
    rejectArray column op
    return { sql := qualified ++ " " ++ op.sql ++ " " ++ placeholder name
             params := [⟨name, column.type.scalar⟩] }

def draftWhere (scope : Scope) (c : Comparison) : Compiled Draft := do
  let op ← Operator.parse c.op
  ensure c.right.isNone (.invalid "rightColumn is only allowed in join conditions.")
  match c.func with
  | some func => c.draftCall scope op func
  | none => if op = .search then c.draftSearch scope else c.draftColumn scope op

def draftPair (scope : Scope) (op : Operator) (leftAlias : String) (left : Column)
    (ref : ColumnRef) : Compiled Draft := do
  let (rightAlias, right) ← within ("and when comparing with " ++ ref.describe)
    (scope.column ref)
  rejectArray right op
  ensure (left.type.sameValue right.type)
    (.invalid ("column " ++ leftAlias ++ "." ++ left.name ++ " of type " ++ left.type.ddlType
      ++ " cannot be compared with column " ++ rightAlias ++ "." ++ right.name ++ " of type "
      ++ right.type.ddlType ++ "."))
  return { sql := leftAlias ++ "." ++ left.name ++ " " ++ op.sql ++ " " ++ rightAlias ++ "."
             ++ right.name }

def draftOn (scope : Scope) (c : Comparison) : Compiled Draft := do
  let op ← Operator.parse c.op
  ensure op.isComparison
    (.invalid ("operator " ++ op.sql ++ " is not allowed in a join condition."))
  ensure c.func.isNone (.invalid "functions are not allowed in a join condition.")
  let (aliasName, left) ← scope.column c.left
  rejectArray left op
  match c.right with
  | some ref => draftPair scope op aliasName left ref
  | none =>
    let name := c.paramName.getD (generatedName aliasName left.name op.suffix)
    return { sql := aliasName ++ "." ++ left.name ++ " " ++ op.sql ++ " " ++ placeholder name
             params := [⟨name, left.type.scalar⟩] }

end Comparison

namespace Condition

mutual
/-- The text of a condition, with the parameters of its comparisons bound. -/
def compile (draft : Comparison → Compiled Draft) : Condition → Params →
    Compiled (String × Params)
  | .leaf c, ps =>
    within ("and when comparing " ++ c.left.describe) (draft c >>= ps.take)
  | .concat op parts, ps => do
    let connective ← Connective.parse op
    ensure (!parts.isEmpty) (.missing ("exprs of " ++ op))
    let (texts, ps) ← compileParts draft parts ps
    return ("(" ++ connective.separator.intercalate texts ++ ")", ps)

def compileParts (draft : Comparison → Compiled Draft) : List Condition → Params →
    Compiled (List String × Params)
  | [], ps => .ok ([], ps)
  | c :: cs, ps => do
    let (text, ps) ← c.compile draft ps
    let (texts, ps) ← compileParts draft cs ps
    return (text :: texts, ps)
end

def compileWhere (scope : Scope) : Condition → Params → Compiled (String × Params) :=
  compile (Comparison.draftWhere scope)

def compileOn (scope : Scope) : Condition → Params → Compiled (String × Params) :=
  compile (Comparison.draftOn scope)

end Condition
end SchemaLoom
