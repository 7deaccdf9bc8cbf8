import SchemaLoom.Params

/-!
# Operators and functions

The operators of a comparison, the connectives of a condition and the one function, with
their spelling in SQL and in the names of generated parameters.
-/
namespace SchemaLoom

inductive Operator where
  | eq
  | ne
  | gt
  | ge
  | lt
  | le
  | isNull
  | isNotNull
  | isIn
  | search
deriving DecidableEq, Repr

namespace Operator

def parse : String → Compiled Operator
  | "=" => .ok .eq
  | "!=" => .ok .ne
  | ">" => .ok .gt
  | ">=" => .ok .ge
  | "<" => .ok .lt
  | "<=" => .ok .le
  | "IS NULL" => .ok .isNull
  | "IS NOT NULL" => .ok .isNotNull
  | "IN" => .ok .isIn
  | "SEARCH" => .ok .search
  | other => .error (.unsupported "operator" other)

def sql : Operator → String
  | .eq => "="
  | .ne => "!="
  | .gt => ">"
  | .ge => ">="
  | .lt => "<"
  | .le => "<="
  | .isNull => "IS NULL"
  | .isNotNull => "IS NOT NULL"
  | .isIn => "IN"
  | .search => "SEARCH"

/-- The end of the names of parameters compared by the operator. -/
def suffix : Operator → String
  | .eq => "Eq"
  | .ne => "Ne"
  | .gt => "Gt"
  | .ge => "Ge"
  | .lt => "Lt"
  | .le => "Le"
  | .isNull => "IsNull"
  | .isNotNull => "IsNotNull"
  | .isIn => "In"
  | .search => "Search"

def isComparison : Operator → Bool
  | .eq | .ne | .gt | .ge | .lt | .le => true
  | _ => false

end Operator

/-- How the parts of a condition are joined. -/
inductive Connective where
  | and
  | or
deriving DecidableEq, Repr

namespace Connective

def parse : String → Compiled Connective
  | "AND" => .ok .and
  | "OR" => .ok .or
  | other => .error (.unsupported "operator" other)

def separator : Connective → String
  | .and => " AND "
  | .or => " OR "

end Connective

inductive SqlFunction where
  /-- How well a search column matches a query text. -/
  | score
deriving DecidableEq, Repr

namespace SqlFunction

def parse : String → Compiled SqlFunction
  | "SCORE" => .ok .score
  | other => .error (.unsupported "function" other)

def resultType : SqlFunction → ColumnType
  | .score => .ofPrimitive .float64

/-- The operators that may compare the result. -/
def allows : SqlFunction → Operator → Bool
  | .score, op => op.isComparison && op ≠ .ne

/-- The call over a search column, with its query text as a parameter. -/
def call (f : SqlFunction) (aliasName column : String) : Draft :=
  match f with
  | .score =>
    let query := generatedName aliasName column "ScoreQuery"
    { sql := "SCORE(" ++ aliasName ++ "." ++ column ++ ", " ++ placeholder query ++ ")"
      params := [⟨query, .ofPrimitive .string⟩] }

def fieldName (f : SqlFunction) (aliasName column : String) : String :=
  match f with
  | .score => generatedName aliasName column "Score"

/-- The generated parameter the result is compared with. -/
def comparandName (f : SqlFunction) (aliasName column : String) (op : Operator) : String :=
  match f with
  | .score => generatedName aliasName column ("Score" ++ op.suffix)

end SqlFunction
end SchemaLoom
