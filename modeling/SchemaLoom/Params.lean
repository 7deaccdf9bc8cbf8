import SchemaLoom.Column.Basic
import SchemaLoom.Error
import SchemaLoom.Text.Words

/-!
# Statement parameters

Parameters are kept in the order of their first binding. Binding a name again is the same
parameter if the wire types agree and an error otherwise; the column type stays that of the
first binding.
-/
namespace SchemaLoom

/-- A named parameter and the column type its value is converted by. -/
structure Param where
  name : String
  type : ColumnType
deriving DecidableEq, Repr

/-- The generated name of a parameter or output field over `alias.column`. -/
def generatedName (aliasName column suffix : String) : String :=
  Text.lowerCamel aliasName ++ Text.upperCamel column ++ suffix

def placeholder (name : String) : String := "@" ++ name

structure Params where
  bound : List Param
deriving DecidableEq, Repr

namespace Params

def empty : Params := ⟨[]⟩

def find? (ps : Params) (name : String) : Option Param := ps.bound.find? (·.name = name)

def conflict (name : String) (first second : WireType) : CompileError :=
  .invalid ("parameter " ++ name ++ " is bound as both " ++ first.display ++ " and "
    ++ second.display ++ ".")

/-- Binds one more parameter and gives its placeholder. A binding that is refused leaves the
parameters as they are. -/
def bind (ps : Params) (p : Param) : Compiled String × Params :=
  if p.name = "" then (.error (.missing "paramName"), ps)
  else match ps.find? p.name with
    | some q =>
      if q.type.wireType = p.type.wireType then (.ok (placeholder p.name), ps)
      else (.error (conflict p.name q.type.wireType p.type.wireType), ps)
    | none => (.ok (placeholder p.name), ⟨ps.bound ++ [p]⟩)

/-- Binds several parameters in order, up to the first that is refused. -/
def bindAll : Params → List Param → Compiled Params
  | ps, [] => .ok ps
  | ps, q :: qs =>
    match ps.bind q with
    | (.ok _, next) => next.bindAll qs
    | (.error e, _) => .error e

end Params

/-- A piece of SQL with the parameters its placeholders stand for, in the order in which they
are bound. -/
structure Draft where
  sql : String
  params : List Param := []
deriving DecidableEq, Repr

/-- Binds the parameters of a draft and gives its text. -/
def Params.take (ps : Params) (d : Draft) : Compiled (String × Params) :=
  (d.sql, ·) <$> ps.bindAll d.params

end SchemaLoom
