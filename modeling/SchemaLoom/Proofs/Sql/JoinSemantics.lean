import SchemaLoom.Proofs.Sql.Select

/-!
# What joins compute

The rows of a FROM clause over the contents of a database: joins are taken from left to right, each
with a condition of its own over the tables so far. A row of a clause has a stored row under every
alias, or none where an outer join has found no partner; all columns of such an alias are null. The
text of a select spells the joins in this order.
-/
namespace SchemaLoom

/-- A row of a table: the value of every column, none for null. -/
abbrev StoredRow (V : Type) := String → Option V

abbrev Database (V : Type) := String → List (StoredRow V)

/-- Columns that are not nullable hold no null. -/
def Database.Respects {V : Type} (db : Database V) (r : Registry) : Prop :=
  ∀ t ∈ r.tables, ∀ row ∈ db t.name, ∀ c ∈ t.columns,
    c.type.nullable = false → (row c.name).isSome = true

instance {V : Type} (db : Database V) (r : Registry) : Decidable (db.Respects r) :=
  inferInstanceAs (Decidable (∀ t ∈ r.tables, ∀ row ∈ db t.name, ∀ c ∈ t.columns, _ → _))

/-- A row of a FROM clause: the stored row under every alias, none where there is no partner. -/
abbrev JoinedRow (V : Type) := String → Option (StoredRow V)

namespace JoinedRow

variable {V : Type}

def absent : JoinedRow V := fun _ => none

def place (row : JoinedRow V) (aliasName : String) (stored : Option (StoredRow V)) :
    JoinedRow V := fun a => if a = aliasName then stored else row a

theorem place_self (row : JoinedRow V) (a : String) (stored : Option (StoredRow V)) :
    row.place a stored a = stored := if_pos rfl

theorem place_of_ne (row : JoinedRow V) {a b : String} (h : b ≠ a)
    (stored : Option (StoredRow V)) : row.place a stored b = row b := if_neg h

end JoinedRow

namespace JoinType

variable {V : Type} (on : JoinedRow V → Bool) (aliasName : String)
  (left : List (JoinedRow V)) (right : List (StoredRow V))

/-- All pairs of a row so far and a row of the joined table. -/
def pairs : List (JoinedRow V) :=
  left.flatMap fun row => right.map fun stored => row.place aliasName (some stored)

/-- The rows so far that have no partner in the joined table. -/
def leftAlone : List (JoinedRow V) :=
  (left.filter fun row => !right.any fun stored => on (row.place aliasName (some stored))).map
    (·.place aliasName none)

/-- The rows of the joined table that have no partner so far. -/
def rightAlone : List (JoinedRow V) :=
  (right.filter fun stored => !left.any fun row => on (row.place aliasName (some stored))).map
    fun stored => JoinedRow.absent.place aliasName (some stored)

def rows : JoinType → List (JoinedRow V)
  | .inner => (pairs aliasName left right).filter on
  | .cross => pairs aliasName left right
  | .left => (pairs aliasName left right).filter on ++ leftAlone on aliasName left right
  | .right => (pairs aliasName left right).filter on ++ rightAlone on aliasName left right
  | .full => (pairs aliasName left right).filter on ++ leftAlone on aliasName left right
      ++ rightAlone on aliasName left right

variable {on aliasName left right} {row : JoinedRow V}

theorem mem_pairs (h : row ∈ pairs aliasName left right) :
    ∃ l ∈ left, ∃ s ∈ right, row = l.place aliasName (some s) := by
  obtain ⟨l, hl, h⟩ := List.mem_flatMap.mp h
  obtain ⟨s, hs, rfl⟩ := List.mem_map.mp h
  exact ⟨l, hl, s, hs, rfl⟩

theorem mem_leftAlone (h : row ∈ leftAlone on aliasName left right) :
    ∃ l ∈ left, row = l.place aliasName none := by
  obtain ⟨l, hl, rfl⟩ := List.mem_map.mp h
  exact ⟨l, (List.mem_filter.mp hl).1, rfl⟩

theorem mem_rightAlone (h : row ∈ rightAlone on aliasName left right) :
    ∃ s ∈ right, row = JoinedRow.absent.place aliasName (some s) := by
  obtain ⟨s, hs, rfl⟩ := List.mem_map.mp h
  exact ⟨s, (List.mem_filter.mp hs).1, rfl⟩

/-- Where a row of a join comes from. -/
theorem mem_rows {j : JoinType} (h : row ∈ j.rows on aliasName left right) :
    (∃ l ∈ left, ∃ s ∈ right, row = l.place aliasName (some s)) ∨
      ((j = .left ∨ j = .full) ∧ ∃ l ∈ left, row = l.place aliasName none) ∨
      ((j = .right ∨ j = .full) ∧
        ∃ s ∈ right, row = JoinedRow.absent.place aliasName (some s)) := by
  cases j with
  | inner => exact .inl (mem_pairs (List.mem_filter.mp h).1)
  | cross => exact .inl (mem_pairs h)
  | left =>
    rcases List.mem_append.mp h with h | h
    · exact .inl (mem_pairs (List.mem_filter.mp h).1)
    · exact .inr (.inl ⟨.inl rfl, mem_leftAlone h⟩)
  | right =>
    rcases List.mem_append.mp h with h | h
    · exact .inl (mem_pairs (List.mem_filter.mp h).1)
    · exact .inr (.inr ⟨.inl rfl, mem_rightAlone h⟩)
  | full =>
    rcases List.mem_append.mp h with h | h
    · rcases List.mem_append.mp h with h | h
      · exact .inl (mem_pairs (List.mem_filter.mp h).1)
      · exact .inr (.inl ⟨.inr rfl, mem_leftAlone h⟩)
    · exact .inr (.inr ⟨.inr rfl, mem_rightAlone h⟩)

end JoinType

/-- The rows after the joins, taken from left to right with the conditions `on`. -/
def JoinDefinition.rowsAfter {V : Type} (db : Database V) (on : JoinDefinition → JoinedRow V → Bool) :
    List (JoinedRow V) → List JoinDefinition → List (JoinedRow V)
  | rows, [] => rows
  | rows, d :: ds =>
    match JoinType.parse d.joinType with
    | .error _ => []
    | .ok j => rowsAfter db on (j.rows (on d) d.sourceAlias rows (db d.table)) ds

def SelectDefinition.fromRows {V : Type} (db : Database V)
    (on : JoinDefinition → JoinedRow V → Bool) (d : SelectDefinition) : List (JoinedRow V) :=
  JoinDefinition.rowsAfter db on
    ((db d.fromTable).map fun stored => JoinedRow.absent.place d.primaryAlias (some stored)) d.joins

/-- The text of a join: its type, its table and its condition. -/
def JoinDefinition.Spelled (d : JoinDefinition) (text : String) : Prop :=
  ∃ on, text = " " ++ d.joinType ++ " JOIN " ++ FromClause.source d.table d.sourceAlias ++ on ∧
    match d.condition with
    | none => on = ""
    | some c => ∃ scope ps next body, c.compileOn scope ps = .ok (body, next) ∧ on = " ON " ++ body

namespace SelectDefinition

/-- What stands behind the FROM clause: a filter, an order and a page, where they are wanted. -/
def Narrowed (d : SelectDefinition) (text : String) : Prop :=
  ∃ filter order, text = (if d.condition.isSome then " WHERE " ++ filter else "")
    ++ (if d.orderBy = [] then "" else " ORDER BY " ++ order)
    ++ (if d.limit then " LIMIT @limit" else "") ++ (if d.offset then " OFFSET @offset" else "")

/-- The text of a select with this select list: the table, the joins in order, the rest. -/
def Spelled (d : SelectDefinition) (items : List String) (sql : String) : Prop :=
  ∃ joins rest, List.Forall₂ JoinDefinition.Spelled d.joins joins ∧ d.Narrowed rest ∧
    sql = "SELECT " ++ ", ".intercalate items ++ " FROM "
      ++ FromClause.source d.fromTable d.primaryAlias ++ String.join joins ++ rest

end SelectDefinition

/-- What an item of a select list denotes. -/
inductive SelectTerm where
  | column (aliasName : String) (column : Column)
  /-- The score of a search column. -/
  | score (aliasName column : String)
deriving DecidableEq, Repr

namespace SelectTerm

def aliasName : SelectTerm → String
  | .column a _ => a
  | .score a _ => a

/-- The type of the term where the alias has a row. -/
def type : SelectTerm → ColumnType
  | .column _ c => c.type
  | .score _ _ => .ofPrimitive .float64

def sql : SelectTerm → String
  | .column a c => a ++ "." ++ c.name
  | .score a c => (SqlFunction.score.call a c).sql

/-- The value in a row, none for null; a present row has a score. -/
def value {V : Type} (score : String → StoredRow V → V) (row : JoinedRow V) :
    SelectTerm → Option V
  | .column a c => (row a).bind fun stored => stored c.name
  | .score a c => (row a).map (score c)

end SelectTerm

def GetColumn.terms (defaultAlias : String) (sources : List (String × Table)) :
    GetColumn → List SelectTerm
  | .column name table =>
    (sources.find? (·.1 = table.getD defaultAlias)).toList.flatMap fun (a, t) =>
      (t.columns.find? (·.name = name)).toList.map (.column a)
  | .all table =>
    (sources.find? (·.1 = table.getD defaultAlias)).toList.flatMap fun (a, t) =>
      t.columns.map (.column a)
  | .group name table =>
    (sources.find? (·.1 = table.getD defaultAlias)).toList.flatMap fun (a, t) =>
      ((t.columnGroups.find? (·.name = name)).toList.flatMap (·.columns)).flatMap fun n =>
        (t.columns.find? (·.name = n)).toList.map (.column a)
  | .call _ name table => [.score (table.getD defaultAlias) name]

def SelectDefinition.terms (r : Registry) (d : SelectDefinition) : List SelectTerm :=
  d.getColumns.flatMap (GetColumn.terms d.primaryAlias (d.sources r))

end SchemaLoom
