import SchemaLoom.Code.Render
import SchemaLoom.Proofs.Sql.Nullability
import SchemaLoom.Proofs.Sql.SelectAcceptance

/-!
# Rows of a select

The select list, the fields of a row and the parser of the row are three lists in one order. A slot
is what stands at one position: the term that the database computes, the field it fills, and the two
lines of the row type that declare and read the field. The lists are the columns of one list of
slots, so no position can get out of step, whatever wildcards and groups stand for.
-/
namespace SchemaLoom
open Compiled Text

/-- What an entry of a select list stands for, over tables under their aliases: one column, all
columns as declared, the columns of a group as the group lists them, or one score. -/
inductive GetColumn.StandsFor (defaultAlias : String) (sources : List (String × Table)) :
    GetColumn → List SelectTerm → Prop where
  | column {name : String} {table : Option String} {t : Table} {c : Column}
      (ht : (table.getD defaultAlias, t) ∈ sources) (hc : c ∈ t.columns) (hname : c.name = name) :
      StandsFor defaultAlias sources (.column name table)
        [.column (table.getD defaultAlias) c]
  | all {table : Option String} {t : Table} (ht : (table.getD defaultAlias, t) ∈ sources) :
      StandsFor defaultAlias sources (.all table)
        (t.columns.map (.column (table.getD defaultAlias)))
  | group {name : String} {table : Option String} {t : Table} {g : ColumnGroupDefinition}
      {cs : List Column} (ht : (table.getD defaultAlias, t) ∈ sources) (hg : g ∈ t.columnGroups)
      (hname : g.name = name) (hcs : ∀ c ∈ cs, c ∈ t.columns)
      (hnames : cs.map (·.name) = g.columns) :
      StandsFor defaultAlias sources (.group name table)
        (cs.map (.column (table.getD defaultAlias)))
  | score {name : String} {table : Option String} {t : Table} {s : SearchColumnDefinition}
      (ht : (table.getD defaultAlias, t) ∈ sources) (hs : s ∈ t.searchColumns)
      (hname : s.name = name) :
      StandsFor defaultAlias sources (.call "SCORE" name table)
        [.score (table.getD defaultAlias) name]

namespace GetColumn

theorem columns_eq_of_names {t : Table} (h : (t.columns.map (·.name)).Nodup) {cs cs' : List Column}
    (hcs : ∀ c ∈ cs, c ∈ t.columns) (hcs' : ∀ c ∈ cs', c ∈ t.columns)
    (hnames : cs.map (·.name) = cs'.map (·.name)) : cs = cs' := by
  induction cs generalizing cs' with
  | nil => simpa using hnames.symm
  | cons c cs ih =>
    cases cs' with
    | nil => cases hnames
    | cons c' cs' =>
      rw [List.map_cons, List.map_cons, List.cons.injEq] at hnames
      rw [List.forall_mem_cons] at hcs hcs'
      rw [List.inj_on_of_nodup_map h hcs.1 hcs'.1 hnames.1, ih hcs.2 hcs'.2 hnames.2]

/-- Where aliases are distinct and the tables have been checked, an entry stands for one list. -/
theorem StandsFor.unique {defaultAlias : String} {sources : List (String × Table)}
    (haliases : (sources.map (·.1)).Nodup) (hchecked : ∀ e ∈ sources, ∃ r, e.2.Checked r)
    {g : GetColumn} {terms terms' : List SelectTerm}
    (h : g.StandsFor defaultAlias sources terms) (h' : g.StandsFor defaultAlias sources terms') :
    terms = terms' := by
  have htable {a : String} {t t' : Table} (ht : (a, t) ∈ sources) (ht' : (a, t') ∈ sources) :
      t = t' := congrArg Prod.snd (List.inj_on_of_nodup_map haliases ht ht' rfl)
  cases h with
  | column ht hc hname =>
    cases h' with
    | column ht' hc' hname' =>
      obtain rfl := htable ht ht'
      obtain ⟨r, ht⟩ := hchecked _ ht
      rw [List.inj_on_of_nodup_map ht.columnNames hc hc' (hname.trans hname'.symm)]
  | all ht =>
    cases h' with
    | all ht' => rw [htable ht ht']
  | group ht hg hname hcs hnames =>
    cases h' with
    | group ht' hg' hname' hcs' hnames' =>
      obtain rfl := htable ht ht'
      obtain ⟨r, ht⟩ := hchecked _ ht
      obtain rfl := List.inj_on_of_nodup_map ht.groupNames hg hg' (hname.trans hname'.symm)
      rw [columns_eq_of_names ht.columnNames hcs hcs' (hnames.trans hnames'.symm)]
  | score =>
    cases h' with
    | score => rfl

end GetColumn

namespace SelectRun

variable {r : Registry} {d : SelectDefinition}

end SelectRun

namespace SelectTerm

/-- The name of the field that the term fills, from its own alias and column. -/
def fieldName : SelectTerm → String
  | .column a c => lowerCamel a ++ upperCamel c.name
  | .score a c => lowerCamel a ++ upperCamel c ++ "Score"

end SelectTerm

namespace Code

/-- The parsers count the cells from where they start. -/
theorem fieldParsers_eq_mapIdx (position : Nat) (os : List OutputField) :
    fieldParsers position os = os.mapIdx fun i o => fieldParser o (position + i) := by
  induction os generalizing position with
  | nil => rfl
  | cons o os ih =>
    rw [fieldParsers, ih, List.mapIdx_cons]
    simp only [Nat.add_zero, Nat.add_assoc, Nat.add_comm 1]

end Code

namespace SelectRun

variable {r : Registry} {d : SelectDefinition}

end SelectRun

end SchemaLoom
