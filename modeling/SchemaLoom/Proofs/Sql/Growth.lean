import SchemaLoom.Proofs.Ddl.Validity
import SchemaLoom.Proofs.Sql.Agreement

/-!
# Growth of the schema

More tables never change the outcome of a compilation that found the tables it asked for. An
outcome against a larger registry is therefore the same, be it a statement or an error, unless a
table was missing.
-/
namespace SchemaLoom

/-- An error whose cause is a table that is not in the registry. -/
def CompileError.WantsTable (e : CompileError) : Prop := ∃ name, e.root = .notFound "table" name ""

namespace Compiled

/-- The second outcome is the first, unless the first failed for want of a table. -/
def GrowsTo {α : Type} (x y : Compiled α) : Prop := x = y ∨ ∃ e, x = .error e ∧ e.WantsTable

variable {α β : Type} {x y : Compiled α}

@[refl] theorem GrowsTo.refl (x : Compiled α) : GrowsTo x x := .inl rfl

theorem GrowsTo.bind {f g : α → Compiled β} (hx : GrowsTo x y) (hf : ∀ a, GrowsTo (f a) (g a)) :
    GrowsTo (x >>= f) (y >>= g) := by
  rcases hx with rfl | ⟨e, rfl, he⟩
  · cases x with
    | error e => rfl
    | ok a => exact hf a
  · exact .inr ⟨e, rfl, he⟩

theorem GrowsTo.within {label : String} (h : GrowsTo x y) :
    GrowsTo (within label x) (within label y) := by
  rcases h with rfl | ⟨e, rfl, he⟩
  · rfl
  · exact .inr ⟨.context label e, rfl, he⟩

theorem GrowsTo.eq_error {e : CompileError} (h : GrowsTo x y) (hx : x = .error e)
    (he : ¬e.WantsTable) : y = .error e := by
  rcases h with rfl | ⟨e', hx', he'⟩
  · exact hx
  · rw [hx] at hx'
    cases hx'
    exact absurd he' he

theorem GrowsTo.eq_ok {a : α} (h : GrowsTo x y) (hx : x = .ok a) : y = .ok a := by
  rcases h with rfl | ⟨e, he, -⟩
  · exact hx
  · rw [hx] at he
    cases he

end Compiled

open Compiled

/-- The first registry is a start of the second: further tables have been declared. -/
def Registry.Within (r r' : Registry) : Prop := r.tables <+: r'.tables

namespace Registry

theorem Within.trans {r r' r'' : Registry} (h : r.Within r') (h' : r'.Within r'') : r.Within r'' :=
  List.IsPrefix.trans h h'

/-- A declaration appends a table or changes nothing. -/
theorem within_attempt (r : Registry) (catalog : Catalog) (d : TableDefinition) :
    r.Within (r.attempt catalog d) := by
  rcases r.attempt_cases catalog d with ⟨ddl, h⟩ | ⟨-, h⟩
  · obtain ⟨t, -, -, -, -, hnext⟩ := declare_eq_ok.mp h
    exact ⟨[t], by rw [hnext]⟩
  · exact ⟨[], by rw [h, List.append_nil]⟩

/-- Further declarations start from the tables that are there. -/
theorem within_attemptAll (r : Registry) (calls : List (Catalog × TableDefinition)) :
    r.Within (r.attemptAll calls) := by
  induction calls generalizing r with
  | nil => exact ⟨[], List.append_nil _⟩
  | cons call calls ih => exact (r.within_attempt call.1 call.2).trans (ih _)

end Registry

section
variable {r r' : Registry}

theorem Registry.Within.table (h : r.Within r') (name : String) :
    GrowsTo (r.table name) (r'.table name) := by
  obtain ⟨more, hmore⟩ := h
  cases hfind : r.find? name with
  | none =>
    rw [Registry.table, hfind]
    exact .inr ⟨_, rfl, name, rfl⟩
  | some t =>
    rw [Registry.table, Registry.table, hfind, Registry.find?_of_before hmore.symm hfind]

theorem InsertDefinition.compile_grows (h : r.Within r') (d : InsertDefinition) :
    GrowsTo (d.compile r) (d.compile r') := by
  apply GrowsTo.within
  unfold build
  iterate 3
    apply GrowsTo.bind (.refl _)
    intro _
  apply (h.table d.table).bind
  intro t
  rfl

theorem UpdateDefinition.compile_grows (h : r.Within r') (d : UpdateDefinition) :
    GrowsTo (d.compile r) (d.compile r') := by
  apply GrowsTo.within
  unfold build
  iterate 4
    apply GrowsTo.bind (.refl _)
    intro _
  apply (h.table d.table).bind
  intro t
  rfl

theorem DeleteDefinition.compile_grows (h : r.Within r') (d : DeleteDefinition) :
    GrowsTo (d.compile r) (d.compile r') := by
  apply GrowsTo.within
  unfold build
  iterate 3
    apply GrowsTo.bind (.refl _)
    intro _
  apply (h.table d.table).bind
  intro t
  rfl

theorem FromClause.join_grows (h : r.Within r') (f : FromClause) (d : JoinDefinition) :
    GrowsTo (f.join r d) (f.join r' d) := by
  apply GrowsTo.within
  iterate 2
    apply GrowsTo.bind (.refl _)
    intro _
  apply (h.table d.table).bind
  intro t
  rfl

theorem FromClause.joinAll_grows (h : r.Within r') (f : FromClause) (ds : List JoinDefinition) :
    GrowsTo (f.joinAll r ds) (f.joinAll r' ds) := by
  induction ds generalizing f with
  | nil => rfl
  | cons d ds ih =>
    apply (f.join_grows h d).bind
    intro next
    exact ih next

theorem SelectDefinition.compile_grows (h : r.Within r') (d : SelectDefinition) :
    GrowsTo (d.compile r) (d.compile r') := by
  apply GrowsTo.within
  unfold build
  iterate 3
    apply GrowsTo.bind (.refl _)
    intro _
  apply (h.table d.fromTable).bind
  intro t
  apply (FromClause.joinAll_grows h _ d.joins).bind
  intro source
  rfl

theorem StatementDefinition.compile_grows (h : r.Within r') (d : StatementDefinition) :
    GrowsTo (d.compile r) (d.compile r') := by
  cases d with
  | insert d => exact d.compile_grows h
  | update d => exact d.compile_grows h
  | delete d => exact d.compile_grows h
  | select d => exact d.compile_grows h

end

/-- Whatever is declared after a statement was compiled, with or without success, the statement
stays what it was. An error stays the same error too, unless its cause is a missing table. -/
theorem compile_outlasts_declarations (r : Registry) (calls : List (Catalog × TableDefinition))
    (d : StatementDefinition) :
    (∀ s, d.compile r = .ok s → d.compile (r.attemptAll calls) = .ok s) ∧
      ∀ e, d.compile r = .error e → ¬e.WantsTable → d.compile (r.attemptAll calls) = .error e := by
  have hgrows := d.compile_grows (r.within_attemptAll calls)
  constructor
  · intro s hs
    exact hgrows.eq_ok hs
  · intro e he hroot
    exact hgrows.eq_error he hroot

namespace Sample

/-- One field of a row of a table, found by its id. -/
def fieldOf (table field : String) : StatementDefinition := .select {
  name := "findField"
  fromTable := table
  condition := some (.leaf { op := "=", left := ⟨"id", none⟩ })
  getColumns := [.column field none] }

/-- The table of posts is declared, then the users once more, which fails. -/
def postsLater : List (Catalog × TableDefinition) := [(kinds, posts), (kinds, users)]

end Sample

/-- The select of a known field stays, the one of an unknown field fails as before. A select over
the posts fails for want of its table and compiles once it is declared. -/
theorem compile_outlasts_declarations_posts :
    (∃ s, (Sample.fieldOf "users" "joined").compile Sample.usersFirst = .ok s ∧
      (Sample.fieldOf "users" "joined").compile
        (Sample.usersFirst.attemptAll Sample.postsLater) = .ok s) ∧
    (∃ e, (Sample.fieldOf "users" "title").compile Sample.usersFirst = .error e ∧
      ¬e.WantsTable ∧ (Sample.fieldOf "users" "title").compile
        (Sample.usersFirst.attemptAll Sample.postsLater) = .error e) ∧
    (∃ e, (Sample.fieldOf "posts" "title").compile Sample.usersFirst = .error e ∧ e.WantsTable) ∧
    ∃ s, (Sample.fieldOf "posts" "title").compile
      (Sample.usersFirst.attemptAll Sample.postsLater) = .ok s := by
  have hroot : ¬CompileError.WantsTable (.context (statementLabel "findField")
      (.context "and when generating column title"
        (.notFound "column" "title" (Table.scope "users")))) := by
    rintro ⟨name, h⟩
    exact absurd (CompileError.notFound.inj h).1 (by decide)
  refine ⟨⟨_, rfl, ?_⟩, ⟨_, rfl, hroot, ?_⟩, ⟨_, rfl, "posts", rfl⟩, ⟨_, rfl⟩⟩
  · exact (compile_outlasts_declarations _ _ _).1 _ rfl
  · exact (compile_outlasts_declarations _ _ _).2 _ rfl hroot

end SchemaLoom
