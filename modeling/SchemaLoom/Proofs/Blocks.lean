import SchemaLoom.Proofs.Code.Identifier
import SchemaLoom.Proofs.Pass

/-!
# A pass block by block

Every table adds one block to a pass: the table itself and the statements derived from it. A pass
succeeds exactly if each table has its block behind the tables before it, the statements of the
database compile against all tables, and the statements taken together are accepted.
-/
namespace SchemaLoom
open Compiled Pass

def Registry.push (r : Registry) (t : Table) : Registry := ⟨r.tables ++ [t]⟩

structure Block where
  table : Table
  statements : List Statement

namespace Block

/-- The block of a table definition behind the tables of `r`. -/
structure Of (catalog : Catalog) (r : Registry) (d : TableDefinition) (b : Block) : Prop where
  derived : ∃ a s, d.augment = .ok a ∧ a.Describes catalog b.table ∧ a.derive = .ok s ∧
    compileSet (r.push b.table) s = .ok b.statements
  checked : b.table.Checked r
  fresh : b.table.name ∉ r.names

end Block

namespace Pass
variable {catalog : Catalog} {p q : Progress} {d : TableDefinition}

def Progress.add (p : Progress) (b : Block) : Progress :=
  ⟨p.registry.push b.table, p.ddl ++ [b.table.ddl], p.statements ++ b.statements⟩

/-- All that a step can do is add the block of its table. -/
theorem step_eq_ok : step catalog p d = .ok q ↔ ∃ b, b.Of catalog p.registry d ∧ q = p.add b := by
  simp only [step, bind_eq_ok, within_eq_ok, pure_eq_ok, Prod.exists, Registry.declare_eq_ok]
  constructor
  · rintro ⟨a, ha, _, _, ⟨t, hdescribes, hchecked, hfresh, rfl, rfl⟩, s, hs, ss, hss, rfl⟩
    exact ⟨⟨t, ss⟩, ⟨⟨a, s, ha, hdescribes, hs, hss⟩, hchecked, hfresh⟩, rfl⟩
  · rintro ⟨b, ⟨⟨a, s, ha, hdescribes, hs, hss⟩, hchecked, hfresh⟩, rfl⟩
    exact ⟨a, ha, _, _, ⟨b.table, hdescribes, hchecked, hfresh, rfl, rfl⟩, s, hs, _, hss, rfl⟩

/-- The blocks of several tables, each behind the tables before it. -/
inductive Blocks (catalog : Catalog) : Registry → List TableDefinition → List Block → Prop where
  | nil {r : Registry} : Blocks catalog r [] []
  | cons {r : Registry} {d : TableDefinition} {b : Block} {ds : List TableDefinition}
      {bs : List Block} (h : b.Of catalog r d) (hs : Blocks catalog (r.push b.table) ds bs) :
      Blocks catalog r (d :: ds) (b :: bs)

/-- A run over tables adds their blocks in order. -/
theorem runTables_eq_ok {ds : List TableDefinition} :
    runTables catalog p ds = .ok q ↔
      ∃ bs, Blocks catalog p.registry ds bs ∧ q = bs.foldl Progress.add p := by
  induction ds generalizing p with
  | nil =>
    simp only [runTables, Except.ok.injEq]
    constructor
    · rintro rfl
      exact ⟨[], .nil, rfl⟩
    · rintro ⟨bs, hbs, rfl⟩
      cases hbs
      rfl
  | cons d ds ih =>
    simp only [runTables, bind_eq_ok, step_eq_ok, ih]
    constructor
    · rintro ⟨_, ⟨b, hb, rfl⟩, bs, hbs, rfl⟩
      exact ⟨b :: bs, .cons hb hbs, rfl⟩
    · rintro ⟨bs, hbs, rfl⟩
      cases hbs with
      | cons hb hbs => exact ⟨_, ⟨_, hb, rfl⟩, _, hbs, rfl⟩

theorem foldl_add (bs : List Block) (p : Progress) : bs.foldl Progress.add p =
    ⟨⟨p.registry.tables ++ bs.map (·.table)⟩, p.ddl ++ bs.map (·.table.ddl),
      p.statements ++ bs.flatMap (·.statements)⟩ := by
  induction bs generalizing p with
  | nil => simp
  | cons b bs ih => simp [ih, Progress.add, Registry.push]

end Pass

/-- The outcome made of the blocks of the tables and the statements of the database. -/
def Generated.ofBlocks (name : String) (bs : List Block) (declared : List Statement) :
    Generated where
  name := name
  ddl := ⟨bs.map (·.table.ddl)⟩
  statements := bs.flatMap (·.statements) ++ declared

theorem DatabaseDefinition.generateWith_eq_ok {catalog : Catalog} {d : DatabaseDefinition}
    {g : Generated} :
    d.generateWith catalog = .ok g ↔ d.name ≠ "" ∧ ∃ bs declared,
      Blocks catalog .empty d.tables bs ∧
      compileSet ⟨bs.map (·.table)⟩ d.declared = .ok declared ∧
      g = .ofBlocks d.name bs declared ∧ (g.statements.map (·.name)).Nodup ∧
      Code.Accepted g.statements := by
  simp only [generateWith, bind_eq_ok, within_eq_ok, ensure_eq_ok, pure_eq_ok, runTables_eq_ok,
    checkNames_eq_ok, fresh_of_nothing, Code.checkIdentifiers_eq_ok, decide_eq_true_eq]
  constructor
  · rintro ⟨-, hname, _, ⟨bs, hbs, rfl⟩, declared, hdeclared, -, hnames, -, haccepted, rfl⟩
    rw [foldl_add] at hdeclared hnames haccepted ⊢
    exact ⟨hname, bs, declared, hbs, hdeclared, rfl, hnames, haccepted⟩
  · rintro ⟨hname, bs, declared, hbs, hdeclared, rfl, hnames, haccepted⟩
    refine ⟨(), hname, _, ⟨bs, hbs, rfl⟩, declared, ?_⟩
    rw [foldl_add]
    exact ⟨hdeclared, (), hnames, (), haccepted, rfl⟩

end SchemaLoom
