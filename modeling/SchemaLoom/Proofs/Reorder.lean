import SchemaLoom.Proofs.Blocks
import SchemaLoom.Proofs.Sql.Lookup

/-!
# Independent tables

The block of a table depends on the tables before it through two look-ups only: that of its own
name, which must find nothing, and that of the parent it is interleaved in. So two tables that do
not look each other up can change places. Their blocks change places with them, and all that
follows sees registries in which every name means the same table.
-/
namespace SchemaLoom
open Compiled Pass

namespace Registry
variable {r r' : Registry}

/-- Every name means the same table in both registries. -/
def Agrees (r r' : Registry) : Prop := ∀ name, r.find? name = r'.find? name

theorem find?_push (r : Registry) (t : Table) (name : String) :
    (r.push t).find? name = (r.find? name).or (if t.name = name then some t else none) := by
  by_cases h : t.name = name <;> simp [push, find?, List.find?_append, h]

theorem find?_push_of_ne {t : Table} {name : String} (h : t.name ≠ name) :
    (r.push t).find? name = r.find? name := by
  simp [find?_push, h]

theorem Agrees.append (h : r.Agrees r') (ts : List Table) :
    Agrees ⟨r.tables ++ ts⟩ ⟨r'.tables ++ ts⟩ := by
  intro name
  have hname : r.tables.find? (·.name = name) = r'.tables.find? (·.name = name) := h name
  simp only [find?, List.find?_append, hname]

theorem Agrees.push (h : r.Agrees r') (t : Table) : (r.push t).Agrees (r'.push t) :=
  h.append [t]

/-- Two tables of different names can be added in either order, whatever follows. -/
theorem agrees_of_swap {t u : Table} (h : t.name ≠ u.name) (before after : List Table) :
    Agrees ⟨before ++ t :: u :: after⟩ ⟨before ++ u :: t :: after⟩ := by
  intro name
  by_cases ht : t.name = name
  · have hu : u.name ≠ name := fun hu => h (ht.trans hu.symm)
    simp [find?, List.find?_append, ht, hu]
  · simp [find?, List.find?_append, List.find?_cons, ht]

end Registry

theorem Table.Checked.of_parent {r r' : Registry} {t : Table} (h : t.Checked r)
    (hparent : ∀ i, t.interleave = some i → r.find? i.parentTable = r'.find? i.parentTable) :
    t.Checked r' :=
  { h with
    parent := by
      intro i hi
      obtain ⟨p, hp, hkey⟩ := h.parent i hi
      exact ⟨p, hparent i hi ▸ hp, hkey⟩ }

/-- Two tables of different names, neither of which is interleaved in the other. -/
structure TableDefinition.Independent (a b : TableDefinition) : Prop where
  names : a.name ≠ b.name
  left : ∀ i, a.interleave = some i → i.parentTable ≠ b.name
  right : ∀ i, b.interleave = some i → i.parentTable ≠ a.name

theorem TableDefinition.Independent.symm {a b : TableDefinition} (h : a.Independent b) :
    b.Independent a :=
  ⟨h.names.symm, h.right, h.left⟩

namespace Block
variable {catalog : Catalog} {r r' : Registry} {a b d : TableDefinition} {x y : Block}

theorem Of.keeps (h : x.Of catalog r d) :
    x.table.name = d.name ∧ x.table.interleave = d.interleave := by
  obtain ⟨⟨a, s, ha, hdescribes, -⟩, -, -⟩ := h
  obtain ⟨hname, hinterleave⟩ := TableDefinition.augment_keeps ha
  exact ⟨hdescribes.name.trans hname, hdescribes.interleave.trans hinterleave⟩

/-- A block stays the block of its table where the table finds the same of itself and of its
parent. -/
theorem Of.of_lookups (h : x.Of catalog r d) (hself : r.find? d.name = r'.find? d.name)
    (hparent : ∀ i, d.interleave = some i → r.find? i.parentTable = r'.find? i.parentTable) :
    x.Of catalog r' d := by
  obtain ⟨hname, hinterleave⟩ := h.keeps
  obtain ⟨⟨a, s, ha, hdescribes, hs, hss⟩, hchecked, hfresh⟩ := h
  refine ⟨⟨a, s, ha, hdescribes, hs, ?_⟩, ?_, ?_⟩
  · rw [← hss]
    apply compileSet_congr
    intro q hq n hn
    have hn : n = d.name :=
      (TableDefinition.derive_tableNames hs q hq n hn).trans (TableDefinition.augment_keeps ha).1
    rw [Registry.find?_push, Registry.find?_push, hn, hself]
  · apply hchecked.of_parent
    rw [hinterleave]
    exact hparent
  · rw [← Registry.find?_eq_none, hname] at hfresh ⊢
    rw [← hself]
    exact hfresh

/-- The blocks of two independent tables can be added in either order. -/
theorem Of.swap (hx : x.Of catalog r a) (hy : y.Of catalog (r.push x.table) b)
    (hab : a.Independent b) : y.Of catalog r b ∧ x.Of catalog (r.push y.table) a := by
  have hxname : x.table.name = a.name := hx.keeps.1
  have hyname : y.table.name = b.name := hy.keeps.1
  constructor
  · apply hy.of_lookups
    · apply Registry.find?_push_of_ne
      rw [hxname]
      exact hab.names
    · intro i hi
      apply Registry.find?_push_of_ne
      rw [hxname]
      exact (hab.right i hi).symm
  · apply hx.of_lookups
    · symm
      apply Registry.find?_push_of_ne
      rw [hyname]
      exact hab.names.symm
    · intro i hi
      symm
      apply Registry.find?_push_of_ne
      rw [hyname]
      exact (hab.left i hi).symm

end Block

namespace Pass
variable {catalog : Catalog} {r r' : Registry} {before after ds : List TableDefinition}
  {a b : TableDefinition} {bs : List Block}

/-- Blocks depend only on what the names mean. -/
theorem Blocks.of_agrees (h : Blocks catalog r ds bs) (hr : r.Agrees r') :
    Blocks catalog r' ds bs := by
  induction h generalizing r' with
  | nil => exact .nil
  | @cons r d x ds bs hx _ ih =>
    exact .cons (hx.of_lookups (hr _) fun i _ => hr i.parentTable) (ih (hr.push x.table))

/-- Where two independent tables change places in a run, so do their blocks. The registry at the
end means the same. -/
theorem Blocks.swap (hab : a.Independent b)
    (h : Blocks catalog r (before ++ a :: b :: after) bs) :
    ∃ bs₁ x y bs₂, bs = bs₁ ++ x :: y :: bs₂ ∧ bs₁.length = before.length ∧
      x.table.name ≠ y.table.name ∧
      Blocks catalog r (before ++ b :: a :: after) (bs₁ ++ y :: x :: bs₂) := by
  induction before generalizing r bs with
  | nil =>
    cases h with
    | @cons _ _ x _ _ hx h =>
      cases h with
      | @cons _ _ y _ bs hy h =>
        have hne : x.table.name ≠ y.table.name := by
          rw [hx.keeps.1, hy.keeps.1]
          exact hab.names
        obtain ⟨hy, hx⟩ := hx.swap hy hab
        -- the tables after the two see another registry, but one that agrees
        refine ⟨[], x, y, bs, rfl, rfl, hne, .cons hy (.cons hx (h.of_agrees ?_))⟩
        simpa [Registry.push] using Registry.agrees_of_swap hne r.tables []
  | cons d before ih =>
    cases h with
    | @cons _ _ z _ _ hz h =>
      obtain ⟨bs₁, x, y, bs₂, rfl, hlength, hne, h⟩ := ih h
      exact ⟨z :: bs₁, x, y, bs₂, rfl, by simp [hlength], hne, .cons hz h⟩

end Pass

theorem Generated.ofBlocks_swap (name : String) (bs₁ bs₂ : List Block) (x y : Block)
    (declared : List Statement) :
    (ofBlocks name (bs₁ ++ x :: y :: bs₂) declared).statements.Perm
      (ofBlocks name (bs₁ ++ y :: x :: bs₂) declared).statements := by
  have hperm : (bs₁ ++ x :: y :: bs₂).Perm (bs₁ ++ y :: x :: bs₂) :=
    (List.Perm.swap y x bs₂).append_left bs₁
  exact (hperm.flatMap_right _).append_right declared

/-- A pass that succeeds does so with the two tables swapped, and its outcome is then the one with
the two blocks swapped. -/
theorem DatabaseDefinition.generateWith_swap {catalog : Catalog} {d : DatabaseDefinition}
    {before after : List TableDefinition} {a b : TableDefinition} {g : Generated}
    (htables : d.tables = before ++ a :: b :: after) (hab : a.Independent b)
    (h : d.generateWith catalog = .ok g) : ∃ bs₁ x y bs₂ declared,
      Blocks catalog .empty d.tables (bs₁ ++ x :: y :: bs₂) ∧ bs₁.length = before.length ∧
      g = .ofBlocks d.name (bs₁ ++ x :: y :: bs₂) declared ∧
      { d with tables := before ++ b :: a :: after }.generateWith catalog =
        .ok (.ofBlocks d.name (bs₁ ++ y :: x :: bs₂) declared) := by
  obtain ⟨hname, bs, declared, hbs, hdeclared, rfl, hnames, haccepted⟩ := generateWith_eq_ok.mp h
  obtain ⟨bs₁, x, y, bs₂, rfl, hlength, hne, hswapped⟩ := Blocks.swap hab (htables ▸ hbs)
  have hperm := Generated.ofBlocks_swap d.name bs₁ bs₂ x y declared
  refine ⟨bs₁, x, y, bs₂, declared, hbs, hlength, rfl, generateWith_eq_ok.mpr
    ⟨hname, _, declared, hswapped, ?_, rfl, (hperm.map _).nodup_iff.mp hnames,
      haccepted.perm hperm⟩⟩
  rw [← hdeclared]
  apply compileSet_congr
  intro q _ n _
  simpa using Registry.agrees_of_swap hne.symm (bs₁.map (·.table)) (bs₂.map (·.table)) n

/-- Two independent tables that stand next to each other can change places. The pass succeeds
on both definitions or on neither, and the outcomes differ only in the order of the two schema
entries and of the two blocks of derived statements. -/
theorem independent_tables_commute (catalog : Catalog) (d : DatabaseDefinition)
    (before after : List TableDefinition) (a b : TableDefinition)
    (htables : d.tables = before ++ a :: b :: after) (hab : a.Independent b) :
    let swapped := { d with tables := before ++ b :: a :: after }
    ((∃ g, d.generateWith catalog = .ok g) ↔ ∃ g, swapped.generateWith catalog = .ok g) ∧
    ∀ g, d.generateWith catalog = .ok g → ∃ bs₁ x y bs₂ declared,
      Blocks catalog .empty d.tables (bs₁ ++ x :: y :: bs₂) ∧ bs₁.length = before.length ∧
      g = .ofBlocks d.name (bs₁ ++ x :: y :: bs₂) declared ∧
      swapped.generateWith catalog = .ok (.ofBlocks d.name (bs₁ ++ y :: x :: bs₂) declared) := by
  intro swapped
  constructor
  · constructor
    · rintro ⟨g, h⟩
      obtain ⟨_, _, _, _, _, _, _, _, hswapped⟩ :=
        DatabaseDefinition.generateWith_swap htables hab h
      exact ⟨_, hswapped⟩
    · rintro ⟨g, h⟩
      obtain ⟨_, _, _, _, _, _, _, _, hback⟩ :=
        DatabaseDefinition.generateWith_swap (d := swapped) rfl hab.symm h
      have hd : { swapped with tables := before ++ a :: b :: after } = d := by
        rw [← htables]
      rw [hd] at hback
      exact ⟨_, hback⟩
  · intro g h
    exact DatabaseDefinition.generateWith_swap htables hab h

namespace Sample

def writers : TableDefinition where
  name := "writers"
  columns := [⟨"id", "string", false, false, none, false⟩,
    ⟨"name", "string", false, false, none, false⟩]
  primaryKeys := [.bare "id"]
  insert := some "addWriter"
  get := some "getWriter"

def shelves : TableDefinition where
  name := "shelves"
  columns := [⟨"number", "int64", false, false, none, false⟩]
  primaryKeys := [.bare "number"]
  delete := some "dropShelf"

def books : TableDefinition where
  name := "books"
  columns := [⟨"id", "string", false, false, none, false⟩,
    ⟨"isbn", "string", false, false, none, false⟩]
  primaryKeys := [.bare "id", .bare "isbn"]
  interleave := some ⟨"writers", true⟩
  insert := some "addBook"

/-- Two independent tables, a third inside the first, and a select over all. -/
def library : DatabaseDefinition where
  name := "library"
  tables := [writers, shelves, books]
  selects := [
    { name := "listBooks"
      fromTable := "books"
      joins := [{ joinType := "CROSS", table := "shelves" }]
      getColumns := [.column "isbn" none, .column "number" (some "shelves")] }]

end Sample

/-- The first two tables change places, and the statements derived from them do. -/
theorem independent_tables_commute_library :
    Sample.writers.Independent Sample.shelves ∧ ∃ bs₁ x y bs₂ declared,
      let g := Generated.ofBlocks "library" (bs₁ ++ x :: y :: bs₂) declared
      let g' := Generated.ofBlocks "library" (bs₁ ++ y :: x :: bs₂) declared
      Sample.library.generate = .ok g ∧
      { Sample.library with
        tables := [Sample.shelves, Sample.writers, Sample.books] }.generate = .ok g' ∧
      g.statements.map (·.name) = ["addWriter", "getWriter", "dropShelf", "addBook", "listBooks"] ∧
      g'.statements.map (·.name) =
        ["dropShelf", "addWriter", "getWriter", "addBook", "listBooks"] := by
  have hindependent : Sample.writers.Independent Sample.shelves :=
    ⟨by decide, by simp [Sample.writers], by simp [Sample.shelves]⟩
  have hlibrary : (fun g => g.statements.map (·.name)) <$> Sample.library.generate =
      .ok ["addWriter", "getWriter", "dropShelf", "addBook", "listBooks"] := by decide +kernel
  have hlibrary' : (fun g => g.statements.map (·.name)) <$> { Sample.library with
      tables := [Sample.shelves, Sample.writers, Sample.books] }.generate =
      .ok ["dropShelf", "addWriter", "getWriter", "addBook", "listBooks"] := by decide +kernel
  obtain ⟨g, hg, hnames⟩ := map_eq_ok.mp hlibrary
  obtain ⟨g', hg', hnames'⟩ := map_eq_ok.mp hlibrary'
  obtain ⟨bs₁, x, y, bs₂, declared, -, -, rfl, hswapped⟩ :=
    (independent_tables_commute (.ofDefinitions []) Sample.library [] [Sample.books]
      Sample.writers Sample.shelves rfl hindependent).2 g hg
  have hsame : Generated.ofBlocks "library" (bs₁ ++ y :: x :: bs₂) declared = g' :=
    Except.ok.inj (hswapped.symm.trans hg')
  exact ⟨hindependent, bs₁, x, y, bs₂, declared, hg, hswapped, hnames, hsame ▸ hnames'⟩

end SchemaLoom
