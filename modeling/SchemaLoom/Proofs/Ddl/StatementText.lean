import SchemaLoom.Ddl.Artifact
import SchemaLoom.Proofs.Ddl.Check
import SchemaLoom.Proofs.Text.Legible

/-!
# Reading the schema statements

The text of a schema statement determines what it creates. Modifiers of a column are left out or
written behind its type, and a column ends at a comma or a closing parenthesis, neither of which can
stand at the beginning of a modifier; so a statement is read from left to right, and every part of
it is found again. What is found is the schema of the table or of the index: names, types as they
are written, null constraints, options, keys and parents.
-/
namespace SchemaLoom
open Compiled Text

/-- The text is at an end, or goes on as a list does behind one of its members. -/
def Delimited (s : String) : Prop := ∀ c ∈ s.toList.head?, c = ',' ∨ c = ')'

namespace Delimited

variable {x w : String}

theorem comma (rest : String) : Delimited (", " ++ rest) := by simp [Delimited]

theorem close (rest : String) : Delimited (")" ++ rest) := by simp [Delimited]

theorem stops (h : Delimited x) : Stops x := by
  intro c hc
  rcases h c hc with rfl | rfl <;> decide

/-- A modifier begins with a space, so it is not mistaken for the end of a member. -/
theorem ne_modifier (h : Delimited x) (hw : w.toList.head? = some ' ') (rest : String) :
    w ++ rest ≠ x := by
  rintro rfl
  have hspace := h ' ' (by simp [List.head?_append, hw])
  simp at hspace

end Delimited

theorem comma_ne_close (x y : String) : ", " ++ x ≠ ")" ++ y :=
  PrefixFree.append_ne (by decide) (by decide) x y

def BaseType.spellings : List String :=
  ["BOOL", "INT64", "FLOAT64", "TIMESTAMP", "STRING(MAX)", "BYTES(MAX)"]

theorem BaseType.ddlType_mem_spellings (b : BaseType) : b.ddlType ∈ spellings := by
  cases b with
  | primitive p => cases p <;> decide
  | enum => exact (by decide : "FLOAT64" ∈ spellings)
  | message => exact (by decide : "BYTES(MAX)" ∈ spellings)

namespace ColumnType

def spellings : List String :=
  BaseType.spellings ++ BaseType.spellings.map fun s => "Array<" ++ s ++ ">"

theorem ddlType_mem_spellings (t : ColumnType) : t.ddlType ∈ spellings := by
  rw [ddlType, spellings, List.mem_append]
  split
  · exact .inr (List.mem_map_of_mem t.base.ddlType_mem_spellings)
  · exact .inl t.base.ddlType_mem_spellings

/-- An array is written as no single value is. -/
theorem isArray_of_ddlType {t t' : ColumnType} (h : t.ddlType = t'.ddlType) :
    t.isArray = t'.isArray := by
  have hne : ∀ s ∈ BaseType.spellings, ∀ s' ∈ BaseType.spellings, "Array<" ++ s ++ ">" ≠ s' := by
    decide
  have hb := t.base.ddlType_mem_spellings
  have hb' := t'.base.ddlType_mem_spellings
  unfold ddlType at h
  cases harray : t.isArray <;> cases harray' : t'.isArray
  · rfl
  · rw [harray, harray'] at h
    exact absurd h.symm (hne _ hb' _ hb)
  · rw [harray, harray'] at h
    exact absurd h (hne _ hb _ hb')
  · rfl

/-- No type begins another, and none begins a search column. -/
theorem prefixFree_spellings : PrefixFree ("TOKENLIST" :: spellings) := by decide

end ColumnType

structure ColumnSchema where
  name : String
  ddlType : String
  isArray : Bool
  nullable : Bool
  allowCommitTimestamp : Bool
deriving DecidableEq, Repr

def Column.schema (c : Column) : ColumnSchema :=
  ⟨c.name, c.type.ddlType, c.type.isArray, c.type.nullable, c.allowCommitTimestamp⟩

def ColumnSchema.fragment (s : ColumnSchema) : String :=
  s.name ++ " " ++ (s.ddlType ++ if s.nullable then "" else " NOT NULL")
    ++ if s.allowCommitTimestamp then " OPTIONS(allow_commit_timestamp=true)" else ""

namespace Ddl

def entries (t : Table) : List (Column ⊕ SearchColumnDefinition) :=
  t.columns.map .inl ++ t.searchColumns.map .inr

def entryFragment : Column ⊕ SearchColumnDefinition → String :=
  Sum.elim columnFragment searchColumnFragment

def entrySchema : Column ⊕ SearchColumnDefinition → ColumnSchema ⊕ SearchColumnDefinition :=
  Sum.map Column.schema id

/-- The names of an entry are plain, and a search column has sources. -/
def PlainEntry : Column ⊕ SearchColumnDefinition → Prop
  | .inl c => IsName c.name
  | .inr s => IsName s.name ∧ s.sourceColumns ≠ [] ∧ ∀ n ∈ s.sourceColumns, IsName n

theorem fragments_eq_entries (t : Table) :
    (fragments t).map (·.2) = (entries t).map entryFragment := by
  simp [fragments, entries, entryFragment, Function.comp_def]

/-- The modifiers of a column are read behind its type. -/
theorem modifiers_inj {n n' o o' : Bool} {x y : String} (hx : Delimited x) (hy : Delimited y)
    (h : (if n then "" else " NOT NULL")
        ++ ((if o then " OPTIONS(allow_commit_timestamp=true)" else "") ++ x) =
      (if n' then "" else " NOT NULL")
        ++ ((if o' then " OPTIONS(allow_commit_timestamp=true)" else "") ++ y)) :
    n = n' ∧ o = o' ∧ x = y := by
  have hnull {b : Bool} {z w : String} (hz : Delimited z) :
      " NOT NULL" ++ w ≠ (if b then " OPTIONS(allow_commit_timestamp=true)" else "") ++ z := by
    cases b
    · simpa using hz.ne_modifier (by decide) w
    · exact PrefixFree.append_ne (by decide) (by decide) w z
  obtain ⟨hn, hrest⟩ := choice_append_inj
    (by rw [String.empty_append]; exact (hnull hx).symm)
    (by rw [String.empty_append]; exact (hnull hy).symm) h
  obtain ⟨ho, hxy⟩ := choice_append_inj
    (by rw [String.empty_append]; exact hy.ne_modifier rfl _)
    (by rw [String.empty_append]; exact hx.ne_modifier rfl _) hrest
  exact ⟨hn, ho, hxy⟩

theorem searchColumnFragment_eq (s : SearchColumnDefinition) : searchColumnFragment s =
    s.name ++ " " ++ ("TOKENLIST" ++ (" AS (TOKENIZE_FULLTEXT("
      ++ (" || ' ' || ".intercalate s.sourceColumns ++ ")) HIDDEN"))) := by
  have hword : " TOKENLIST AS (TOKENIZE_FULLTEXT(" =
      " " ++ ("TOKENLIST" ++ " AS (TOKENIZE_FULLTEXT(") := by decide
  unfold searchColumnFragment
  rw [hword]
  simp only [String.append_assoc]

/-- The text of a search column goes on with no type. -/
theorem columnFragment_ne_searchColumnFragment {c : Column} {s : SearchColumnDefinition}
    (hc : IsName c.name) (hs : IsName s.name) (x y : String) :
    columnFragment c ++ x ≠ searchColumnFragment s ++ y := by
  intro h
  rw [searchColumnFragment_eq] at h
  simp only [columnFragment, ColumnType.ddlWithNull, String.append_assoc] at h
  obtain ⟨-, h⟩ := hc.append_sep_inj hs (by decide) h
  have htype := (ColumnType.prefixFree_spellings.append_inj
    (List.mem_cons_of_mem _ c.type.ddlType_mem_spellings) List.mem_cons_self h).1
  have hnone : "TOKENLIST" ∉ ColumnType.spellings := by decide
  exact hnone (htype ▸ c.type.ddlType_mem_spellings)

theorem columnFragment_inj {c c' : Column} (hc : IsName c.name) (hc' : IsName c'.name)
    {x y : String} (hx : Delimited x) (hy : Delimited y)
    (h : columnFragment c ++ x = columnFragment c' ++ y) : c.schema = c'.schema ∧ x = y := by
  simp only [columnFragment, ColumnType.ddlWithNull, String.append_assoc] at h
  obtain ⟨hname, h⟩ := hc.append_sep_inj hc' (by decide) h
  obtain ⟨htype, h⟩ := ColumnType.prefixFree_spellings.append_inj
    (List.mem_cons_of_mem _ c.type.ddlType_mem_spellings)
    (List.mem_cons_of_mem _ c'.type.ddlType_mem_spellings) h
  obtain ⟨hnull, hcommit, hxy⟩ := modifiers_inj hx hy h
  have harray := ColumnType.isArray_of_ddlType htype
  exact ⟨by simp only [Column.schema, hname, htype, harray, hnull, hcommit], hxy⟩

theorem searchColumnFragment_inj {s s' : SearchColumnDefinition} (hs : PlainEntry (.inr s))
    (hs' : PlainEntry (.inr s')) {x y : String}
    (h : searchColumnFragment s ++ x = searchColumnFragment s' ++ y) : s = s' ∧ x = y := by
  have hend (z w : String) : " || ' ' || " ++ z ≠ ")) HIDDEN" ++ w :=
    PrefixFree.append_ne (by decide) (by decide) z w
  obtain ⟨hname, hne, hsources⟩ := hs
  obtain ⟨hname', hne', hsources'⟩ := hs'
  rw [searchColumnFragment_eq, searchColumnFragment_eq] at h
  simp only [String.append_assoc] at h
  obtain ⟨hnames, h⟩ := hname.append_sep_inj hname' (by decide) h
  simp only [String.append_right_inj] at h
  obtain ⟨hlists, h⟩ := legible_names.joined " || ' ' || "
    (fun _ => stops_append (by decide) (by decide)) hsources hsources' hne hne'
    (stops_append (by decide) (by decide)) (stops_append (by decide) (by decide))
    (fun _ => hend _ _) (fun _ => hend _ _) (by simpa using h)
  rw [List.map_id, List.map_id] at hlists
  cases s
  cases s'
  simp_all

/-- Columns and search columns are read off the text of a table. -/
theorem legible_entries : Legible Delimited entryFragment entrySchema PlainEntry := by
  intro a b ha hb x y hx hy h
  cases a with
  | inl c =>
    cases b with
    | inl c' =>
      obtain ⟨hschema, hxy⟩ := columnFragment_inj ha hb hx hy h
      exact ⟨congrArg Sum.inl hschema, hxy⟩
    | inr s => exact absurd h (columnFragment_ne_searchColumnFragment ha hb.1 x y)
  | inr s =>
    cases b with
    | inl c => exact absurd h.symm (columnFragment_ne_searchColumnFragment hb ha.1 y x)
    | inr s' =>
      obtain ⟨hsame, hxy⟩ := searchColumnFragment_inj ha hb h
      exact ⟨congrArg Sum.inr hsame, hxy⟩

/-- The key of a table: every name with its direction. -/
theorem legible_keys : Legible Delimited keyFragment id fun k => IsName k.name := by
  intro k k' hk hk' x y hx hy h
  have hdirections {b b' : Bool} {z w : String} (h : direction b ++ z = direction b' ++ w) :
      b = b' ∧ z = w :=
    choice_append_inj (PrefixFree.append_ne (by decide) (by decide) z w)
      (PrefixFree.append_ne (by decide) (by decide) w z) h
  simp only [keyFragment, String.append_assoc] at h
  obtain ⟨hname, h⟩ := hk.append_sep_inj hk' (by decide) h
  obtain ⟨hdesc, hxy⟩ := hdirections h
  cases k
  cases k'
  exact ⟨congrArg₂ KeyPart.mk hname hdesc, hxy⟩

/-- The key of an index, where ascending is not written. -/
theorem legible_indexKeys :
    Legible Delimited indexKeyFragment KeyColumn.part fun k => IsName k.name := by
  intro k k' hk hk' x y hx hy h
  have hstops {b : Bool} {z : String} (hz : Delimited z) :
      Stops ((if b then " DESC" else "") ++ z) := by
    cases b
    · simpa using hz.stops
    · exact stops_append (by decide) (by decide)
  simp only [indexKeyFragment, String.append_assoc] at h
  obtain ⟨hname, h⟩ := hk.append_inj hk' (hstops hx) (hstops hy) h
  obtain ⟨hdesc, hxy⟩ := choice_append_inj
    (by rw [String.empty_append]; exact hy.ne_modifier rfl _)
    (by rw [String.empty_append]; exact hx.ne_modifier rfl _) h
  exact ⟨KeyColumn.part_eq hname hdesc, hxy⟩

theorem legible_columnNames : Legible Delimited id id IsName :=
  legible_names.mono fun _ => Delimited.stops

/-- A list in parentheses is read to its end. -/
theorem enclosed_inj {α β : Type} {write : α → String} {key : α → β} {part : α → Prop}
    (h : Legible Delimited write key part) {as bs : List α} (has : ∀ a ∈ as, part a)
    (hbs : ∀ b ∈ bs, part b) (hane : as ≠ []) (hbne : bs ≠ []) {x y : String}
    (heq : commaJoin (as.map write) ++ (")" ++ x) = commaJoin (bs.map write) ++ (")" ++ y)) :
    as.map key = bs.map key ∧ x = y := by
  obtain ⟨hkeys, hxy⟩ := h.joined ", " Delimited.comma has hbs hane hbne (.close x) (.close y)
    (fun _ => comma_ne_close _ _) (fun _ => comma_ne_close _ _) heq
  exact ⟨hkeys, (String.append_right_inj _).mp hxy⟩

theorem interleaveFragment_some (p : InterleaveDefinition) :
    interleaveFragment (some p) = ", INTERLEAVE IN PARENT " ++ p.parentTable
      ++ if p.cascadeOnDelete then " ON DELETE CASCADE" else "" := rfl

theorem interleaveFragment_some_ne (p : InterleaveDefinition) :
    interleaveFragment (some p) ≠ interleaveFragment none := by
  intro h
  change _ = "" at h
  rw [interleaveFragment_some] at h
  simp at h

theorem interleaveFragment_inj {i i' : Option InterleaveDefinition}
    (hi : ∀ p ∈ i, IsName p.parentTable) (hi' : ∀ p ∈ i', IsName p.parentTable)
    (h : interleaveFragment i = interleaveFragment i') : i = i' := by
  cases i with
  | none =>
    cases i' with
    | none => rfl
    | some p' => exact absurd h.symm (interleaveFragment_some_ne p')
  | some p =>
    cases i' with
    | none => exact absurd h (interleaveFragment_some_ne p)
    | some p' =>
      have hstops (b : Bool) : Stops (if b then " ON DELETE CASCADE" else "") := by
        cases b <;> decide
      have hcascade {b b' : Bool} (h : (if b then " ON DELETE CASCADE" else "") =
          if b' then " ON DELETE CASCADE" else "") : b = b' := by
        cases b <;> cases b' <;> first | rfl | exact absurd h (by decide)
      rw [interleaveFragment_some, interleaveFragment_some, String.append_assoc,
        String.append_assoc, String.append_right_inj] at h
      obtain ⟨hparent, h⟩ := (hi p rfl).append_inj (hi' p' rfl) (hstops _) (hstops _) h
      cases p
      cases p'
      exact congrArg some (congrArg₂ InterleaveDefinition.mk hparent (hcascade h))

end Ddl

structure TableSchema where
  name : String
  columns : List ColumnSchema
  searchColumns : List SearchColumnDefinition
  primaryKey : List KeyPart
  interleave : Option InterleaveDefinition
deriving DecidableEq, Repr

def Table.schema (t : Table) : TableSchema :=
  ⟨t.name, t.columns.map Column.schema, t.searchColumns, t.primaryKey, t.interleave⟩

namespace Ddl

def indexList (t : Table) : List (IndexDefinition ⊕ SearchIndexDefinition) :=
  t.indexes.map .inl ++ t.searchIndexes.map .inr

/-- The names of an index are plain, and it covers columns. -/
def PlainIndex : IndexDefinition ⊕ SearchIndexDefinition → Prop
  | .inl i => IsName i.name ∧ i.columns ≠ [] ∧ ∀ k ∈ i.columns, IsName k.name
  | .inr i => IsName i.name ∧ i.columns ≠ [] ∧ (∀ n ∈ i.columns, IsName n) ∧
      (∀ n ∈ i.partitionByColumns, IsName n) ∧ ∀ n ∈ i.orderByColumns, IsName n

end Ddl

/-- All names of the table are plain, and its lists have members. -/
structure Table.Plain (t : Table) : Prop where
  name : IsName t.name
  hasColumns : t.columns ≠ []
  entries : ∀ e ∈ Ddl.entries t, Ddl.PlainEntry e
  hasKey : t.primaryKey ≠ []
  keys : ∀ k ∈ t.primaryKey, IsName k.name
  parent : ∀ p ∈ t.interleave, IsName p.parentTable
  indexes : ∀ i ∈ Ddl.indexList t, Ddl.PlainIndex i

namespace Ddl

theorem map_entrySchema (t : Table) : (entries t).map entrySchema =
    (t.columns.map Column.schema).map .inl ++ t.searchColumns.map .inr := by
  simp [entries, entrySchema, Function.comp_def]

theorem fragments_eq_schema (t : Table) : (fragments t).map (·.2) =
    (t.columns.map Column.schema).map ColumnSchema.fragment
      ++ t.searchColumns.map searchColumnFragment := by
  simp only [fragments, List.map_append, List.map_map]
  rfl

theorem inl_append_inr_inj {α β : Type} {as as' : List α} {bs bs' : List β}
    (h : as.map (.inl : α → α ⊕ β) ++ bs.map .inr = as'.map .inl ++ bs'.map .inr) :
    as = as' ∧ bs = bs' := by
  have hleft := congrArg (List.filterMap Sum.getLeft?) h
  have hright := congrArg (List.filterMap Sum.getRight?) h
  simp only [List.filterMap_append, List.filterMap_map, Function.comp_def, Sum.getLeft?_inl,
    Sum.getLeft?_inr, Sum.getRight?_inl, Sum.getRight?_inr, List.filterMap_some,
    List.filterMap_none, List.append_nil, List.nil_append] at hleft hright
  exact ⟨hleft, hright⟩

theorem createTable_eq (t : Table) : createTable t =
    "CREATE TABLE " ++ (t.name ++ (" (" ++ (commaJoin ((entries t).map entryFragment) ++ (")"
      ++ (" PRIMARY KEY (" ++ (commaJoin (t.primaryKey.map keyFragment) ++ (")"
        ++ interleaveFragment t.interleave))))))) := by
  have hclose : ") PRIMARY KEY (" = ")" ++ " PRIMARY KEY (" := by decide
  unfold createTable
  rw [hclose, fragments_eq_entries]
  simp only [String.append_assoc]

/-- The statement that creates a table says what its schema is, and nothing else. -/
theorem createTable_eq_iff {t t' : Table} (ht : t.Plain) (ht' : t'.Plain) :
    createTable t = createTable t' ↔ t.schema = t'.schema := by
  constructor
  · intro h
    have hne {t : Table} (ht : t.Plain) : entries t ≠ [] := by
      simp [entries, ht.hasColumns]
    rw [createTable_eq, createTable_eq, String.append_right_inj] at h
    obtain ⟨hname, h⟩ := ht.name.append_sep_inj ht'.name (by decide) h
    obtain ⟨hentries, h⟩ := enclosed_inj legible_entries ht.entries ht'.entries (hne ht) (hne ht') h
    rw [String.append_right_inj] at h
    obtain ⟨hkeys, h⟩ := enclosed_inj legible_keys ht.keys ht'.keys ht.hasKey ht'.hasKey h
    have hinterleave := interleaveFragment_inj ht.parent ht'.parent h
    rw [map_entrySchema, map_entrySchema] at hentries
    obtain ⟨hcolumns, hsearch⟩ := inl_append_inr_inj hentries
    rw [List.map_id, List.map_id] at hkeys
    simp only [Table.schema, hname, hcolumns, hsearch, hkeys, hinterleave]
  · intro h
    simp only [Table.schema, TableSchema.mk.injEq] at h
    obtain ⟨hname, hcolumns, hsearch, hkeys, hinterleave⟩ := h
    unfold createTable
    rw [fragments_eq_schema, fragments_eq_schema, hname, hcolumns, hsearch, hkeys, hinterleave]

end Ddl

/-- An index as the schema has it, with every key in its direction. -/
inductive IndexSchema where
  | ordinary (name : String) (keys : List KeyPart) (unique nullFiltered : Bool)
  | search (definition : SearchIndexDefinition)
deriving DecidableEq, Repr

def IndexDefinition.schema (i : IndexDefinition) : IndexSchema :=
  .ordinary i.name (i.columns.map KeyColumn.part) i.unique i.nullFiltered

namespace Ddl

/-- How the statement of an ordinary index begins. -/
def indexHead (unique nullFiltered : Bool) : String :=
  "CREATE " ++ (if unique then "UNIQUE " else "") ++ (if nullFiltered then "NULL_FILTERED " else "")
    ++ "INDEX "

/-- The statements of indexes begin in five ways, none of which begins another. -/
def indexHeads : List String :=
  [indexHead false false, indexHead false true, indexHead true false, indexHead true true,
    "CREATE SEARCH INDEX "]

theorem prefixFree_indexHeads : PrefixFree indexHeads := by decide

theorem indexHead_mem (u n : Bool) : indexHead u n ∈ indexHeads := by
  cases u <;> cases n <;> decide

theorem indexHead_inj {u n u' n' : Bool} (h : indexHead u n = indexHead u' n') :
    u = u' ∧ n = n' := by
  revert h
  cases u <;> cases n <;> cases u' <;> cases n' <;> decide

theorem createIndex_eq (table : String) (i : IndexDefinition) : createIndex table i =
    indexHead i.unique i.nullFiltered ++ (i.name ++ (" ON " ++ (table ++ ("("
      ++ (commaJoin (i.columns.map indexKeyFragment) ++ (")" ++ "")))))) := by
  unfold createIndex indexHead
  simp only [String.append_assoc, String.append_empty]

theorem createSearchIndex_eq (table : String) (i : SearchIndexDefinition) :
    createSearchIndex table i = "CREATE SEARCH INDEX " ++ (i.name ++ (" ON " ++ (table ++ ("("
      ++ (commaJoin i.columns ++ (")" ++ (listClause " PARTITION BY " i.partitionByColumns
        ++ listClause " ORDER BY " i.orderByColumns))))))) := by
  unfold createSearchIndex
  simp only [String.append_assoc]

/-- A clause over columns is read to its end, and it is seen whether there is one. -/
theorem listClause_inj {keyword : String} {as bs : List String} (has : ∀ a ∈ as, IsName a)
    (hbs : ∀ b ∈ bs, IsName b) {x y : String} (hx : Stops x) (hy : Stops y)
    (hxlist : ∀ z, ", " ++ z ≠ x) (hylist : ∀ z, ", " ++ z ≠ y)
    (hxclause : ∀ z, keyword ++ z ≠ x) (hyclause : ∀ z, keyword ++ z ≠ y)
    (h : listClause keyword as ++ x = listClause keyword bs ++ y) : as = bs ∧ x = y := by
  unfold listClause at h
  by_cases hane : as = []
  · by_cases hbne : bs = []
    · simpa [hane, hbne] using h
    · rw [if_pos (by simp [hane]), if_neg (by simpa using hbne), String.empty_append,
        String.append_assoc] at h
      exact absurd h.symm (hxclause _)
  · by_cases hbne : bs = []
    · rw [if_neg (by simpa using hane), if_pos (by simp [hbne]), String.empty_append,
        String.append_assoc] at h
      exact absurd h (hyclause _)
    · rw [if_neg (by simpa using hane), if_neg (by simpa using hbne), String.append_assoc,
        String.append_assoc, String.append_right_inj] at h
      obtain ⟨hlists, hxy⟩ := legible_names.joined ", "
        (fun _ => stops_append (by decide) (by decide)) has hbs hane hbne hx hy hxlist hylist
        (by rw [List.map_id, List.map_id]; exact h)
      exact ⟨by simpa using hlists, hxy⟩

/-- What follows the columns of a partition is an order or nothing. -/
theorem orderClause_follows (columns : List String) :
    Stops (listClause " ORDER BY " columns) ∧
      (∀ z, ", " ++ z ≠ listClause " ORDER BY " columns) ∧
      ∀ z, " PARTITION BY " ++ z ≠ listClause " ORDER BY " columns := by
  unfold listClause
  split
  · exact ⟨by decide, fun z => by simp, fun z => by simp⟩
  · exact ⟨stops_append (by decide) (by decide),
      fun z => PrefixFree.append_ne (by decide) (by decide) z _,
      fun z => PrefixFree.append_ne (by decide) (by decide) z _⟩

theorem searchClauses_inj {ps ps' os os' : List String} (hps : ∀ n ∈ ps, IsName n)
    (hps' : ∀ n ∈ ps', IsName n) (hos : ∀ n ∈ os, IsName n) (hos' : ∀ n ∈ os', IsName n)
    (h : listClause " PARTITION BY " ps ++ listClause " ORDER BY " os =
      listClause " PARTITION BY " ps' ++ listClause " ORDER BY " os') : ps = ps' ∧ os = os' := by
  obtain ⟨hstops, hlist, hclause⟩ := orderClause_follows os
  obtain ⟨hstops', hlist', hclause'⟩ := orderClause_follows os'
  obtain ⟨hpartitions, h⟩ := listClause_inj hps hps' hstops hstops' hlist hlist' hclause hclause' h
  have hempty : Stops "" := by decide
  have hend : listClause " ORDER BY " os ++ "" = listClause " ORDER BY " os' ++ "" := by rw [h]
  have horders := (listClause_inj hos hos' hempty hempty (by simp) (by simp) (by simp) (by simp)
    hend).1
  exact ⟨hpartitions, horders⟩

/-- How the statement of an index goes on behind its head. -/
theorem indexTarget_inj {n n' t t' x y : String} (hn : IsName n) (hn' : IsName n') (ht : IsName t)
    (ht' : IsName t')
    (h : n ++ (" ON " ++ (t ++ ("(" ++ x))) = n' ++ (" ON " ++ (t' ++ ("(" ++ y)))) :
    n = n' ∧ t = t' ∧ x = y := by
  obtain ⟨hname, h⟩ := hn.append_sep_inj hn' (by decide) h
  obtain ⟨htable, h⟩ := ht.append_sep_inj ht' (by decide) h
  exact ⟨hname, htable, h⟩

def indexText (table : String) : IndexDefinition ⊕ SearchIndexDefinition → String :=
  Sum.elim (createIndex table) (createSearchIndex table)

def indexSchema : IndexDefinition ⊕ SearchIndexDefinition → IndexSchema :=
  Sum.elim IndexDefinition.schema .search

theorem createIndex_eq_iff {table table' : String} (ht : IsName table) (ht' : IsName table')
    {i i' : IndexDefinition} (hi : PlainIndex (.inl i)) (hi' : PlainIndex (.inl i')) :
    createIndex table i = createIndex table' i' ↔ table = table' ∧ i.schema = i'.schema := by
  constructor
  · intro h
    obtain ⟨hname, hne, hkeys⟩ := hi
    obtain ⟨hname', hne', hkeys'⟩ := hi'
    rw [createIndex_eq, createIndex_eq] at h
    obtain ⟨hhead, h⟩ := prefixFree_indexHeads.append_inj (indexHead_mem _ _) (indexHead_mem _ _) h
    obtain ⟨hunique, hfiltered⟩ := indexHead_inj hhead
    obtain ⟨hsame, htable, h⟩ := indexTarget_inj hname hname' ht ht' h
    obtain ⟨hparts, -⟩ := enclosed_inj legible_indexKeys hkeys hkeys' hne hne' h
    exact ⟨htable, by simp only [IndexDefinition.schema, hsame, hparts, hunique, hfiltered]⟩
  · rintro ⟨rfl, h⟩
    have hkeys (ks : List KeyColumn) : ks.map indexKeyFragment =
        (ks.map KeyColumn.part).map fun k => k.name ++ if k.desc then " DESC" else "" := by
      rw [List.map_map]
      rfl
    simp only [IndexDefinition.schema, IndexSchema.ordinary.injEq] at h
    obtain ⟨hname, hparts, hunique, hfiltered⟩ := h
    rw [createIndex_eq, createIndex_eq, hkeys, hkeys, hname, hparts, hunique, hfiltered]

theorem createSearchIndex_inj {table table' : String} (ht : IsName table) (ht' : IsName table')
    {i i' : SearchIndexDefinition} (hi : PlainIndex (.inr i)) (hi' : PlainIndex (.inr i'))
    (h : createSearchIndex table i = createSearchIndex table' i') : table = table' ∧ i = i' := by
  obtain ⟨hname, hne, hcolumns, hpartitions, horders⟩ := hi
  obtain ⟨hname', hne', hcolumns', hpartitions', horders'⟩ := hi'
  rw [createSearchIndex_eq, createSearchIndex_eq, String.append_right_inj] at h
  obtain ⟨hsame, htable, h⟩ := indexTarget_inj hname hname' ht ht' h
  obtain ⟨hcovers, h⟩ := enclosed_inj legible_columnNames hcolumns hcolumns' hne hne'
    (by rw [List.map_id, List.map_id]; exact h)
  obtain ⟨hps, hos⟩ := searchClauses_inj hpartitions hpartitions' horders horders' h
  rw [List.map_id, List.map_id] at hcovers
  cases i
  cases i'
  simp_all

/-- The two kinds of indexes begin differently. -/
theorem createIndex_ne_createSearchIndex (table table' : String) (i : IndexDefinition)
    (i' : SearchIndexDefinition) : createIndex table i ≠ createSearchIndex table' i' := by
  intro h
  rw [createIndex_eq, createSearchIndex_eq] at h
  have hhead := (prefixFree_indexHeads.append_inj (indexHead_mem _ _) (by decide) h).1
  revert hhead
  cases i.unique <;> cases i.nullFiltered <;> decide

/-- The statement that creates an index says of which table, and what its schema is. -/
theorem indexText_eq_iff {table table' : String} (ht : IsName table) (ht' : IsName table')
    {i i' : IndexDefinition ⊕ SearchIndexDefinition} (hi : PlainIndex i) (hi' : PlainIndex i') :
    indexText table i = indexText table' i' ↔ table = table' ∧ indexSchema i = indexSchema i' := by
  cases i with
  | inl i =>
    cases i' with
    | inl i' => exact createIndex_eq_iff ht ht' hi hi'
    | inr i' => exact iff_of_false (createIndex_ne_createSearchIndex _ _ _ _) nofun
  | inr i =>
    cases i' with
    | inl i' => exact iff_of_false (createIndex_ne_createSearchIndex _ _ _ _).symm nofun
    | inr i' =>
      constructor
      · intro h
        obtain ⟨htable, hsame⟩ := createSearchIndex_inj ht ht' hi hi' h
        exact ⟨htable, congrArg IndexSchema.search hsame⟩
      · rintro ⟨rfl, h⟩
        cases h
        rfl

end Ddl

end SchemaLoom
