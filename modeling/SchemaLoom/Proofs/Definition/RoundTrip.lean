import SchemaLoom.Definition.Reader
import SchemaLoom.Proofs.Json.Decoding
import SchemaLoom.Proofs.Json.RoundTrip

/-!
# Definitions are read as they were written

Every part of a definition has a decoder that inverts its writer: a record because its layout says
so for each of its fields, a key column and an entry of a select list because their forms differ at
a glance. A condition is tried as a connective first, which its parts survive and which a
comparison cannot pass for, since it has no field of parts. So a whole database is read back from
its text, as long as no more arrays and objects are open in it than the reader admits.
-/
namespace SchemaLoom
open Json Json.Decoder

/-! ## Tables -/

namespace ExternalDefinition

theorem kind_inverts : (choice kinds).Inverts fun k => .string k.name := by
  intro k room _
  cases k <;> rfl

def layout :=
  Layout.required "name" name text_inverts <|
  .required "kind" kind kind_inverts <|
  .optional "import" importPath text_inverts string_ne_null .nil

theorem decoder_inverts : decoder.Inverts toJson :=
  layout.inverts (by decide) (fun _ => rfl) fun _ => by
    simp [toJson, optionalText, layout, Layout.fields]

end ExternalDefinition

namespace ColumnDefinition

def layout :=
  Layout.required "name" name text_inverts <|
  .required "type" typeName text_inverts <|
  .defaulted "isArray" isArray false flag_inverts <|
  .defaulted "nullable" nullable false flag_inverts <|
  .optional "import" importPath text_inverts string_ne_null <|
  .defaulted "allowCommitTimestamp" allowCommitTimestamp false flag_inverts .nil

theorem decoder_inverts : decoder.Inverts toJson :=
  layout.inverts (by decide) (fun _ => rfl) fun _ => by
    simp [toJson, optionalText, layout, Layout.fields]

end ColumnDefinition

/-- A bare name stays bare, and an entry keeps its direction even where it is the default. -/
theorem KeyColumn.decoder_inverts : decoder.Inverts toJson := by
  apply held_inverts
  · intro k
    cases k <;> rfl
  · intro k
    cases k <;> rfl

namespace InterleaveDefinition

def layout :=
  Layout.required "parentTable" parentTable text_inverts <|
  .defaulted "cascadeOnDelete" cascadeOnDelete false flag_inverts .nil

theorem decoder_inverts : decoder.Inverts toJson :=
  layout.inverts (by decide) (fun _ => rfl) fun _ => rfl

end InterleaveDefinition

namespace IndexDefinition

def layout :=
  Layout.required "name" name text_inverts <|
  .required "columns" columns KeyColumn.decoder_inverts.list <|
  .defaulted "unique" unique false flag_inverts <|
  .defaulted "nullFiltered" nullFiltered false flag_inverts .nil

theorem decoder_inverts : decoder.Inverts toJson :=
  layout.inverts (by decide) (fun _ => rfl) fun _ => rfl

end IndexDefinition

namespace SearchColumnDefinition

def layout :=
  Layout.required "name" name text_inverts <|
  .required "sourceColumns" sourceColumns texts_inverts .nil

theorem decoder_inverts : decoder.Inverts toJson :=
  layout.inverts (by decide) (fun _ => rfl) fun _ => rfl

end SearchColumnDefinition

namespace SearchIndexDefinition

def layout :=
  Layout.required "name" name text_inverts <|
  .required "columns" columns texts_inverts <|
  .defaulted "partitionByColumns" partitionByColumns [] texts_inverts <|
  .defaulted "orderByColumns" orderByColumns [] texts_inverts .nil

theorem decoder_inverts : decoder.Inverts toJson :=
  layout.inverts (by decide) (fun _ => rfl) fun _ => rfl

end SearchIndexDefinition

namespace ColumnGroupDefinition

def layout :=
  Layout.required "name" name text_inverts <|
  .required "columns" columns texts_inverts .nil

theorem decoder_inverts : decoder.Inverts toJson :=
  layout.inverts (by decide) (fun _ => rfl) fun _ => rfl

end ColumnGroupDefinition

namespace TaskOptions

def layout :=
  Layout.optional "listPending" listPending text_inverts string_ne_null <|
  .optional "getMetadata" getMetadata text_inverts string_ne_null <|
  .optional "updateMetadata" updateMetadata text_inverts string_ne_null .nil

theorem decoder_inverts : decoder.Inverts toJson :=
  layout.inverts (by decide) (fun _ => rfl) fun _ => by
    simp [toJson, optionalText, layout, Layout.fields]

end TaskOptions

namespace TableDefinition

def layout :=
  Layout.required "name" name text_inverts <|
  .defaulted "columns" columns [] ColumnDefinition.decoder_inverts.list <|
  .defaulted "primaryKeys" primaryKeys [] KeyColumn.decoder_inverts.list <|
  .optional "interleave" interleave InterleaveDefinition.decoder_inverts
    (by simp [InterleaveDefinition.toJson]) <|
  .defaulted "indexes" indexes [] IndexDefinition.decoder_inverts.list <|
  .defaulted "searchColumns" searchColumns [] SearchColumnDefinition.decoder_inverts.list <|
  .defaulted "searchIndexes" searchIndexes [] SearchIndexDefinition.decoder_inverts.list <|
  .defaulted "columnGroups" columnGroups [] ColumnGroupDefinition.decoder_inverts.list <|
  .optional "insert" insert text_inverts string_ne_null <|
  .optional "get" get text_inverts string_ne_null <|
  .optional "delete" delete text_inverts string_ne_null <|
  .optional "update" update text_inverts string_ne_null <|
  .optional "task" task TaskOptions.decoder_inverts (by simp [TaskOptions.toJson]) .nil

theorem decoder_inverts : decoder.Inverts toJson :=
  layout.inverts (by decide) (fun _ => rfl) fun _ => by
    simp [toJson, optionalText, layout, Layout.fields]

end TableDefinition

/-! ## Conditions -/

namespace ColumnRef

def layout :=
  Layout.required "name" name text_inverts <|
  .optional "table" table text_inverts string_ne_null .nil

theorem decoder_inverts : decoder.Inverts toJson :=
  layout.inverts (by decide) (fun _ => rfl) fun _ => by
    simp [toJson, optionalText, layout, Layout.fields]

theorem holdable_toJson (r : ColumnRef) : r.toJson.holdable = true := by
  simp [toJson, holdable, holdableFields]

end ColumnRef

namespace Comparison

def layout :=
  Layout.required "op" op text_inverts <|
  .required "leftColumn" left ColumnRef.decoder_inverts <|
  .optional "rightColumn" right ColumnRef.decoder_inverts (by simp [ColumnRef.toJson]) <|
  .optional "func" func text_inverts string_ne_null <|
  .optional "paramName" paramName text_inverts string_ne_null .nil

theorem toJson_eq (c : Comparison) : c.toJson = .object (present (layout.fields c)) := by
  simp [toJson, optionalText, layout, Layout.fields]

theorem ofJson?_toJson (c : Comparison) : ofJson? c.toJson = some c :=
  layout.inverts (by decide) (fun _ => rfl) toJson_eq c _ (Nat.le_refl _)

theorem holdable_toJson (c : Comparison) : c.toJson.holdable = true := by
  have hright := holdableFields_optional ColumnRef.holdable_toJson "rightColumn" c.right
  simp [toJson, holdable, holdableFields, holdableFields_append, ColumnRef.holdable_toJson, hright]

end Comparison

namespace Condition

/-- A record without a field of parts is no connective. -/
theorem partsOfFields_eq_none {fields : List (String × Json)}
    (h : "exprs" ∉ fields.map (·.1)) : partsOfFields fields = none := by
  induction fields with
  | nil => rfl
  | cons f fields ih =>
    obtain ⟨name, v⟩ := f
    rw [List.map_cons, List.mem_cons, not_or] at h
    rw [partsOfFields, if_neg (Ne.symm h.1), ih h.2]

theorem ofJson?_comparison (c : Comparison) : ofJson? c.toJson = some (.leaf c) := by
  have hread := c.ofJson?_toJson
  rw [Comparison.toJson_eq] at hread ⊢
  -- The connective is tried first and fails for want of parts, which no field of a comparison is.
  rw [ofJson?, hread, partsOfFields_eq_none]
  · simp
  · intro hparts
    have hname := (keys_present _).subset hparts
    rw [Layout.names_fields] at hname
    exact absurd hname (by decide)

mutual
/-- A connective keeps its parts, and each part its form. -/
theorem ofJson?_toJson (c : Condition) : ofJson? c.toJson = some c := by
  cases c with
  | leaf comparison => exact ofJson?_comparison comparison
  | concat op parts =>
    have hparts := partsOfItems_partsToJson parts
    simp [toJson, ofJson?, textField, partsOfFields, partsOfValue, hparts]

theorem partsOfItems_partsToJson (cs : List Condition) :
    partsOfItems (partsToJson cs) = some cs := by
  cases cs with
  | nil => rfl
  | cons c cs =>
    have hfirst := ofJson?_toJson c
    have hrest := partsOfItems_partsToJson cs
    simp [partsToJson, partsOfItems, hfirst, hrest]
end

mutual
theorem holdable_toJson (c : Condition) : c.toJson.holdable = true := by
  cases c with
  | leaf comparison => exact comparison.holdable_toJson
  | concat op parts =>
    have hparts := holdableItems_partsToJson parts
    simp [toJson, holdable, holdableFields, hparts]

theorem holdableItems_partsToJson (cs : List Condition) :
    holdableItems (partsToJson cs) = true := by
  cases cs with
  | nil => rfl
  | cons c cs =>
    have hfirst := holdable_toJson c
    have hrest := holdableItems_partsToJson cs
    simp [partsToJson, holdableItems, hfirst, hrest]
end

theorem decoder_inverts : decoder.Inverts toJson := held_inverts ofJson?_toJson holdable_toJson

theorem toJson_ne_null (c : Condition) : c.toJson ≠ .null := by
  cases c with
  | concat op parts => simp [toJson]
  | leaf comparison => simp [toJson, Comparison.toJson]

end Condition

/-! ## Statements -/

namespace InsertDefinition

def layout :=
  Layout.required "name" name text_inverts <|
  .required "table" table text_inverts <|
  .defaulted "setColumns" setColumns [] texts_inverts <|
  .optional "onConflict" onConflict text_inverts string_ne_null .nil

theorem decoder_inverts : decoder.Inverts toJson :=
  layout.inverts (by decide) (fun _ => rfl) fun _ => by
    simp [toJson, optionalText, layout, Layout.fields]

end InsertDefinition

namespace UpdateDefinition

def layout :=
  Layout.required "name" name text_inverts <|
  .required "table" table text_inverts <|
  .defaulted "setColumns" setColumns [] texts_inverts <|
  .optional "where" condition Condition.decoder_inverts Condition.toJson_ne_null .nil

theorem decoder_inverts : decoder.Inverts toJson :=
  layout.inverts (by decide) (fun _ => rfl) fun _ => by
    simp [toJson, layout, Layout.fields]

end UpdateDefinition

namespace DeleteDefinition

def layout :=
  Layout.required "name" name text_inverts <|
  .required "table" table text_inverts <|
  .optional "where" condition Condition.decoder_inverts Condition.toJson_ne_null .nil

theorem decoder_inverts : decoder.Inverts toJson :=
  layout.inverts (by decide) (fun _ => rfl) fun _ => by
    simp [toJson, layout, Layout.fields]

end DeleteDefinition

namespace JoinDefinition

def layout :=
  Layout.required "type" joinType text_inverts <|
  .required "table" table text_inverts <|
  .optional "as" aliasName text_inverts string_ne_null <|
  .optional "on" condition Condition.decoder_inverts Condition.toJson_ne_null .nil

theorem decoder_inverts : decoder.Inverts toJson :=
  layout.inverts (by decide) (fun _ => rfl) fun _ => by
    simp [toJson, optionalText, layout, Layout.fields]

end JoinDefinition

theorem GetColumn.decoder_inverts : decoder.Inverts toJson := by
  apply held_inverts
  · rintro (⟨name, _ | table⟩ | ⟨_ | table⟩ | ⟨name, _ | table⟩ | ⟨func, name, _ | table⟩) <;> rfl
  · rintro (⟨name, _ | table⟩ | ⟨_ | table⟩ | ⟨name, _ | table⟩ | ⟨func, name, _ | table⟩) <;> rfl

theorem OrderBy.decoder_inverts : decoder.Inverts toJson := by
  apply held_inverts
  · rintro (⟨name, _ | table, desc⟩ | ⟨func, name, _ | table, desc⟩) <;> rfl
  · rintro (⟨name, _ | table, desc⟩ | ⟨func, name, _ | table, desc⟩) <;> rfl

namespace SelectDefinition

def layout :=
  Layout.required "name" name text_inverts <|
  .required "fromTable" fromTable text_inverts <|
  .optional "as" aliasName text_inverts string_ne_null <|
  .defaulted "joins" joins [] JoinDefinition.decoder_inverts.list <|
  .optional "where" condition Condition.decoder_inverts Condition.toJson_ne_null <|
  .defaulted "orderBy" orderBy [] OrderBy.decoder_inverts.list <|
  .defaulted "limit" limit false flag_inverts <|
  .defaulted "offset" offset false flag_inverts <|
  .defaulted "getColumns" getColumns [] GetColumn.decoder_inverts.list .nil

theorem decoder_inverts : decoder.Inverts toJson :=
  layout.inverts (by decide) (fun _ => rfl) fun _ => by
    simp [toJson, optionalText, layout, Layout.fields]

end SelectDefinition

namespace DatabaseDefinition

def layout :=
  Layout.required "name" name text_inverts <|
  .optional "outputDdl" outputDdl text_inverts string_ne_null <|
  .optional "outputSql" outputSql text_inverts string_ne_null <|
  .defaulted "definitions" definitions [] ExternalDefinition.decoder_inverts.list <|
  .defaulted "tables" tables [] TableDefinition.decoder_inverts.list <|
  .defaulted "inserts" inserts [] InsertDefinition.decoder_inverts.list <|
  .defaulted "updates" updates [] UpdateDefinition.decoder_inverts.list <|
  .defaulted "deletes" deletes [] DeleteDefinition.decoder_inverts.list <|
  .defaulted "selects" selects [] SelectDefinition.decoder_inverts.list .nil

theorem decoder_inverts : decoder.Inverts toJson :=
  layout.inverts (by decide) (fun _ => rfl) fun _ => by
    simp [toJson, optionalText, layout, Layout.fields]

end DatabaseDefinition

/-- A database is read back from its text, on one line or indented. -/
theorem definition_round_trip (d : DatabaseDefinition) (h : d.toJson.height ≤ nestingLimit) :
    DatabaseDefinition.parse? d.toJson.render = some d ∧
      DatabaseDefinition.parse? d.toJson.pretty = some d := by
  have hread : DatabaseDefinition.decoder nestingLimit d.toJson = some d :=
    DatabaseDefinition.decoder_inverts d nestingLimit h
  have hpretty : Json.parse? d.toJson.pretty = some d.toJson := by
    simpa using parse?_pretty d.toJson [] (by simp)
  constructor
  · rw [DatabaseDefinition.parse?, parse?_render]
    exact hread
  · rw [DatabaseDefinition.parse?, hpretty]
    exact hread

namespace Sample

/-- A library whose names need escaping, with keys of both forms, empty lists beside absent ones
and a condition that holds connectives without parts. -/
def readingRoom : DatabaseDefinition where
  name := "lib\"rary\\\n\t\x01é→😀"
  outputDdl := some ""
  definitions := [⟨"Genre", .enum, some "crate::genre"⟩, ⟨"Note", .message, none⟩]
  tables := [
    { name := "books"
      columns := [⟨"id", "string", false, false, none, false⟩,
        ⟨"genre", "Genre", true, true, some "", false⟩,
        ⟨"seen", "timestamp", false, false, none, true⟩]
      primaryKeys := [.bare "id", .entry "genre" false, .entry "" true]
      interleave := some ⟨"shelves", true⟩
      indexes := [⟨"bySeen", [.entry "seen" true, .bare "id"], true, false⟩]
      searchColumns := [⟨"words", ["id"]⟩]
      searchIndexes := [⟨"byWords", ["words"], [], ["seen"]⟩]
      columnGroups := [⟨"short", []⟩]
      insert := some ""
      task := some { listPending := some "null" } }]
  inserts := [{ name := "addBook", table := "books", onConflict := some "IGNORE" }]
  updates := [
    { name := "touchBook"
      table := "books"
      setColumns := ["seen"]
      condition := some (.concat "AND" [
        .leaf { op := "=", left := ⟨"id", none⟩, right := some ⟨"exprs", some ""⟩ },
        .concat "or" [.concat "" [], .leaf { op := "", left := ⟨"", none⟩, func := some "" }]]) }]
  deletes := [{ name := "dropBook", table := "books", condition := some (.concat "exprs" []) }]
  selects := [
    { name := "listBooks"
      fromTable := "books"
      aliasName := some "b"
      joins := [{ joinType := "CROSS", table := "books", aliasName := some "c" }]
      orderBy := [.column "id" none true, .call "SCORE" "words" (some "b") false]
      getColumns := [.all none, .column "kind" (some "b"), .group "short" none,
        .call "SCORE" "words" none] }]

end Sample

theorem definition_round_trip_readingRoom :
    Sample.readingRoom.toJson.height = 9 ∧
      DatabaseDefinition.parse? Sample.readingRoom.toJson.render = some Sample.readingRoom ∧
      DatabaseDefinition.parse? Sample.readingRoom.toJson.pretty = some Sample.readingRoom := by
  have hheight : Sample.readingRoom.toJson.height = 9 := by decide
  exact ⟨hheight, definition_round_trip Sample.readingRoom (hheight ▸ by decide)⟩

end SchemaLoom
