import SchemaLoom.Proofs.Code.Functions
import SchemaLoom.Proofs.Code.Parameters
import SchemaLoom.Proofs.Code.Rows

/-!
# Names of the generated code

What is checked is the snake-case form of a name. What is written is that form with a mark or a
suffix, or the same words in another case style. A form that passes the check is still an
identifier in each of these ways: the mark makes a keyword one, no keyword ends as the suffixes do,
and the first word begins with a letter in every style. A statement is written from the builder, the
row type and the runner alone, so the names in calls and initialisers are those that are declared.
-/
namespace SchemaLoom

namespace Text

/-- A text of characters of one byte. -/
def IsShort (s : String) : Prop := ∀ c ∈ s.toList, isShort c

instance (s : String) : Decidable (IsShort s) :=
  decidable_of_iff (s.toList.all isShort = true) List.all_eq_true

theorem IsShort.isAlphanum {name : String} {w : List Char} (h : IsShort name)
    (hw : w ∈ words name) {c : Char} (hc : c ∈ w) : c.isAlphanum := by
  have hword := isWordChar_of_mem_words hw hc
  rwa [isWordChar, if_pos (h c (mem_of_mem_words hw hc))] at hword

/-- The first character of the first word. -/
theorem IsShort.words_eq_cons {name : String} (h : IsShort name) (hne : words name ≠ []) :
    ∃ c w ws, words name = (c :: w) :: ws ∧ c.isAlphanum := by
  obtain ⟨v, ws, hwords⟩ := List.exists_cons_of_ne_nil hne
  have hv : v ∈ words name := hwords ▸ List.mem_cons_self
  obtain ⟨c, w, rfl⟩ := List.exists_cons_of_ne_nil (ne_nil_of_mem_words hv)
  exact ⟨c, w, ws, hwords, h.isAlphanum hv List.mem_cons_self⟩

theorem head?_upperCamel_of_words {name : String} {c : Char} {w : List Char} {ws : List (List Char)}
    (hwords : words name = (c :: w) :: ws) (hc : c.isAlphanum) :
    (upperCamel name).toList.head? = some c.toUpper := by
  have hcapital : toCapital c = [c.toUpper] := if_pos (isShort_of_isAlphanum hc)
  simp [upperCamel, hwords, capitalWord, hcapital]

theorem IsShort.isName_upperCamel {name : String} (h : IsShort name) : IsName (upperCamel name) := by
  intro c hc
  rw [upperCamel, String.toList_ofList] at hc
  obtain ⟨w, hw, hc⟩ := List.mem_flatMap.mp hc
  refine isNameChar_capitalWord (fun d hd => ?_) c hc
  simp [isNameChar, h.isAlphanum hw hd]

end Text

namespace Code
open Text

theorem isIdent_of_head? {text : String} {c : Char} (hc : text.toList.head? = some c)
    (hstart : isIdentStart c) (hrest : ∀ d ∈ text.toList, isIdentRest d) : isIdent text := by
  obtain ⟨cs, htext⟩ := List.head?_eq_some_iff.mp hc
  rw [htext] at hrest
  simpa [isIdent, htext, hstart] using hrest

theorem isIdent_append {text tail : String} (h : isIdent text)
    (htail : ∀ c ∈ tail.toList, isIdentRest c) : isIdent (text ++ tail) := by
  have hrest := isIdentRest_of_isIdent h
  cases htext : text.toList with
  | nil => simp [isIdent, htext] at h
  | cons c cs =>
    have hhead : text.toList.head? = some c := by simp [htext]
    apply isIdent_of_head? (c := c) (by simp [htext]) (isIdentStart_of_head? h hhead)
    intro d hd
    rw [String.toList_append, List.mem_append] at hd
    exact hd.elim (hrest d) (htail d)

theorem isIdentStart_toUpper {c : Char} (hc : c.isAlphanum) (h : isIdentStart c.toLower) :
    isIdentStart c.toUpper :=
  forall_short (P := fun c => c.isAlphanum → isIdentStart c.toLower → isIdentStart c.toUpper)
    (by decide) (isShort_of_isAlphanum hc) hc h

/-- Capitals in place of underscores keep an identifier one: both begin with the same letter. -/
theorem isIdent_upperCamel {name : String} (hshort : IsShort name)
    (h : isIdent (snakeCase name)) : isIdent (upperCamel name) := by
  have hne : words name ≠ [] := by
    intro hnone
    rw [snakeCase, hnone] at h
    exact absurd h (by decide)
  obtain ⟨c, w, ws, hwords, hc⟩ := hshort.words_eq_cons hne
  have hstart := isIdentStart_of_head? h (head?_snakeCase_of_words hwords hc)
  exact isIdent_of_head? (head?_upperCamel_of_words hwords hc) (isIdentStart_toUpper hc hstart)
    hshort.isName_upperCamel

/-- What can stand where the language wants an identifier: letters, digits and underscores that do
not begin with a digit and are no keyword, or a marked keyword. -/
def IsIdentifier (text : String) : Prop :=
  isIdent text ∧ text ∉ rawKeywords ∧ text ∉ reservedWords ∨
    ∃ k ∈ rawKeywords, isIdent k ∧ text = "r#" ++ k

instance (text : String) : Decidable (IsIdentifier text) := inferInstanceAs (Decidable (_ ∨ _))

theorem isIdentifier_identifier {name : String} (h : Usable name) :
    IsIdentifier (identifier name) := by
  rcases identifier_cases name with ⟨hraw, hid⟩ | ⟨hraw, hid⟩
  · exact .inr ⟨_, hraw, h.1, hid⟩
  · rw [hid]
    exact .inl ⟨h.1, hraw, h.2⟩

def endings : List String := ["_statement", "Row"]

theorem keyword_not_ended : ∀ e ∈ endings, ∀ k ∈ rawKeywords ++ reservedWords,
    ¬ e.toList <:+ k.toList := by
  decide

/-- An ending makes a keyword an identifier. -/
theorem isIdentifier_ended {text e : String} (he : e ∈ endings) (h : isIdent text) :
    IsIdentifier (text ++ e) := by
  have hrest : ∀ e ∈ endings, IsName e := by decide
  have hkeyword : text ++ e ∉ rawKeywords ++ reservedWords := by
    intro hk
    apply keyword_not_ended e he _ hk
    rw [String.toList_append]
    exact List.suffix_append _ _
  rw [List.mem_append, not_or] at hkeyword
  exact .inl ⟨isIdent_append h (hrest e he), hkeyword⟩

theorem nodup_identifiers {α : Type} {name : α → String} {l : List α}
    (husable : ∀ x ∈ l, Usable (name x)) (h : (l.map fun x => snakeCase (name x)).Nodup) :
    (l.map fun x => identifier (name x)).Nodup :=
  nodup_map_of_injective h fun x hx y hy => identifier_injective (husable x hx) (husable y hy)

theorem identifier_ne_runner {name : String} (h : snakeCase name ≠ runnerArgument) :
    identifier name ≠ runnerArgument := by
  rcases identifier_cases name with ⟨-, hid⟩ | ⟨-, hid⟩
  · rw [hid]
    intro heq
    have hmark := mark_mem (snakeCase name)
    rw [heq] at hmark
    exact absurd hmark (by decide)
  · rwa [hid]

structure Binding where
  name : String
  type : String

def Binding.text (b : Binding) : String := b.name ++ ": " ++ b.type

structure Signature where
  keyword : String
  name : String
  arguments : List Binding

def Signature.text (f : Signature) : String :=
  "pub " ++ f.keyword ++ " " ++ f.name ++ "(" ++ ", ".intercalate (f.arguments.map Binding.text)
    ++ ")"

structure Record where
  name : String
  fields : List Binding

def Record.text (t : Record) : String :=
  "pub struct " ++ t.name ++ " \x7b\n"
    ++ joinAll (t.fields.map fun b => "    pub " ++ b.text ++ ",\n") ++ "\x7d"

/-- A declaration under `name` that binds the names of `bindings`. -/
structure WellNamed (name : String) (bindings : List Binding) : Prop where
  ofName : IsIdentifier name
  ofBindings : ∀ b ∈ bindings, IsIdentifier b.name
  distinct : (bindings.map (·.name)).Nodup

/-- The argument is bound to the parameter. -/
def Binding.boundTo (p : Param) (b : Binding) : String :=
  "\n        .bind(" ++ quoted p.name ++ ", " ++ p.type.wireType.code ++ ", "
    ++ p.type.marshal b.name ++ ")"

/-- The field is read from the cell at its position. -/
def Binding.readFrom (position : Nat) (o : OutputField) (b : Binding) : String :=
  "            " ++ b.name ++ ": " ++ o.type.unmarshal ("row.cell(" ++ toString position ++ ")?")
    ++ "?,\n"

/-- A function that builds a statement from its arguments. -/
def Signature.building (f : Signature) (s : Statement) : String :=
  s.docLine ++ "\n" ++ f.text ++ " -> runtime::Statement \x7b\n    runtime::Statement::new("
    ++ quoted s.sql ++ ")" ++ joinAll (List.zipWith Binding.boundTo s.params f.arguments) ++ "\n\x7d"

/-- A type with the function that reads it from a row. -/
def Record.reading (t : Record) (outputs : List OutputField) : String :=
  "#[derive(Debug, Clone, PartialEq)]\n" ++ t.text ++ "\n\nimpl " ++ t.name
    ++ " \x7b\n    pub fn from_row(row: &runtime::Row) -> Result<Self, runtime::Error> \x7b\n"
    ++ "        Ok(Self \x7b\n"
    ++ joinAll ((outputs.zip t.fields).mapIdx fun i p => Binding.readFrom i p.1 p.2)
    ++ "        \x7d)\n    \x7d\n\x7d"

/-- A function that passes its arguments to the builder and runs what is built. -/
def Signature.running (f builder : Signature) (row : Record) : String :=
  f.text ++ " -> Result<Vec<" ++ row.name ++ ">, runtime::Error> \x7b\n    runtime::run_select("
    ++ runnerArgument ++ ", " ++ builder.name ++ "("
    ++ ", ".intercalate (builder.arguments.map (·.name)) ++ "), " ++ row.name
    ++ "::from_row).await\n\x7d"

end Code

namespace Statement
open Code Text

def arguments (s : Statement) : List Binding :=
  s.params.map fun p => ⟨identifier p.name, p.type.hostType⟩

def fields (s : Statement) : List Binding :=
  s.outputs.map fun o => ⟨identifier o.name, o.type.hostType⟩

def builder (s : Statement) : Signature := ⟨"fn", s.builderName, s.arguments⟩

def runner (s : Statement) : Signature :=
  ⟨"async fn", identifier s.name, ⟨runnerArgument, "&impl runtime::QueryRunner"⟩ :: s.arguments⟩

def row (s : Statement) : Record := ⟨s.rowName, s.fields⟩

theorem arguments_text (s : Statement) : s.arguments.map Binding.text = s.params.map argument := by
  simp only [arguments, List.map_map]
  rfl

theorem renderBuilder_eq (s : Statement) : s.renderBuilder = s.builder.building s := by
  have hbinds : List.zipWith Binding.boundTo s.params s.arguments = s.params.map bindCall := by
    simp only [arguments, List.zipWith_map_right, List.zipWith_self]
    rfl
  have hopen : "\npub fn " = "\n" ++ "pub " ++ "fn" ++ " " := rfl
  have hclose : ") -> runtime::Statement \x7b\n    runtime::Statement::new(" =
      ")" ++ " -> runtime::Statement \x7b\n    runtime::Statement::new(" := rfl
  unfold renderBuilder Signature.building Signature.text builder
  rw [hopen, hclose, arguments_text, hbinds]
  simp only [String.append_assoc]

theorem renderRow_eq (s : Statement) : s.renderRow = s.row.reading s.outputs := by
  have hfields : s.outputs.map fieldDeclaration =
      s.fields.map fun b => "    pub " ++ b.text ++ ",\n" := by
    simp [fields, Binding.text, fieldDeclaration, Function.comp_def, String.append_assoc]
  have hparsers : fieldParsers 0 s.outputs =
      (s.outputs.zip s.fields).mapIdx fun i p => Binding.readFrom i p.1 p.2 := by
    rw [fieldParsers_eq_mapIdx, fields, ← List.map_prod_left_eq_zip]
    apply List.ext_getElem?
    intro i
    rw [List.getElem?_mapIdx, List.getElem?_mapIdx, List.getElem?_map, Option.map_map]
    simp only [Nat.zero_add]
    rfl
  have hopen : "#[derive(Debug, Clone, PartialEq)]\npub struct " =
      "#[derive(Debug, Clone, PartialEq)]\n" ++ "pub struct " := rfl
  have hclose : "\x7d\n\nimpl " = "\x7d" ++ "\n\nimpl " := rfl
  unfold renderRow Record.reading Record.text row
  rw [hopen, hclose, hfields, hparsers]
  simp only [String.append_assoc]

theorem renderRunner_eq (s : Statement) : s.renderRunner = s.runner.running s.builder s.row := by
  have hnames : s.arguments.map (·.name) = s.params.map fun p => identifier p.name := by
    simp only [arguments, List.map_map]
    rfl
  have hopen : "pub async fn " = "pub " ++ "async fn" ++ " " := rfl
  have hclose : ") -> Result<Vec<" = ")" ++ " -> Result<Vec<" := rfl
  unfold renderRunner Signature.running Signature.text runner builder row
  rw [hopen, hclose, List.map_cons, arguments_text, hnames]
  simp only [String.append_assoc]
  rfl

theorem builder_wellNamed {s : Statement} (hname : Usable s.name) (h : s.Separated) :
    WellNamed s.builder.name s.builder.arguments where
  ofName := isIdentifier_ended (by decide) hname.1
  ofBindings := by
    simp only [builder, arguments, List.forall_mem_map]
    exact fun p hp => isIdentifier_identifier (h.params p hp)
  distinct := by
    simp only [builder, arguments, List.map_map, Function.comp_def]
    exact nodup_identifiers h.params h.arguments.1

theorem runner_notMem_arguments {s : Statement} (h : s.Separated) (hkind : s.kind = .select) :
    runnerArgument ∉ s.arguments.map (·.name) := by
  have hfresh := h.arguments.2
  rw [if_pos hkind, List.forall_mem_map] at hfresh
  simp only [arguments, List.map_map, List.mem_map, Function.comp_apply, not_exists, not_and]
  intro p hp
  exact identifier_ne_runner fun heq => hfresh p hp (List.mem_singleton.mpr heq)

theorem runner_wellNamed {s : Statement} (hname : Usable s.name) (h : s.Separated)
    (hkind : s.kind = .select) : WellNamed s.runner.name s.runner.arguments where
  ofName := by
    simp only [runner]
    exact isIdentifier_identifier hname
  ofBindings := by
    simp only [runner, List.forall_mem_cons]
    exact ⟨by decide, (builder_wellNamed hname h).ofBindings⟩
  distinct := by
    simp only [runner, List.map_cons, List.nodup_cons]
    exact ⟨runner_notMem_arguments h hkind, (builder_wellNamed hname h).distinct⟩

theorem row_wellNamed {s : Statement} (hshort : IsShort s.name) (hname : Usable s.name)
    (h : s.Separated) : WellNamed s.row.name s.row.fields where
  ofName := isIdentifier_ended (by decide) (isIdent_upperCamel hshort hname.1)
  ofBindings := by
    simp only [row, fields, List.forall_mem_map]
    exact fun o ho => isIdentifier_identifier (h.outputs o ho)
  distinct := by
    simp only [row, fields, List.map_map, Function.comp_def]
    exact nodup_identifiers h.outputs h.fields

end Statement

/-- Statements that pass the check are rendered with valid names: the builder and its arguments, and
for a select also the function that runs it, with one argument more, and the row type with its
fields. The whole text is written with these names, and within one declaration no two of them are
the same. -/
theorem rendered_names_valid (ss : List Statement) (h : Code.checkIdentifiers ss = .ok ())
    (hshort : ∀ s ∈ ss, Text.IsShort s.name) (s : Statement) (hs : s ∈ ss) :
    ((s.kind ≠ .select → s.render = s.builder.building s) ∧
      Code.WellNamed s.builder.name s.builder.arguments) ∧
    (s.kind = .select →
      s.render = s.builder.building s ++ "\n\n" ++ s.row.reading s.outputs ++ "\n\n"
        ++ s.runner.running s.builder s.row ∧
      Code.WellNamed s.runner.name s.runner.arguments ∧
      Code.WellNamed s.row.name s.row.fields ∧
      Code.runnerArgument ∉ s.builder.arguments.map (·.name)) := by
  have haccepted := Code.checkIdentifiers_eq_ok.mp h
  have hname := haccepted.usable s hs
  have hparts := haccepted.parts s hs
  refine ⟨⟨fun hkind => ?_, Statement.builder_wellNamed hname hparts⟩, fun hkind => ⟨?_,
    Statement.runner_wellNamed hname hparts hkind,
    Statement.row_wellNamed (hshort s hs) hname hparts,
    Statement.runner_notMem_arguments hparts hkind⟩⟩
  · rw [Statement.render, if_neg hkind, s.renderBuilder_eq]
  · rw [Statement.render, if_pos hkind, s.renderBuilder_eq, s.renderRow_eq, s.renderRunner_eq]

namespace Sample

/-- A select that is named by a keyword, as are an argument and a field. -/
def matchStatement : Statement where
  name := "match"
  kind := .select
  sql := "SELECT t.type FROM tasks AS t WHERE t.type = @type LIMIT @limit2"
  params := [⟨"type", .ofPrimitive .string⟩, ⟨"limit2", .ofPrimitive .int64⟩]
  outputs := [⟨"Type", .ofPrimitive .string⟩, ⟨"t-type", .ofPrimitive .string⟩]

end Sample

/-- Keywords are marked, and the endings take the place of the mark. -/
theorem rendered_names_valid_match :
    Sample.matchStatement.builder.name = "match_statement" ∧
    Sample.matchStatement.runner.name = "r#match" ∧
    Sample.matchStatement.runner.arguments.map (·.name) = ["runner", "r#type", "limit2"] ∧
    Sample.matchStatement.row.name = "MatchRow" ∧
    Sample.matchStatement.row.fields.map (·.name) = ["r#type", "t_type"] ∧
    Code.WellNamed "r#match" Sample.matchStatement.runner.arguments ∧
    Code.WellNamed "MatchRow" Sample.matchStatement.row.fields := by
  have hcheck : Code.checkIdentifiers [Sample.matchStatement] = .ok () := by decide
  have hshort : ∀ s ∈ [Sample.matchStatement], Text.IsShort s.name := by decide
  obtain ⟨-, hselect⟩ := rendered_names_valid _ hcheck hshort _ List.mem_cons_self
  obtain ⟨-, hrunner, hrow, -⟩ := hselect rfl
  exact ⟨by decide, by decide, by decide, by decide, by decide, hrunner, hrow⟩

end SchemaLoom
