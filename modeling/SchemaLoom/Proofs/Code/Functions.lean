import SchemaLoom.Code.Render
import SchemaLoom.Proofs.Blocks

/-!
# Functions of the generated code

Every statement gets a function that builds it, and every select another one that runs it. The
names that are claimed are those of the second kind, before keywords are escaped; the builders get
theirs by a suffix. So two functions can have one name only if a select is named like the builder
of another statement.
-/
namespace SchemaLoom
open Compiled

/-- Names stay different in any form from which the one that differs can be told. -/
theorem nodup_map_of_injective {α β γ : Type} {f : α → β} {g : α → γ} {l : List α}
    (h : (l.map f).Nodup) (hfg : ∀ x ∈ l, ∀ y ∈ l, g x = g y → f x = f y) : (l.map g).Nodup :=
  (h.of_map f).map_on fun x hx y hy hxy => List.inj_on_of_nodup_map h hx hy (hfg x hx y hy hxy)

namespace Code

/-- The head of a public function of that name stands in the text. -/
def Defines (text name : String) : Prop :=
  ∃ before after, text = before ++ "pub fn " ++ name ++ "(" ++ after ∨
    text = before ++ "pub async fn " ++ name ++ "(" ++ after

theorem Defines.append_left {text name : String} (h : Defines text name) (before : String) :
    Defines (before ++ text) name := by
  obtain ⟨start, after, rfl | rfl⟩ := h
  · exact ⟨before ++ start, after, .inl (by simp only [String.append_assoc])⟩
  · exact ⟨before ++ start, after, .inr (by simp only [String.append_assoc])⟩

theorem Defines.append_right {text name : String} (h : Defines text name) (after : String) :
    Defines (text ++ after) name := by
  obtain ⟨before, rest, rfl | rfl⟩ := h
  · exact ⟨before, rest ++ after, .inl (by simp only [String.append_assoc])⟩
  · exact ⟨before, rest ++ after, .inr (by simp only [String.append_assoc])⟩

/-- The mark of a raw identifier is no character of an identifier. -/
theorem mark_notMem {text : String} (h : ∀ c ∈ text.toList, isIdentRest c) : '#' ∉ text.toList :=
  fun hmem => absurd (h _ hmem) (by decide)

theorem mark_mem (text : String) : '#' ∈ ("r#" ++ text).toList := by
  simp

theorem identifier_cases (name : String) :
    Text.snakeCase name ∈ rawKeywords ∧ identifier name = "r#" ++ Text.snakeCase name ∨
      Text.snakeCase name ∉ rawKeywords ∧ identifier name = Text.snakeCase name := by
  by_cases h : Text.snakeCase name ∈ rawKeywords
  · exact .inl ⟨h, if_pos (List.contains_iff_mem.mpr h)⟩
  · exact .inr ⟨h, if_neg (mt List.contains_iff_mem.mp h)⟩

/-- Names that differ in snake case still do so once keywords are escaped. -/
theorem identifier_injective {a b : String} (ha : Usable a) (hb : Usable b)
    (h : identifier a = identifier b) : Text.snakeCase a = Text.snakeCase b := by
  have hmark {name : String} (hname : Usable name) : '#' ∉ (Text.snakeCase name).toList :=
    mark_notMem (isIdentRest_of_isIdent hname.1)
  -- a raw identifier has the mark and a plain one has not, so both are of one kind
  rcases identifier_cases a with ⟨-, hida⟩ | ⟨-, hida⟩ <;>
    rcases identifier_cases b with ⟨-, hidb⟩ | ⟨-, hidb⟩ <;> rw [hida, hidb] at h
  · simpa [String.ext_iff] using h
  · exact absurd (h ▸ mark_mem _) (hmark hb)
  · exact absurd (h ▸ mark_mem _) (hmark ha)
  · exact h

theorem keyword_not_builder : ∀ k ∈ rawKeywords, ¬ "_statement".toList <:+ k.toList := by
  decide

end Code

namespace Statement
open Code

def functionNames (s : Statement) : List String :=
  s.builderName :: if s.kind = .select then [identifier s.name] else []

theorem defines_builder (s : Statement) : Defines s.renderBuilder s.builderName := by
  have hline : s.docLine ++ "\npub fn " = s.docLine ++ "\n" ++ "pub fn " := by
    rw [String.append_assoc]
    rfl
  have hhead : Defines (s.docLine ++ "\npub fn " ++ s.builderName ++ "(") s.builderName :=
    ⟨s.docLine ++ "\n", "", .inl (by simp [hline])⟩
  unfold renderBuilder
  iterate 6 apply Defines.append_right
  exact hhead

theorem defines_runner (s : Statement) : Defines s.renderRunner (identifier s.name) := by
  have hhead : Defines ("pub async fn " ++ identifier s.name ++ "(") (identifier s.name) :=
    ⟨"", "", .inr (by simp)⟩
  unfold renderRunner
  iterate 12 apply Defines.append_right
  exact hhead

theorem defines_functions (s : Statement) : ∀ n ∈ s.functionNames, Defines s.render n := by
  by_cases hkind : s.kind = .select
  · simp only [functionNames, render, hkind, if_true, List.forall_mem_cons, List.not_mem_nil,
      false_implies, implies_true, and_true]
    constructor
    · iterate 4 apply Defines.append_right
      exact s.defines_builder
    · exact s.defines_runner.append_left _
  · simpa [functionNames, render, hkind] using s.defines_builder

theorem builderName_injective {s t : Statement} (h : s.builderName = t.builderName) :
    Text.snakeCase s.name = Text.snakeCase t.name := by
  simpa [builderName, String.ext_iff] using h

theorem mark_notMem_builderName {s : Statement} (hs : Usable s.name) :
    '#' ∉ s.builderName.toList := by
  have hsnake := mark_notMem (isIdentRest_of_isIdent hs.1)
  simp [builderName, hsnake]

/-- A select runs under the name of a builder only if it is named like one. -/
theorem identifier_eq_builderName {s t : Statement} (hs : Usable s.name) :
    identifier t.name = s.builderName ↔ Text.snakeCase t.name = s.builderName := by
  rcases identifier_cases t.name with ⟨hraw, hid⟩ | ⟨-, hid⟩
  · apply iff_of_false
    · intro h
      rw [hid] at h
      exact mark_notMem_builderName hs (h ▸ mark_mem _)
    · intro h
      rw [h] at hraw
      apply keyword_not_builder _ hraw
      rw [builderName, String.toList_append]
      exact List.suffix_append _ _
  · rw [hid]

/-- The functions of several statements are their builders and the functions of the selects. -/
theorem functionNames_perm (ss : List Statement) : (ss.flatMap functionNames).Perm
    (ss.map builderName ++ (ss.filter (·.kind = .select)).map fun s => identifier s.name) := by
  induction ss with
  | nil => rfl
  | cons s ss ih =>
    by_cases hkind : s.kind = .select
    · simp only [List.flatMap_cons, functionNames, hkind, if_true, List.cons_append,
        List.nil_append, List.map_cons, decide_true, List.filter_cons_of_pos]
      exact ((ih.cons _).trans List.perm_middle.symm).cons _
    · simpa [functionNames, hkind] using ih

end Statement

/-- The functions of a pass: each stands in the text of its statement. They have different names
exactly if no select is named like the builder of a statement, and the row types always do. -/
theorem generated_functions_distinct_iff (catalog : Catalog) (d : DatabaseDefinition)
    (g : Generated) (h : d.generateWith catalog = .ok g) :
    (∀ s ∈ g.statements, ∀ n ∈ s.functionNames, Code.Defines s.render n) ∧
    ((g.statements.flatMap Statement.functionNames).Nodup ↔
      ∀ s ∈ g.statements, ∀ t ∈ g.statements, t.kind = .select →
        Text.snakeCase t.name ≠ s.builderName) ∧
    (Code.rowNames g.statements).Nodup := by
  obtain ⟨-, _, _, -, -, -, -, haccepted⟩ := DatabaseDefinition.generateWith_eq_ok.mp h
  refine ⟨fun s _ => s.defines_functions, ?_, haccepted.rows⟩
  have hbuilders : (g.statements.map Statement.builderName).Nodup :=
    nodup_map_of_injective haccepted.functions fun s _ t _ => Statement.builderName_injective
  have hrunners : ((g.statements.filter (·.kind = .select)).map
      fun s => Code.identifier s.name).Nodup := by
    apply nodup_map_of_injective (haccepted.functions.sublist (List.filter_sublist.map _))
    intro s hs t ht
    exact Code.identifier_injective (haccepted.usable s (List.mem_of_mem_filter hs))
      (haccepted.usable t (List.mem_of_mem_filter ht))
  rw [(Statement.functionNames_perm g.statements).nodup_iff, List.nodup_append]
  simp only [hbuilders, hrunners, true_and, List.forall_mem_map, List.mem_filter,
    decide_eq_true_eq, and_imp]
  refine forall₂_congr fun s hs => forall₃_congr fun t _ _ => ?_
  rw [ne_comm, ne_eq, ne_eq, Statement.identifier_eq_builderName (haccepted.usable s hs)]

namespace Sample

/-- Two selects, the second named like the builder of the first. -/
def finders : DatabaseDefinition where
  name := "finders"
  tables := [
    { name := "accounts"
      columns := [⟨"id", "string", false, false, none, false⟩]
      primaryKeys := [.bare "id"] }]
  selects := [
    { name := "find", fromTable := "accounts", getColumns := [.all none] },
    { name := "findStatement", fromTable := "accounts", getColumns := [.all none] }]

end Sample

/-- Here two functions have one name, although the pass succeeds. -/
theorem generated_functions_distinct_iff_find :
    ∃ g, Sample.finders.generate = .ok g ∧ g.statements.flatMap Statement.functionNames =
        ["find_statement", "find", "find_statement_statement", "find_statement"] ∧
      (∃ s ∈ g.statements, ∃ t ∈ g.statements, t.kind = .select ∧
        Text.snakeCase t.name = s.builderName) ∧
      (Code.rowNames g.statements).Nodup := by
  have hfinders : (fun g => g.statements.flatMap Statement.functionNames) <$>
      Sample.finders.generate = .ok ["find_statement", "find", "find_statement_statement",
        "find_statement"] := by decide +kernel
  obtain ⟨g, hg, hnames⟩ := map_eq_ok.mp hfinders
  obtain ⟨-, hdistinct, hrows⟩ := generated_functions_distinct_iff _ _ _ hg
  refine ⟨g, hg, hnames, ?_, hrows⟩
  rw [hnames] at hdistinct
  by_contra hnone
  exact absurd (hdistinct.mpr fun s hs t ht hkind heq => hnone ⟨s, hs, t, ht, hkind, heq⟩)
    (by decide)

end SchemaLoom
