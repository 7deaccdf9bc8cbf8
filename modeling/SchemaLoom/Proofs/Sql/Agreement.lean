import SchemaLoom.Proofs.Sql.Select

/-!
# Placeholders and parameters agree

A compiled statement has a parameter for every placeholder of its text and a placeholder for every
parameter. The parameters are distinct, and except in a select they stand in the order in which
the text first mentions them; a select binds its joins before the select list that its text begins
with.
-/
namespace SchemaLoom
open Compiled Text

inductive StatementDefinition where
  | insert (d : InsertDefinition)
  | update (d : UpdateDefinition)
  | delete (d : DeleteDefinition)
  | select (d : SelectDefinition)

namespace StatementDefinition

def compile (r : Registry) : StatementDefinition → Compiled Statement
  | .insert d => d.compile r
  | .update d => d.compile r
  | .delete d => d.compile r
  | .select d => d.compile r

def sites (r : Registry) : StatementDefinition → List Site
  | .insert d => d.sites r
  | .update d => d.sites r
  | .delete d => d.sites
  | .select d => d.sites

/-- The names of tables, aliases, columns and given parameters a statement mentions. -/
def mentioned (r : Registry) : StatementDefinition → List String
  | .insert d => d.mentioned
  | .update d => d.mentioned
  | .delete d => d.mentioned
  | .select d => d.mentioned r

variable {r : Registry} {d : StatementDefinition} {s : Statement}

/-- A compiled statement has bound its sites one after the other. -/
theorem binds_sites (h : d.compile r = .ok s) :
    ∃ bs : List Param, bs.map (·.name) = Site.names (d.sites r) ∧
      Params.empty.bindAll bs = .ok ⟨s.params⟩ := by
  cases d with
  | insert d => exact (InsertDefinition.writes h).binds
  | update d => exact (UpdateDefinition.writes h).binds
  | delete d => exact (DeleteDefinition.writes h).binds
  | select d =>
    obtain ⟨run, rfl⟩ := SelectRun.of_compile h
    exact run.writes.1

/-- The parameters are the names of the sites, each at its first place. -/
theorem params_names (h : d.compile r = .ok s) :
    s.params.map (·.name) = (Site.names (d.sites r)).eraseDups := by
  obtain ⟨bs, hbs, hbind⟩ := binds_sites h
  exact hbs ▸ Params.names_bindAll_empty hbind

theorem params_nodup (h : d.compile r = .ok s) : (s.params.map (·.name)).Nodup := by
  obtain ⟨bs, -, hbind⟩ := binds_sites h
  exact Params.nodup_bindAll hbind (by simp)

theorem site_name_ne_empty (h : d.compile r = .ok s) :
    ∀ n ∈ Site.names (d.sites r), n ≠ "" := by
  obtain ⟨bs, hbs, hbind⟩ := binds_sites h
  intro n hn
  obtain ⟨b, hb, rfl⟩ := List.mem_map.mp (hbs ▸ hn)
  exact Params.names_ne_empty hbind b hb

theorem placeholders_perm (hplain : ∀ n ∈ d.mentioned r, IsName n) (h : d.compile r = .ok s) :
    (placeholders s.sql).Perm (Site.names (d.sites r)) := by
  cases d with
  | insert d => exact .of_eq ((InsertDefinition.writes h).spells hplain)
  | update d => exact .of_eq ((UpdateDefinition.writes h).spells hplain)
  | delete d => exact .of_eq ((DeleteDefinition.writes h).spells hplain)
  | select d =>
    obtain ⟨run, rfl⟩ := SelectRun.of_compile h
    exact run.writes.2 hplain

theorem placeholders_eq (hplain : ∀ n ∈ d.mentioned r, IsName n) (h : d.compile r = .ok s)
    (hkind : s.kind ≠ .select) : placeholders s.sql = Site.names (d.sites r) := by
  cases d with
  | insert d => exact (InsertDefinition.writes h).spells hplain
  | update d => exact (UpdateDefinition.writes h).spells hplain
  | delete d => exact (DeleteDefinition.writes h).spells hplain
  | select d =>
    obtain ⟨run, rfl⟩ := SelectRun.of_compile h
    exact absurd rfl hkind

end StatementDefinition

/-- The placeholders of a compiled statement are its parameters: the same names, none of them empty
and none twice, and except in a select in the order of their first occurrence in the text. -/
theorem placeholders_agree_with_params (r : Registry) (d : StatementDefinition) (s : Statement)
    (hplain : ∀ n ∈ d.mentioned r, IsName n) (h : d.compile r = .ok s) :
    (∀ n, n ∈ placeholders s.sql ↔ n ∈ s.params.map (·.name)) ∧
      (∀ p ∈ s.params, p.name ≠ "") ∧ (s.params.map (·.name)).Nodup ∧
      (s.kind ≠ .select → s.params.map (·.name) = (placeholders s.sql).eraseDups) := by
  have hparams := StatementDefinition.params_names h
  have hnonempty := StatementDefinition.site_name_ne_empty h
  have hperm := StatementDefinition.placeholders_perm hplain h
  refine ⟨fun n => ?_, fun p hp => hnonempty _ ?_, StatementDefinition.params_nodup h,
    fun hkind => ?_⟩
  · rw [hparams, List.mem_eraseDups, hperm.mem_iff]
  · have hmem : p.name ∈ s.params.map (·.name) := List.mem_map_of_mem hp
    rwa [hparams, List.mem_eraseDups] at hmem
  · rw [StatementDefinition.placeholders_eq hplain h hkind, hparams]

namespace Sample

def notes : Table where
  name := "notes"
  columns := [⟨"id", .ofPrimitive .string, false⟩, ⟨"body", .ofPrimitive .string, false⟩,
    ⟨"author", .ofPrimitive .string, false⟩]
  primaryKey := [⟨"id", false⟩]
  searchColumns := [⟨"words", ["body"]⟩]
  columnGroups := []
  interleave := none
  indexes := []
  searchIndexes := []

def authors : Table where
  name := "authors"
  columns := [⟨"id", .ofPrimitive .string, false⟩, ⟨"born", .ofPrimitive .int64, false⟩]
  primaryKey := [⟨"id", false⟩]
  searchColumns := []
  columnGroups := []
  interleave := none
  indexes := []
  searchIndexes := []

def registry : Registry := ⟨[notes, authors]⟩

def search : SelectDefinition where
  name := "search"
  fromTable := "notes"
  aliasName := some "n"
  joins := [{ joinType := "LEFT", table := "authors", aliasName := some "a"
              condition := some (.concat "AND"
                [.leaf { op := "=", left := ⟨"id", some "a"⟩, right := some ⟨"author", none⟩ },
                 .leaf { op := ">=", left := ⟨"born", some "a"⟩, paramName := some "since" }]) }]
  condition := some (.leaf { op := ">", left := ⟨"words", none⟩, func := some "SCORE" })
  orderBy := [.call "SCORE" "words" none true]
  limit := true
  getColumns := [.all none, .call "SCORE" "words" none, .column "born" (some "a")]

end Sample

/-- A join condition, a score in three places, whose query comes first in the text but is bound
second, and a limit. -/
theorem placeholders_agree_with_params_search :
    ∃ s, (StatementDefinition.select Sample.search).compile Sample.registry = .ok s ∧
      (∀ n ∈ (StatementDefinition.select Sample.search).mentioned Sample.registry, IsName n) ∧
      s.params.map (·.name) = ["since", "nWordsScoreQuery", "nWordsScoreGt", "limit"] ∧
      ∀ n, n ∈ placeholders s.sql ↔ n ∈ s.params.map (·.name) := by
  refine ⟨_, rfl, by decide, by decide, ?_⟩
  exact (placeholders_agree_with_params Sample.registry (.select Sample.search) _
    (by decide) rfl).1

end SchemaLoom
