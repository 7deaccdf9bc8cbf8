import SchemaLoom.Proofs.Sql.Draft
import SchemaLoom.Sql.Statement

/-!
# Binding sites

A binding site is a place of a statement where a parameter is bound. The sites of a comparison
can be read off its definition: they depend on the scope only through its default alias. A
compiled condition binds the names of its sites from left to right, and its text has a placeholder
for each of them in the same order as long as all names in it are plain.
-/
namespace SchemaLoom
open Compiled Text

inductive Site where
  /-- The name is written in the definition. -/
  | given (name : String)
  /-- The value of a column in a SET clause. -/
  | assigned (column : String)
  /-- What a column, or a function of a search column, is compared with. -/
  | compared (aliasName column : String) (op : Operator) (func : Option SqlFunction)
  /-- The query text of a function call. -/
  | query (aliasName column : String) (func : SqlFunction)
  | limit
  | offset
deriving DecidableEq, Repr

namespace Site

def name : Site → String
  | .given n => n
  | .assigned c => UpdateDefinition.setParam c
  | .compared a c op none => generatedName a c op.suffix
  | .compared a c op (some f) => f.comparandName a c op
  | .query a c .score => generatedName a c "ScoreQuery"
  | .limit => "limit"
  | .offset => "offset"

def names (sites : List Site) : List String := sites.map name

@[simp] theorem names_nil : names [] = [] := rfl

@[simp] theorem names_cons (s : Site) (ss : List Site) : names (s :: ss) = s.name :: names ss := rfl

@[simp] theorem names_append (s t : List Site) : names (s ++ t) = names s ++ names t :=
  List.map_append

theorem names_flatMap {α : Type} (f : α → List Site) (as : List α) :
    names (as.flatMap f) = as.flatMap fun a => names (f a) := List.map_flatMap

end Site

/-- A part of a statement was compiled: the parameters of its sites were bound in order, and if
its names are plain its placeholders are those of the sites in order. -/
structure Writes (plain : Prop) (ps : Params) (sites : List Site) (spelled : List String)
    (next : Params) : Prop where
  binds : ∃ bs : List Param, bs.map (·.name) = Site.names sites ∧ ps.bindAll bs = .ok next
  spells : plain → spelled = Site.names sites

namespace Writes

variable {plain : Prop} {ps mid next : Params} {s t : List Site} {v w : List String}

theorem nil : Writes plain ps [] [] ps := ⟨⟨[], rfl, rfl⟩, fun _ => rfl⟩

theorem append_binds (h : Writes plain ps s v mid) (h' : Writes plain mid t w next) :
    ∃ bs : List Param, bs.map (·.name) = Site.names (s ++ t) ∧ ps.bindAll bs = .ok next := by
  obtain ⟨bs, hbs, hmid⟩ := h.binds
  obtain ⟨cs, hcs, hnext⟩ := h'.binds
  exact ⟨bs ++ cs, by simp [hbs, hcs], Params.bindAll_append.mpr ⟨mid, hmid, hnext⟩⟩

theorem append (h : Writes plain ps s v mid) (h' : Writes plain mid t w next) :
    Writes plain ps (s ++ t) (v ++ w) next :=
  ⟨h.append_binds h', fun hp => by rw [h.spells hp, h'.spells hp, Site.names_append]⟩

theorem weaken {plain' : Prop} (h : Writes plain ps s v next) (hp : plain' → plain) :
    Writes plain' ps s v next := ⟨h.binds, fun hp' => h.spells (hp hp')⟩

/-- One draft, taken as it stands. -/
theorem of_take {d : Draft} {text : String} (h : ps.take d = .ok (text, next))
    (hnames : d.params.map (·.name) = Site.names s) (hplain : plain → d.Faithful) :
    Writes plain ps s (placeholders text) next := by
  obtain ⟨rfl, hbind⟩ := Params.take_eq_ok.mp h
  exact ⟨⟨d.params, hnames, hbind⟩, fun hp => (hplain hp).trans hnames⟩

end Writes

namespace Comparison

/-- The site of the value that a comparison compares with. -/
def valueSite (defaultAlias : String) (c : Comparison) (op : Operator)
    (func : Option SqlFunction) : Site :=
  match c.paramName with
  | some n => .given n
  | none => .compared (c.left.table.getD defaultAlias) c.left.name op func

def whereSites (defaultAlias : String) (c : Comparison) : List Site :=
  match Operator.parse c.op, c.func with
  | .error _, _ => []
  | .ok op, none =>
    if op = .isNull ∨ op = .isNotNull then [] else [c.valueSite defaultAlias op none]
  | .ok op, some func =>
    match SqlFunction.parse func with
    | .error _ => []
    | .ok f => [.query (c.left.table.getD defaultAlias) c.left.name f,
        c.valueSite defaultAlias op (some f)]

def onSites (defaultAlias : String) (c : Comparison) : List Site :=
  match Operator.parse c.op, c.right with
  | .ok op, none => [c.valueSite defaultAlias op none]
  | _, _ => []

theorem valueSite_name (a : String) (c : Comparison) (op : Operator) (func : Option SqlFunction) :
    (c.valueSite a op func).name =
      c.paramName.getD (Site.compared (c.left.table.getD a) c.left.name op func).name := by
  unfold valueSite
  cases c.paramName <;> rfl

theorem WhereDraft.names {scope : Scope} {c : Comparison} {d : Draft}
    (h : WhereDraft scope c d) :
    d.params.map (·.name) = Site.names (c.whereSites scope.defaultAlias) := by
  unfold whereSites
  cases h with
  | @call op _ f _ _ hop _ hfunc hparse _ hs =>
    obtain ⟨rfl, hname⟩ := Scope.searchColumn_ok hs
    cases f
    simp only [hop, hfunc, hparse, hname, Site.names_cons, valueSite_name]
    rfl
  | search hop _ hfunc hs =>
    obtain ⟨rfl, hname⟩ := Scope.searchColumn_ok hs
    simp only [hop, hfunc, hname, reduceCtorEq, or_self, if_false, Site.names_cons, valueSite_name]
    rfl
  | null hop _ hfunc hnull _ _ =>
    simp [hop, hfunc, hnull]
  | membership hop _ hfunc hcol _ =>
    obtain ⟨rfl, hname⟩ := Scope.column_ok hcol
    simp only [hop, hfunc, hname, reduceCtorEq, or_self, if_false, Site.names_cons, valueSite_name]
    rfl
  | @order op _ _ hop _ hfunc horder hcol _ =>
    obtain ⟨rfl, hname⟩ := Scope.column_ok hcol
    have hnull : ¬(op = .isNull ∨ op = .isNotNull) := by
      rintro (rfl | rfl) <;> cases horder
    simp only [hop, hfunc, hname, if_neg hnull, Site.names_cons, valueSite_name]
    rfl

theorem OnDraft.names {scope : Scope} {c : Comparison} {d : Draft} (h : OnDraft scope c d) :
    d.params.map (·.name) = Site.names (c.onSites scope.defaultAlias) := by
  unfold onSites
  cases h with
  | pair hop _ _ hright _ _ _ _ _ => simp [hop, hright]
  | value hop _ _ hright hleft _ =>
    obtain ⟨rfl, hname⟩ := Scope.column_ok hleft
    simp only [hop, hright, hname, Site.names_cons, valueSite_name]
    rfl

end Comparison

namespace Condition

def mentioned (c : Condition) : List String := c.leaves.flatMap Comparison.mentioned

def whereSites (defaultAlias : String) (c : Condition) : List Site :=
  c.leaves.flatMap (Comparison.whereSites defaultAlias)

def onSites (defaultAlias : String) (c : Condition) : List Site :=
  c.leaves.flatMap (Comparison.onSites defaultAlias)

variable {draft : Comparison → Compiled Draft} {sites : Comparison → List Site} {plain : Prop}

/-- A condition writes the sites of its comparisons if every draft does. -/
theorem writes_of_compile {c : Condition} {ps next : Params} {text : String}
    (h : c.compile draft ps = .ok (text, next))
    (hnames : ∀ l d, draft l = .ok d → d.params.map (·.name) = Site.names (sites l))
    (hplain : ∀ l ∈ c.leaves, ∀ d, draft l = .ok d → plain → d.Faithful) :
    Writes plain ps (c.leaves.flatMap sites) (placeholders text) next := by
  obtain ⟨ds, hds⟩ := compile_drafted c h
  constructor
  · refine ⟨ds.flatMap (·.params), ?_, hds.binds⟩
    rw [List.map_flatMap, Site.names_flatMap]
    exact flatMap_eq_of_forall₂ hds.drafts fun l _ d hd => hnames l d hd
  · intro hp
    rw [hds.spells, Site.names_flatMap]
    exact flatMap_eq_of_forall₂ hds.drafts fun l hl d hd =>
      (hplain l hl d hd hp).trans (hnames l d hd)

theorem compileWhere_writes {c : Condition} {scope : Scope} {ps next : Params} {text : String}
    (h : c.compileWhere scope ps = .ok (text, next)) :
    Writes (IsName scope.defaultAlias ∧ ∀ n ∈ c.mentioned, IsName n) ps
      (c.whereSites scope.defaultAlias) (placeholders text) next := by
  refine writes_of_compile h (fun l d hd => (Comparison.draftWhere_eq_ok.mp hd).names) ?_
  rintro l hl d hd ⟨ha, hc⟩
  exact (Comparison.draftWhere_eq_ok.mp hd).faithful
    (fun n hn => hc n (List.mem_flatMap.mpr ⟨l, hl, hn⟩)) ha

theorem compileOn_writes {c : Condition} {scope : Scope} {ps next : Params} {text : String}
    (h : c.compileOn scope ps = .ok (text, next)) :
    Writes (IsName scope.defaultAlias ∧ ∀ n ∈ c.mentioned, IsName n) ps
      (c.onSites scope.defaultAlias) (placeholders text) next := by
  refine writes_of_compile h (fun l d hd => (Comparison.draftOn_eq_ok.mp hd).names) ?_
  rintro l hl d hd ⟨ha, hc⟩
  exact (Comparison.draftOn_eq_ok.mp hd).faithful
    (fun n hn => hc n (List.mem_flatMap.mpr ⟨l, hl, hn⟩)) ha

end Condition
end SchemaLoom
