import SchemaLoom.Proofs.Sql.ClauseRules

/-!
# Which selects are accepted

The clauses of a select share one scope and one sequence of bindings. A select compiles exactly if
all its clauses obey their rules, no field is filled twice, and no name is bound with two wire
types, in whichever clauses it is bound.
-/
namespace SchemaLoom
open Compiled

/-- What a paging clause binds, where it is wanted. -/
def pagingParams (wanted : Bool) (name : String) : List Param :=
  if wanted then [⟨name, .ofPrimitive .int64⟩] else []

namespace SelectDefinition

/-- How the clauses of a select are read: the scope behind all joins, and what each clause binds. -/
structure Reading where
  scope : Scope
  joins : List Param
  condition : List Param
  columns : List GetColumn.Yield
  order : List (List Param)

def Reading.fields (x : Reading) : List String := x.columns.flatMap (·.fields)

/-- The bindings of the whole select in the order in which they are made. -/
def Reading.bindings (x : Reading) (d : SelectDefinition) : List Param :=
  x.joins ++ x.condition ++ x.columns.flatMap (·.params) ++ x.order.flatten
    ++ pagingParams d.limit "limit" ++ pagingParams d.offset "offset"

/-- Every clause of the select obeys its rule. -/
structure Reads (r : Registry) (d : SelectDefinition) (x : Reading) : Prop where
  named : d.name ≠ ""
  sourceNamed : d.fromTable ≠ ""
  selects : d.getColumns ≠ []
  source : ∃ t ∈ r.tables, t.name = d.fromTable ∧
    JoinDefinition.Rules r (.single d.primaryAlias t) d.joins x.scope x.joins
  condition : WhereRule x.scope d.condition x.condition
  columns : List.Forall₂ (GetColumn.Rule x.scope) d.getColumns x.columns
  distinct : x.fields.Nodup
  order : List.Forall₂ (OrderBy.Rule x.scope) d.orderBy x.order
  paged : d.offset = true → d.limit = true

/-- The select is accepted: its clauses obey their rules, and throughout the select no name is bound
with two wire types. -/
structure Accepted (r : Registry) (d : SelectDefinition) (x : Reading) : Prop
    extends d.Reads r x where
  compatible : (x.bindings d).Pairwise Param.Compatible

end SelectDefinition

theorem take_paging {wanted : Bool} {keyword name text : String} {ps next : Params} :
    ps.take (pagingDraft wanted keyword name) = .ok (text, next) ↔
      text = (pagingDraft wanted keyword name).sql ∧
        ps.bindAll (pagingParams wanted name) = .ok next := by
  rw [Params.take_eq_ok]
  cases wanted <;> rfl

namespace SelectDefinition

variable {r : Registry} {d : SelectDefinition} {x : Reading}

/-- The clauses of a select that compiles can be read, and their bindings are made in one run. -/
theorem exists_reads (hr : r.Sound) {s : Statement} (h : d.compile r = .ok s) :
    ∃ x, d.Reads r x ∧ s.outputs.map (·.name) = x.fields ∧
      Params.empty.bindAll (x.bindings d) = .ok ⟨s.params⟩ := by
  obtain ⟨hname, hfrom, hselects, hpaged, run, rfl⟩ := SelectRun.compile_eq_ok.mp h
  have ht := hr.table_eq_ok.mp run.found
  have hstart : (FromClause.start run.table d.primaryAlias).scope.Over r := .single ht.1
  have hsource := run.joined
  rw [run.start_alias] at hsource
  obtain ⟨joins, hjoins, hbind⟩ :=
    (FromClause.joinAll_iff_rules hstart hr).mp ⟨run.source, hsource, rfl, rfl⟩
  have hscope := hjoins.over hstart
  obtain ⟨condition, hcondition, hbind₁⟩ := (whereClause_iff_rule hscope hr).mp ⟨_, run.filters⟩
  obtain ⟨columns, hcolumns, hfresh, hfields, hbind₂⟩ :=
    (selectItems_iff_rule hscope hr).mp ⟨run.items, run.selects, rfl⟩
  obtain ⟨order, horder, hbind₃⟩ := (OrderBy.compileAll_iff_rule hscope hr).mp ⟨_, run.orders⟩
  refine ⟨⟨run.source.scope, joins, condition, columns, order⟩, ?_, ?_, ?_⟩
  · exact
      { named := hname
        sourceNamed := hfrom
        selects := hselects
        source := ⟨run.table, ht.1, ht.2, hjoins⟩
        condition := hcondition
        columns := hcolumns
        distinct := fresh_of_nothing.mp hfresh
        order := horder
        paged := hpaged }
  · rw [SelectRun.statement, List.map_map]
    exact hfields
  · simp only [Reading.bindings, Params.bindAll_append]
    exact ⟨_, ⟨_, ⟨_, ⟨_, ⟨_, hbind, hbind₁⟩, hbind₂⟩, hbind₃⟩, (take_paging.mp run.limits).2⟩,
      (take_paging.mp run.offsets).2⟩

/-- A select whose clauses can be read compiles as soon as their bindings can be made. -/
theorem Reads.exists_compile (hr : r.Sound) (hx : d.Reads r x) {bound : Params}
    (hbind : Params.empty.bindAll (x.bindings d) = .ok bound) :
    ∃ s, d.compile r = .ok s ∧ s.outputs.map (·.name) = x.fields ∧ s.params = bound.bound := by
  simp only [Reading.bindings, Params.bindAll_append] at hbind
  obtain ⟨ps₄, ⟨ps₃, ⟨ps₂, ⟨ps₁, ⟨ps, hbind, hbind₁⟩, hbind₂⟩, hbind₃⟩, hlimit⟩, hoffset⟩ := hbind
  obtain ⟨t, ht, htname, hjoins⟩ := hx.source
  have hstart : (FromClause.start t d.primaryAlias).scope.Over r := .single ht
  have hscope := hjoins.over hstart
  obtain ⟨source, hsource, hsame, rfl⟩ :=
    (FromClause.joinAll_iff_rules hstart hr).mpr ⟨x.joins, hjoins, hbind⟩
  rw [primaryAlias, ← htname] at hsource
  obtain ⟨filter, hfilter⟩ := (whereClause_iff_rule hscope hr).mpr ⟨_, hx.condition, hbind₁⟩
  have hitems : ∃ items, selectItems x.scope source.outer [] d.getColumns ps₁ = .ok (items, ps₂) ∧
      items.map (·.field.name) = x.fields :=
    (selectItems_iff_rule hscope hr).mpr
      ⟨x.columns, hx.columns, fresh_of_nothing.mpr hx.distinct, rfl, hbind₂⟩
  obtain ⟨items, hitems, hfields⟩ := hitems
  obtain ⟨order, horder⟩ := (OrderBy.compileAll_iff_rule hscope hr).mpr ⟨_, hx.order, hbind₃⟩
  rw [← hsame] at hfilter hitems horder
  have hrun : ∃ run : SelectRun r d, run.items = items ∧ run.bound = bound :=
    ⟨⟨t, source, filter, ps₁, items, ps₂, order, ps₃, _, ps₄, _, bound,
      hr.table_eq_ok.mpr ⟨ht, htname⟩, hsource, hfilter, hitems, horder,
      take_paging.mpr ⟨rfl, hlimit⟩, take_paging.mpr ⟨rfl, hoffset⟩⟩, rfl, rfl⟩
  obtain ⟨run, rfl, rfl⟩ := hrun
  refine ⟨run.statement, ?_, ?_, rfl⟩
  · exact SelectRun.compile_eq_ok.mpr ⟨hx.named, hx.sourceNamed, hx.selects, hx.paged, run, rfl⟩
  · rw [SelectRun.statement, List.map_map]
    exact hfields

/-- Only a name that a condition gives itself can be empty, and there its clause rejects it. -/
theorem Reads.bindings_named (hx : d.Reads r x) : ∀ b ∈ x.bindings d, b.name ≠ "" := by
  obtain ⟨t, -, -, hjoins⟩ := hx.source
  have hcolumns : ∀ y ∈ x.columns, ∀ b ∈ y.params, b.name ≠ "" :=
    (forall_mem_iff_of_forall₂ (P := fun _ => True) hx.columns
      fun _ _ h => iff_of_true trivial h.named).mp fun _ _ => trivial
  have horder : ∀ bs ∈ x.order, ∀ b ∈ bs, b.name ≠ "" :=
    (forall_mem_iff_of_forall₂ (P := fun _ => True) hx.order
      fun _ _ h => iff_of_true trivial h.named).mp fun _ _ => trivial
  have hpaging (wanted : Bool) (name : String) (hname : name ≠ "") :
      ∀ b ∈ pagingParams wanted name, b.name ≠ "" := by
    cases wanted <;> simp [pagingParams, hname]
  simp only [Reading.bindings, List.forall_mem_append, List.forall_mem_flatMap,
    List.forall_mem_flatten]
  exact ⟨⟨⟨⟨⟨hjoins.named, hx.condition.named⟩, hcolumns⟩, horder⟩, hpaging _ _ (by decide)⟩,
    hpaging _ _ (by decide)⟩

/-- An accepted select compiles, to the fields and parameters that the rules give. -/
theorem Accepted.exists_compile (hr : r.Sound) (hx : d.Accepted r x) :
    ∃ s, d.compile r = .ok s ∧ s.outputs.map (·.name) = x.fields ∧
      s.params = Params.firstBindings [] (x.bindings d) := by
  have hadmits : Params.empty.Admits (x.bindings d) :=
    ⟨hx.bindings_named, by simp [Params.empty], hx.compatible⟩
  have hbind : Params.empty.bindAll (x.bindings d) = .ok ⟨Params.firstBindings [] (x.bindings d)⟩ :=
    (Params.bindAll_eq_ok (by simp)).mpr ⟨hadmits, rfl⟩
  exact hx.toReads.exists_compile hr hbind

end SelectDefinition

/-- Against a reachable registry a select compiles exactly if it is accepted: it names itself, its
table and what it selects; every join, the condition, and every entry of the select list and of the
order obey their rules in the scope they see; no field is filled twice; an offset comes with a
limit; and in the whole sequence of bindings no name has two wire types. Its fields and parameters
are then those that the rules give. -/
theorem select_accepted_iff (r : Registry) (hr : r.Reachable) (d : SelectDefinition) :
    ((∃ s, d.compile r = .ok s) ↔ ∃ x, d.Accepted r x) ∧
    ∀ x s, d.Accepted r x → d.compile r = .ok s →
      s.outputs.map (·.name) = x.fields ∧ s.params = Params.firstBindings [] (x.bindings d) := by
  constructor
  · constructor
    · rintro ⟨s, h⟩
      obtain ⟨x, hx, -, hbind⟩ := SelectDefinition.exists_reads hr.sound h
      exact ⟨x, hx, ((Params.bindAll_eq_ok (by simp)).mp hbind).1.among⟩
    · rintro ⟨x, hx⟩
      obtain ⟨s, h, -⟩ := hx.exists_compile hr.sound
      exact ⟨s, h⟩
  · intro x s hx h
    obtain ⟨s', h', hs'⟩ := hx.exists_compile hr.sound
    rw [h] at h'
    cases h'
    exact hs'

namespace Sample

/-- The posts that match a query, best first; those of one title are left out, which is a parameter
of the given name. -/
def ranked (excluded : String) : SelectDefinition where
  name := "rankedPosts"
  fromTable := "users"
  aliasName := some "u"
  joins := [
    { joinType := "LEFT"
      table := "posts"
      aliasName := some "p"
      condition := some (.concat "AND" [
        .leaf { op := "=", left := ⟨"id", none⟩, right := some ⟨"id", some "p"⟩ },
        .leaf { op := "!=", left := ⟨"title", some "p"⟩, paramName := some excluded }]) }]
  condition := some (.leaf { op := "SEARCH", left := ⟨"words", some "p"⟩ })
  orderBy := [.call "SCORE" "words" (some "p") true, .column "number" (some "p") false]
  limit := true
  getColumns := [.all none, .group "head" (some "p"), .call "SCORE" "words" (some "p")]

end Sample

/-- A title named like the limit makes two wire types of one name, from two clauses. -/
theorem select_accepted_iff_ranked :
    (∃ x, (Sample.ranked "excluded").Accepted Sample.usersAndPosts x ∧
      x.fields = ["uId", "uJoined", "pNumber", "pTitle", "pWordsScore"]) ∧
    ¬∃ x, (Sample.ranked "limit").Accepted Sample.usersAndPosts x := by
  have hr : Sample.usersAndPosts.Reachable := ⟨_, rfl⟩
  constructor
  · have hfields : (fun s => s.outputs.map (·.name)) <$>
        (Sample.ranked "excluded").compile Sample.usersAndPosts =
          .ok ["uId", "uJoined", "pNumber", "pTitle", "pWordsScore"] := by decide +kernel
    obtain ⟨s, hs, houtputs⟩ := map_eq_ok.mp hfields
    obtain ⟨x, hx⟩ := (select_accepted_iff _ hr _).1.mp ⟨s, hs⟩
    have hsame := ((select_accepted_iff _ hr _).2 x s hx hs).1
    exact ⟨x, hx, hsame.symm.trans houtputs⟩
  · have hfails : ((Sample.ranked "limit").compile Sample.usersAndPosts).toOption = none := by
      decide +kernel
    rw [← (select_accepted_iff _ hr _).1]
    rintro ⟨s, hs⟩
    rw [hs] at hfails
    cases hfails

end SchemaLoom
