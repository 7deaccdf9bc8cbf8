import SchemaLoom.Proofs.Ddl.Validity
import SchemaLoom.Proofs.Sql.Draft

/-!
# Which conditions are accepted

The rules of WHERE and of ON, written as relations between a comparison and what it binds. A
condition compiles exactly if its connectives are in order, every comparison obeys its rule, and
the bindings of all comparisons, taken from left to right, can follow those made before.
-/
namespace SchemaLoom
open Compiled

theorem Operator.parse_eq_ok {s : String} {op : Operator} : parse s = .ok op ↔ s = op.sql := by
  constructor
  · intro h
    unfold parse at h
    split at h <;> cases h <;> rfl
  · rintro rfl
    cases op <;> rfl

theorem Connective.exists_parse {s : String} :
    (∃ k, parse s = .ok k) ↔ s = "AND" ∨ s = "OR" := by
  constructor
  · rintro ⟨k, h⟩
    unfold parse at h
    split at h
    · exact .inl rfl
    · exact .inr rfl
    · cases h
  · rintro (rfl | rfl)
    · exact ⟨.and, rfl⟩
    · exact ⟨.or, rfl⟩

theorem SqlFunction.parse_ok {s : String} {f : SqlFunction} (h : parse s = .ok f) :
    s = "SCORE" := by
  unfold parse at h
  split at h
  · rfl
  · cases h

namespace Scope

/-- The scopes that grow from one table of the registry by adding others. -/
inductive Over (r : Registry) : Scope → Prop where
  | single {a : String} {t : Table} (ht : t ∈ r.tables) : Over r (.single a t)
  | add {s next : Scope} {a : String} {t : Table} (hs : Over r s) (ht : t ∈ r.tables)
      (h : s.add a t = .ok next) : Over r next

def aliasOf (s : Scope) (ref : ColumnRef) : String := ref.table.getD s.defaultAlias

/-- The alias is in scope, and its table has the column. -/
def HasColumn (s : Scope) (ref : ColumnRef) (c : Column) : Prop :=
  ∃ t, (s.aliasOf ref, t) ∈ s.entries ∧ c ∈ t.columns ∧ c.name = ref.name

/-- The alias is in scope, and its table declares the search column. -/
def HasSearchColumn (s : Scope) (ref : ColumnRef) : Prop :=
  ∃ t, (s.aliasOf ref, t) ∈ s.entries ∧ ∃ c ∈ t.searchColumns, c.name = ref.name

variable {r : Registry} {s : Scope}

theorem Over.aliases_nodup (h : s.Over r) : s.aliases.Nodup := by
  induction h with
  | single => simp [Scope.single, aliases]
  | add _ _ h ih =>
    obtain ⟨hfresh, rfl⟩ := add_ok h
    simpa [aliases] using List.Nodup.concat hfresh ih

theorem Over.registered (h : s.Over r) : ∀ e ∈ s.entries, e.2 ∈ r.tables := by
  induction h with
  | single ht => simpa [Scope.single] using ht
  | add _ ht h ih =>
    obtain ⟨-, rfl⟩ := add_ok h
    intro e he
    rcases List.mem_append.mp he with he | he
    · exact ih e he
    · rw [List.mem_singleton.mp he]
      exact ht

theorem Over.table_eq_ok (h : s.Over r) {ref : ColumnRef} {a : String} {t : Table} :
    s.table ref.table = .ok (a, t) ↔ a = s.aliasOf ref ∧ (s.aliasOf ref, t) ∈ s.entries := by
  rw [table, orError_eq_ok, find?_eq_some_of_nodup h.aliases_nodup]
  constructor
  · rintro ⟨hmem, ha⟩
    rw [aliasOf, ← ha]
    exact ⟨rfl, hmem⟩
  · rintro ⟨rfl, hmem⟩
    exact ⟨hmem, rfl⟩

theorem Over.column_eq_ok (h : s.Over r) (hr : r.Sound) {ref : ColumnRef} {a : String}
    {c : Column} :
    s.column ref = .ok (a, c) ↔ a = s.aliasOf ref ∧ s.HasColumn ref c := by
  simp only [column, bind_eq_ok, pure_eq_ok, Prod.exists, Prod.mk.injEq, h.table_eq_ok]
  constructor
  · rintro ⟨a', t, ⟨rfl, ht⟩, c', hc, rfl, rfl⟩
    rw [Table.column_eq_ok (hr.columnNames (h.registered _ ht))] at hc
    exact ⟨rfl, t, ht, hc⟩
  · rintro ⟨rfl, t, ht, hc⟩
    rw [← Table.column_eq_ok (hr.columnNames (h.registered _ ht))] at hc
    exact ⟨_, t, ⟨rfl, ht⟩, c, hc, rfl, rfl⟩

theorem Over.exists_searchColumn (h : s.Over r) {ref : ColumnRef} {a : String} :
    (∃ c, s.searchColumn ref = .ok (a, c)) ↔ a = s.aliasOf ref ∧ s.HasSearchColumn ref := by
  simp only [searchColumn, bind_eq_ok, pure_eq_ok, Prod.exists, Prod.mk.injEq, h.table_eq_ok,
    HasSearchColumn, ← Table.exists_searchColumn]
  constructor
  · rintro ⟨c, a', t, ⟨rfl, ht⟩, c', hc, rfl, rfl⟩
    exact ⟨rfl, t, ht, c', hc⟩
  · rintro ⟨rfl, t, ht, c, hc⟩
    exact ⟨c, _, t, ⟨rfl, ht⟩, c, hc, rfl, rfl⟩

end Scope

namespace Comparison

/-- The name that the parameter of a comparison gets: its own, or the generated one. -/
def boundName (scope : Scope) (c : Comparison) (suffix : String) : String :=
  c.paramName.getD (generatedName (scope.aliasOf c.left) c.left.name suffix)

/-- The rule of WHERE: a comparison that obeys it, with what it binds. -/
inductive WhereRule (scope : Scope) (c : Comparison) : List Param → Prop where
  | score {op : Operator} (hop : c.op = op.sql) (hright : c.right = none)
      (hfunc : c.func = some "SCORE") (hallowed : op ∈ [.eq, .gt, .ge, .lt, .le])
      (hleft : scope.HasSearchColumn c.left) :
      WhereRule scope c
        [⟨generatedName (scope.aliasOf c.left) c.left.name "ScoreQuery", .ofPrimitive .string⟩,
          ⟨c.boundName scope ("Score" ++ op.suffix), .ofPrimitive .float64⟩]
  | search (hop : c.op = "SEARCH") (hright : c.right = none) (hfunc : c.func = none)
      (hleft : scope.HasSearchColumn c.left) :
      WhereRule scope c [⟨c.boundName scope "Search", .ofPrimitive .string⟩]
  | null {left : Column} (hop : c.op = "IS NULL" ∨ c.op = "IS NOT NULL") (hright : c.right = none)
      (hfunc : c.func = none) (hleft : scope.HasColumn c.left left) (hnullable : left.type.nullable) :
      WhereRule scope c []
  | membership {left : Column} (hop : c.op = "IN") (hright : c.right = none)
      (hfunc : c.func = none) (hleft : scope.HasColumn c.left left)
      (harray : left.type.isArray = false) :
      WhereRule scope c [⟨c.boundName scope "In", left.type.arrayOfScalar⟩]
  | order {op : Operator} {left : Column} (hop : c.op = op.sql) (horder : op.isComparison)
      (hright : c.right = none) (hfunc : c.func = none) (hleft : scope.HasColumn c.left left)
      (harray : left.type.isArray = false) :
      WhereRule scope c [⟨c.boundName scope op.suffix, left.type.scalar⟩]

/-- The rule of ON: the left column is compared with a column of equal value type, or with a
parameter. -/
inductive OnRule (scope : Scope) (c : Comparison) : List Param → Prop where
  | pair {op : Operator} {left right : Column} {ref : ColumnRef} (hop : c.op = op.sql)
      (horder : op.isComparison) (hfunc : c.func = none) (hright : c.right = some ref)
      (hleft : scope.HasColumn c.left left) (hlarray : left.type.isArray = false)
      (href : scope.HasColumn ref right) (hrarray : right.type.isArray = false)
      (hsame : left.type.sameValue right.type) :
      OnRule scope c []
  | value {op : Operator} {left : Column} (hop : c.op = op.sql) (horder : op.isComparison)
      (hfunc : c.func = none) (hright : c.right = none) (hleft : scope.HasColumn c.left left)
      (hlarray : left.type.isArray = false) :
      OnRule scope c [⟨c.boundName scope op.suffix, left.type.scalar⟩]

variable {r : Registry} {scope : Scope} {c : Comparison} {bs : List Param}

theorem allows_iff {f : SqlFunction} {op : Operator} :
    f.allows op = true ↔ op ∈ [.eq, .gt, .ge, .lt, .le] := by
  cases f
  cases op <;> simp [SqlFunction.allows, Operator.isComparison]

theorem draftWhere_iff_rule (hscope : scope.Over r) (hr : r.Sound) :
    (∃ d, c.draftWhere scope = .ok d ∧ d.params = bs) ↔ WhereRule scope c bs := by
  simp only [draftWhere_eq_ok]
  constructor
  · rintro ⟨d, h, rfl⟩
    cases h with
    | @call _ _ f _ _ hop hright hfunc hparse hallows hs =>
      obtain ⟨rfl, hleft⟩ := hscope.exists_searchColumn.mp ⟨_, hs⟩
      rw [SqlFunction.parse_ok hparse] at hfunc
      cases f
      rw [(Scope.searchColumn_ok hs).2]
      exact .score (Operator.parse_eq_ok.mp hop) hright hfunc (allows_iff.mp hallows) hleft
    | search hop hright hfunc hs =>
      obtain ⟨rfl, hleft⟩ := hscope.exists_searchColumn.mp ⟨_, hs⟩
      rw [(Scope.searchColumn_ok hs).2]
      exact .search (Operator.parse_eq_ok.mp hop) hright hfunc hleft
    | null hop hright hfunc hnull hcol hnullable =>
      rw [Operator.parse_eq_ok] at hop
      refine .null ?_ hright hfunc ((hscope.column_eq_ok hr).mp hcol).2 hnullable
      rcases hnull with rfl | rfl
      · exact .inl hop
      · exact .inr hop
    | membership hop hright hfunc hcol harray =>
      obtain ⟨rfl, hname⟩ := Scope.column_ok hcol
      rw [hname]
      exact .membership (Operator.parse_eq_ok.mp hop) hright hfunc
        ((hscope.column_eq_ok hr).mp hcol).2 harray
    | order hop hright hfunc horder hcol harray =>
      obtain ⟨rfl, hname⟩ := Scope.column_ok hcol
      rw [hname]
      exact .order (Operator.parse_eq_ok.mp hop) horder hright hfunc
        ((hscope.column_eq_ok hr).mp hcol).2 harray
  · intro h
    cases h with
    | score hop hright hfunc hallowed hleft =>
      obtain ⟨s, hs⟩ := hscope.exists_searchColumn.mpr ⟨rfl, hleft⟩
      have hparse : SqlFunction.parse "SCORE" = .ok .score := rfl
      refine ⟨_, .call (Operator.parse_eq_ok.mpr hop) hright hfunc hparse (allows_iff.mpr hallowed)
        hs, ?_⟩
      rw [(Scope.searchColumn_ok hs).2]
      rfl
    | search hop hright hfunc hleft =>
      obtain ⟨s, hs⟩ := hscope.exists_searchColumn.mpr ⟨rfl, hleft⟩
      refine ⟨_, .search (Operator.parse_eq_ok.mpr hop) hright hfunc hs, ?_⟩
      rw [(Scope.searchColumn_ok hs).2]
      rfl
    | null hop hright hfunc hleft hnullable =>
      have hcol := (hscope.column_eq_ok hr).mpr ⟨rfl, hleft⟩
      rcases hop with hop | hop
      · have hop : Operator.parse c.op = .ok .isNull := Operator.parse_eq_ok.mpr hop
        exact ⟨_, .null hop hright hfunc (.inl rfl) hcol hnullable, rfl⟩
      · have hop : Operator.parse c.op = .ok .isNotNull := Operator.parse_eq_ok.mpr hop
        exact ⟨_, .null hop hright hfunc (.inr rfl) hcol hnullable, rfl⟩
    | membership hop hright hfunc hleft harray =>
      have hcol := (hscope.column_eq_ok hr).mpr ⟨rfl, hleft⟩
      refine ⟨_, .membership (Operator.parse_eq_ok.mpr hop) hright hfunc hcol harray, ?_⟩
      rw [(Scope.column_ok hcol).2]
      rfl
    | order hop horder hright hfunc hleft harray =>
      have hcol := (hscope.column_eq_ok hr).mpr ⟨rfl, hleft⟩
      refine ⟨_, .order (Operator.parse_eq_ok.mpr hop) hright hfunc horder hcol harray, ?_⟩
      rw [(Scope.column_ok hcol).2]
      rfl

theorem draftOn_iff_rule (hscope : scope.Over r) (hr : r.Sound) :
    (∃ d, c.draftOn scope = .ok d ∧ d.params = bs) ↔ OnRule scope c bs := by
  simp only [draftOn_eq_ok]
  constructor
  · rintro ⟨d, h, rfl⟩
    cases h with
    | pair hop horder hfunc hright hleft hlarray href hrarray hsame =>
      exact .pair (Operator.parse_eq_ok.mp hop) horder hfunc hright
        ((hscope.column_eq_ok hr).mp hleft).2 hlarray ((hscope.column_eq_ok hr).mp href).2 hrarray
        hsame
    | value hop horder hfunc hright hleft hlarray =>
      obtain ⟨rfl, hname⟩ := Scope.column_ok hleft
      rw [hname]
      exact .value (Operator.parse_eq_ok.mp hop) horder hfunc hright
        ((hscope.column_eq_ok hr).mp hleft).2 hlarray
  · intro h
    cases h with
    | pair hop horder hfunc hright hleft hlarray href hrarray hsame =>
      exact ⟨_, .pair (Operator.parse_eq_ok.mpr hop) horder hfunc hright
        ((hscope.column_eq_ok hr).mpr ⟨rfl, hleft⟩) hlarray
        ((hscope.column_eq_ok hr).mpr ⟨rfl, href⟩) hrarray hsame, rfl⟩
    | value hop horder hfunc hright hleft hlarray =>
      have hcol := (hscope.column_eq_ok hr).mpr ⟨rfl, hleft⟩
      refine ⟨_, .value (Operator.parse_eq_ok.mpr hop) horder hfunc hright hcol hlarray, ?_⟩
      rw [(Scope.column_ok hcol).2]
      rfl

end Comparison

namespace Condition

mutual
/-- Every connective is AND or OR and joins at least one part. -/
def Connected : Condition → Prop
  | .leaf _ => True
  | .concat op parts => (op = "AND" ∨ op = "OR") ∧ parts ≠ [] ∧ ConnectedParts parts

def ConnectedParts : List Condition → Prop
  | [] => True
  | c :: cs => c.Connected ∧ ConnectedParts cs
end

/-- Comparisons that all obey a rule, with what they bind from left to right. -/
inductive Obey (rule : Comparison → List Param → Prop) : List Comparison → List Param → Prop where
  | nil : Obey rule [] []
  | cons {c : Comparison} {cs : List Comparison} {bs bs' : List Param} (h : rule c bs)
      (hcs : Obey rule cs bs') : Obey rule (c :: cs) (bs ++ bs')

variable {rule : Comparison → List Param → Prop} {draft : Comparison → Compiled Draft}

theorem obey_singleton {c : Comparison} {bs : List Param} : Obey rule [c] bs ↔ rule c bs := by
  constructor
  · intro h
    cases h with
    | cons h hnil =>
      cases hnil
      simpa using h
  · intro h
    simpa using Obey.cons h .nil

theorem obey_append {cs cs' : List Comparison} {bs : List Param} :
    Obey rule (cs ++ cs') bs ↔ ∃ left right, Obey rule cs left ∧ Obey rule cs' right ∧
      bs = left ++ right := by
  constructor
  · intro h
    induction cs generalizing bs with
    | nil => exact ⟨[], bs, .nil, h, rfl⟩
    | cons c cs ih =>
      cases h with
      | cons hc hcs =>
        obtain ⟨left, right, hleft, hright, rfl⟩ := ih hcs
        exact ⟨_, right, .cons hc hleft, hright, by simp⟩
  · rintro ⟨left, right, hleft, hright, rfl⟩
    induction hleft with
    | nil => exact hright
    | cons hc _ ih =>
      rw [List.append_assoc]
      exact .cons hc ih

theorem Obey.unique (hrule : ∀ c bs bs', rule c bs → rule c bs' → bs = bs')
    {cs : List Comparison} {bs bs' : List Param} (h : Obey rule cs bs) (h' : Obey rule cs bs') :
    bs = bs' := by
  induction h generalizing bs' with
  | nil =>
    cases h'
    rfl
  | cons hc _ ih =>
    cases h' with
    | cons hc' hcs' => rw [hrule _ _ _ hc hc', ih hcs']

-- By induction on the tree. The state after the comparisons on the left is where those on the
-- right start, so the bindings of the parts add up to one run.
mutual
theorem compile_eq_ok (hrule : ∀ c bs, (∃ d, draft c = .ok d ∧ d.params = bs) ↔ rule c bs) :
    (c : Condition) → {ps next : Params} → ((∃ text, c.compile draft ps = .ok (text, next)) ↔
      c.Connected ∧ ∃ bs, Obey rule c.leaves bs ∧ ps.bindAll bs = .ok next)
  | .leaf c, ps, next => by
    simp only [compile, within_eq_ok, bind_eq_ok, Params.take_eq_ok, Connected, leaves,
      obey_singleton, true_and, ← hrule]
    constructor
    · rintro ⟨text, d, hd, rfl, hbind⟩
      exact ⟨d.params, ⟨d, hd, rfl⟩, hbind⟩
    · rintro ⟨bs, ⟨d, hd, rfl⟩, hbind⟩
      exact ⟨d.sql, d, hd, rfl, hbind⟩
  | .concat op parts, ps, next => by
    simp only [compile, bind_eq_ok, ensure_eq_ok, pure_eq_ok, Prod.exists, Prod.mk.injEq,
      Connected, leaves, ← Connective.exists_parse, Bool.not_eq_true', List.isEmpty_eq_false_iff,
      and_assoc, ← compileParts_eq_ok hrule parts]
    constructor
    · rintro ⟨text, k, hk, -, hparts, texts, ps', h, rfl, rfl⟩
      exact ⟨⟨k, hk⟩, hparts, texts, h⟩
    · rintro ⟨⟨k, hk⟩, hparts, texts, h⟩
      exact ⟨_, k, hk, (), hparts, texts, next, h, rfl, rfl⟩

theorem compileParts_eq_ok (hrule : ∀ c bs, (∃ d, draft c = .ok d ∧ d.params = bs) ↔ rule c bs) :
    (cs : List Condition) → {ps next : Params} →
      ((∃ texts, compileParts draft cs ps = .ok (texts, next)) ↔
        ConnectedParts cs ∧ ∃ bs, Obey rule (leavesOf cs) bs ∧ ps.bindAll bs = .ok next)
  | [], ps, next => by
    simp only [compileParts, ConnectedParts, leavesOf, true_and, Except.ok.injEq, Prod.mk.injEq]
    constructor
    · rintro ⟨texts, rfl, rfl⟩
      exact ⟨[], .nil, rfl⟩
    · rintro ⟨bs, hbs, hbind⟩
      cases hbs
      cases hbind
      exact ⟨[], rfl, rfl⟩
  | c :: cs, ps, next => by
    simp only [compileParts, bind_eq_ok, pure_eq_ok, Prod.exists, Prod.mk.injEq, ConnectedParts,
      leavesOf, obey_append]
    constructor
    · rintro ⟨texts, text, mid, hc, rest, next', hcs, rfl, rfl⟩
      obtain ⟨hconnected, bs, hbs, hbind⟩ := (compile_eq_ok hrule c).mp ⟨text, hc⟩
      obtain ⟨hconnected', bs', hbs', hbind'⟩ := (compileParts_eq_ok hrule cs).mp ⟨rest, hcs⟩
      exact ⟨⟨hconnected, hconnected'⟩, bs ++ bs', ⟨bs, bs', hbs, hbs', rfl⟩,
        Params.bindAll_append.mpr ⟨mid, hbind, hbind'⟩⟩
    · rintro ⟨⟨hconnected, hconnected'⟩, _, ⟨bs, bs', hbs, hbs', rfl⟩, hbind⟩
      obtain ⟨mid, hbind, hbind'⟩ := Params.bindAll_append.mp hbind
      obtain ⟨text, hc⟩ := (compile_eq_ok hrule c).mpr ⟨hconnected, bs, hbs, hbind⟩
      obtain ⟨rest, hcs⟩ := (compileParts_eq_ok hrule cs).mpr ⟨hconnected', bs', hbs', hbind'⟩
      exact ⟨_, text, mid, hc, rest, next, hcs, rfl, rfl⟩
end

end Condition

namespace Sample

def usersAndPosts : Registry := Registry.empty.attemptAll [(kinds, users), (kinds, posts)]

def joined : Scope := ⟨"u", ["u", "p"].zip usersAndPosts.tables⟩

/-- Posts that match a query, are of one kind or of none. -/
def matching : Condition :=
  .concat "AND" [
    .leaf { op := "SEARCH", left := ⟨"words", some "p"⟩ },
    .leaf { op := ">", left := ⟨"words", some "p"⟩, func := some "SCORE" },
    .concat "OR" [.leaf { op := "IS NULL", left := ⟨"kind", some "p"⟩ },
      .leaf { op := "=", left := ⟨"kind", some "p"⟩ }],
    .leaf { op := "IN", left := ⟨"id", none⟩, paramName := some "authors" }]

end Sample

end SchemaLoom
