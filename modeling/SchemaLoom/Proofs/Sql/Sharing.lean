import SchemaLoom.Ddl.Artifact
import SchemaLoom.Proofs.Sql.Agreement

/-!
# Which parameters are shared

Two binding sites share a parameter when their names are equal. A generated name is the stem of a
column, made by changing the case of its alias and of its own name, and an ending; no ending is the
end of another, so only sites with the same operator can meet. The stem forgets how a name was
spelt and where the alias stops, and an assignment has no alias at all: these are the collisions.
-/
namespace SchemaLoom
open Text

/-- What the generated names over a column begin with. -/
def stem (aliasName column : String) : String := lowerCamel aliasName ++ upperCamel column

namespace Site

/-- The name is not written in the definition. -/
def Generated : Site → Prop
  | .given _ => False
  | _ => True

instance : DecidablePred Generated := fun s => by
  cases s <;> unfold Generated <;> infer_instance

/-- Different sites whose generated names are equal, up to the order of the two. -/
inductive Collide : Site → Site → Prop
  /-- Assigned columns that are one name in two spellings. -/
  | assigned {c c' : String} (hne : c ≠ c') (h : upperCamel c = upperCamel c') :
    Collide (.assigned c) (.assigned c')
  /-- Columns of equal stem, compared by the same operator. -/
  | compared {a c a' c' : String} {op : Operator} {func : Option SqlFunction}
    (hne : (a, c) ≠ (a', c')) (h : stem a c = stem a' c') :
    Collide (.compared a c op func) (.compared a' c' op func)
  /-- A column whose stem reads like the score of a search column. -/
  | scored {a c a' c' : String} {op : Operator} (h : stem a c = stem a' c' ++ "Score") :
    Collide (.compared a c op none) (.compared a' c' op (some .score))
  /-- Search columns of equal stem. -/
  | query {a c a' c' : String} {func : SqlFunction}
    (hne : (a, c) ≠ (a', c')) (h : stem a c = stem a' c') :
    Collide (.query a c func) (.query a' c' func)
  /-- An assigned column whose parameter reads like that of a comparison. -/
  | assignedCompared {c a c' : String} {op : Operator} {func : Option SqlFunction}
    (h : UpdateDefinition.setParam c = (Site.compared a c' op func).name) :
    Collide (.assigned c) (.compared a c' op func)
  /-- An assigned column whose parameter reads like that of a query. -/
  | assignedQuery {c a c' : String} {func : SqlFunction}
    (h : UpdateDefinition.setParam c = (Site.query a c' func).name) :
    Collide (.assigned c) (.query a c' func)

theorem Collide.ne {s t : Site} (h : Collide s t) : s ≠ t := by
  cases h with
  | assigned hne _ => simpa using hne
  | compared hne _ => simpa using hne
  | query hne _ => simpa using hne
  | scored _ => simp
  | assignedCompared _ => simp
  | assignedQuery _ => simp

theorem Collide.name_eq {s t : Site} (h : Collide s t) : s.name = t.name := by
  cases h with
  | assigned _ h => exact congrArg ("set" ++ ·) h
  | @compared a c a' c' op func _ h =>
    match func with
    | none => exact congrArg (· ++ op.suffix) h
    | some .score => exact congrArg (· ++ ("Score" ++ op.suffix)) h
  | @scored a c a' c' op h =>
    calc stem a c ++ op.suffix = stem a' c' ++ "Score" ++ op.suffix := by rw [h]
      _ = stem a' c' ++ ("Score" ++ op.suffix) := String.append_assoc ..
  | @query a c a' c' func _ h =>
    cases func
    exact congrArg (· ++ "ScoreQuery") h
  | assignedCompared h => exact h
  | assignedQuery h => exact h

inductive Ending where
  | operator (op : Operator)
  | query
  | limit
  | offset
deriving DecidableEq

def Ending.text : Ending → String
  | .operator op => op.suffix
  | .query => "Query"
  | .limit => "limit"
  | .offset => "offset"

def Ending.all : List Ending :=
  [.eq, .ne, .gt, .ge, .lt, .le, .isNull, .isNotNull, .isIn, .search].map Ending.operator
    ++ [.query, .limit, .offset]

theorem Ending.mem_all (e : Ending) : e ∈ all := by
  cases e with
  | operator op => cases op <;> decide
  | _ => decide

/-- No ending is the end of another, so a name has at most one way to end. -/
theorem append_ending {x y : String} {e e' : Ending} (h : x ++ e.text = y ++ e'.text) :
    x = y ∧ e = e' := by
  have hfree : ∀ e ∈ Ending.all, ∀ e' ∈ Ending.all, e.text.toList <:+ e'.text.toList → e = e' := by
    decide
  have hx : e.text.toList <:+ (x ++ e.text).toList := ⟨x.toList, by simp⟩
  have hy : e'.text.toList <:+ (x ++ e.text).toList := ⟨y.toList, by simp [h]⟩
  obtain rfl : e = e' := by
    rcases List.suffix_or_suffix_of_suffix hx hy with hs | hs
    · exact hfree e e.mem_all e' e'.mem_all hs
    · exact (hfree e' e'.mem_all e e.mem_all hs).symm
  exact ⟨(String.append_left_inj e.text).mp h, rfl⟩

def ending : Site → Option Ending
  | .compared _ _ op _ => some (.operator op)
  | .query _ _ _ => some .query
  | .limit => some .limit
  | .offset => some .offset
  | .given _ | .assigned _ => none

/-- What stands before the end of the name. -/
def body : Site → String
  | .compared a c _ none => stem a c
  | .compared a c _ (some .score) | .query a c .score => stem a c ++ "Score"
  | _ => ""

theorem name_eq_body_append {s : Site} {e : Ending} (h : s.ending = some e) :
    s.name = s.body ++ e.text := by
  match s with
  | .given _ | .assigned _ => cases h
  | .compared a c op none =>
    cases h
    rfl
  | .compared a c op (some .score) =>
    cases h
    exact String.append_assoc.symm
  | .query a c .score =>
    cases h
    exact (@String.append_assoc (stem a c) "Score" "Query").symm
  | .limit | .offset =>
    cases h
    rfl

/-- Sites with the same end and the same text before it. -/
theorem eq_or_collide_of_body {s t : Site} {e : Ending} (hs : s.ending = some e)
    (ht : t.ending = some e) (hbody : s.body = t.body) : s = t ∨ Collide s t ∨ Collide t s := by
  cases s with
  | given _ => cases hs
  | assigned _ => cases hs
  | limit =>
    cases hs
    cases t <;> cases ht
    exact .inl rfl
  | offset =>
    cases hs
    cases t <;> cases ht
    exact .inl rfl
  | query a c f =>
    cases hs
    cases t with
    | query a' c' f' =>
      cases f
      cases f'
      have hstem : stem a c = stem a' c' := (String.append_left_inj _).mp hbody
      by_cases hne : (a, c) = (a', c')
      · simp_all
      · exact .inr (.inl (.query hne hstem))
    | _ => cases ht
  | compared a c op f =>
    cases hs
    cases t with
    | compared a' c' op' f' =>
      cases ht
      by_cases hne : (a, c, f) = (a', c', f')
      · simp_all
      match f, f' with
      | none, none =>
        exact .inr (.inl (.compared (by simpa using hne) hbody))
      | some .score, some .score =>
        have hstem : stem a c = stem a' c' := (String.append_left_inj _).mp hbody
        exact .inr (.inl (.compared (by simpa using hne) hstem))
      | none, some .score => exact .inr (.inl (.scored hbody))
      | some .score, none => exact .inr (.inr (.scored hbody.symm))
    | _ => cases ht

/-- The parameter of an assignment begins with lowercase letters that no paging parameter has. -/
theorem eq_or_collide_of_assigned {c : String} {t : Site} (ht : t.Generated)
    (h : (Site.assigned c).name = t.name) : .assigned c = t ∨ Collide (.assigned c) t := by
  have hset : ("set".toList <+: (Site.assigned c).name.toList) := by
    exact ⟨(upperCamel c).toList, (String.toList_append).symm⟩
  cases t with
  | given _ => exact ht.elim
  | assigned c' =>
    by_cases hne : c = c'
    · exact .inl (hne ▸ rfl)
    · exact .inr (.assigned hne ((String.append_right_inj "set").mp h))
  | compared a c' op func => exact .inr (.assignedCompared h)
  | query a c' func => exact .inr (.assignedQuery h)
  | limit => exact absurd (h ▸ hset) (by decide)
  | offset => exact absurd (h ▸ hset) (by decide)

theorem ending_of_generated {s : Site} (h : s.Generated) :
    (∃ c, s = .assigned c) ∨ ∃ e, s.ending = some e := by
  cases s with
  | given _ => exact h.elim
  | assigned c => exact .inl ⟨c, rfl⟩
  | _ => exact .inr ⟨_, rfl⟩

/-- Generated names are equal only at the same site or where two sites collide. -/
theorem name_eq_iff {s t : Site} (hs : s.Generated) (ht : t.Generated) :
    s.name = t.name ↔ s = t ∨ Collide s t ∨ Collide t s := by
  constructor
  · intro h
    rcases ending_of_generated hs with ⟨c, rfl⟩ | ⟨e, he⟩
    · exact (eq_or_collide_of_assigned ht h).imp_right .inl
    · rcases ending_of_generated ht with ⟨c, rfl⟩ | ⟨e', he'⟩
      · exact (eq_or_collide_of_assigned hs h.symm).imp Eq.symm .inr
      · rw [name_eq_body_append he, name_eq_body_append he'] at h
        obtain ⟨hbody, rfl⟩ := append_ending h
        exact eq_or_collide_of_body he he' hbody
  · rintro (rfl | h | h)
    · rfl
    · exact h.name_eq
    · exact h.name_eq.symm

theorem Collide.generated {s t : Site} (h : Collide s t) : s.Generated ∧ t.Generated := by
  cases h <;> exact ⟨trivial, trivial⟩

end Site

theorem UpdateDefinition.valueColumns_nodup {r : Registry} {d : UpdateDefinition} {s : Statement}
    (h : d.compile r = .ok s) : (r.valueColumns d.table d.setColumns).Nodup := by
  obtain ⟨-, -, -, _, t, cols, _, _, _, _, _, _, hcols, -⟩ := compile_eq_ok.mp h
  exact (settableColumns_ok hcols).2.filter _

/-- The parameters of a compiled statement are the names of its sites, and an update assigns a
column once. Sites of generated name share a parameter only with themselves exactly if no two of
them collide. -/
theorem generated_params_unshared_iff (r : Registry) (d : StatementDefinition) (s : Statement)
    (h : d.compile r = .ok s) :
    s.params.map (·.name) = (Site.names (d.sites r)).eraseDups ∧
      (∀ u, d = .update u → (r.valueColumns u.table u.setColumns).Nodup) ∧
      ((∀ a ∈ d.sites r, ∀ b ∈ d.sites r, a.Generated → b.Generated → a.name = b.name → a = b) ↔
        ∀ a ∈ d.sites r, ∀ b ∈ d.sites r, ¬a.Collide b) := by
  refine ⟨StatementDefinition.params_names h, ?_, ?_, ?_⟩
  · rintro u rfl
    exact UpdateDefinition.valueColumns_nodup h
  · intro hown a ha b hb hc
    obtain ⟨hga, hgb⟩ := hc.generated
    exact hc.ne (hown a ha b hb hga hgb hc.name_eq)
  · intro hfree a ha b hb hga hgb hname
    rcases (Site.name_eq_iff hga hgb).mp hname with heq | hc | hc
    · exact heq
    · exact absurd hc (hfree a ha b hb)
    · exact absurd hc (hfree b hb a ha)

namespace Sample

def accounts : TableDefinition where
  name := "accounts"
  columns := [⟨"id", "string", false, false, none, false⟩,
    ⟨"user_id", "string", false, false, none, false⟩,
    ⟨"userId", "string", false, false, none, false⟩]
  primaryKeys := [.bare "id"]

def rename : UpdateDefinition where
  name := "rename"
  table := "accounts"
  setColumns := ["user_id", "userId"]
  condition := some (.leaf { op := "=", left := ⟨"id", none⟩ })

end Sample

/-- Both columns of an update are written from one parameter. -/
theorem generated_params_unshared_iff_rename :
    ∃ ddl r s, Registry.declare (.ofDefinitions []) .empty Sample.accounts = .ok (ddl, r) ∧
      (StatementDefinition.update Sample.rename).compile r = .ok s ∧
      s.sql = "UPDATE accounts SET user_id = @setUserId, userId = @setUserId "
        ++ "WHERE accounts.id = @accountsIdEq" ∧
      s.params.map (·.name) = ["setUserId", "accountsIdEq"] ∧
      ¬∀ a ∈ (StatementDefinition.update Sample.rename).sites r,
        ∀ b ∈ (StatementDefinition.update Sample.rename).sites r,
          a.Generated → b.Generated → a.name = b.name → a = b := by
  refine ⟨_, _, _, rfl, rfl, by decide, by decide, ?_⟩
  rw [(generated_params_unshared_iff _ (.update Sample.rename) _ rfl).2.2]
  intro hfree
  exact hfree (.assigned "user_id") (by decide) (.assigned "userId") (by decide)
    (.assigned (by decide) (by decide))

end SchemaLoom
