import SchemaLoom.Proofs.Blocks
import SchemaLoom.Proofs.Sql.Agreement

/-!
# Parameters as SQL reads them

The identifier check looks at the snake-case form of a parameter, while the SQL text holds the name
as it is. The two agree on names of letters, digits and underscores: such a name does not begin
with a digit, since its snake-case form would. All other characters may be dropped on the way to
snake case, so a name that holds one can pass the check and still not be read as one placeholder.
-/
namespace SchemaLoom

namespace Text

theorem runs_ne_nil (cs : List Char) : runs cs ≠ [] := by
  fun_cases runs cs <;> simp

/-- A run that has begun goes on with its first word. -/
theorem cutRun_starts {k : LetterCase} {word cs : List Char} (hword : word ≠ []) (hcs : cs ≠ []) :
    ∃ w ws, cutRun k word cs = w :: ws ∧ word.reverse <+: w := by
  fun_induction cutRun k word cs with
  | case1 => exact absurd rfl hcs
  | case2 k word c => exact ⟨_, _, rfl, by simp⟩
  | case3 k word c d rest h ih => exact ⟨_, _, rfl, by simp⟩
  | case4 k word c d rest h h' ih => exact ⟨_, _, rfl, List.prefix_rfl⟩
  | case5 k word c d rest h h' ih =>
    obtain ⟨w, ws, hcut, hw⟩ := ih (by simp) (by simp)
    have hstart : word.reverse <+: (c :: word).reverse := by simp
    exact ⟨w, ws, hcut, hstart.trans hw⟩

theorem cutRun_uncased_starts (c : Char) (cs : List Char) :
    ∃ w ws, cutRun .uncased [] (c :: cs) = (c :: w) :: ws := by
  cases cs with
  | nil => exact ⟨[], [], rfl⟩
  | cons d cs =>
    by_cases hcut : LetterCase.uncased.next c = .small ∧ isCapital d
    · exact ⟨[], _, by rw [cutRun, if_pos hcut]; rfl⟩
    · obtain ⟨w, ws, hw, rest, rfl⟩ := cutRun_starts (k := LetterCase.uncased.next c)
        (List.cons_ne_nil c []) (List.cons_ne_nil d cs)
      exact ⟨rest, ws, by rw [cutRun, if_neg hcut, if_neg (by simp), hw]; rfl⟩

/-- The first word of a name begins with the first character, if that belongs to a word. -/
theorem words_starts {name : String} {c : Char} {cs : List Char} (hname : name.toList = c :: cs)
    (hc : isWordChar c) : ∃ w ws, words name = (c :: w) :: ws := by
  obtain ⟨r, rs, hruns⟩ := List.exists_cons_of_ne_nil (runs_ne_nil cs)
  obtain ⟨w, ws, hw⟩ := cutRun_uncased_starts c r
  refine ⟨w, ws ++ rs.flatMap (cutRun .uncased []), ?_⟩
  simp [words, hname, runs, hruns, hc, hw]

theorem isShort_of_isAlphanum {c : Char} (h : c.isAlphanum) : isShort c :=
  isShort_of_isNameChar (by simp [isNameChar, h])

theorem head?_smallWord {c : Char} (hc : c.isAlphanum) (w : List Char) :
    (smallWord (c :: w)).head? = some c.toLower := by
  have hsmall : toSmall c = [c.toLower] := if_pos (isShort_of_isAlphanum hc)
  cases w with
  | nil =>
    have hne : c ≠ 'Σ' := by
      rintro rfl
      exact absurd hc (by decide)
    simp [smallWord, hne, hsmall]
  | cons d w => simp [smallWord, hsmall]

theorem head?_snakeCase_of_words {name : String} {c : Char} {w : List Char} {ws : List (List Char)}
    (hwords : words name = (c :: w) :: ws) (hc : c.isAlphanum) :
    (snakeCase name).toList.head? = some c.toLower := by
  have hhead := head?_smallWord hc w
  rw [snakeCase, hwords, List.map_cons]
  cases ws with
  | nil => simpa using hhead
  | cons v ws => simp [String.intercalate_cons_cons, hhead]

/-- In snake case a letter or digit at the start stays there, in its small form. -/
theorem head?_snakeCase {name : String} {c : Char} {cs : List Char}
    (hname : name.toList = c :: cs) (hc : c.isAlphanum) :
    (snakeCase name).toList.head? = some c.toLower := by
  have hword : isWordChar c := by simp [isWordChar, isShort_of_isAlphanum hc, hc]
  obtain ⟨w, ws, hwords⟩ := words_starts hname hword
  exact head?_snakeCase_of_words hwords hc

end Text

namespace Code
open Text

theorem isIdentStart_of_toLower {c : Char} (hc : c.isAlphanum) (h : isIdentStart c.toLower) :
    isIdentStart c :=
  forall_short (P := fun c => c.isAlphanum → isIdentStart c.toLower → isIdentStart c) (by decide)
    (isShort_of_isAlphanum hc) hc h

theorem isIdentStart_of_head? {text : String} {c : Char} (h : isIdent text)
    (hc : text.toList.head? = some c) : isIdentStart c := by
  unfold isIdent at h
  split at h
  · cases h
  · rename_i d ds htext
    rw [htext, List.head?_cons, Option.some.injEq] at hc
    rw [Bool.and_eq_true] at h
    exact hc ▸ h.1

/-- A name of letters, digits and underscores is an identifier if its snake-case form is. -/
theorem isIdent_of_isName {name : String} (h : IsName name) (hsnake : isIdent (snakeCase name)) :
    isIdent name := by
  unfold isIdent
  cases hname : name.toList with
  | nil =>
    rw [String.toList_eq_nil_iff.mp hname] at hsnake
    exact absurd hsnake (by decide)
  | cons c cs =>
    have hchars : ∀ d ∈ c :: cs, isNameChar d := hname ▸ h
    have hstart : isIdentStart c := by
      have hc := hchars c List.mem_cons_self
      rw [isNameChar, Bool.or_eq_true] at hc
      rcases hc with hc | hc
      · exact isIdentStart_of_toLower hc
          (isIdentStart_of_head? hsnake (head?_snakeCase hname hc))
      · simp [isIdentStart, hc]
    simp only [hstart, Bool.true_and, List.all_eq_true]
    exact hchars

end Code

section
open Text

theorem isName_of_mem_placeholders {sql n : String} (h : n ∈ placeholders sql) : IsName n := by
  obtain ⟨run, hrun, rfl⟩ := List.mem_map.mp h
  unfold IsName
  rw [String.toList_ofList]
  generalize sql.toList = cs at hrun
  induction cs with
  | nil => simp [scanNames] at hrun
  | cons c cs ih =>
    unfold scanNames at hrun
    split at hrun
    · rcases List.mem_cons.mp hrun with rfl | hrun
      · exact List.all_eq_true.mp List.all_takeWhile
      · exact ih hrun
    · exact ih hrun

/-- A placeholder is read back with its whole name exactly if the name is plain. -/
theorem placeholders_placeholder_iff {name : String} :
    placeholders (placeholder name) = [name] ↔ IsName name := by
  constructor
  · intro h
    have hmem : name ∈ placeholders (placeholder name) := by simp [h]
    exact isName_of_mem_placeholders hmem
  · exact placeholders_placeholder

/-- Where all names a statement mentions are plain, so are those of its parameters. -/
theorem StatementDefinition.isName_params {r : Registry} {q : StatementDefinition} {s : Statement}
    (hplain : ∀ n ∈ q.mentioned r, IsName n) (h : q.compile r = .ok s) :
    ∀ p ∈ s.params, IsName p.name := by
  intro p hp
  have hmem : p.name ∈ s.params.map (·.name) := List.mem_map_of_mem hp
  rw [params_names h, List.mem_eraseDups, ← (placeholders_perm hplain h).mem_iff] at hmem
  exact isName_of_mem_placeholders hmem

/-- The parameters of a pass have usable snake-case forms. Such a parameter is an identifier itself
exactly if it has no other characters than letters, digits and underscores, and exactly then its
placeholder is read as one of that name; so it is wherever all names of the statement are plain. -/
theorem parameter_wellFormed_iff (catalog : Catalog) (d : DatabaseDefinition) (g : Generated)
    (h : d.generateWith catalog = .ok g) (s : Statement) (hs : s ∈ g.statements) (p : Param)
    (hp : p ∈ s.params) :
    Code.Usable p.name ∧ (Code.isIdent p.name ↔ IsName p.name) ∧
    (Code.isIdent p.name ↔ placeholders (placeholder p.name) = [p.name]) ∧
    ∀ (r : Registry) (q : StatementDefinition), q.compile r = .ok s →
      (∀ n ∈ q.mentioned r, IsName n) → Code.isIdent p.name := by
  obtain ⟨-, _, _, -, -, -, -, haccepted⟩ := DatabaseDefinition.generateWith_eq_ok.mp h
  have husable : Code.Usable p.name := (haccepted.parts s hs).params p hp
  have hiff : Code.isIdent p.name ↔ IsName p.name :=
    ⟨Code.isIdentRest_of_isIdent, fun hname => Code.isIdent_of_isName hname husable.1⟩
  refine ⟨husable, hiff, hiff.trans placeholders_placeholder_iff.symm, ?_⟩
  intro r q hq hplain
  exact hiff.mpr (q.isName_params hplain hq p hp)

namespace Sample

/-- A select with a parameter whose given name has a space in it. -/
def prices : DatabaseDefinition where
  name := "prices"
  tables := [
    { name := "items"
      columns := [⟨"id", "string", false, false, none, false⟩,
        ⟨"price", "int64", false, false, none, false⟩]
      primaryKeys := [.bare "id"] }]
  selects := [
    { name := "listItems"
      fromTable := "items"
      condition := some
        (.leaf { op := ">=", left := ⟨"price", none⟩, paramName := some "min price" })
      limit := true
      getColumns := [.all none] }]

theorem prices_params : ∃ g s, prices.generate = .ok g ∧ s ∈ g.statements ∧
    s.params.map (·.name) = ["min price", "limit"] := by
  have hprices : (fun g => g.statements.map fun s => s.params.map (·.name)) <$> prices.generate
      = .ok [["min price", "limit"]] := by decide +kernel
  obtain ⟨g, hg, hstatements⟩ := Compiled.map_eq_ok.mp hprices
  obtain ⟨s, hs, hparams⟩ := List.map_eq_singleton_iff.mp hstatements
  exact ⟨g, s, hg, by simp [hs], hparams⟩

end Sample

/-- The name with the space is accepted, but its placeholder is read as a shorter one. -/
theorem spaced_parameter_accepted : ∃ g s p, Sample.prices.generate = .ok g ∧
    s ∈ g.statements ∧ p ∈ s.params ∧ Code.isIdent p.name = false ∧
    placeholders (placeholder p.name) = ["min"] := by
  obtain ⟨g, s, hg, hs, hparams⟩ := Sample.prices_params
  obtain ⟨p, hp, hname⟩ := List.mem_map.mp (hparams ▸ List.mem_cons_self)
  refine ⟨g, s, p, hg, hs, hp, ?_⟩
  rw [hname]
  decide

/-- Its other parameter is read as it is written. -/
theorem parameter_wellFormed_iff_prices : ∃ g s p, Sample.prices.generate = .ok g ∧
    s ∈ g.statements ∧ p ∈ s.params ∧ p.name = "limit" ∧ Code.isIdent p.name ∧
    placeholders (placeholder p.name) = [p.name] := by
  obtain ⟨g, s, hg, hs, hparams⟩ := Sample.prices_params
  obtain ⟨p, hp, hname⟩ := List.mem_map.mp
    (hparams ▸ List.mem_cons_of_mem _ List.mem_cons_self)
  obtain ⟨-, hiff, hread, -⟩ := parameter_wellFormed_iff _ _ _ hg s hs p hp
  have hident : Code.isIdent p.name := by
    rw [hiff, hname]
    decide
  exact ⟨g, s, p, hg, hs, hp, hname, hident, hread.mp hident⟩

end

end SchemaLoom
