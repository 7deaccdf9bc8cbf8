import SchemaLoom.Proofs.Sql.Acceptance
import SchemaLoom.Proofs.Text.Legible

/-!
# Nesting of conditions

The text of a condition shows its tree. A reader that counts parentheses finds the end of a part:
it is the first place outside all parentheses where a separator or a closing parenthesis stands.
Comparisons have parentheses, commas and spaces of their own, but their parentheses are in pairs,
and no space of theirs begins a separator as long as all names are plain. So the text of a part
ends where the reader stops, and a text is taken apart in only one way.
-/
namespace SchemaLoom
open Compiled Text

def joins (cs : List Char) : Bool :=
  Connective.and.separator.toList.isPrefixOf cs || Connective.or.separator.toList.isPrefixOf cs

/-- What is left of a text behind a part, read with so many parentheses open. -/
def behind : Nat → List Char → List Char
  | _, [] => []
  | depth, c :: cs =>
    if depth = 0 ∧ (joins (c :: cs) ∨ c = ')') then c :: cs
    else if c = '(' then behind (depth + 1) cs
    else if c = ')' then behind (depth - 1) cs
    else behind depth cs

/-- A reader who comes to the text at depth `d` goes over it and is at depth `e` behind it. -/
def Passes (d e : Nat) (s : String) : Prop :=
  ∀ rest, behind d (s.toList ++ rest) = behind e rest

/-- A reader outside all parentheses stops at once. -/
def Halts (s : String) : Prop := behind 0 s.toList = s.toList

instance (s : String) : Decidable (Halts s) :=
  inferInstanceAs (Decidable (behind 0 s.toList = s.toList))

/-- The end of a part is where the reader stops. -/
theorem legible_passes : Legible Halts id id (Passes 0 0) := by
  intro s t hs ht x y hx hy h
  have hlists : s.toList ++ x.toList = t.toList ++ y.toList := by
    rw [← String.toList_append, ← String.toList_append]
    exact congrArg String.toList h
  have hrest : x = y := by
    rw [← String.toList_inj]
    calc
      x.toList = behind 0 (s.toList ++ x.toList) := by rw [hs, hx]
      _ = behind 0 (t.toList ++ y.toList) := by rw [hlists]
      _ = y.toList := by rw [ht, hy]
  subst hrest
  exact ⟨(String.append_left_inj x).mp h, rfl⟩

section Pieces

variable {d e f : Nat} {s t : String}

theorem Passes.append (hs : Passes d e s) (ht : Passes e f t) : Passes d f (s ++ t) := by
  intro rest
  rw [String.toList_append, List.append_assoc, hs, ht]

theorem passes_intercalate {sep : String} (hsep : Passes d d sep) {texts : List String}
    (h : ∀ t ∈ texts, Passes d d t) : Passes d d (sep.intercalate texts) := by
  induction texts with
  | nil => exact fun rest => rfl
  | cons t ts ih =>
    cases ts with
    | nil => simpa using h
    | cons u us =>
      rw [String.intercalate_cons_cons]
      exact ((h t List.mem_cons_self).append hsep).append
        (ih fun v hv => h v (List.mem_cons_of_mem _ hv))

/-- A parenthesis of a node, of a function or of a list of values is opened. -/
theorem passes_open (h : s ∈ ["(", "SCORE(", "SEARCH(", " IN UNNEST("]) : Passes d (d + 1) s := by
  intro rest
  simp only [List.mem_cons, List.not_mem_nil, or_false] at h
  rcases h with rfl | rfl | rfl | rfl <;>
    simp [behind, joins, Connective.separator, List.isPrefixOf]

theorem passes_close : Passes (d + 1) d ")" := by
  intro rest
  simp [behind]

/-- Inside parentheses a separator is like any other text. -/
theorem passes_separator (k : Connective) : Passes (d + 1) (d + 1) k.separator := by
  intro rest
  cases k <;> simp [behind, Connective.separator]

theorem behind_cons_of_plain {c : Char} {cs : List Char} (hspace : c ≠ ' ') (hopen : c ≠ '(')
    (hclose : c ≠ ')') : behind d (c :: cs) = behind d cs := by
  have hjoins : joins (c :: cs) = false := by
    simp [joins, Connective.separator, List.isPrefixOf, Ne.symm hspace]
  simp [behind, hjoins, hopen, hclose]

theorem passes_name (h : IsName s) : Passes d d s := by
  intro rest
  unfold IsName at h
  generalize s.toList = cs at h
  induction cs with
  | nil => rfl
  | cons c cs ih =>
    have hc : isNameChar c := h c List.mem_cons_self
    have hne {x : Char} (hx : isNameChar x = false) : c ≠ x := by
      rintro rfl
      exact Bool.eq_false_iff.mp hx hc
    rw [List.cons_append,
      behind_cons_of_plain (hne (by decide)) (hne (by decide)) (hne (by decide)),
      ih fun x hx => h x (List.mem_cons_of_mem _ hx)]

theorem passes_qualified (hs : IsName s) (ht : IsName t) : Passes d d (s ++ "." ++ t) := by
  have hdot : Passes d d "." := fun rest => by simp [behind_cons_of_plain]
  exact ((passes_name hs).append hdot).append (passes_name ht)

theorem passes_placeholder (h : IsName s) : Passes d d (placeholder s) := by
  have hmark : Passes d d "@" := fun rest => by simp [behind_cons_of_plain]
  exact hmark.append (passes_name h)

/-- A space that a placeholder follows begins no separator. -/
theorem passes_value {sep : String} (hsep : sep = " " ∨ sep = ", ") (h : IsName s) :
    Passes d d (sep ++ placeholder s) := by
  intro rest
  have hspace (cs : List Char) : behind d (sep.toList ++ '@' :: cs) = behind d ('@' :: cs) := by
    rcases hsep with rfl | rfl <;>
      simp [behind, joins, Connective.separator, List.isPrefixOf]
  rw [← passes_placeholder h rest]
  simpa [placeholder] using hspace (s.toList ++ rest)

theorem passes_operator (op : Operator) : Passes d d (" " ++ op.sql) := by
  intro rest
  cases op <;> simp [behind, joins, Connective.separator, List.isPrefixOf, Operator.sql]

theorem passes_compared (op : Operator) (h : IsName s) :
    Passes d d (" " ++ op.sql ++ (" " ++ placeholder s)) :=
  (passes_operator op).append (passes_value (.inl rfl) h)

/-- A connective ends with a space, the name of an alias with a dot. -/
theorem not_joins_alias (hs : IsName s) (rest : List Char) :
    joins (' ' :: (s.toList ++ '.' :: rest)) = false := by
  have hword {w : String} (hw : IsName w) :
      (' ' :: (w.toList ++ [' '])).isPrefixOf (' ' :: (s.toList ++ '.' :: rest)) = false := by
    rw [← Bool.not_eq_true, List.isPrefixOf_iff_prefix, List.cons_prefix_cons]
    rintro ⟨-, cs, hcs⟩
    have htexts : w ++ String.ofList (' ' :: cs) = s ++ String.ofList ('.' :: rest) := by
      rw [← String.toList_inj]
      simpa using hcs
    have hrest := (hw.append_inj hs (by simp [Stops]; decide) (by simp [Stops]; decide) htexts).2
    exact absurd (congrArg String.toList hrest) (by simp)
  have hand : IsName "AND" := by decide
  have hor : IsName "OR" := by decide
  exact Bool.or_eq_false_iff.mpr ⟨hword hand, hword hor⟩

theorem passes_reference (hs : IsName s) (ht : IsName t) :
    Passes d d (" " ++ (s ++ "." ++ t)) := by
  intro rest
  have hjoins := not_joins_alias hs (t.toList ++ rest)
  rw [← passes_qualified hs ht rest]
  simp only [String.toList_append, List.append_assoc]
  simp [behind, hjoins]

/-- A call with a search column and a query text as its arguments. -/
theorem passes_call {opening n : String} (hopening : Passes d (d + 1) opening) (hs : IsName s)
    (ht : IsName t) (hn : IsName n) :
    Passes d d (opening ++ s ++ "." ++ t ++ ", " ++ placeholder n ++ ")") := by
  have h := hopening.append (((passes_qualified hs ht).append (passes_value (.inr rfl) hn)).append
    passes_close)
  simpa only [String.append_assoc] using h

end Pieces

namespace Connective

theorem halts_separator (k : Connective) (rest : String) : Halts (k.separator ++ rest) := by
  cases k <;> simp [Halts, behind, joins, separator, List.isPrefixOf]

theorem separator_append_ne_close (k : Connective) (rest : String) :
    k.separator ++ rest ≠ ")" := by
  intro h
  replace h := congrArg String.toList h
  cases k <;> simp [separator] at h

theorem separator_inj {k k' : Connective} (h : k.separator = k'.separator) : k = k' := by
  cases k <;> cases k' <;> first | rfl | exact absurd h (by decide)

theorem separator_append_inj {k k' : Connective} {x y : String}
    (h : k.separator ++ x = k'.separator ++ y) : k.separator = k'.separator := by
  have hfree : PrefixFree [Connective.and.separator, Connective.or.separator] := by decide
  refine (hfree.append_inj ?_ ?_ h).1
  · cases k <;> simp
  · cases k' <;> simp

theorem parse_inj {s s' : String} {k k' : Connective} (h : parse s = .ok k)
    (h' : parse s' = .ok k') : k = k' ↔ s = s' := by
  unfold parse at h h'
  split at h <;> cases h <;> split at h' <;> cases h' <;> decide

/-- A nested text shows the texts of its parts, and its connective where it is written. -/
theorem nested_inj {k k' : Connective} {texts texts' : List String} (hne : texts ≠ [])
    (hne' : texts' ≠ []) (h : ∀ t ∈ texts, Passes 0 0 t) (h' : ∀ t ∈ texts', Passes 0 0 t) :
    "(" ++ k.separator.intercalate texts ++ ")" = "(" ++ k'.separator.intercalate texts' ++ ")" ↔
      (1 < texts.length → k = k') ∧ texts = texts' := by
  constructor
  · intro heq
    rw [String.append_assoc, String.append_assoc, String.append_right_inj] at heq
    have hclose : Halts ")" := by decide
    obtain ⟨htexts, -, hsep⟩ := legible_passes.intercalate k.halts_separator k'.halts_separator
      (fun _ _ => separator_append_inj) h h' hne hne' hclose hclose
      k'.separator_append_ne_close k.separator_append_ne_close (by simpa using heq)
    exact ⟨fun hlong => separator_inj (hsep hlong), by simpa using htexts⟩
  · rintro ⟨hk, rfl⟩
    by_cases hlong : 1 < texts.length
    · rw [hk hlong]
    · have hpos := List.length_pos_of_ne_nil hne
      obtain ⟨t, rfl⟩ := List.length_eq_one_iff.mp (by omega : texts.length = 1)
      simp

end Connective

/-- A text that a reader passes at every depth and that does not begin like a nested condition. -/
structure LeafText (s : String) : Prop where
  passes : ∀ d, Passes d d s
  bare : s.toList.head? ≠ some '('

/-- A text that begins with a column. -/
theorem LeafText.ofColumn {a c rest : String} (ha : IsName a) (hc : IsName c)
    (hrest : ∀ d, Passes d d rest) : LeafText (a ++ "." ++ c ++ rest) where
  passes d := (passes_qualified ha hc).append (hrest d)
  bare := by
    cases hl : a.toList with
    | nil => simp [hl]
    | cons x xs =>
      have hx : isNameChar x := ha x (by simp [hl])
      have hne : x ≠ '(' := by
        rintro rfl
        exact absurd hx (by decide)
      simpa [hl] using hne

/-- The names that tables bring into the scope are plain. -/
def Scope.Plain (scope : Scope) : Prop :=
  ∀ e ∈ scope.entries, IsName e.1 ∧ (∀ c ∈ e.2.columns, IsName c.name) ∧
    ∀ c ∈ e.2.searchColumns, IsName c.name

instance (scope : Scope) : Decidable scope.Plain :=
  inferInstanceAs (Decidable (∀ e ∈ scope.entries, IsName e.1 ∧
    (∀ c ∈ e.2.columns, IsName c.name) ∧ ∀ c ∈ e.2.searchColumns, IsName c.name))

namespace Scope.Plain

variable {scope : Scope} {ref : ColumnRef} {a : String}

theorem column (h : scope.Plain) {c : Column} (hc : scope.column ref = .ok (a, c)) :
    IsName a ∧ IsName c.name := by
  simp only [Scope.column, bind_eq_ok, pure_eq_ok, Prod.exists, Prod.mk.injEq] at hc
  obtain ⟨a', t, ht, c', hc, rfl, rfl⟩ := hc
  obtain ⟨ha, hcolumns, -⟩ := h _ (List.mem_of_find?_eq_some (Scope.table_ok ht).2)
  exact ⟨ha, hcolumns _ (Table.column_ok hc).2⟩

theorem searchColumn (h : scope.Plain) {c : SearchColumnDefinition}
    (hc : scope.searchColumn ref = .ok (a, c)) : IsName a ∧ IsName c.name := by
  simp only [Scope.searchColumn, bind_eq_ok, pure_eq_ok, Prod.exists, Prod.mk.injEq] at hc
  obtain ⟨a', t, ht, c', hc, rfl, rfl⟩ := hc
  obtain ⟨ha, -, hsearch⟩ := h _ (List.mem_of_find?_eq_some (Scope.table_ok ht).2)
  exact ⟨ha, hsearch _ (Table.searchColumn_ok hc).2⟩

end Scope.Plain

theorem SqlFunction.leafText_call (f : SqlFunction) {a c rest : String} (ha : IsName a)
    (hc : IsName c) (hrest : ∀ d, Passes d d rest) : LeafText ((f.call a c).sql ++ rest) := by
  cases f
  have hquery : IsName (generatedName a c "ScoreQuery") := isName_generatedName ha hc (by decide)
  constructor
  · intro d
    exact (passes_call (passes_open (by simp)) ha hc hquery).append (hrest d)
  · simp [SqlFunction.call]

namespace Comparison

variable {scope : Scope} {c : Comparison} {drafted : Draft}

/-- The text of a comparison in WHERE is passed like one word. -/
theorem WhereDraft.leafText (h : WhereDraft scope c drafted) (hscope : scope.Plain)
    (hparam : ∀ n, c.paramName = some n → IsName n) : LeafText drafted.sql := by
  cases h with
  | @call op _ f a s _ _ _ _ _ hs =>
    obtain ⟨ha, hname⟩ := hscope.searchColumn hs
    have hn := isName_getD hparam (isName_comparandName f ha hname op)
    have h := f.leafText_call ha hname fun d => passes_compared op hn
    simpa only [String.append_assoc] using h
  | @search a s _ _ _ hs =>
    obtain ⟨ha, hname⟩ := hscope.searchColumn hs
    have hn := isName_getD hparam (isName_generatedName ha hname (isName_suffix .search))
    constructor
    · intro d
      exact passes_call (passes_open (by simp)) ha hname hn
    · simp
  | @null op a col _ _ _ _ hcol _ =>
    obtain ⟨ha, hname⟩ := hscope.column hcol
    simpa only [String.append_assoc] using LeafText.ofColumn ha hname fun d => passes_operator op
  | @membership a col _ _ _ hcol _ =>
    obtain ⟨ha, hname⟩ := hscope.column hcol
    have hn := isName_getD hparam (isName_generatedName ha hname (isName_suffix .isIn))
    have hopening (d : Nat) : Passes d (d + 1) " IN UNNEST(" := passes_open (by simp)
    have h := LeafText.ofColumn ha hname fun d =>
      ((hopening d).append (passes_placeholder hn)).append passes_close
    simpa only [String.append_assoc] using h
  | @order op a col _ _ _ _ hcol _ =>
    obtain ⟨ha, hname⟩ := hscope.column hcol
    have hn := isName_getD hparam (isName_generatedName ha hname (isName_suffix op))
    have h := LeafText.ofColumn ha hname fun d => passes_compared op hn
    simpa only [String.append_assoc] using h

theorem OnDraft.leafText (h : OnDraft scope c drafted) (hscope : scope.Plain)
    (hparam : ∀ n, c.paramName = some n → IsName n) : LeafText drafted.sql := by
  cases h with
  | @pair op a b left right _ _ _ _ _ hleft _ hright _ _ =>
    obtain ⟨ha, hname⟩ := hscope.column hleft
    obtain ⟨hb, hother⟩ := hscope.column hright
    have h := LeafText.ofColumn ha hname fun d =>
      (passes_operator (d := d) op).append (passes_reference hb hother)
    simpa only [String.append_assoc] using h
  | @value op a left _ _ _ _ hleft _ =>
    obtain ⟨ha, hname⟩ := hscope.column hleft
    have hn := isName_getD hparam (isName_generatedName ha hname (isName_suffix op))
    have h := LeafText.ofColumn ha hname fun d => passes_compared op hn
    simpa only [String.append_assoc] using h

end Comparison

namespace Condition

/-- Induction over the tree, with all parts of a node at once. -/
theorem inductionOn {motive : Condition → Prop} (leaf : ∀ c, motive (.leaf c))
    (concat : ∀ op parts, (∀ p ∈ parts, motive p) → motive (.concat op parts)) :
    ∀ c, motive c
  | .leaf c => leaf c
  | .concat op parts => concat op parts fun p _ => inductionOn leaf concat p

variable {draft : Comparison → Compiled Draft}

/-- The texts of a condition, whatever parameters are bound before. -/
inductive Written (draft : Comparison → Compiled Draft) : Condition → String → Prop where
  | leaf {c : Comparison} {d : Draft} (hd : draft c = .ok d) : Written draft (.leaf c) d.sql
  | concat {op : String} {k : Connective} {parts : List Condition} {texts : List String}
      (hop : Connective.parse op = .ok k) (hne : parts ≠ [])
      (hparts : List.Forall₂ (Written draft) parts texts) :
      Written draft (.concat op parts) ("(" ++ k.separator.intercalate texts ++ ")")

/-- Two conditions are the same tree of connectives over comparisons with the same texts. With a
single part a connective is not written, so it makes no difference. -/
inductive SameShape (draft : Comparison → Compiled Draft) : Condition → Condition → Prop where
  | leaf {c c' : Comparison} {d d' : Draft} (hd : draft c = .ok d) (hd' : draft c' = .ok d')
      (hsql : d.sql = d'.sql) : SameShape draft (.leaf c) (.leaf c')
  | concat {op op' : String} {parts parts' : List Condition}
      (hop : 1 < parts.length → op = op')
      (hparts : List.Forall₂ (SameShape draft) parts parts') :
      SameShape draft (.concat op parts) (.concat op' parts')

theorem mem_leavesOf {l : Comparison} {parts : List Condition} :
    l ∈ leavesOf parts ↔ ∃ p ∈ parts, l ∈ p.leaves := by
  induction parts with
  | nil => simp [leavesOf]
  | cons p ps ih => simp [leavesOf, ih]

theorem compileParts_written {parts : List Condition}
    (h : ∀ p ∈ parts, ∀ ps next text, p.compile draft ps = .ok (text, next) → Written draft p text)
    {ps next : Params} {texts : List String}
    (hparts : compileParts draft parts ps = .ok (texts, next)) :
    List.Forall₂ (Written draft) parts texts := by
  induction parts generalizing ps texts with
  | nil =>
    simp only [compileParts, Except.ok.injEq, Prod.mk.injEq] at hparts
    obtain ⟨rfl, -⟩ := hparts
    exact .nil
  | cons p parts ih =>
    simp only [compileParts, bind_eq_ok, pure_eq_ok, Prod.exists, Prod.mk.injEq] at hparts
    obtain ⟨text, mid, hp, rest, next', hrest, rfl, rfl⟩ := hparts
    exact .cons (h p List.mem_cons_self _ _ _ hp)
      (ih (fun q hq => h q (List.mem_cons_of_mem _ hq)) hrest)

theorem compile_written (c : Condition) {ps next : Params} {text : String}
    (h : c.compile draft ps = .ok (text, next)) : Written draft c text := by
  induction c using inductionOn generalizing ps next text with
  | leaf c =>
    simp only [compile, within_eq_ok, bind_eq_ok] at h
    obtain ⟨d, hd, h⟩ := h
    rw [(Params.take_eq_ok.mp h).1]
    exact .leaf hd
  | concat op parts ih =>
    simp only [compile, bind_eq_ok, ensure_eq_ok, pure_eq_ok, Prod.exists, Prod.mk.injEq] at h
    obtain ⟨k, hk, -, hne, texts, next', hparts, rfl, rfl⟩ := h
    exact .concat hk (by simpa using hne)
      (compileParts_written (fun p hp _ _ _ => ih p hp) hparts)

/-- Every comparison of the condition is passed like one word. -/
def Worded (draft : Comparison → Compiled Draft) (c : Condition) : Prop :=
  ∀ l ∈ c.leaves, ∀ d, draft l = .ok d → LeafText d.sql

theorem Worded.part {op : String} {parts : List Condition} (h : Worded draft (.concat op parts))
    {p : Condition} (hp : p ∈ parts) : Worded draft p :=
  fun l hl => h l (mem_leavesOf.mpr ⟨p, hp, hl⟩)

/-- The parentheses around a nested condition are in pairs, and its separators are inside. -/
theorem Written.passes {c : Condition} {text : String} (h : Written draft c text)
    (hc : Worded draft c) (d : Nat) : Passes d d text := by
  induction c using inductionOn generalizing text d with
  | leaf c =>
    cases h with
    | leaf hd => exact (hc c (by simp [leaves]) _ hd).passes d
  | concat op parts ih =>
    cases h with
    | concat _ _ hparts =>
      refine ((passes_open (by simp)).append (passes_intercalate (passes_separator _) ?_)).append
        passes_close
      intro t ht
      obtain ⟨p, hp, hwritten⟩ := exists_mem_of_forall₂ hparts ht
      exact ih p hp hwritten (hc.part hp) (d + 1)

theorem passes_parts {parts : List Condition} {texts : List String}
    (h : List.Forall₂ (Written draft) parts texts) (hparts : ∀ p ∈ parts, Worded draft p) :
    ∀ t ∈ texts, Passes 0 0 t := by
  intro t ht
  obtain ⟨p, hp, hwritten⟩ := exists_mem_of_forall₂ h ht
  exact hwritten.passes (hparts p hp) 0

theorem sameShape_concat {op op' : String} {parts parts' : List Condition} :
    SameShape draft (.concat op parts) (.concat op' parts') ↔
      (1 < parts.length → op = op') ∧ List.Forall₂ (SameShape draft) parts parts' := by
  constructor
  · intro h
    cases h with
    | concat hop hparts => exact ⟨hop, hparts⟩
  · exact fun ⟨hop, hparts⟩ => .concat hop hparts

/-- A comparison never begins with a parenthesis, a node always does. -/
theorem Worded.leaf_ne {l : Comparison} {d : Draft} (h : Worded draft (.leaf l))
    (hd : draft l = .ok d) (text : String) : d.sql ≠ "(" ++ text ++ ")" := by
  intro heq
  refine (h l (by simp [leaves]) d hd).bare ?_
  simp [heq]

/-- Two texts agree exactly if the conditions have one shape. -/
theorem Written.eq_iff {c c' : Condition} {text text' : String} (h : Written draft c text)
    (h' : Written draft c' text') (hc : Worded draft c) (hc' : Worded draft c') :
    text = text' ↔ SameShape draft c c' := by
  have hnonempty {parts : List Condition} {texts : List String} (hne : parts ≠ [])
      (hparts : List.Forall₂ (Written draft) parts texts) : texts ≠ [] := by
    rintro rfl
    exact hne (List.forall₂_nil_right_iff.mp hparts)
  -- on the first tree; the second is taken apart along with it
  induction c using inductionOn generalizing c' text text' with
  | leaf l =>
    cases h with
    | leaf hd =>
      cases h' with
      | leaf hd' =>
        constructor
        · exact fun hsql => .leaf hd hd' hsql
        · rintro ⟨he, he', hsql⟩
          rwa [Except.ok.inj (hd.symm.trans he), Except.ok.inj (hd'.symm.trans he')]
      | concat => exact iff_of_false (hc.leaf_ne hd _) nofun
  | concat op parts ih =>
    cases h with
    | concat hop hne hparts =>
      cases h' with
      | leaf hd' => exact iff_of_false (hc'.leaf_ne hd' _).symm nofun
      | concat hop' hne' hparts' =>
        rw [Connective.nested_inj (hnonempty hne hparts) (hnonempty hne' hparts')
            (passes_parts hparts fun _ => hc.part) (passes_parts hparts' fun _ => hc'.part),
          sameShape_concat, Connective.parse_inj hop hop', hparts.length_eq,
          eq_iff_forall₂ hparts hparts']
        intro p hp p' hp' t t' ht ht'
        exact ih p hp ht ht' (hc.part hp) (hc'.part hp')

/-- The parameters that the comparisons of the condition name are plain. -/
def PlainParams (c : Condition) : Prop :=
  ∀ l ∈ c.leaves, ∀ n ∈ l.paramName, IsName n

instance (c : Condition) : Decidable c.PlainParams :=
  inferInstanceAs (Decidable (∀ l ∈ c.leaves, ∀ n ∈ l.paramName, IsName n))

end Condition

/-- Over a scope of plain names, and whatever parameters are bound before, two conditions with plain
parameter names compile to one text exactly if they have one shape: the same tree, the same
connective at every node of two or more parts, and the same text at every comparison. -/
theorem nesting_unambiguous {scope : Scope} (hscope : scope.Plain) {c c' : Condition}
    (hc : c.PlainParams) (hc' : c'.PlainParams) (ps ps' : Params) :
    (∀ text text' next next', c.compileWhere scope ps = .ok (text, next) →
      c'.compileWhere scope ps' = .ok (text', next') →
      (text = text' ↔ c.SameShape (Comparison.draftWhere scope) c')) ∧
    ∀ text text' next next', c.compileOn scope ps = .ok (text, next) →
      c'.compileOn scope ps' = .ok (text', next') →
      (text = text' ↔ c.SameShape (Comparison.draftOn scope) c') := by
  have hwhere {c : Condition} (hc : c.PlainParams) : c.Worded (Comparison.draftWhere scope) :=
    fun l hl _ hd => (Comparison.draftWhere_eq_ok.mp hd).leafText hscope (hc l hl)
  have hon {c : Condition} (hc : c.PlainParams) : c.Worded (Comparison.draftOn scope) :=
    fun l hl _ hd => (Comparison.draftOn_eq_ok.mp hd).leafText hscope (hc l hl)
  constructor
  · intro text text' next next' h h'
    exact (c.compile_written h).eq_iff (c'.compile_written h') (hwhere hc) (hwhere hc')
  · intro text text' next next' h h'
    exact (c.compile_written h).eq_iff (c'.compile_written h') (hon hc) (hon hc')

namespace Sample

/-- The parts of `matching`, with the last two in one more node of their own. -/
def regrouped : Condition :=
  .concat "AND" [
    .leaf { op := "SEARCH", left := ⟨"words", some "p"⟩ },
    .leaf { op := ">", left := ⟨"words", some "p"⟩, func := some "SCORE" },
    .concat "AND" [
      .concat "OR" [.leaf { op := "IS NULL", left := ⟨"kind", some "p"⟩ },
        .leaf { op := "=", left := ⟨"kind", some "p"⟩ }],
      .leaf { op := "IN", left := ⟨"id", none⟩, paramName := some "authors" }]]

end Sample

/-- A node more changes the text; a connective with one part can be exchanged. -/
theorem nesting_unambiguous_posts :
    ¬Sample.matching.SameShape (Comparison.draftWhere Sample.joined) Sample.regrouped ∧
      Condition.SameShape (Comparison.draftOn Sample.joined)
        (.concat "AND" [.leaf { op := "=", left := ⟨"id", none⟩ }])
        (.concat "OR" [.leaf { op := "=", left := ⟨"id", some "u"⟩ }]) := by
  have hscope : Sample.joined.Plain := by decide
  have hmatching : Sample.matching.PlainParams := by decide
  have hregrouped : Sample.regrouped.PlainParams := by decide
  constructor
  · rw [← (nesting_unambiguous hscope hmatching hregrouped .empty .empty).1 _ _ _ _ rfl rfl]
    decide +kernel
  · rw [← (nesting_unambiguous hscope (by decide) (by decide) .empty .empty).2 _ _ _ _ rfl rfl]
    decide +kernel

end SchemaLoom
