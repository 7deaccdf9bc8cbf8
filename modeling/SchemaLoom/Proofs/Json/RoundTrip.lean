import SchemaLoom.Json.Reader
import SchemaLoom.Proofs.Json.Spelling

/-!
# Documents are read as they were written

A document has one list of tokens. Both ways of writing it spell these tokens, and the machine that
reads them builds the document again, whatever is still open around it. So reading the text of a
document gives the document, with every field in its place and every string as it was.
-/
namespace SchemaLoom.Json

mutual
def tokens : Json → List Token
  | .array items => .openArray :: (itemTokens items ++ [.closeArray])
  | .object fields => .openObject :: (fieldTokens fields ++ [.closeObject])
  | v => [.scalar v]

def itemTokens : List Json → List Token
  | [] => []
  | [v] => v.tokens
  | v :: vs => v.tokens ++ .comma :: itemTokens vs

def fieldTokens : List (String × Json) → List Token
  | [] => []
  | [(k, v)] => .scalar (.string k) :: .colon :: v.tokens
  | (k, v) :: fs => .scalar (.string k) :: .colon :: (v.tokens ++ .comma :: fieldTokens fs)
end

/-! ## The machine -/

namespace State

/-- A document cannot be taken for the end of the array that it stands in first. -/
theorem foldlM_firstItem (v : Json) (ts : List Token) (stack : List Frame) :
    (v.tokens ++ ts).foldlM step (.firstItem stack) =
      (v.tokens ++ ts).foldlM step (.value (.items [] :: stack)) := by
  cases v <;> rfl

theorem foldlM_firstKey (k : String) (ts : List Token) (stack : List Frame) :
    (.scalar (.string k) :: ts).foldlM step (.firstKey stack) =
      (.scalar (.string k) :: ts).foldlM step (.key [] stack) := rfl

/-- A key and its colon lead to the value. -/
theorem foldlM_key (k : String) (ts : List Token) (done : List (Key × Json))
    (stack : List Frame) :
    (.scalar (.string k) :: .colon :: ts).foldlM step (.key done stack) =
      ts.foldlM step (.value (.fields done (some k) :: stack)) := rfl

end State

theorem ofReversed_reverse (fields : List (String × Json)) :
    ofReversed (fields.map fun f => (some f.1, f.2)).reverse = .object fields := by
  have hkeys : (fields.map fun f => ((some f.1 : Key), f.2)).mapM (fun (k, v) => k.map (·, v)) =
      some fields := by
    induction fields with
    | nil => rfl
    | cons f fields ih => simp [ih]
  rw [ofReversed, List.reverse_reverse, hkeys]

theorem itemTokens_cons_cons (v w : Json) (ws : List Json) :
    itemTokens (v :: w :: ws) = v.tokens ++ .comma :: itemTokens (w :: ws) :=
  itemTokens.eq_3 v (w :: ws) (by simp)

theorem fieldTokens_cons_cons (k : String) (v : Json) (f : String × Json)
    (fs : List (String × Json)) : fieldTokens ((k, v) :: f :: fs) =
      .scalar (.string k) :: .colon :: (v.tokens ++ .comma :: fieldTokens (f :: fs)) :=
  fieldTokens.eq_3 k v (f :: fs) (by simp)

theorem itemTokens_starts (v : Json) (vs : List Json) :
    ∃ ts, itemTokens (v :: vs) = v.tokens ++ ts := by
  cases vs with
  | nil => exact ⟨[], (List.append_nil _).symm⟩
  | cons w ws => exact ⟨_, itemTokens_cons_cons v w ws⟩

theorem fieldTokens_starts (f : String × Json) (fs : List (String × Json)) :
    ∃ ts, fieldTokens (f :: fs) = .scalar (.string f.1) :: ts := by
  cases fs with
  | nil => exact ⟨_, rfl⟩
  | cons g fs => exact ⟨_, fieldTokens_cons_cons f.1 f.2 g fs⟩

mutual
/-- The machine reads a document off its tokens, below whatever is open. -/
theorem foldlM_tokens (v : Json) (stack : List Frame) :
    v.tokens.foldlM State.step (.value stack) = some (.after v stack) := by
  cases v with
  | null => rfl
  | bool b => rfl
  | number d => rfl
  | string s => rfl
  | unpaired => rfl
  | array items =>
    have hitems := foldlM_itemTokens items
    cases items with
    | nil => rfl
    | cons v vs =>
      -- Behind the bracket an array may end at once; its first item rules this out.
      obtain ⟨rest, hrest⟩ := itemTokens_starts v vs
      have hfirst := hitems (by simp) [] stack
      rw [hrest, List.append_assoc, ← State.foldlM_firstItem, ← List.append_assoc, ← hrest]
        at hfirst
      exact hfirst
  | object fields =>
    have hfields := foldlM_fieldTokens fields
    cases fields with
    | nil => rfl
    | cons f fs =>
      obtain ⟨rest, hrest⟩ := fieldTokens_starts f fs
      have hfirst := hfields (by simp) [] stack
      rw [List.append_nil, ofReversed_reverse, hrest, List.cons_append,
        ← State.foldlM_firstKey, ← List.cons_append, ← hrest] at hfirst
      exact hfirst

theorem foldlM_itemTokens (items : List Json) (hitems : items ≠ []) (done : List Json)
    (stack : List Frame) :
    (itemTokens items ++ [Token.closeArray]).foldlM State.step (.value (.items done :: stack)) =
      some (.after (.array (done.reverse ++ items)) stack) := by
  cases items with
  | nil => exact absurd rfl hitems
  | cons v vs =>
    cases vs with
    | nil =>
      rw [itemTokens, List.foldlM_append, foldlM_tokens v, ← List.reverse_cons]
      rfl
    | cons w ws =>
      have hrest := foldlM_itemTokens (w :: ws) (by simp) (v :: done) stack
      rw [List.reverse_cons, List.append_assoc] at hrest
      rw [itemTokens_cons_cons, List.append_assoc, List.foldlM_append, foldlM_tokens v]
      exact hrest

theorem foldlM_fieldTokens (fields : List (String × Json)) (hfields : fields ≠ [])
    (done : List (Key × Json)) (stack : List Frame) :
    (fieldTokens fields ++ [Token.closeObject]).foldlM State.step (.key done stack) =
      some (.after (ofReversed ((fields.map fun f => (some f.1, f.2)).reverse ++ done)) stack) := by
  cases fields with
  | nil => exact absurd rfl hfields
  | cons f fs =>
    obtain ⟨k, v⟩ := f
    cases fs with
    | nil =>
      rw [fieldTokens, List.cons_append, List.cons_append, State.foldlM_key, List.foldlM_append,
        foldlM_tokens v]
      rfl
    | cons f fs =>
      have hrest := foldlM_fieldTokens (f :: fs) (by simp) ((some k, v) :: done) stack
      rw [fieldTokens_cons_cons, List.cons_append, List.cons_append, State.foldlM_key,
        List.append_assoc, List.foldlM_append, foldlM_tokens v, List.map_cons, List.reverse_cons,
        List.append_assoc]
      exact hrest
end

theorem ofTokens?_tokens (v : Json) : ofTokens? v.tokens = some v := by
  rw [ofTokens?, foldlM_tokens]
  rfl

/-! ## The printers -/

theorem Breaks.cons {c : Char} (hc : isBreak c = true) (cs : List Char) : Breaks (c :: cs) := by
  intro d hd
  cases hd
  exact hc

theorem isBreak_of_isBlank {c : Char} (h : isBlank c = true) : isBreak c = true := by
  simp only [isBlank, Bool.or_eq_true, beq_iff_eq] at h
  rcases h with ((rfl | rfl) | rfl) | rfl <;> rfl

theorem newline_breaks (level : Nat) (cs : List Char) :
    Breaks ((newline level).toList ++ cs) := by
  intro c hc
  simp only [newline, String.toList_append] at hc
  cases hc
  rfl

theorem Spells.newline {ts : List Token} {cs : List Char} (h : Spells ts cs) (level : Nat) :
    Spells ts ((Json.newline level).toList ++ cs) := by
  have hblanks (n : Nat) : Spells ts (List.replicate n ' ' ++ cs) := by
    induction n with
    | zero => exact h
    | succ n ih => exact .blank rfl ih
  have hline : Spells ts ('\n' :: _) := .blank rfl (hblanks (2 * level))
  simpa [Json.newline] using hline

/-- A key in front of what its colon is followed by. -/
theorem Spells.key {ts : List Token} {cs : List Char} (h : Spells ts cs) (k : String) :
    Spells (.scalar (.string k) :: .colon :: ts) ((quote k).toList ++ ':' :: cs) :=
  .scalar trivial (.cons rfl cs) (.mark rfl h)

theorem renderItems_cons_cons (v w : Json) (ws : List Json) :
    renderItems (v :: w :: ws) = v.render ++ "," ++ renderItems (w :: ws) :=
  renderItems.eq_3 v (w :: ws) (by simp)

theorem renderFields_cons_cons (k : String) (v : Json) (f : String × Json)
    (fs : List (String × Json)) : renderFields ((k, v) :: f :: fs) =
      quote k ++ ":" ++ v.render ++ "," ++ renderFields (f :: fs) :=
  renderFields.eq_3 k v (f :: fs) (by simp)

mutual
/-- A document on one line spells its tokens, in front of any text that breaks. -/
theorem render_spells (v : Json) {ts : List Token} {cs : List Char} (hcs : Breaks cs)
    (h : Spells ts cs) : Spells (v.tokens ++ ts) (v.render.toList ++ cs) := by
  cases v with
  | null => exact .scalar trivial hcs h
  | bool b => exact .scalar trivial hcs h
  | number d => exact .scalar trivial hcs h
  | string s => exact .scalar trivial hcs h
  | unpaired => exact .scalar trivial hcs h
  | array items =>
    have hclose : Spells (.closeArray :: ts) (']' :: cs) := .mark rfl h
    have hitems := renderItems_spells items (.cons rfl cs) hclose
    have hopen : Spells (.openArray :: _) ('[' :: _) := .mark rfl hitems
    simpa [render, tokens] using hopen
  | object fields =>
    have hclose : Spells (.closeObject :: ts) ('\x7d' :: cs) := .mark rfl h
    have hfields := renderFields_spells fields (.cons rfl cs) hclose
    have hopen : Spells (.openObject :: _) ('\x7b' :: _) := .mark rfl hfields
    simpa [render, tokens] using hopen

theorem renderItems_spells (items : List Json) {ts : List Token} {cs : List Char}
    (hcs : Breaks cs) (h : Spells ts cs) :
    Spells (itemTokens items ++ ts) ((renderItems items).toList ++ cs) := by
  cases items with
  | nil => simpa [renderItems, itemTokens] using h
  | cons v vs =>
    cases vs with
    | nil => exact render_spells v hcs h
    | cons w ws =>
      have hrest := renderItems_spells (w :: ws) hcs h
      have hcomma : Spells (.comma :: _) (',' :: _) := .mark rfl hrest
      have hfirst := render_spells v (.cons rfl _) hcomma
      simpa [renderItems_cons_cons, itemTokens_cons_cons] using hfirst

theorem renderFields_spells (fields : List (String × Json)) {ts : List Token} {cs : List Char}
    (hcs : Breaks cs) (h : Spells ts cs) :
    Spells (fieldTokens fields ++ ts) ((renderFields fields).toList ++ cs) := by
  cases fields with
  | nil => simpa [renderFields, fieldTokens] using h
  | cons f fs =>
    obtain ⟨k, v⟩ := f
    cases fs with
    | nil =>
      have hfield := (render_spells v hcs h).key k
      simpa [renderFields, fieldTokens] using hfield
    | cons f fs =>
      have hrest := renderFields_spells (f :: fs) hcs h
      have hcomma : Spells (.comma :: _) (',' :: _) := .mark rfl hrest
      have hfield := (render_spells v (.cons rfl _) hcomma).key k
      simpa [renderFields_cons_cons, fieldTokens_cons_cons] using hfield
end

theorem prettyItems_cons_cons (level : Nat) (v w : Json) (ws : List Json) :
    prettyItems level (v :: w :: ws) =
      newline level ++ v.prettyAt level ++ "," ++ prettyItems level (w :: ws) :=
  prettyItems.eq_3 level v (w :: ws) (by simp)

theorem prettyFields_cons_cons (level : Nat) (k : String) (v : Json) (f : String × Json)
    (fs : List (String × Json)) : prettyFields level ((k, v) :: f :: fs) =
      newline level ++ quote k ++ ": " ++ v.prettyAt level ++ "," ++
        prettyFields level (f :: fs) :=
  prettyFields.eq_3 level k v (f :: fs) (by simp)

mutual
/-- So does a document with one item or field a line. -/
theorem prettyAt_spells (level : Nat) (v : Json) {ts : List Token} {cs : List Char}
    (hcs : Breaks cs) (h : Spells ts cs) :
    Spells (v.tokens ++ ts) ((v.prettyAt level).toList ++ cs) := by
  cases v with
  | null => exact .scalar trivial hcs h
  | bool b => exact .scalar trivial hcs h
  | number d => exact .scalar trivial hcs h
  | string s => exact .scalar trivial hcs h
  | unpaired => exact .scalar trivial hcs h
  | array items =>
    have hclose : Spells (.closeArray :: ts) (']' :: cs) := .mark rfl h
    have hitems := prettyItems_spells (level + 1) items (newline_breaks level _)
      (hclose.newline level)
    cases items with
    | nil =>
      have hopen : Spells (.openArray :: _) ('[' :: _) := .mark rfl hclose
      simpa [prettyAt, tokens, itemTokens] using hopen
    | cons v vs =>
      have hopen : Spells (.openArray :: _) ('[' :: _) := .mark rfl hitems
      simpa [prettyAt, tokens] using hopen
  | object fields =>
    have hclose : Spells (.closeObject :: ts) ('\x7d' :: cs) := .mark rfl h
    have hfields := prettyFields_spells (level + 1) fields (newline_breaks level _)
      (hclose.newline level)
    cases fields with
    | nil =>
      have hopen : Spells (.openObject :: _) ('\x7b' :: _) := .mark rfl hclose
      simpa [prettyAt, tokens, fieldTokens] using hopen
    | cons f fs =>
      have hopen : Spells (.openObject :: _) ('\x7b' :: _) := .mark rfl hfields
      simpa [prettyAt, tokens] using hopen

theorem prettyItems_spells (level : Nat) (items : List Json) {ts : List Token} {cs : List Char}
    (hcs : Breaks cs) (h : Spells ts cs) :
    Spells (itemTokens items ++ ts) ((prettyItems level items).toList ++ cs) := by
  cases items with
  | nil => simpa [prettyItems, itemTokens] using h
  | cons v vs =>
    cases vs with
    | nil =>
      have hitem := (prettyAt_spells level v hcs h).newline level
      simpa [prettyItems, itemTokens] using hitem
    | cons w ws =>
      have hrest := prettyItems_spells level (w :: ws) hcs h
      have hcomma : Spells (.comma :: _) (',' :: _) := .mark rfl hrest
      have hitem := (prettyAt_spells level v (.cons rfl _) hcomma).newline level
      simpa [prettyItems_cons_cons, itemTokens_cons_cons] using hitem

theorem prettyFields_spells (level : Nat) (fields : List (String × Json)) {ts : List Token}
    {cs : List Char} (hcs : Breaks cs) (h : Spells ts cs) :
    Spells (fieldTokens fields ++ ts) ((prettyFields level fields).toList ++ cs) := by
  cases fields with
  | nil => simpa [prettyFields, fieldTokens] using h
  | cons f fs =>
    obtain ⟨k, v⟩ := f
    cases fs with
    | nil =>
      have hvalue : Spells _ (' ' :: _) := .blank rfl (prettyAt_spells level v hcs h)
      have hfield := (hvalue.key k).newline level
      simpa [prettyFields, fieldTokens] using hfield
    | cons f fs =>
      have hrest := prettyFields_spells level (f :: fs) hcs h
      have hcomma : Spells (.comma :: _) (',' :: _) := .mark rfl hrest
      have hvalue : Spells _ (' ' :: _) :=
        .blank rfl (prettyAt_spells level v (.cons rfl _) hcomma)
      have hfield := (hvalue.key k).newline level
      simpa [prettyFields_cons_cons, fieldTokens_cons_cons] using hfield
end

/-- Every document is read as it was written on one line. -/
theorem parse?_render (v : Json) : parse? v.render = some v := by
  have hspells := render_spells v (by simp [Breaks]) Spells.nil
  rw [List.append_nil, List.append_nil] at hspells
  rw [parse?, hspells.tokenize]
  exact ofTokens?_tokens v

/-- Blanks behind a document with one item or field a line are no part of it. -/
theorem parse?_pretty (v : Json) (blanks : List Char) (h : ∀ c ∈ blanks, isBlank c = true) :
    parse? (v.pretty ++ String.ofList blanks) = some v := by
  have hblanks : Breaks blanks ∧ Spells [] blanks := by
    induction blanks with
    | nil => exact ⟨by simp [Breaks], .nil⟩
    | cons c cs ih =>
      rw [List.forall_mem_cons] at h
      exact ⟨.cons (isBreak_of_isBlank h.1) cs, .blank h.1 (ih h.2).2⟩
  have hspells := prettyAt_spells 0 v hblanks.1 hblanks.2
  rw [List.append_nil] at hspells
  rw [parse?, String.toList_append, String.toList_ofList, pretty, hspells.tokenize]
  exact ofTokens?_tokens v

end SchemaLoom.Json
