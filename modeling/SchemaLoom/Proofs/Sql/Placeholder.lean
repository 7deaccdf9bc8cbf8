import SchemaLoom.Params
import SchemaLoom.Proofs.Text.Names

/-!
# The placeholders of a text

A placeholder is a mark and the longest run of name characters behind it. A text is scanned
piece by piece: a piece without a mark adds nothing, and two pieces can be scanned apart if the
second does not begin with a name character, for then it cannot lengthen the last placeholder
of the first.
-/
namespace SchemaLoom
open Text

/-- The runs of name characters behind the marks of a text. -/
def scanNames : List Char → List (List Char)
  | [] => []
  | c :: cs => if c = '@' then cs.takeWhile isNameChar :: scanNames cs else scanNames cs

def placeholders (sql : String) : List String := (scanNames sql.toList).map String.ofList

def Unmarked (s : String) : Prop := '@' ∉ s.toList

/-- The text does not begin with a name character. -/
def Stops (s : String) : Prop := ∀ c ∈ s.toList.head?, isNameChar c = false

instance (s : String) : Decidable (Unmarked s) := inferInstanceAs (Decidable ('@' ∉ s.toList))

instance (s : String) : Decidable (Stops s) :=
  decidable_of_iff (s.toList.head?.all (!isNameChar ·) = true) (by
    unfold Stops
    cases s.toList.head? <;> simp)

theorem takeWhile_append_stops {cs ds : List Char} (h : ∀ d ∈ ds.head?, isNameChar d = false) :
    (cs ++ ds).takeWhile isNameChar = cs.takeWhile isNameChar := by
  induction cs with
  | nil =>
    cases ds with
    | nil => rfl
    | cons d ds => simp [h d (by simp)]
  | cons c cs ih => simp only [List.cons_append, List.takeWhile_cons, ih]

theorem scanNames_append {cs ds : List Char} (h : ∀ d ∈ ds.head?, isNameChar d = false) :
    scanNames (cs ++ ds) = scanNames cs ++ scanNames ds := by
  induction cs with
  | nil => rfl
  | cons c cs ih =>
    simp only [List.cons_append, scanNames, takeWhile_append_stops h, ih]
    split <;> rfl

theorem scanNames_append_of_not_mem {cs ds : List Char} (h : '@' ∉ cs) :
    scanNames (cs ++ ds) = scanNames ds := by
  induction cs with
  | nil => rfl
  | cons c cs ih =>
    have hc : c ≠ '@' := fun hc => h (by simp [hc])
    rw [List.cons_append, scanNames, if_neg hc, ih fun hm => h (by simp [hm])]

@[simp] theorem placeholders_nil : placeholders "" = [] := rfl

/-- Two pieces are scanned apart where the second stops the first. -/
theorem placeholders_append {s t : String} (h : Stops t) :
    placeholders (s ++ t) = placeholders s ++ placeholders t := by
  simp only [placeholders, String.toList_append, scanNames_append h, List.map_append]

theorem placeholders_unmarked_append {s t : String} (h : Unmarked s) :
    placeholders (s ++ t) = placeholders t := by
  simp only [placeholders, String.toList_append, scanNames_append_of_not_mem h]

theorem placeholders_of_unmarked {s : String} (h : Unmarked s) : placeholders s = [] := by
  simpa using placeholders_unmarked_append (t := "") h

@[simp] theorem unmarked_append {s t : String} : Unmarked (s ++ t) ↔ Unmarked s ∧ Unmarked t := by
  simp [Unmarked]

theorem Text.IsName.unmarked {s : String} (h : IsName s) : Unmarked s :=
  fun hm => absurd (h _ hm) (by decide)

theorem stops_append {s t : String} (hs : s ≠ "") (h : Stops s) : Stops (s ++ t) := by
  intro c hc
  apply h
  cases hl : s.toList with
  | nil => exact absurd (String.toList_eq_nil_iff.mp hl) hs
  | cons d ds => simpa [hl] using hc

/-- A placeholder that is stopped is read back with its whole name. -/
theorem placeholders_placeholder_append {name t : String} (hn : IsName name) (ht : Stops t) :
    placeholders (placeholder name ++ t) = name :: placeholders t := by
  have hrun : name.toList.takeWhile isNameChar = name.toList := by
    simpa using @List.takeWhile_append_of_pos _ isNameChar _ [] hn
  have hscan : scanNames name.toList = [] := by
    simpa [scanNames] using @scanNames_append_of_not_mem _ [] hn.unmarked
  rw [placeholders_append ht]
  simp [placeholder, placeholders, scanNames, hrun, hscan]

theorem placeholders_placeholder {name : String} (hn : IsName name) :
    placeholders (placeholder name) = [name] := by
  have hstops : Stops "" := by decide
  simpa using placeholders_placeholder_append (t := "") hn hstops

/-- Pieces joined by a separator that stops them are scanned one by one. -/
theorem placeholders_intercalate {sep : String} (hne : sep ≠ "") (hstops : Stops sep)
    (hmark : Unmarked sep) (texts : List String) :
    placeholders (sep.intercalate texts) = texts.flatMap placeholders := by
  induction texts with
  | nil => simp
  | cons t ts ih =>
    cases ts with
    | nil => simp
    | cons u us =>
      rw [String.intercalate_cons_cons, String.append_assoc,
        placeholders_append (stops_append hne hstops), placeholders_unmarked_append hmark, ih]
      rfl

theorem unmarked_intercalate {sep : String} (hsep : Unmarked sep) {texts : List String}
    (h : ∀ t ∈ texts, Unmarked t) : Unmarked (sep.intercalate texts) := by
  induction texts with
  | nil => simp [Unmarked]
  | cons t ts ih =>
    have ht := h t (by simp)
    cases ts with
    | nil => simpa using ht
    | cons u us =>
      rw [String.intercalate_cons_cons, unmarked_append, unmarked_append]
      exact ⟨⟨ht, hsep⟩, ih fun v hv => h v (by simp [hv])⟩

end SchemaLoom
