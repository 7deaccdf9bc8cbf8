import SchemaLoom.Text.Words

/-!
# Names of letters, digits and underscores

The texts that can stand as a name in SQL without quotes. Changing the case style of such a name
gives such a name again, since the words of a name are made of its own characters.
-/
namespace SchemaLoom.Text

def isNameChar (c : Char) : Bool := c.isAlphanum || c == '_'

/-- A text of name characters only; the empty text is one. -/
def IsName (s : String) : Prop := ∀ c ∈ s.toList, isNameChar c

instance (s : String) : Decidable (IsName s) :=
  decidable_of_iff (s.toList.all isNameChar = true) List.all_eq_true

theorem isShort_of_isNameChar {c : Char} (h : isNameChar c) : isShort c := by
  change (decide (c.val ≥ 'A'.val ∧ c.val ≤ 'Z'.val)
    || (decide (c.val ≥ 'a'.val) && decide (c.val ≤ 'z'.val))
    || (decide (c.val ≥ '0'.val) && decide (c.val ≤ '9'.val)) || c == '_') = true at h
  simp only [Bool.or_eq_true, Bool.and_eq_true, decide_eq_true_eq, beq_iff_eq, ge_iff_le,
    UInt32.le_iff_toNat_le] at h
  simp only [isShort, decide_eq_true_eq]
  change c.val.toNat < 128
  rcases h with ((⟨-, h⟩ | ⟨-, h⟩) | ⟨-, h⟩) | rfl
  · exact Nat.lt_of_le_of_lt h (by decide)
  · exact Nat.lt_of_le_of_lt h (by decide)
  · exact Nat.lt_of_le_of_lt h (by decide)
  · decide

/-- What holds of the characters of one byte can be checked one by one. -/
theorem forall_short {P : Char → Prop} (h : ∀ n < 0x80, P (Char.ofNat n)) {c : Char}
    (hc : isShort c) : P c := by
  have hlt : c.toNat < 0x80 := by simpa [isShort] using hc
  simpa [Char.ofNat_toNat] using h c.toNat hlt

theorem isNameChar_toLower {c : Char} (h : isNameChar c) : isNameChar c.toLower :=
  forall_short (P := fun c => isNameChar c → isNameChar c.toLower) (by decide)
    (isShort_of_isNameChar h) h

theorem isNameChar_toUpper {c : Char} (h : isNameChar c) : isNameChar c.toUpper :=
  forall_short (P := fun c => isNameChar c → isNameChar c.toUpper) (by decide)
    (isShort_of_isNameChar h) h

theorem isNameChar_toSmall {c d : Char} (h : isNameChar c) (hd : d ∈ toSmall c) :
    isNameChar d := by
  rw [toSmall, if_pos (isShort_of_isNameChar h), List.mem_singleton] at hd
  exact hd ▸ isNameChar_toLower h

theorem isNameChar_toCapital {c d : Char} (h : isNameChar c) (hd : d ∈ toCapital c) :
    isNameChar d := by
  rw [toCapital, if_pos (isShort_of_isNameChar h), List.mem_singleton] at hd
  exact hd ▸ isNameChar_toUpper h

theorem isNameChar_smallWord {w : List Char} (h : ∀ c ∈ w, isNameChar c) :
    ∀ d ∈ smallWord w, isNameChar d := by
  induction w with
  | nil => simp [smallWord]
  | cons c cs ih =>
    have hc : isNameChar c := h c (by simp)
    have hcs := ih fun d hd => h d (by simp [hd])
    intro d hd
    cases cs with
    | nil =>
      -- a sigma is no name character, so the final form never arises
      have hne : c ≠ 'Σ' := by rintro rfl; exact absurd hc (by decide)
      rw [smallWord, if_neg hne] at hd
      exact isNameChar_toSmall hc hd
    | cons c' cs =>
      rw [smallWord, List.mem_append] at hd
      · exact hd.elim (isNameChar_toSmall hc) (hcs d)
      · simp

theorem isNameChar_capitalWord {w : List Char} (h : ∀ c ∈ w, isNameChar c) :
    ∀ d ∈ capitalWord w, isNameChar d := by
  cases w with
  | nil => simp [capitalWord]
  | cons c cs =>
    intro d hd
    rw [capitalWord, List.mem_append] at hd
    exact hd.elim (isNameChar_toCapital (h c (by simp)))
      (isNameChar_smallWord (fun e he => h e (by simp [he])) d)

theorem mem_of_mem_cutRun {k : LetterCase} {word cs w : List Char} (hw : w ∈ cutRun k word cs)
    {c : Char} (hc : c ∈ w) : c ∈ word ∨ c ∈ cs := by
  fun_induction cutRun k word cs with
  | case1 => simp at hw
  | case2 => simp_all
  | case3 k word a b rest _ ih =>
    rcases List.mem_cons.mp hw with rfl | hw
    · rcases List.mem_cons.mp (List.mem_reverse.mp hc) with rfl | hc
      · exact .inr (List.mem_cons_self)
      · exact .inl hc
    · exact .inr (List.mem_cons_of_mem _ ((ih hw).resolve_left (by simp)))
  | case4 k word a b rest _ _ ih =>
    rcases List.mem_cons.mp hw with rfl | hw
    · exact .inl (List.mem_reverse.mp hc)
    · refine .inr ((ih hw).elim (fun h => ?_) (List.mem_cons_of_mem _))
      simp [List.mem_singleton.mp h]
  | case5 k word a b rest _ _ ih =>
    rcases ih hw with h | h
    · exact (List.mem_cons.mp h).elim (fun h => .inr (by simp [h])) .inl
    · exact .inr (List.mem_cons_of_mem _ h)

theorem mem_of_mem_runs {cs r : List Char} (hr : r ∈ runs cs) {c : Char} (hc : c ∈ r) :
    c ∈ cs := by
  fun_induction runs cs generalizing r with
  | case1 => simp_all
  | case2 => simp_all
  | case3 a cs first rest hrest ha ih =>
    rcases List.mem_cons.mp hr with rfl | hr
    · rcases List.mem_cons.mp hc with rfl | hc
      · simp
      · exact List.mem_cons_of_mem _ (ih (by simp [hrest]) hc)
    · exact List.mem_cons_of_mem _ (ih (by simp [hrest, hr]) hc)
  | case4 a cs first rest hrest ha ih =>
    rcases List.mem_cons.mp hr with rfl | hr
    · simp at hc
    · exact List.mem_cons_of_mem _ (ih (hrest ▸ hr) hc)

/-- The words of a name are made of its characters. -/
theorem mem_of_mem_words {name : String} {w : List Char} (hw : w ∈ words name) {c : Char}
    (hc : c ∈ w) : c ∈ name.toList := by
  obtain ⟨r, hr, hw⟩ := List.mem_flatMap.mp hw
  exact mem_of_mem_runs hr ((mem_of_mem_cutRun hw hc).resolve_left (by simp))

theorem isWordChar_of_mem_runs {cs r : List Char} (hr : r ∈ runs cs) {c : Char} (hc : c ∈ r) :
    isWordChar c := by
  fun_induction runs cs generalizing r with
  | case1 => simp_all
  | case2 => simp_all
  | case3 a cs first rest hrest ha ih =>
    rcases List.mem_cons.mp hr with rfl | hr
    · rcases List.mem_cons.mp hc with rfl | hc
      · exact ha
      · exact ih (by simp [hrest]) hc
    · exact ih (by simp [hrest, hr]) hc
  | case4 a cs first rest hrest ha ih =>
    rcases List.mem_cons.mp hr with rfl | hr
    · simp at hc
    · exact ih (hrest ▸ hr) hc

/-- The words of a name have letters and numerals only. -/
theorem isWordChar_of_mem_words {name : String} {w : List Char} (hw : w ∈ words name) {c : Char}
    (hc : c ∈ w) : isWordChar c := by
  obtain ⟨r, hr, hw⟩ := List.mem_flatMap.mp hw
  exact isWordChar_of_mem_runs hr ((mem_of_mem_cutRun hw hc).resolve_left (by simp))

/-- A cut before a capital leaves the capitals before it, so that no word is empty. -/
theorem ne_nil_of_mem_cutRun {k : LetterCase} {word cs w : List Char}
    (hword : k = .capital → word ≠ []) (hw : w ∈ cutRun k word cs) : w ≠ [] := by
  fun_induction cutRun k word cs with
  | case1 => simp at hw
  | case2 k word c => simp_all
  | case3 k word c d rest h ih =>
    rcases List.mem_cons.mp hw with rfl | hw
    · simp
    · exact ih (by simp) hw
  | case4 k word c d rest h h' ih =>
    rcases List.mem_cons.mp hw with rfl | hw
    · simpa using hword h'.1
    · exact ih (by simp) hw
  | case5 k word c d rest h h' ih => exact ih (by simp) hw

theorem ne_nil_of_mem_words {name : String} {w : List Char} (hw : w ∈ words name) : w ≠ [] := by
  obtain ⟨r, -, hw⟩ := List.mem_flatMap.mp hw
  exact ne_nil_of_mem_cutRun (by simp) hw

namespace IsName

theorem words {name w} (h : IsName name) (hw : w ∈ words name) : ∀ c ∈ w, isNameChar c :=
  fun _ hc => h _ (mem_of_mem_words hw hc)

theorem upperCamel {name} (h : IsName name) : IsName (upperCamel name) := by
  intro c hc
  rw [Text.upperCamel, String.toList_ofList] at hc
  obtain ⟨w, hw, hc⟩ := List.mem_flatMap.mp hc
  exact isNameChar_capitalWord (h.words hw) c hc

theorem lowerCamel {name} (h : IsName name) : IsName (lowerCamel name) := by
  intro c hc
  unfold Text.lowerCamel at hc
  split at hc
  · simp at hc
  · rename_i w ws hws
    rw [String.toList_ofList, List.mem_append, List.mem_flatMap] at hc
    have hwords {w'} (hw' : w' ∈ w :: ws) : ∀ c ∈ w', isNameChar c := h.words (hws ▸ hw')
    rcases hc with hc | ⟨w', hw', hc⟩
    · exact isNameChar_smallWord (hwords (by simp)) c hc
    · exact isNameChar_capitalWord (hwords (by simp [hw'])) c hc

theorem append {s t} (hs : IsName s) (ht : IsName t) : IsName (s ++ t) := by
  intro c hc
  rw [String.toList_append, List.mem_append] at hc
  exact hc.elim (hs c) (ht c)

end IsName
end SchemaLoom.Text
