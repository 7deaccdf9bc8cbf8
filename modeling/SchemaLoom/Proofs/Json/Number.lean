import SchemaLoom.Json.Printer
import SchemaLoom.Json.Token

/-!
# Numbers are read as they were written

A number is written as a whole number with a power of ten behind it, where that is not one. Reading
takes the sign, then all digits, and then what the mark of the power leaves: no fraction is written,
and no whole number is written with a needless zero in front.
-/
namespace SchemaLoom.Decimal

def wholeChars (i : Int) : List Char :=
  if 0 ≤ i then Nat.toDigits 10 i.toNat else '-' :: Nat.toDigits 10 (-i).toNat

theorem toList_toString (i : Int) : (toString i).toList = wholeChars i := by
  rw [Int.toString_eq_repr, Int.repr_eq_if, wholeChars]
  split
  · simp [Nat.repr_eq_ofList_toDigits]
  · simp [Nat.repr_eq_ofList_toDigits]

theorem ofDigits_toDigits (n : Nat) : ofDigits (Nat.toDigits 10 n) = n := by
  have hvalue := @Nat.ofDigitChars_ten_toDigits n
  rw [Nat.ofDigitChars_eq_foldl] at hvalue
  simpa only [ofDigits, Nat.mul_comm] using hvalue

theorem isDigit_of_mem_toDigits {n : Nat} {c : Char} (h : c ∈ Nat.toDigits 10 n) :
    c.isDigit = true :=
  Nat.isDigit_of_mem_toDigits (by decide) (by decide) h

theorem toDigits_all_isDigit (n : Nat) : (Nat.toDigits 10 n).all Char.isDigit = true :=
  List.all_eq_true.mpr fun _ => isDigit_of_mem_toDigits

/-- Only zero begins with a zero. -/
theorem head?_toDigits {n : Nat} (h : 0 < n) : (Nat.toDigits 10 n).head? ≠ some '0' := by
  induction n using Nat.strongRecOn with
  | ind n ih =>
    by_cases hn : n < 10
    · have hdigit : ∀ d < 10, 0 < d → d.digitChar ≠ '0' := by decide
      simpa [Nat.toDigits_of_lt_base hn] using hdigit n hn h
    · rw [Nat.toDigits_of_base_le (by decide) (by omega), List.head?_append,
        List.head?_eq_some_head Nat.toDigits_ne_nil]
      have hfirst := ih (n / 10) (by omega) (by omega)
      rwa [List.head?_eq_some_head Nat.toDigits_ne_nil] at hfirst

/-- The rest of a text in which no number goes on. -/
def Apart (cs : List Char) : Prop := ∀ c ∈ cs.head?, c.isDigit = false

theorem takeWhile_toDigits (n : Nat) {tail : List Char} (h : Apart tail) :
    (Nat.toDigits 10 n ++ tail).takeWhile Char.isDigit = Nat.toDigits 10 n ∧
      (Nat.toDigits 10 n ++ tail).dropWhile Char.isDigit = tail := by
  have hdigits : ∀ c ∈ Nat.toDigits 10 n, c.isDigit = true := fun _ => isDigit_of_mem_toDigits
  rw [List.takeWhile_append_of_pos hdigits, List.dropWhile_append_of_pos hdigits]
  cases tail with
  | nil => simp
  | cons c cs =>
    have hc : c.isDigit = false := h c rfl
    simp [hc]

/-- A text of digits begins with no sign. -/
theorem toDigits_ne_cons {n : Nat} {c : Char} (hc : c.isDigit = false) (cs tail : List Char) :
    Nat.toDigits 10 n ++ tail ≠ c :: cs := by
  intro h
  cases hdigits : Nat.toDigits 10 n with
  | nil => exact Nat.toDigits_ne_nil hdigits
  | cons d ds =>
    rw [hdigits, List.cons_append, List.cons.injEq] at h
    have hd : d.isDigit = true := isDigit_of_mem_toDigits (n := n) (by simp [hdigits])
    rw [h.1, hc] at hd
    cases hd

theorem readExponent_wholeChars (i : Int) : readExponent (wholeChars i) = some i := by
  have hvalue (n : Nat) : (if Nat.toDigits 10 n ≠ [] ∧ (Nat.toDigits 10 n).all Char.isDigit then
      some (ofDigits (Nat.toDigits 10 n)) else none) = some n := by
    rw [if_pos ⟨Nat.toDigits_ne_nil, toDigits_all_isDigit n⟩, ofDigits_toDigits]
  unfold wholeChars
  split
  · next h =>
    unfold readExponent
    split
    · next heq => exact absurd heq (by simpa using toDigits_ne_cons (by decide) _ [])
    · next heq => exact absurd heq (by simpa using toDigits_ne_cons (by decide) _ [])
    · simp only [hvalue]
      simp [Int.toNat_of_nonneg h]
  · next h =>
    simp only [readExponent, hvalue]
    simp only [Option.map_eq_map, Option.map_some, Option.some.injEq]
    omega

/-- What stands behind the digits of the mantissa. -/
def powerChars (exponent : Int) : List Char :=
  if exponent = 0 then [] else 'e' :: wholeChars exponent

theorem toList_render (d : Decimal) :
    d.render.toList = wholeChars d.mantissa ++ powerChars d.exponent := by
  unfold render powerChars
  split
  · rw [toList_toString, List.append_nil]
  · rw [String.toList_append, String.toList_append, toList_toString, toList_toString,
      List.append_assoc]
    rfl

theorem powerChars_apart (exponent : Int) : Apart (powerChars exponent) := by
  intro c hc
  unfold powerChars at hc
  split at hc
  · simp at hc
  · cases hc
    decide

theorem toDigits_proper (n : Nat) : Nat.toDigits 10 n ≠ [] ∧
    ((Nat.toDigits 10 n).length = 1 ∨ (Nat.toDigits 10 n).head? ≠ some '0') := by
  refine ⟨Nat.toDigits_ne_nil, ?_⟩
  by_cases hn : n = 0
  · left
    rw [hn, Nat.toDigits_zero]
    rfl
  · exact .inr (head?_toDigits (Nat.pos_of_ne_zero hn))

theorem readUnsigned_toDigits (n : Nat) (e : Int) :
    readUnsigned (Nat.toDigits 10 n ++ powerChars e) = some ⟨n, e⟩ := by
  obtain ⟨hwhole, hrest⟩ := takeWhile_toDigits n (powerChars_apart e)
  have hproper : (guard (Nat.toDigits 10 n ≠ [] ∧ ((Nat.toDigits 10 n).length = 1 ∨
      (Nat.toDigits 10 n).head? ≠ some '0')) : Option Unit) = some () :=
    if_pos (toDigits_proper n)
  rw [readUnsigned, hwhole, hrest]
  dsimp only
  rw [hproper]
  by_cases he : e = 0
  · simp [powerChars, he, ofDigits_toDigits]
  · simp [powerChars, he, ofDigits_toDigits, readExponent_wholeChars]

theorem read?_render (d : Decimal) : read? d.render.toList = some d := by
  obtain ⟨m, e⟩ := d
  rw [toList_render]
  by_cases hm : 0 ≤ m
  · rw [wholeChars, if_pos hm]
    unfold read?
    split
    · next rest heq => exact absurd heq (toDigits_ne_cons (by decide) _ _)
    · simp [readUnsigned_toDigits, Int.toNat_of_nonneg hm]
  · rw [wholeChars, if_neg hm, List.cons_append]
    simp only [read?, readUnsigned_toDigits, Option.map_eq_map, Option.map_some,
      Option.some.injEq, mk.injEq, and_true]
    omega

end SchemaLoom.Decimal
