import SchemaLoom.Proofs.Wire.Calendar
import SchemaLoom.Wire.Timestamp

/-!
# Timestamps are read back

A timestamp of a year with four digits is read back as it was written, whatever number of decimals
it was written with. A leap second is written as the sixtieth second of its minute; one that does
not end a minute is written, and read back, as the second after it. A year outside of four digits
is written with a sign, which no reader accepts.
-/
namespace SchemaLoom.Timestamp

theorem digit?_ofNat (n : Nat) : digit? (Char.ofNat ('0'.toNat + n % 10)) = some (n % 10) := by
  have hdigit : ∀ d < 10, digit? (Char.ofNat ('0'.toNat + d)) = some d := by decide
  exact hdigit _ (Nat.mod_lt _ (by decide))

theorem value_succ (value width n : Nat) :
    (value * 10 ^ width + n / 10 % 10 ^ width) * 10 + n % 10 =
      value * 10 ^ (width + 1) + n % 10 ^ (width + 1) := by
  have hmod : n % 10 ^ (width + 1) = n / 10 % 10 ^ width * 10 + n % 10 := by
    rw [Nat.pow_succ', Nat.mod_mul]
    omega
  rw [hmod, Nat.pow_succ, Nat.add_mul, Nat.mul_assoc]
  omega

/-- Reading as many digits as were written goes on behind them. -/
theorem readDigits_digits (value width more n : Nat) (cs : List Char) :
    readDigits value (width + more) (digits width n ++ cs) =
      readDigits (value * 10 ^ width + n % 10 ^ width) more cs := by
  induction width generalizing n more cs with
  | zero => simp [digits, Nat.mod_one]
  | succ width ih =>
    rw [digits, List.append_assoc, Nat.add_assoc, Nat.add_comm 1 more, ih, List.singleton_append,
      readDigits, digit?_ofNat]
    exact congrArg (readDigits · more cs) (value_succ ..)

theorem readDigits_exact {width n : Nat} (h : n < 10 ^ width) (cs : List Char) :
    readDigits 0 width (digits width n ++ cs) = .ok (n, cs) := by
  have hread := readDigits_digits 0 width 0 n cs
  rwa [Nat.add_zero, Nat.zero_mul, Nat.zero_add, Nat.mod_eq_of_lt h] at hread

theorem readDecimals_cons {c : Char} {d : Nat} (h : digit? c = some d) (value places : Nat)
    (cs : List Char) :
    readDecimals value (places + 1) (c :: cs) = readDecimals (value * 10 + d) places cs := by
  simp only [readDecimals, h]

theorem readDecimals_digits (value width more n : Nat) (cs : List Char) :
    readDecimals value (width + more) (digits width n ++ cs) =
      readDecimals (value * 10 ^ width + n % 10 ^ width) more cs := by
  induction width generalizing n more cs with
  | zero => simp [digits, Nat.mod_one]
  | succ width ih =>
    rw [digits, List.append_assoc, Nat.add_assoc, Nat.add_comm 1 more, ih, List.singleton_append,
      readDecimals_cons (digit?_ofNat n)]
    exact congrArg (readDecimals · more cs) (value_succ ..)

theorem length_digits (width n : Nat) : (digits width n).length = width := by
  induction width generalizing n with
  | zero => rfl
  | succ width ih => rw [digits, List.length_append, ih, List.length_singleton]

theorem digits_isDigit {width n : Nat} {c : Char} (h : c ∈ digits width n) : c.isDigit = true := by
  induction width generalizing n with
  | zero => simp [digits] at h
  | succ width ih =>
    rw [digits, List.mem_append, List.mem_singleton] at h
    rcases h with h | rfl
    · exact ih h
    · have hdigit : ∀ d < 10, (Char.ofNat ('0'.toNat + d)).isDigit = true := by decide
      exact hdigit _ (Nat.mod_lt _ (by decide))

/-- Decimals before the mark of universal time, as nanoseconds. -/
theorem readFraction_point {width places n nanos : Nat} (hwidth : width + 1 + places = 9)
    (h : n < 10 ^ (width + 1)) (hnanos : n * 10 ^ places = nanos) :
    readFraction ('.' :: digits (width + 1) n ++ ['Z']) = .ok (nanos, ['Z']) := by
  obtain ⟨c, cs, hcs⟩ : ∃ c cs, digits (width + 1) n = c :: cs :=
    List.exists_cons_of_length_eq_add_one (length_digits (width + 1) n)
  have hc : c.isDigit = true := digits_isDigit (hcs ▸ List.mem_cons_self)
  have hread := readDecimals_digits 0 (width + 1) places n ['Z']
  rw [hwidth, hcs, Nat.zero_mul, Nat.zero_add, Nat.mod_eq_of_lt h] at hread
  rw [hcs, List.cons_append, List.cons_append, readFraction, if_pos hc, ← List.cons_append, hread,
    ← hnanos]
  rfl

theorem readFraction_fractionText {nanos : Nat} (h : nanos < giga) :
    readFraction (fractionText nanos ++ ['Z']) = .ok (nanos, ['Z']) := by
  unfold giga at h
  unfold fractionText
  split
  · simp [readFraction, *]
  · split
    · exact @readFraction_point 2 6 _ _ rfl (by omega) (by omega)
    · split
      · exact @readFraction_point 5 3 _ _ rfl (by omega) (by omega)
      · exact @readFraction_point 8 0 _ _ rfl (by omega) (by omega)

theorem ok_bind {α β : Type} (a : α) (f : α → Reading β) : (Except.ok a >>= f) = f a := rfl

theorem readMark_cons {isMark : Char → Bool} {c : Char} (h : isMark c = true) (cs : List Char) :
    readMark isMark (c :: cs) = .ok ((), cs) := if_pos h

theorem readDate_text {date : Date} (hvalid : date.isValid = true)
    (hyear : 0 ≤ date.year ∧ date.year ≤ 9999) (cs : List Char) :
    readDate (yearText date.year ++ '-' :: digits 2 date.month ++ '-' :: digits 2 date.day ++ cs) =
      .ok (date, cs) := by
  obtain ⟨hmonth, hday⟩ := Date.bounds_of_isValid hvalid
  have hdate : (⟨date.year.toNat, date.month, date.day⟩ : Date) = date := by
    rw [Int.toNat_of_nonneg hyear.1]
  have hy : date.year.toNat < 10 ^ 4 := by omega
  have hm : date.month < 10 ^ 2 := by omega
  have hd : date.day < 10 ^ 2 := by omega
  simp only [yearText, if_pos hyear, List.append_assoc, List.cons_append, readDate,
    readDigits_exact hy, readDigits_exact hm, readDigits_exact hd, ok_bind, readMark_cons,
    decide_true, hdate, hvalid, if_true]

/-- The time of a day, with a leap second if the nanoseconds say so: it is read as it is at the
end of a minute and as the second after it elsewhere. -/
theorem readTime_text {second nanos : Nat} (hsecond : second < 86400) (hnanos : nanos < 2 * giga) :
    readTime (digits 2 (second / 3600) ++ ':' :: digits 2 (second / 60 % 60)
        ++ ':' :: digits 2 (second % 60 + if giga ≤ nanos then 1 else 0)
        ++ fractionText (nanos % giga) ++ ['Z']) =
      .ok (if giga ≤ nanos ∧ second % 60 ≠ 59 then ⟨second + 1, nanos - giga, by omega⟩
        else ⟨second, nanos, hnanos⟩, ['Z']) := by
  have hgiga : 0 < giga := by decide
  have hhour : second / 3600 < 10 ^ 2 := by omega
  have hminute : second / 60 % 60 < 10 ^ 2 := by omega
  have hshown : (second % 60 + if giga ≤ nanos then 1 else 0) < 10 ^ 2 := by split <;> omega
  have hfraction := readFraction_fractionText (Nat.mod_lt nanos hgiga)
  have hrest : nanos % giga = if giga ≤ nanos then nanos - giga else nanos := by
    split
    · rw [Nat.mod_eq_sub_mod (by omega), Nat.mod_eq_of_lt (by omega)]
    · rw [Nat.mod_eq_of_lt (by omega)]
  simp only [readTime, List.append_assoc, List.cons_append, readDigits_exact hhour,
    readDigits_exact hminute, readDigits_exact hshown, ok_bind, readMark_cons, decide_true,
    hfraction]
  rw [hrest]
  have hparts : second / 3600 * 3600 + second / 60 % 60 * 60 + second % 60 = second := by omega
  by_cases hleap : giga ≤ nanos
  · by_cases hend : second % 60 = 59
    · simp only [hleap, hend, if_true, ne_eq, not_true_eq_false, and_false, if_false]
      rw [dif_pos ⟨⟨by omega, by omega, by omega⟩, by omega⟩]
      rw [hend] at hparts
      exact congrArg (fun t => Except.ok (t, ['Z']))
        (TimeOfDay.ext hparts (Nat.sub_add_cancel hleap))
    · have hshort : second % 60 + 1 ≠ 60 := by omega
      simp only [hleap, hend, hshort, if_true, if_false, ne_eq, not_false_eq_true, and_true]
      rw [dif_pos ⟨⟨by omega, by omega, by omega⟩, by omega⟩]
      have hnext : second / 3600 * 3600 + second / 60 % 60 * 60 + (second % 60 + 1) = second + 1 := by
        omega
      exact congrArg (fun t => Except.ok (t, ['Z'])) (TimeOfDay.ext hnext rfl)
  · have hshort : second % 60 ≠ 60 := by omega
    simp only [hleap, hshort, if_false, false_and, Nat.add_zero]
    rw [dif_pos ⟨⟨by omega, by omega, by omega⟩, by omega⟩]
    exact congrArg (fun t => Except.ok (t, ['Z'])) (TimeOfDay.ext hparts rfl)

theorem length_le_byteLength (cs : List Char) : cs.length ≤ byteLength cs := by
  have hfold : ∀ (cs : List Char) (n : Nat),
      n + cs.length ≤ cs.foldl (fun n c => n + c.utf8Size) n := by
    intro cs
    induction cs with
    | nil => simp
    | cons c cs ih =>
      intro n
      have hsize := c.utf8Size_pos
      have hrest := ih (n + c.utf8Size)
      rw [List.length_cons, List.foldl_cons]
      omega
  simpa [byteLength] using hfold cs 0

/-- A text that reads as a date and a time, in universal time. -/
theorem parseChars_eq {cs rest : List Char} {date : Date} {time : TimeOfDay}
    (hlong : ¬byteLength cs < 19) (hdate : readDate cs = .ok (date, 'T' :: rest))
    (htime : readTime rest = .ok (time, ['Z'])) :
    parseChars cs =
      .ok ⟨(date.dayNumber - epochDay) * 86400 + time.second, time.nanos, time.nanos_lt⟩ := by
  have hoffset : readOffset ['Z'] = .ok (0, []) := rfl
  rw [parseChars, if_neg hlong, hdate]
  simp only [ok_bind, readMark_cons, decide_true, Bool.true_or, htime, hoffset, Int.sub_zero]
  rfl

def year (t : Timestamp) : Int := (Date.ofDayNumber (t.seconds / 86400 + epochDay)).year

/-- A timestamp as a clock shows it: a leap second ends a minute. A leap second elsewhere only comes
from resetting the nanoseconds of a timestamp. -/
def IsClockTime (t : Timestamp) : Prop := t.nanos < giga ∨ t.seconds % 60 = 59

instance (t : Timestamp) : Decidable t.IsClockTime :=
  inferInstanceAs (Decidable (_ ∨ _))

/-- What a timestamp is read back as: a leap second within a minute becomes the next second. -/
def settled (t : Timestamp) : Timestamp :=
  if giga ≤ t.nanos ∧ t.seconds % 60 ≠ 59 then
    ⟨t.seconds + 1, t.nanos - giga, Nat.lt_of_le_of_lt (Nat.sub_le _ _) t.nanos_lt⟩
  else t

theorem settled_eq_iff {t : Timestamp} : t.settled = t ↔ t.IsClockTime := by
  unfold settled IsClockTime
  split
  case isTrue hleap =>
    constructor
    · intro heq
      have hseconds : t.seconds + 1 = t.seconds := congrArg Timestamp.seconds heq
      omega
    · omega
  case isFalse hleap =>
    constructor
    · omega
    · intro _
      rfl

/-- A timestamp of a year with four digits is read back. -/
theorem parse_render {t : Timestamp} (hyear : 0 ≤ t.year ∧ t.year ≤ 9999) :
    parse t.render = .ok t.settled := by
  obtain ⟨day, hday⟩ : ∃ day, t.seconds / 86400 + epochDay = day := ⟨_, rfl⟩
  obtain ⟨second, hsecond⟩ : ∃ second, (t.seconds % 86400).toNat = second := ⟨_, rfl⟩
  have htime := @readTime_text second t.nanos (by omega) t.nanos_lt
  have hdate := readDate_text (Date.isValid_ofDayNumber day) (hday ▸ hyear)
  have htext : t.renderChars = yearText (Date.ofDayNumber day).year
      ++ '-' :: digits 2 (Date.ofDayNumber day).month ++ '-' :: digits 2 (Date.ofDayNumber day).day
      ++ 'T' :: (digits 2 (second / 3600) ++ ':' :: digits 2 (second / 60 % 60)
        ++ ':' :: digits 2 (second % 60 + if giga ≤ t.nanos then 1 else 0)
        ++ fractionText (t.nanos % giga) ++ ['Z']) := by
    simp only [renderChars, hday, hsecond, List.append_assoc, List.cons_append]
  have hlong : ¬byteLength t.renderChars < 19 := by
    have hlength := length_le_byteLength t.renderChars
    have hyeartext : (yearText (Date.ofDayNumber day).year).length = 4 := by
      rw [yearText, if_pos (hday ▸ hyear), length_digits]
    rw [htext] at hlength
    simp only [List.length_append, List.length_cons, length_digits, hyeartext] at hlength
    rw [htext]
    omega
  have hsame : second % 60 = 59 ↔ t.seconds % 60 = 59 := by omega
  rw [render, parse, String.toList_ofList, settled, parseChars_eq hlong (htext ▸ hdate _) htime,
    Date.dayNumber_ofDayNumber]
  by_cases hleap : giga ≤ t.nanos ∧ second % 60 ≠ 59
  · have hseconds : (day - epochDay) * 86400 + ((second + 1 : Nat) : Int) = t.seconds + 1 := by
      omega
    simp only [if_pos hleap, if_pos (show giga ≤ t.nanos ∧ t.seconds % 60 ≠ 59 by omega), hseconds]
  · have hseconds : (day - epochDay) * 86400 + (second : Int) = t.seconds := by omega
    simp only [if_neg hleap, if_neg (show ¬(giga ≤ t.nanos ∧ t.seconds % 60 ≠ 59) by omega),
      hseconds]

/-- A year outside of four digits is written with a sign. -/
theorem yearText_sign {year : Int} (h : ¬(0 ≤ year ∧ year ≤ 9999)) :
    ∃ sign rest, digit? sign = none ∧ yearText year = sign :: rest := by
  refine ⟨if year < 0 then '-' else '+', _, ?_, if_neg h⟩
  split <;> rfl

theorem renderChars_year (t : Timestamp) : ∃ rest, t.renderChars = yearText t.year ++ rest := by
  simp only [renderChars, List.append_assoc]
  exact ⟨_, rfl⟩

theorem parse_render_of_year {t : Timestamp} (hyear : ¬(0 ≤ t.year ∧ t.year ≤ 9999)) :
    ∃ fault, parse t.render = .error fault := by
  obtain ⟨sign, ds, hsign, hds⟩ := yearText_sign hyear
  obtain ⟨rest, hrest⟩ := renderChars_year t
  have hdate : readDate t.renderChars = .error .invalid := by
    rw [hrest, hds, List.cons_append, readDate, readDigits, hsign]
    rfl
  rw [render, parse, String.toList_ofList, parseChars]
  split
  · exact ⟨.short, rfl⟩
  · exact ⟨.invalid, by rw [hdate]; rfl⟩

end SchemaLoom.Timestamp
