import SchemaLoom.Proofs.Wire.Rounding
import SchemaLoom.Wire.Codec

/-!
# Enum numbers on the wire

An enum travels as its number, which may come back as an integer or as a double, and is read through
a double either way. An integer of more than fifty-three bits is rounded on the way, but never into
the range of the enum numbers: next to that range stands a double that is nearer. So no number is
cut off, wrapped around or rounded to that of a symbol.
-/
namespace SchemaLoom

/-- The whole number a wire value stands for. -/
def WireValue.Denotes : WireValue → ℤ → Prop
  | .int i, n => i.toInt = n
  | .float d, n => d.value? = some (n : ℚ)
  | _, _ => False

/-- Rounding does not pass over an integer that is a double itself. -/
theorem Double.value?_ofInt_between {k m j : ℤ} (hk : k.natAbs < 2 ^ 64)
    (h : (ofInt k).value? = some (m : ℚ)) (hj : j.natAbs < 2 ^ 53) :
    (j ≤ k → j ≤ m) ∧ (k ≤ j → m ≤ j) := by
  have hlog : k.natAbs.log2 < 1023 := by
    by_cases hzero : k.natAbs = 0
    · rw [hzero, Nat.log2_zero]
      decide
    · exact ((Nat.log2_lt hzero).mpr hk).trans (by decide)
  obtain ⟨v, hv, hnearest⟩ := ofInt_nearest hlog
  obtain rfl : v = m := Option.some.inj (hv.symm.trans h)
  have hdistance : |m - k| ≤ |j - k| := by
    exact_mod_cast (hnearest _ _ (value?_ofInt hj)).1
  constructor
  · intro hle
    rw [abs_of_nonpos (sub_nonpos.mpr hle)] at hdistance
    have := neg_abs_le (m - k)
    omega
  · intro hle
    rw [abs_of_nonneg (sub_nonneg.mpr hle)] at hdistance
    have := le_abs_self (m - k)
    omega

namespace Wire

/-- The test behind the point, the two comparisons and the bounded conversion let through exactly
the whole numbers of thirty-two bits. -/
theorem enumNumber?_eq_some {d : Double} {n : Int32} :
    enumNumber? d = some n ↔ d.value? = some (n.toInt : ℚ) := by
  have hmin : (Double.ofInt Int32.minValue.toInt).value? = some (Int32.minValue.toInt : ℚ) :=
    Double.value?_ofInt (by decide)
  have hmax : (Double.ofInt Int32.maxValue.toInt).value? = some (Int32.maxValue.toInt : ℚ) :=
    Double.value?_ofInt (by decide)
  have hrange {k : ℤ} (hk : d.value? = some (k : ℚ)) :
      d.compare? (Double.ofInt Int32.minValue.toInt) = some .lt ∨
        d.compare? (Double.ofInt Int32.maxValue.toInt) = some .gt ↔
      ¬(Int32.minValue.toInt ≤ k ∧ k ≤ Int32.maxValue.toInt) := by
    rw [Double.compare?_of_value hk hmin, Double.compare?_of_value hk hmax, Option.some.injEq,
      Option.some.injEq, compare_lt_iff_lt, compare_gt_iff_gt, Int.cast_lt, Int.cast_lt]
    omega
  unfold enumNumber?
  rw [Option.ite_none_left_eq_some, not_or, ne_eq, not_not, Option.some.injEq,
    Double.fract_eq_zero_iff]
  constructor
  · rintro ⟨⟨⟨k, hk⟩, hinside⟩, rfl⟩
    rw [hrange hk, not_not] at hinside
    have hsame : (Int32.ofInt k).toInt = k :=
      Int32.toInt_ofInt_of_le hinside.1 (Int.lt_add_one_of_le hinside.2)
    rw [← hsame] at hk
    rw [Double.toInt32_of_value hk]
    exact hk
  · intro hvalue
    refine ⟨⟨⟨_, hvalue⟩, ?_⟩, Double.toInt32_of_value hvalue⟩
    rw [hrange hvalue, not_not]
    exact ⟨n.minValue_le_toInt, n.toInt_le⟩

/-- An integer is read as an enum number only if it is that number. -/
theorem enumNumber?_ofInt_eq_some {i : Int64} {n : Int32} :
    enumNumber? (Double.ofInt i.toInt) = some n ↔ i.toInt = n.toInt := by
  have hilow := i.le_toInt
  have hihigh := i.toInt_lt
  have hnlow := n.le_toInt
  have hnhigh := n.toInt_lt
  rw [enumNumber?_eq_some]
  constructor
  · intro h
    have hbetween {j : ℤ} (hj : j.natAbs < 2 ^ 53) :=
      Double.value?_ofInt_between (by omega : i.toInt.natAbs < 2 ^ 64) h hj
    by_cases hrange : i.toInt.natAbs < 2 ^ 53
    · rw [Double.value?_ofInt hrange] at h
      exact_mod_cast Option.some.inj h
    · -- beyond the exact integers, the first double past the enum numbers stands in between
      have habove := (hbetween (j := 2 ^ 31) (by decide)).1
      have hbelow := (hbetween (j := -2 ^ 31 - 1) (by decide)).2
      omega
  · intro h
    rw [h]
    exact Double.value?_ofInt (by omega)

theorem toEnum_of_toDouble {E : Type} {codec : EnumCodec E} {w : WireValue} {d : Double} {e : E}
    (h : toDouble w = .ok d) :
    toEnum codec w = .ok e ↔ ∃ n, enumNumber? d = some n ∧ codec.ofNumber n = some e := by
  simp only [toEnum, h, bind, Except.bind]
  cases enumNumber? d with
  | none => simp
  | some n => cases hn : codec.ofNumber n <;> simp [hn]

/-- A symbol is read exactly from what denotes its number. -/
theorem toEnum_eq_ok_iff {E : Type} {codec : EnumCodec E} {w : WireValue} {e : E} :
    toEnum codec w = .ok e ↔ ∃ n : Int32, w.Denotes n.toInt ∧ codec.ofNumber n = some e := by
  cases w with
  | int i =>
    rw [toEnum_of_toDouble rfl]
    exact exists_congr fun n => and_congr_left fun _ => enumNumber?_ofInt_eq_some
  | float d =>
    rw [toEnum_of_toDouble rfl]
    refine exists_congr fun n => and_congr_left fun _ => ?_
    rw [enumNumber?_eq_some]
    rfl
  | _ => exact iff_of_false nofun fun ⟨_, h, _⟩ => h

end Wire

/-- A wire value is read as a symbol exactly if it denotes the number of the symbol: a whole number
of thirty-two bits, as an integer or as a double of exactly this value. From every other wire value
no symbol is read, but an error. -/
theorem enum_numbers_exact {E : Type} (codec : EnumCodec E) (w : WireValue) :
    (∀ e, Wire.toEnum codec w = .ok e ↔ ∃ n : ℤ, -2 ^ 31 ≤ n ∧ n < 2 ^ 31 ∧
      codec.ofNumber (Int32.ofInt n) = some e ∧ w.Denotes n) ∧
    ((∃ fault, Wire.toEnum codec w = .error fault) ↔ ¬∃ (e : E) (n : ℤ), -2 ^ 31 ≤ n ∧ n < 2 ^ 31 ∧
      codec.ofNumber (Int32.ofInt n) = some e ∧ w.Denotes n) := by
  have hread (e : E) : Wire.toEnum codec w = .ok e ↔ ∃ n : ℤ, -2 ^ 31 ≤ n ∧ n < 2 ^ 31 ∧
      codec.ofNumber (Int32.ofInt n) = some e ∧ w.Denotes n := by
    rw [Wire.toEnum_eq_ok_iff]
    constructor
    · rintro ⟨n, hw, he⟩
      exact ⟨n.toInt, n.le_toInt, n.toInt_lt, by rwa [Int32.ofInt_toInt], hw⟩
    · rintro ⟨n, hlow, hhigh, he, hw⟩
      exact ⟨Int32.ofInt n, by rwa [Int32.toInt_ofInt_of_le hlow hhigh], he⟩
  refine ⟨hread, ?_⟩
  simp only [← hread]
  cases Wire.toEnum codec w <;> simp

/-- The two zeros are one number; next to the largest enum number and at a half there is none. -/
example : (Double.ofInt 0).value? = some 0 ∧ (⟨0x8000000000000000⟩ : Double).value? = some 0 ∧
    Wire.enumNumber? ⟨0x41E0000000000000⟩ = none ∧ Wire.enumNumber? ⟨0x3FE0000000000000⟩ = none ∧
    Wire.enumNumber? ⟨0xC1E0000000000000⟩ = some Int32.minValue := by
  decide +kernel

end SchemaLoom
