import Mathlib
import SchemaLoom.Wire.Double

/-!
# What doubles denote

A finite double denotes a whole number of powers of two, and the operations on doubles are
operations on these numbers: doubles compare as their numbers do, the part behind the point is taken
without rounding, and an integer of at most fifty-three bits is a double exactly.
-/
namespace SchemaLoom.Double

def signed (negative : Bool) (x : ℚ) : ℚ := if negative then -x else x

@[simp] theorem abs_signed (negative : Bool) (x : ℚ) : |signed negative x| = |x| := by
  cases negative <;> simp [signed]

theorem signed_add (negative : Bool) (x y : ℚ) :
    signed negative (x + y) = signed negative x + signed negative y := by
  cases negative
  · rfl
  · exact neg_add x y

theorem cast_withSign (negative : Bool) (n : ℕ) :
    ((withSign negative n : ℤ) : ℚ) = signed negative n := by
  cases negative <;> simp [withSign, signed]

/-- The number a double denotes. The infinities and what is no number denote none. -/
def value? (d : Double) : Option ℚ :=
  match d.view with
  | .finite negative mantissa exponent => some (signed negative (mantissa * 2 ^ exponent))
  | _ => none

theorem value?_of_view {d : Double} {negative : Bool} {m : ℕ} {e : ℤ}
    (h : d.view = .finite negative m e) : d.value? = some (signed negative (m * 2 ^ e)) := by
  rw [value?, h]

theorem exists_view {d : Double} {w : ℚ} (h : d.value? = some w) :
    ∃ negative m e, d.view = .finite negative m e ∧ w = signed negative (m * 2 ^ e) := by
  unfold value? at h
  split at h
  · rename_i negative m e hview
    exact ⟨negative, m, e, hview, (Option.some.inj h).symm⟩
  · cases h

/-- A double has at most fifty-three bits, none of them below the lowest exponent. -/
theorem bounds_of_view {d : Double} {negative : Bool} {m : ℕ} {e : ℤ}
    (h : d.view = .finite negative m e) : m < 2 ^ 53 ∧ -1074 ≤ e := by
  have hfraction : d.fraction < 2 ^ 52 := Nat.mod_lt _ (by decide)
  unfold view at h
  split at h
  · split at h <;> cases h
  · split at h <;> cases h
    · omega
    · rw [Nat.pow_eq]
      omega

/-! ## Doubles from their fields -/

section Fields

variable {d : Double} {negative : Bool} {e f : ℕ}

theorem fields_eq (hbits : d.bits.toNat = (if negative then 2 ^ 63 else 0) + e * 2 ^ 52 + f)
    (he : e < 2047) (hf : f < 2 ^ 52) :
    d.isNegative = negative ∧ d.exponentField = e ∧ d.fraction = f := by
  refine ⟨?_, ?_, ?_⟩
  · cases negative <;> simp [isNegative, hbits] <;> omega
  · cases negative <;> simp [exponentField, hbits] <;> omega
  · cases negative <;> simp [fraction, hbits] <;> omega

/-- The view of a normal number, put together from its fields. -/
theorem view_of_fields (hbits : d.bits.toNat = (if negative then 2 ^ 63 else 0) + e * 2 ^ 52 + f)
    (hpos : 0 < e) (htop : e < 2047) (hf : f < 2 ^ 52) :
    d.view = .finite negative (2 ^ 52 + f) (e - 1075) := by
  obtain ⟨hneg, hexp, hfrac⟩ := fields_eq hbits htop hf
  unfold view
  rw [hneg, hexp, hfrac, if_neg (by omega), if_neg (by omega), Nat.pow_eq]

/-- The view of a number that is too small for a leading bit. -/
theorem view_of_fraction (hbits : d.bits.toNat = (if negative then 2 ^ 63 else 0) + f)
    (hf : f < 2 ^ 52) : d.view = .finite negative f (-1074) := by
  have hfields : d.bits.toNat = (if negative then 2 ^ 63 else 0) + 0 * 2 ^ 52 + f := by
    rw [hbits, Nat.zero_mul, Nat.add_zero]
  obtain ⟨hneg, hexp, hfrac⟩ := fields_eq hfields (by decide) hf
  unfold view
  rw [hneg, hexp, hfrac, if_neg (by decide), if_pos rfl]

end Fields

/-- The digits of a number of at most fifty-three bits, moved to the top of the mantissa. -/
theorem exists_leading {n : ℕ} (hn : n ≠ 0) (h : n < 2 ^ 53) :
    n.log2 ≤ 52 ∧ ∃ f < 2 ^ 52, n * 2 ^ (52 - n.log2) = 2 ^ 52 + f := by
  have hlog : n.log2 < 53 := (Nat.log2_lt hn).mpr h
  have htop : n.log2 ≤ 52 := by omega
  have hlow : 2 ^ 52 ≤ n * 2 ^ (52 - n.log2) := by
    calc 2 ^ 52 = 2 ^ n.log2 * 2 ^ (52 - n.log2) := by rw [← Nat.pow_add, Nat.add_sub_cancel' htop]
      _ ≤ n * 2 ^ (52 - n.log2) := Nat.mul_le_mul_right _ (Nat.log2_self_le hn)
  have hhigh : n * 2 ^ (52 - n.log2) < 2 ^ 53 := by
    calc n * 2 ^ (52 - n.log2) < 2 ^ (n.log2 + 1) * 2 ^ (52 - n.log2) :=
          Nat.mul_lt_mul_of_pos_right Nat.lt_log2_self (Nat.two_pow_pos _)
      _ = 2 ^ 53 := by rw [← Nat.pow_add]; congr 1; omega
  exact ⟨htop, n * 2 ^ (52 - n.log2) - 2 ^ 52, by omega, by omega⟩

/-- Digits moved to the top, with the exponent that moves them back. -/
theorem leading_value {n top f : ℕ} (htop : top ≤ 52) (h : n * 2 ^ (52 - top) = 2 ^ 52 + f) (e : ℤ) :
    ((2 ^ 52 + f : ℕ) : ℚ) * 2 ^ (top + e - 52) = n * 2 ^ e := by
  have hshift : (2 : ℚ) ^ (52 - top) = 2 ^ ((52 : ℤ) - top) := by
    rw [← zpow_natCast, Nat.cast_sub htop]
    rfl
  rw [← h, Nat.cast_mul, Nat.cast_pow, Nat.cast_ofNat, hshift, mul_assoc, ← zpow_add₀ two_ne_zero]
  congr 2
  ring

/-- An integer of at most fifty-three bits is the nearest double to itself. -/
theorem value?_ofInt {i : ℤ} (h : i.natAbs < 2 ^ 53) : (ofInt i).value? = some (i : ℚ) := by
  by_cases hzero : i = 0
  · subst hzero
    decide +kernel
  obtain ⟨htop, f, hf, hdigits⟩ := exists_leading (Int.natAbs_ne_zero.mpr hzero) h
  have hbits : nearestBits i.natAbs = (i.natAbs.log2 + 1023) * 2 ^ 52 + f := by
    unfold nearestBits
    dsimp only
    rw [if_pos htop, Nat.pow_eq, Nat.pow_eq, hdigits, Nat.add_sub_cancel_left]
  have hview : (ofInt i).view =
      .finite (i < 0) (2 ^ 52 + f) ((i.natAbs.log2 + 1023 : ℕ) - 1075) := by
    refine view_of_fields ?_ (by omega) (by omega) hf
    rw [ofInt, if_neg hzero, UInt64.toNat_ofNat', hbits]
    simp only [Nat.pow_eq, decide_eq_true_eq]
    split <;> omega
  have hexponent : ((i.natAbs.log2 + 1023 : ℕ) : ℤ) - 1075 = i.natAbs.log2 + 0 - 52 := by
    push_cast
    ring
  rw [value?_of_view hview, hexponent, leading_value htop hdigits, zpow_zero, mul_one,
    ← cast_withSign, withSign]
  simp only [decide_eq_true_eq, Option.some.injEq, Int.cast_inj]
  split <;> omega

/-- A number of at most fifty-three bits above the lowest exponent is made without rounding. -/
theorem value?_ofParts {negative : Bool} {m : ℕ} {e : ℤ} (hm : m ≠ 0) (hbound : m < 2 ^ 53)
    (hlow : -1074 ≤ e) (hhigh : e ≤ 970) :
    (ofParts negative m e).value? = some (signed negative (m * 2 ^ e)) := by
  obtain ⟨htop, f, hf, hdigits⟩ := exists_leading hm hbound
  by_cases hnormal : 1 ≤ (m.log2 : ℤ) + e + 1023
  · obtain ⟨field, hfield⟩ := Int.eq_ofNat_of_zero_le (show 0 ≤ (m.log2 : ℤ) + e + 1023 by omega)
    have hbits : (ofParts negative m e).bits.toNat =
        (if negative then 2 ^ 63 else 0) + field * 2 ^ 52 + f := by
      rw [hfield] at hnormal
      simp only [ofParts, hfield, if_pos hnormal, Int.toNat_natCast, Nat.pow_eq, hdigits,
        Nat.add_sub_cancel_left, UInt64.toNat_ofNat']
      split <;> omega
    have hexponent : (field : ℤ) - 1075 = m.log2 + e - 52 := by omega
    rw [value?_of_view (view_of_fields hbits (by omega) (by omega) hf), hexponent,
      leading_value htop hdigits]
  · obtain ⟨shift, hshift⟩ := Int.eq_ofNat_of_zero_le (show 0 ≤ e + 1074 by omega)
    have hsmall : m * 2 ^ shift < 2 ^ 52 := by
      calc m * 2 ^ shift < 2 ^ (m.log2 + 1) * 2 ^ shift :=
            Nat.mul_lt_mul_of_pos_right Nat.lt_log2_self (Nat.two_pow_pos _)
        _ = 2 ^ (m.log2 + 1 + shift) := (Nat.pow_add ..).symm
        _ ≤ 2 ^ 52 := Nat.pow_le_pow_right (by decide) (by omega)
    have hbits : (ofParts negative m e).bits.toNat =
        (if negative then 2 ^ 63 else 0) + m * 2 ^ shift := by
      simp only [ofParts, if_neg hnormal, hshift, Int.toNat_natCast, Nat.pow_eq,
        UInt64.toNat_ofNat']
      split <;> omega
    have hexponent : e = shift + (-1074) := by omega
    rw [value?_of_view (view_of_fraction hbits hsmall), hexponent, zpow_add₀ two_ne_zero,
      zpow_natCast, Nat.cast_mul, Nat.cast_pow, Nat.cast_ofNat, mul_assoc]

/-! ## Comparison -/

theorem scaled_value (negative : Bool) (m : ℕ) {e unit : ℤ} (h : unit ≤ e) :
    ((scaled negative m e unit : ℤ) : ℚ) * 2 ^ unit = signed negative (m * 2 ^ e) := by
  obtain ⟨k, rfl⟩ := Int.le.dest h
  rw [scaled, cast_withSign, add_sub_cancel_left, Int.toNat_natCast, Nat.pow_eq, Nat.cast_mul,
    Nat.cast_pow, Nat.cast_ofNat, add_comm unit, zpow_add₀ two_ne_zero, zpow_natCast, ← mul_assoc]
  cases negative <;> simp [signed]

/-- Doubles compare as the numbers they denote. -/
theorem compare?_of_value {a b : Double} {x y : ℚ} (hx : a.value? = some x)
    (hy : b.value? = some y) : a.compare? b = some (compare x y) := by
  obtain ⟨n, m, e, ha, rfl⟩ := exists_view hx
  obtain ⟨n', m', e', hb, rfl⟩ := exists_view hy
  have hmono : StrictMono fun k : ℤ => (k : ℚ) * 2 ^ min e e' := by
    intro k l hkl
    have hkl : (k : ℚ) < l := by exact_mod_cast hkl
    have hpos : (0 : ℚ) < 2 ^ min e e' := by positivity
    exact mul_lt_mul_of_pos_right hkl hpos
  have hcmp := hmono.cmp_map_eq (scaled n m e (min e e')) (scaled n' m' e' (min e e'))
  simp only [scaled_value n m (min_le_left e e'), scaled_value n' m' (min_le_right e e'),
    cmp_eq_compare] at hcmp
  rw [compare?, ha, hb]
  exact congrArg some hcmp.symm

/-! ## Before and behind the point -/

theorem whole_add_rest (m : ℕ) (e : ℤ) :
    (m : ℚ) * 2 ^ e = wholePart m e + restPart m e * 2 ^ e := by
  cases e with
  | ofNat e =>
    rw [wholePart, restPart, Nat.pow_eq, Int.ofNat_eq_natCast, zpow_natCast]
    push_cast
    ring
  | negSucc e =>
    have hunit : (2 : ℚ) ^ (e + 1) * 2 ^ Int.negSucc e = 1 := by
      rw [zpow_negSucc, mul_inv_cancel₀ (by positivity)]
    have hdiv : (m : ℚ) = 2 ^ (e + 1) * (m / 2 ^ (e + 1) : ℕ) + (m % 2 ^ (e + 1) : ℕ) := by
      exact_mod_cast (Nat.div_add_mod m (2 ^ (e + 1))).symm
    rw [wholePart, restPart, Nat.pow_eq]
    nth_rewrite 1 [hdiv]
    rw [add_mul, mul_right_comm, hunit, one_mul]

/-- The part behind the point is less than one. -/
theorem restPart_lt (m : ℕ) (e : ℤ) : (restPart m e : ℚ) * 2 ^ e < 1 := by
  cases e with
  | ofNat e => simp [restPart]
  | negSucc e =>
    have hlt : m % 2 ^ (e + 1) < 2 ^ (e + 1) := Nat.mod_lt _ (Nat.two_pow_pos _)
    have hlt : ((m % 2 ^ (e + 1) : ℕ) : ℚ) < 2 ^ (e + 1) := by exact_mod_cast hlt
    rw [restPart, Nat.pow_eq, zpow_negSucc, ← div_eq_mul_inv, div_lt_one (by positivity)]
    exact hlt

theorem restPart_le (m : ℕ) (e : ℤ) : restPart m e ≤ m := by
  cases e with
  | ofNat e => exact Nat.zero_le m
  | negSucc e => exact Nat.mod_le _ _

theorem restPart_eq_zero {m : ℕ} {e : ℤ} (h : 0 ≤ e) : restPart m e = 0 := by
  obtain ⟨k, rfl⟩ := Int.eq_ofNat_of_zero_le h
  rfl

/-- The number behind the point is a double again. -/
theorem value?_fract {d : Double} {negative : Bool} {m : ℕ} {e : ℤ}
    (h : d.view = .finite negative m e) :
    d.fract.value? = some (signed negative (restPart m e * 2 ^ e)) := by
  obtain ⟨hm, he⟩ := bounds_of_view h
  simp only [fract, h]
  split
  · rename_i hrest
    rw [hrest, Nat.cast_zero, zero_mul]
    cases negative <;> decide +kernel
  · rename_i hrest
    have hnegative : e < 0 := by
      by_contra hnot
      exact hrest (restPart_eq_zero (not_lt.mp hnot))
    exact value?_ofParts hrest ((restPart_le m e).trans_lt hm) he (by omega)

theorem compare?_nan (d : Double) : nan.compare? d = none := by
  have hnan : nan.view = .nan := by decide +kernel
  rw [compare?, hnan]

theorem value?_eq_whole_add_rest {d : Double} {negative : Bool} {m : ℕ} {e : ℤ}
    (h : d.view = .finite negative m e) :
    d.value? = some (withSign negative (wholePart m e) + signed negative (restPart m e * 2 ^ e)) := by
  rw [value?_of_view h, whole_add_rest m e, signed_add, cast_withSign]

/-- An integer is its own whole part. -/
theorem whole_of_value {d : Double} {negative : Bool} {m : ℕ} {e k : ℤ}
    (h : d.view = .finite negative m e) (hk : d.value? = some (k : ℚ)) :
    withSign negative (wholePart m e) = k ∧ signed negative (restPart m e * 2 ^ e) = 0 := by
  rw [value?_eq_whole_add_rest h, Option.some.injEq] at hk
  have hrest : signed negative (restPart m e * 2 ^ e) =
      ((k - withSign negative (wholePart m e) : ℤ) : ℚ) := by
    rw [Int.cast_sub, ← hk, add_sub_cancel_left]
  -- an integer of magnitude less than one is zero
  have hless : |((k - withSign negative (wholePart m e) : ℤ) : ℚ)| < 1 := by
    rw [← hrest, abs_signed, abs_of_nonneg (by positivity)]
    exact restPart_lt m e
  have hzero : k - withSign negative (wholePart m e) = 0 :=
    Int.abs_lt_one_iff.mp (by exact_mod_cast hless)
  exact ⟨(sub_eq_zero.mp hzero).symm, by rw [hrest, hzero, Int.cast_zero]⟩

/-- Nothing is behind the point of a double exactly if it denotes an integer. -/
theorem fract_eq_zero_iff {d : Double} :
    d.fract.compare? zero = some .eq ↔ ∃ k : ℤ, d.value? = some (k : ℚ) := by
  have hzero : zero.value? = some 0 := by decide +kernel
  cases hview : d.view with
  | nan => simp [fract, value?, hview, compare?_nan]
  | infinite negative => simp [fract, value?, hview, compare?_nan]
  | finite negative m e =>
    rw [compare?_of_value (value?_fract hview) hzero, Option.some.injEq, compare_eq_iff_eq]
    constructor
    · intro hrest
      exact ⟨_, by rw [value?_eq_whole_add_rest hview, hrest, add_zero]⟩
    · rintro ⟨k, hk⟩
      exact (whole_of_value hview hk).2

/-- A whole number of thirty-two bits is not changed by the bounds. -/
theorem toInt32_of_value {d : Double} {n : Int32} (h : d.value? = some (n.toInt : ℚ)) :
    d.toInt32 = n := by
  obtain ⟨negative, m, e, hview, -⟩ := exists_view h
  simp only [toInt32, hview, (whole_of_value hview h).1]
  rw [min_eq_right n.toInt_le, max_eq_right n.minValue_le_toInt, Int32.ofInt_toInt]

end SchemaLoom.Double
