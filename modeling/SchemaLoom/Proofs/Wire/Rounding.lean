import Mathlib
import SchemaLoom.Proofs.Wire.Double

/-!
# The double nearest to an integer

The double made from an integer is the nearest one: the doubles around an integer of more than
fifty-three bits are the multiples of one power of two, and its digits above that power are rounded,
a half to even.
-/
namespace SchemaLoom

namespace Nearest

/-- The rounded quotient is at most half a unit off, and it is even where it is exactly half a unit
off. -/
theorem quotient_error (n : ℕ) {unit : ℕ} (hunit : 0 < unit) :
    2 * |(n : ℤ) - quotient n unit * unit| ≤ unit ∧
      (2 * |(n : ℤ) - quotient n unit * unit| = unit → quotient n unit % 2 = 0) := by
  have hdiv : (n : ℤ) = unit * (n / unit : ℕ) + (n % unit : ℕ) := by
    exact_mod_cast (Nat.div_add_mod n unit).symm
  have hmod := Nat.mod_lt n hunit
  unfold quotient
  dsimp only
  split
  · rename_i hup
    have herror : (n : ℤ) - ((n / unit + 1 : ℕ) : ℤ) * unit = -(unit - (n % unit : ℕ)) := by
      rw [hdiv]
      push_cast
      ring
    rw [herror, abs_neg, abs_of_nonneg (by omega)]
    constructor
    · omega
    · omega
  · rename_i hdown
    have herror : (n : ℤ) - ((n / unit : ℕ) : ℤ) * unit = (n % unit : ℕ) := by
      rw [hdiv]
      ring
    rw [herror, abs_of_nonneg (by omega)]
    constructor
    · omega
    · omega

/-- No multiple of the unit is nearer, and none is as near unless the quotient is even. -/
theorem quotient_nearest (n : ℕ) {unit : ℕ} (hunit : 0 < unit) (t : ℤ) :
    |(n : ℤ) - quotient n unit * unit| ≤ |(n : ℤ) - t * unit| ∧
      (|(n : ℤ) - quotient n unit * unit| = |(n : ℤ) - t * unit| →
        t = quotient n unit ∨ quotient n unit % 2 = 0) := by
  obtain ⟨hhalf, heven⟩ := quotient_error n hunit
  generalize quotient n unit = q at hhalf heven ⊢
  by_cases ht : t = q
  · subst ht
    exact ⟨le_rfl, fun _ => .inl rfl⟩
  · -- two multiples are a unit apart, so one of them is at least half a unit off
    have hapart : (unit : ℤ) ≤ |((n : ℤ) - q * unit) - (n - t * unit)| := by
      have hdiff : ((n : ℤ) - q * unit) - (n - t * unit) = (t - q) * unit := by ring
      rw [hdiff, abs_mul, Nat.abs_cast]
      exact le_mul_of_one_le_left (by positivity) (Int.one_le_abs (sub_ne_zero.mpr ht))
    have hsum := abs_sub ((n : ℤ) - q * unit) (n - t * unit)
    exact ⟨by omega, fun heq => .inr (heven (by omega))⟩

theorem quotient_bounds {n k b : ℕ} (hlow : 2 ^ (b + k) ≤ n) (hhigh : n < 2 ^ (b + 1 + k)) :
    2 ^ b ≤ quotient n (2 ^ k) ∧ quotient n (2 ^ k) ≤ 2 ^ (b + 1) := by
  have hfloor : 2 ^ b ≤ n / 2 ^ k := by
    rw [Nat.le_div_iff_mul_le (Nat.two_pow_pos k), ← Nat.pow_add]
    exact hlow
  have hceil : n / 2 ^ k < 2 ^ (b + 1) := by
    rw [Nat.div_lt_iff_lt_mul (Nat.two_pow_pos k), ← Nat.pow_add]
    exact hhigh
  unfold quotient
  dsimp only
  split <;> omega

end Nearest

namespace Double

theorem abs_value? {d : Double} {w : ℚ} (h : d.value? = some w) :
    ∃ (m : ℕ) (e : ℤ), m < 2 ^ 53 ∧ |w| = m * 2 ^ e := by
  obtain ⟨negative, m, e, hview, rfl⟩ := exists_view h
  refine ⟨m, e, (bounds_of_view hview).1, ?_⟩
  rw [abs_signed, abs_of_nonneg (by positivity)]

/-- From `2 ^ (52 + k)` on, doubles are multiples of `2 ^ k`. -/
theorem multiple_of_le {d : Double} {w : ℚ} (h : d.value? = some w) {k : ℕ}
    (hle : 2 ^ (52 + k) ≤ |w|) : ∃ t : ℤ, w = t * 2 ^ k := by
  obtain ⟨m, e, hm, habs⟩ := abs_value? h
  have hexponent : (k : ℤ) ≤ e := by
    have hlt : (2 : ℚ) ^ ((52 + k : ℕ) : ℤ) < 2 ^ ((53 : ℕ) + e : ℤ) := by
      calc (2 : ℚ) ^ ((52 + k : ℕ) : ℤ) ≤ m * 2 ^ e := by
            rw [zpow_natCast, ← habs]
            exact hle
        _ < 2 ^ 53 * 2 ^ e := by
            have : (m : ℚ) < 2 ^ 53 := by exact_mod_cast hm
            gcongr
        _ = 2 ^ ((53 : ℕ) + e : ℤ) := by
            rw [zpow_add₀ two_ne_zero, zpow_natCast]
    have := (zpow_lt_zpow_iff_right₀ one_lt_two).mp hlt
    omega
  obtain ⟨j, hj⟩ := Int.le.dest hexponent
  have hgrid : |w| = ((m * 2 ^ j : ℤ) : ℚ) * 2 ^ k := by
    rw [habs, ← hj, add_comm, zpow_add₀ two_ne_zero, zpow_natCast, zpow_natCast]
    push_cast
    ring
  rcases abs_choice w with hw | hw
  · exact ⟨m * 2 ^ j, by rw [← hw, hgrid]⟩
  · exact ⟨-(m * 2 ^ j), by rw [Int.cast_neg, neg_mul, ← hgrid, hw, neg_neg]⟩

/-- The double of an integer with `k` bits more than fit into it: these bits are rounded away. -/
theorem ofInt_long {i : ℤ} {k : ℕ} (hlog : i.natAbs.log2 = 52 + k) (hpos : 0 < k) (hk : k ≤ 970) :
    (ofInt i).value? = some (signed (i < 0) (Nearest.quotient i.natAbs (2 ^ k) * 2 ^ k)) ∧
      (Nearest.quotient i.natAbs (2 ^ k) % 2 = 0 → (ofInt i).fraction % 2 = 0) := by
  have hne : i.natAbs ≠ 0 := by
    intro hzero
    rw [hzero, Nat.log2_zero] at hlog
    omega
  have hlow : 2 ^ (52 + k) ≤ i.natAbs := hlog ▸ Nat.log2_self_le hne
  have hhigh : i.natAbs < 2 ^ (52 + 1 + k) := by
    rw [show 52 + 1 + k = i.natAbs.log2 + 1 by omega]
    exact Nat.lt_log2_self
  obtain ⟨hq, hq'⟩ := Nearest.quotient_bounds hlow hhigh
  have hbits : nearestBits i.natAbs =
      (k + 1075) * 2 ^ 52 + (Nearest.quotient i.natAbs (2 ^ k) - 2 ^ 52) := by
    unfold nearestBits
    dsimp only
    rw [hlog, if_neg (by omega), Nat.pow_eq, Nat.pow_eq, Nat.add_sub_cancel_left]
    congr 2
    omega
  generalize Nearest.quotient i.natAbs (2 ^ k) = q at hq hq' hbits ⊢
  -- rounding up to a power of two carries into the exponent
  obtain ⟨e, f, hf, hexp, hexp', hbits, hvalue, heven⟩ : ∃ e f : ℕ, f < 2 ^ 52 ∧ k + 1075 ≤ e ∧
      e < 2047 ∧ nearestBits i.natAbs = e * 2 ^ 52 + f ∧
      (2 ^ 52 + f) * 2 ^ (e - 1075) = q * 2 ^ k ∧ (q % 2 = 0 → f % 2 = 0) := by
    by_cases hcarry : q = 2 ^ 53
    · have hnext : nearestBits i.natAbs = (k + 1076) * 2 ^ 52 + 0 := by
        rw [hbits, hcarry]
        omega
      refine ⟨k + 1076, 0, by omega, by omega, by omega, hnext, ?_, fun _ => rfl⟩
      rw [hcarry, show k + 1076 - 1075 = k + 1 by omega, pow_succ 2 k]
      ring
    · refine ⟨k + 1075, q - 2 ^ 52, by omega, le_rfl, by omega, hbits, ?_, by omega⟩
      rw [Nat.add_sub_cancel' hq, Nat.add_sub_cancel]
  have hfields : (ofInt i).bits.toNat = (if decide (i < 0) then 2 ^ 63 else 0) + e * 2 ^ 52 + f := by
    rw [ofInt, if_neg (by omega), UInt64.toNat_ofNat', hbits]
    simp only [Nat.pow_eq, decide_eq_true_eq]
    split <;> omega
  constructor
  · rw [value?_of_view (view_of_fields hfields (by omega) hexp' hf),
      show (e : ℤ) - 1075 = ((e - 1075 : ℕ) : ℤ) by omega, zpow_natCast]
    have hvalue : ((2 ^ 52 + f : ℕ) : ℚ) * 2 ^ (e - 1075) = q * 2 ^ k := by exact_mod_cast hvalue
    rw [hvalue]
  · rw [(fields_eq hfields hexp' hf).2.2]
    exact heven

/-- A multiple of `2 ^ k` nearest to a number from `2 ^ (52 + k)` on is nearer to it than any number
below `2 ^ (52 + k)`. -/
theorem quotient_nearest_of_grid {n k : ℕ} (hlow : 2 ^ (52 + k) ≤ n) {w : ℚ}
    (hw : w < 2 ^ (52 + k) ∨ ∃ t : ℤ, w = t * 2 ^ k) :
    |(Nearest.quotient n (2 ^ k) * 2 ^ k : ℚ) - n| ≤ |w - n| ∧
      (|(Nearest.quotient n (2 ^ k) * 2 ^ k : ℚ) - n| = |w - n| →
        w = Nearest.quotient n (2 ^ k) * 2 ^ k ∨ Nearest.quotient n (2 ^ k) % 2 = 0) := by
  have hnearest (t : ℤ) := Nearest.quotient_nearest n (Nat.two_pow_pos k) t
  generalize Nearest.quotient n (2 ^ k) = q at hnearest ⊢
  have hcast (t : ℤ) : |(t : ℚ) * 2 ^ k - n| = ((|(n : ℤ) - t * (2 ^ k : ℕ)| : ℤ) : ℚ) := by
    push_cast
    exact abs_sub_comm _ _
  have hq : |(q : ℚ) * 2 ^ k - n| = ((|(n : ℤ) - q * (2 ^ k : ℕ)| : ℤ) : ℚ) := by
    exact_mod_cast hcast q
  rw [hq]
  rcases hw with hw | ⟨t, rfl⟩
  · have hgrid : ((|(n : ℤ) - q * (2 ^ k : ℕ)| : ℤ) : ℚ) ≤ n - 2 ^ (52 + k) := by
      have hmultiple := (hnearest (2 ^ 52)).1
      have hdistance : |(n : ℤ) - 2 ^ 52 * (2 ^ k : ℕ)| = (n : ℤ) - 2 ^ (52 + k) := by
        have hle : (2 : ℤ) ^ (52 + k) ≤ n := by exact_mod_cast hlow
        rw [Nat.cast_pow, Nat.cast_ofNat, ← pow_add, abs_of_nonneg (sub_nonneg.mpr hle)]
      rw [hdistance] at hmultiple
      exact_mod_cast hmultiple
    have hfar : (n : ℚ) - 2 ^ (52 + k) < |w - n| := by
      have := neg_abs_le (w - n)
      linarith
    exact ⟨by linarith, fun heq => absurd heq (by linarith)⟩
  · rw [hcast]
    obtain ⟨hle, htie⟩ := hnearest t
    refine ⟨by exact_mod_cast hle, fun heq => ?_⟩
    rcases htie (by exact_mod_cast heq) with rfl | heven
    · exact .inl (by push_cast; rfl)
    · exact .inr heven

theorem signed_signed (negative : Bool) (x : ℚ) : signed negative (signed negative x) = x := by
  cases negative <;> simp [signed]

theorem abs_sub_signed (negative : Bool) (x y : ℚ) :
    |x - signed negative y| = |signed negative x - y| := by
  cases negative
  · rfl
  · rw [signed, signed, if_pos rfl, if_pos rfl, sub_neg_eq_add, ← abs_neg, neg_add, sub_eq_add_neg]

/-- The double made from an integer is the nearest one; where another is as near, its last bit is
zero. -/
theorem ofInt_nearest {i : ℤ} (hi : i.natAbs.log2 < 1023) :
    ∃ v, (ofInt i).value? = some v ∧ ∀ (d : Double) (w : ℚ), d.value? = some w →
      |v - i| ≤ |w - i| ∧ (|v - i| = |w - i| → w = v ∨ (ofInt i).fraction % 2 = 0) := by
  by_cases hshort : i.natAbs < 2 ^ 53
  · refine ⟨i, value?_ofInt hshort, fun d w _ => ?_⟩
    rw [sub_self, abs_zero]
    refine ⟨abs_nonneg _, fun h => .inl ?_⟩
    exact sub_eq_zero.mp (abs_eq_zero.mp h.symm)
  have hne : i.natAbs ≠ 0 := by omega
  have hlong : 53 ≤ i.natAbs.log2 := (Nat.le_log2 hne).mpr (by omega)
  obtain ⟨k, hk⟩ := Nat.exists_eq_add_of_le (show 52 ≤ i.natAbs.log2 by omega)
  obtain ⟨hvalue, heven⟩ := ofInt_long hk (by omega) (by omega)
  have hlow : 2 ^ (52 + k) ≤ i.natAbs := hk ▸ Nat.log2_self_le hne
  have hsign : (i : ℚ) = signed (i < 0) i.natAbs := by
    rw [Nat.cast_natAbs]
    by_cases hneg : i < 0
    · simp [signed, hneg, abs_of_neg]
    · simp [signed, hneg, abs_of_nonneg (not_lt.mp hneg)]
  refine ⟨_, hvalue, fun d w hw => ?_⟩
  have hgrid : signed (i < 0) w < 2 ^ (52 + k) ∨ ∃ t : ℤ, signed (i < 0) w = t * 2 ^ k := by
    by_cases hsmall : |w| < 2 ^ (52 + k)
    · exact .inl ((le_abs_self _).trans_lt (by rwa [abs_signed]))
    · obtain ⟨t, rfl⟩ := multiple_of_le hw (not_lt.mp hsmall)
      right
      by_cases hneg : i < 0
      · exact ⟨-t, by simp [signed, hneg]⟩
      · exact ⟨t, by simp [signed, hneg]⟩
  obtain ⟨hle, htie⟩ := quotient_nearest_of_grid hlow hgrid
  rw [hsign, abs_sub_signed, abs_sub_signed, signed_signed]
  refine ⟨hle, fun heq => ?_⟩
  rcases htie heq with hsame | hq
  · exact .inl (by rw [← hsame, signed_signed])
  · exact .inr (heven hq)

end Double
end SchemaLoom
