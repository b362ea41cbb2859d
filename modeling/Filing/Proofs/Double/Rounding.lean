import Filing.Double.Shortest

/-!
# Rounding

A ratio rounds the same in every form, and the magnitude of a finite double, written out exactly, rounds
to that double. The shortest decimal of a finite double therefore always rounds to it: the search only
stops at decimals that do, and its last resort is the exact decimal.
-/

namespace Filing.Double

theorem roundDiv_mul_right (num den : Nat) {k : Nat} (hk : 0 < k) :
    roundDiv (num * k) (den * k) = roundDiv num den := by
  have hlt (a b : Nat) : a * k < b * k ↔ a < b := Nat.mul_lt_mul_right hk
  simp only [roundDiv, Nat.mul_div_mul_right _ _ hk, Nat.mul_mod_mul_right, ← Nat.mul_assoc, hlt]

theorem roundDiv_exact (q : Nat) {den : Nat} (h : 0 < den) : roundDiv (q * den) den = q := by
  simp only [roundDiv, Nat.mul_div_cancel _ h, Nat.mul_mod_left, Nat.mul_zero, h, if_true]

theorem roundRatio_mul_right (num den : Nat) {k : Nat} (hk : 0 < k) :
    roundRatio (num * k) (den * k) = roundRatio num den := by
  have hnum : num * k * unitsPerOne = num * unitsPerOne * k := Nat.mul_right_comm ..
  have hden (p : Nat) : den * k * p = den * p * k := Nat.mul_right_comm ..
  simp only [roundRatio, hnum, hden, Nat.mul_div_mul_right _ _ hk, roundDiv_mul_right _ _ hk]

theorem fractionCount_pos : 0 < fractionCount := Nat.pow_pos (by omega)

theorem unitsPerOne_pos : 0 < unitsPerOne := by decide +kernel

theorem unitsPerOne_eq : unitsPerOne = Nat.pow 2 1074 := by decide +kernel

-- Nothing below is to compute this number.
attribute [local irreducible] unitsPerOne

theorem scale_add_significand (x : Double) :
    x.scale * fractionCount + x.significand = x.magnitudeBits := by
  have hpos := fractionCount_pos
  simp only [scale, significand]
  generalize x.magnitudeBits = m
  split
  · rename_i h
    rw [Nat.div_eq_of_lt h, Nat.zero_sub, Nat.zero_mul, Nat.zero_add]
  · rename_i h
    have hdiv : 1 ≤ m / fractionCount := (Nat.one_le_div_iff hpos).mpr (Nat.not_lt.mp h)
    have hm := Nat.div_add_mod m fractionCount
    have hsub : (m / fractionCount - 1) * fractionCount + fractionCount =
        m / fractionCount * fractionCount := by
      rw [← Nat.succ_mul, Nat.succ_eq_add_one, Nat.sub_add_cancel hdiv]
    rw [Nat.mul_comm] at hm
    omega

theorem significand_lt (x : Double) : x.significand < 2 * fractionCount := by
  have hpos := fractionCount_pos
  have hmod := Nat.mod_lt x.magnitudeBits hpos
  unfold significand
  split <;> omega

theorem le_significand {x : Double} (h : 0 < x.scale) : fractionCount ≤ x.significand := by
  have hpos := fractionCount_pos
  unfold significand
  split
  · rename_i hlt
    rw [scale, Nat.div_eq_of_lt hlt] at h
    omega
  · exact Nat.le_add_left ..

theorem scale_eq (x : Double) :
    (if x.units < 2 * fractionCount then 0 else x.units.log2 - 52) = x.scale := by
  have hlt := x.significand_lt
  by_cases hs : x.scale = 0
  · have hu : x.units = x.significand := by
      rw [units, hs]
      exact Nat.mul_one _
    rw [hu, if_pos hlt, hs]
  · have hle := le_significand (Nat.pos_of_ne_zero hs)
    have hp : 2 ≤ Nat.pow 2 x.scale := Nat.le_pow (Nat.pos_of_ne_zero hs)
    have hu : 2 * fractionCount ≤ x.units := by
      rw [Nat.mul_comm]
      exact Nat.mul_le_mul hle hp
    have hlog : x.units.log2 = 52 + x.scale := by
      have hne : x.units ≠ 0 := by
        have hpos := fractionCount_pos
        omega
      refine (Nat.log2_eq_iff hne).mpr ⟨?_, ?_⟩
      · rw [Nat.pow_add]
        exact Nat.mul_le_mul_right _ hle
      · rw [Nat.add_right_comm, Nat.pow_add]
        exact Nat.mul_lt_mul_of_pos_right hlt (Nat.pow_pos (by omega))
    rw [if_neg (Nat.not_lt.mpr hu), hlog, Nat.add_sub_cancel_left]

theorem roundRatio_units {x : Double} (hx : x.isFinite) :
    roundRatio x.units unitsPerOne = x.magnitudeBits := by
  have hfin : x.magnitudeBits < infinityBits := of_decide_eq_true hx
  have hpow : 0 < Nat.pow 2 x.scale := Nat.pow_pos (by omega)
  have hdiv : roundDiv (x.units * unitsPerOne) (unitsPerOne * Nat.pow 2 x.scale) = x.significand := by
    rw [Nat.mul_comm unitsPerOne, roundDiv_mul_right _ _ unitsPerOne_pos]
    exact roundDiv_exact _ hpow
  simp only [roundRatio, Nat.mul_div_cancel _ unitsPerOne_pos, scale_eq, hdiv, scale_add_significand]
  exact Nat.min_eq_right (Nat.le_of_lt hfin)

theorem units_pos {x : Double} (h : x.magnitudeBits ≠ 0) : 0 < x.units := by
  have hpos := fractionCount_pos
  have hs : 0 < x.significand := by
    unfold significand
    split <;> omega
  exact Nat.mul_pos hs (Nat.pow_pos (by omega))

theorem roundRatio_pow_ten (num n : Nat) :
    roundRatio (num * Nat.pow 5 n) (Nat.pow 10 n) = roundRatio num (Nat.pow 2 n) := by
  have hten : Nat.pow 10 n = Nat.pow 2 n * Nat.pow 5 n := Nat.mul_pow 2 5 n
  rw [hten]
  exact roundRatio_mul_right _ _ (Nat.pow_pos (by omega))

theorem roundDecimal_neg {digits n : Nat} (hd : digits ≠ 0) (hn : 0 < n) (hl : n ≤ 1200) :
    roundDecimal digits (-n) = roundRatio digits (Nat.pow 10 n) := by
  have hnat : (-(-(n : Int))).toNat = n := by omega
  rw [roundDecimal, if_neg hd, if_neg (by omega), if_neg (by omega), if_neg (by omega), hnat]

theorem readsBack_of_unitsPerOne {x : Double} (hx : x.isFinite) (h : x.magnitudeBits ≠ 0) {n : Nat} (hn : 0 < n)
    (hl : n ≤ 1200) (hunits : unitsPerOne = Nat.pow 2 n) {d : Decimal} (hd : d.digits = x.units * Nat.pow 5 n)
    (he : d.exponent = -n) : x.readsBack d := by
  have hdigits : x.units * Nat.pow 5 n ≠ 0 := Nat.ne_of_gt (Nat.mul_pos (units_pos h) (Nat.pow_pos (by omega)))
  have hround := roundDecimal_neg hdigits hn hl
  rw [roundRatio_pow_ten, ← hunits, roundRatio_units hx, ← hd, ← he] at hround
  exact beq_iff_eq.mpr hround

theorem readsBack_exactDecimal {x : Double} (hx : x.isFinite) (h : x.magnitudeBits ≠ 0) :
    x.readsBack x.exactDecimal := by
  refine readsBack_of_unitsPerOne hx h ?_ ?_ unitsPerOne_eq ?_ ?_
  · decide
  · decide
  · rw [exactDecimal]
  · rw [exactDecimal]
    rfl

theorem readsBack_of_onGrid? {x : Double} {e : Int} {d : Decimal} (h : x.onGrid? e = some d) :
    x.readsBack d := by
  simp only [onGrid?] at h
  split at h
  all_goals
    split at h
    · rename_i hr
      obtain rfl := Option.some.inj h
      exact (Bool.and_eq_true_iff.mp hr).2
    · split at h
      · rename_i hr
        obtain rfl := Option.some.inj h
        exact (Bool.and_eq_true_iff.mp hr).2
      · cases h

theorem firstOnGrid_succ (x : Double) (top : Int) (fuel : Nat) :
    x.firstOnGrid top (fuel + 1) =
      match x.onGrid? top with
      | some d => d
      | none => x.firstOnGrid (top - 1) fuel := rfl

theorem readsBack_firstOnGrid {x : Double} (hx : x.isFinite) (h : x.magnitudeBits ≠ 0) :
    ∀ (fuel : Nat) (top : Int), x.readsBack (x.firstOnGrid top fuel) := by
  intro fuel
  induction fuel with
  | zero => exact fun _ => readsBack_exactDecimal hx h
  | succ fuel ih =>
    intro top
    rw [firstOnGrid_succ]
    cases hd : x.onGrid? top with
    | some d => exact readsBack_of_onGrid? hd
    | none => exact ih _

/-- The shortest decimal of a finite double rounds to it. -/
theorem roundDecimal_shortest {x : Double} (hx : x.isFinite) :
    roundDecimal x.shortest.digits x.shortest.exponent = x.magnitudeBits := by
  by_cases h : x.magnitudeBits = 0
  · rw [shortest, if_pos h, h]
    simp only [roundDecimal, if_true]
  · rw [shortest, if_neg h]
    exact beq_iff_eq.mp (readsBack_firstOnGrid hx h _ _)

end Filing.Double
