import Filing.Proofs.Double.Rounding

/-!
# Integers as doubles

An integer of 64 bits is far below the largest double, so the double that is nearest to it is finite.
-/

namespace Filing.Double

attribute [local irreducible] unitsPerOne

theorem fractionCount_eq : fractionCount = 4503599627370496 := by decide

theorem infinityBits_eq : infinityBits = 9218868437227405312 := by decide

theorem signPlace_eq : signPlace = 9223372036854775808 := by decide

theorem roundDiv_le (num den : Nat) : roundDiv num den ≤ num / den + 1 := by
  have hmod : num / den % 2 < 2 := Nat.mod_lt _ (by omega)
  simp only [roundDiv]
  split
  · omega
  · split <;> omega

/-- The exponent is left as a variable: the power itself is too large to be looked at. -/
theorem mul_lt_pow {n u a b : Nat} (h : n < Nat.pow 2 a) (hu : u = Nat.pow 2 b) :
    ∃ e, e = a + b ∧ n * u < Nat.pow 2 e := by
  refine ⟨a + b, rfl, ?_⟩
  have hadd : Nat.pow 2 (a + b) = Nat.pow 2 a * Nat.pow 2 b := Nat.pow_add 2 a b
  rw [hadd, hu]
  exact Nat.mul_lt_mul_of_pos_right h (Nat.pow_pos (by omega))

theorem roundRatio_one_lt {n : Nat} (h : n < Nat.pow 2 64) : roundRatio n 1 < infinityBits := by
  obtain ⟨e, he, hunits⟩ := mul_lt_pow h unitsPerOne_eq
  simp only [roundRatio, Nat.div_one, Nat.one_mul]
  generalize n * unitsPerOne = u at hunits
  refine Nat.lt_of_le_of_lt (Nat.min_le_right _ _) ?_
  rw [infinityBits_eq]
  split
  · rename_i hsmall
    have hround := roundDiv_le u (Nat.pow 2 0)
    have hone : u / Nat.pow 2 0 = u := Nat.div_one u
    rw [hone] at hround
    rw [fractionCount_eq] at hsmall
    omega
  · rename_i hlarge
    rw [fractionCount_eq] at hlarge
    have hne : u ≠ 0 := by omega
    have hlow : 52 < u.log2 := (Nat.le_log2 hne).mpr (by omega)
    have hhigh : u.log2 < e := (Nat.log2_lt hne).mpr hunits
    have hquotient : u / Nat.pow 2 (u.log2 - 52) < 9007199254740992 := by
      refine Nat.div_lt_of_lt_mul ?_
      have hlt : u < 2 ^ (u.log2 + 1) := Nat.lt_log2_self
      have hsplit : (2 : Nat) ^ (u.log2 + 1) = Nat.pow 2 (u.log2 - 52) * 9007199254740992 := by
        have he : u.log2 + 1 = (u.log2 - 52) + 53 := by omega
        rw [he, Nat.pow_add]
        rfl
      rwa [← hsplit]
    have hround := roundDiv_le u (Nat.pow 2 (u.log2 - 52))
    rw [fractionCount_eq]
    omega

theorem magnitudeBits_ofMagnitude {m : Nat} (h : m < infinityBits) (negative : Bool) :
    (ofMagnitude negative m).magnitudeBits = m := by
  rw [infinityBits_eq] at h
  unfold magnitudeBits ofMagnitude
  rw [UInt64.toNat_ofNat', signPlace_eq]
  cases negative <;> simp only [Bool.false_eq_true, if_false, if_true] <;> omega

theorem isFinite_ofInt {n : Int} (h : n.natAbs < Nat.pow 2 64) : (ofInt n).isFinite = true := by
  have hlt := roundRatio_one_lt h
  unfold isFinite ofInt ofRatio
  rw [magnitudeBits_ofMagnitude hlt]
  exact decide_eq_true hlt

end Filing.Double
