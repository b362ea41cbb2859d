import Filing.Double.Reading
import Filing.Double.Text
import Filing.Proofs.Double.Rounding
import Mathlib.Data.List.TakeDrop

/-!
# Reading back what was written

The text of a finite double is a numeral, and reading it gives the double again. So different finite
doubles have different texts, the two zeros among them.
-/

namespace Filing.Double

theorem isDigit_of_mem_digitChars {n : Nat} {c : Char} (h : c ∈ digitChars n) : isDigit c := by
  have hd := Nat.isDigit_of_mem_toDigits (by omega) (by omega) h
  simpa [isDigit, Char.isDigit, Char.le_def] using hd

theorem digitChars_ne_nil {n : Nat} : digitChars n ≠ [] := Nat.toDigits_ne_nil

theorem natOfDigits_eq (ds : List Char) : natOfDigits ds = Nat.ofDigitChars 10 ds 0 :=
  Nat.ofDigitChars_eq_foldl.symm

@[simp] theorem natOfDigits_digitChars (n : Nat) : natOfDigits (digitChars n) = n := by
  rw [natOfDigits_eq]
  exact Nat.ofDigitChars_ten_toDigits

theorem natOfDigits_zeros_append (k : Nat) (ds : List Char) :
    natOfDigits (List.replicate k '0' ++ ds) = natOfDigits ds := by
  simp only [natOfDigits_eq, Nat.ofDigitChars_append, Nat.ofDigitChars_replicate_zero, Nat.mul_zero]

theorem natOfDigits_append_zeros (ds : List Char) (k : Nat) :
    natOfDigits (ds ++ List.replicate k '0') = natOfDigits ds * Nat.pow 10 k := by
  change _ = natOfDigits ds * 10 ^ k
  simp only [natOfDigits_eq, Nat.ofDigitChars_append, Nat.ofDigitChars_replicate_zero, Nat.mul_comm]

theorem isDigit_zero : isDigit '0' := by decide

theorem spanDigits_append {ds : List Char} (rest : List Char) (hd : ∀ c ∈ ds, isDigit c)
    (hr : ∀ c ∈ rest.head?, ¬ isDigit c) : spanDigits (ds ++ rest) = (ds, rest) := by
  rw [spanDigits, List.span_eq_takeWhile_dropWhile, List.takeWhile_append_of_pos hd,
    List.dropWhile_append_of_pos hd]
  cases rest with
  | nil => simp
  | cons c rest =>
    have hc : isDigit c = false := Bool.eq_false_iff.mpr (hr c rfl)
    simp [hc]

theorem spanDigits_all {ds : List Char} (hd : ∀ c ∈ ds, isDigit c) : spanDigits ds = (ds, []) := by
  have h := spanDigits_append [] hd (by simp)
  rwa [List.append_nil] at h

theorem readExponent?_chars (e : Int) :
    readExponent? ('e' :: (if e < 0 then '-' else '+') :: digitChars e.natAbs) = some e := by
  have hspan := spanDigits_all fun c (hc : c ∈ digitChars e.natAbs) => isDigit_of_mem_digitChars hc
  obtain ⟨d, ds, hds⟩ := List.exists_cons_of_ne_nil (digitChars_ne_nil (n := e.natAbs))
  have hnat := natOfDigits_digitChars e.natAbs
  rw [hds] at hspan hnat ⊢
  by_cases he : e < 0
  · simp only [readExponent?, he, if_true, splitSign, hspan, hnat, decide_true, Bool.true_or]
    exact congrArg some (by omega)
  · simp only [readExponent?, he, if_false, splitSign, hspan, hnat, decide_true, Bool.true_or, if_true,
      Bool.false_eq_true]
    exact congrArg some (by omega)

theorem readUnsigned?_point (whole fraction rest : List Char) (hw : ∀ c ∈ whole, isDigit c)
    (hf : ∀ c ∈ fraction, isDigit c) (hne : whole ≠ []) (hr : ∀ c ∈ rest.head?, ¬ isDigit c) :
    readUnsigned? (whole ++ '.' :: (fraction ++ rest)) =
      (readExponent? rest).map fun (e : Int) => (natOfDigits (whole ++ fraction), e - fraction.length) := by
  have hspan := spanDigits_append ('.' :: (fraction ++ rest)) hw (by simp [isDigit])
  simp only [readUnsigned?, hspan, spanDigits_append rest hf hr]
  simp [hne]

theorem readUnsigned?_exponent {whole : List Char} (rest : List Char) (hw : ∀ c ∈ whole, isDigit c)
    (hne : whole ≠ []) :
    readUnsigned? (whole ++ 'e' :: rest) =
      (readExponent? ('e' :: rest)).map fun e => (natOfDigits whole, e) := by
  have hspan := spanDigits_append ('e' :: rest) hw (by simp [isDigit])
  simp only [readUnsigned?, hspan]
  simp [hne]

theorem isDigit_of_mem_zeros {k : Nat} {c : Char} (h : c ∈ List.replicate k '0') : isDigit c :=
  List.eq_of_mem_replicate h ▸ isDigit_zero

section
variable {ds : List Char} (hd : ∀ c ∈ ds, isDigit c) (hne : ds ≠ [])
include hd hne

theorem readUnsigned?_before (k : Nat) :
    readUnsigned? (ds ++ List.replicate k '0' ++ ['.', '0']) =
      some (natOfDigits ds * Nat.pow 10 (k + 1), -1) := by
  have hw : ∀ c ∈ ds ++ List.replicate k '0', isDigit c := by
    intro c hc
    exact (List.mem_append.mp hc).elim (hd c) isDigit_of_mem_zeros
  have hread := readUnsigned?_point _ ['0'] [] hw (by simp [isDigit])
    (by simp [hne]) (by simp)
  have hzeros : ds ++ List.replicate k '0' ++ ['0'] = ds ++ List.replicate (k + 1) '0' := by
    rw [List.append_assoc, ← List.replicate_succ']
  rw [hzeros, natOfDigits_append_zeros] at hread
  exact hread

theorem readUnsigned?_among {k : Nat} (hk : 0 < k) :
    readUnsigned? (ds.take k ++ '.' :: ds.drop k) =
      some (natOfDigits ds, -((ds.length - k : Nat) : Int)) := by
  have hread := readUnsigned?_point (ds.take k) (ds.drop k) []
    (fun c hc => hd c (List.mem_of_mem_take hc)) (fun c hc => hd c (List.mem_of_mem_drop hc))
    (by simp [hne, Nat.ne_of_gt hk]) (by simp)
  rw [List.append_nil, List.take_append_drop, List.length_drop] at hread
  simpa [readExponent?] using hread

omit hne in
theorem readUnsigned?_after (k : Nat) :
    readUnsigned? ('0' :: '.' :: List.replicate k '0' ++ ds) =
      some (natOfDigits ds, -((k + ds.length : Nat) : Int)) := by
  have hf : ∀ c ∈ List.replicate k '0' ++ ds, isDigit c := by
    intro c hc
    exact (List.mem_append.mp hc).elim isDigit_of_mem_zeros (hd c)
  have hread := readUnsigned?_point ['0'] _ [] (by simp [isDigit]) hf
    (by simp) (by simp)
  have hzeros : ['0'] ++ (List.replicate k '0' ++ ds) = List.replicate (k + 1) '0' ++ ds := rfl
  rw [List.append_nil, hzeros, natOfDigits_zeros_append, List.length_append,
    List.length_replicate] at hread
  simpa [readExponent?] using hread

end

theorem readUnsigned?_scientific (ds : List Char) (first : Int) :
    (∀ c ∈ ds, isDigit c) → ds ≠ [] →
    readUnsigned? ((match ds with
        | [c] => [c]
        | c :: cs => c :: '.' :: cs
        | [] => []) ++ 'e' :: (if first < 0 then '-' else '+') :: digitChars first.natAbs) =
      some (natOfDigits ds, first - ((ds.length - 1 : Nat) : Int)) := by
  intro hd hne
  have hexp := readExponent?_chars first
  cases ds with
  | nil => exact absurd rfl hne
  | cons c cs =>
    cases cs with
    | nil =>
      have hread := readUnsigned?_exponent ((if first < 0 then '-' else '+') :: digitChars first.natAbs)
        hd hne
      rw [hexp] at hread
      simpa using hread
    | cons c' cs =>
      have hc : ∀ x ∈ [c], isDigit x := by
        intro x hx
        exact hd x (List.mem_cons.mpr (.inl (List.mem_singleton.mp hx)))
      have hread := readUnsigned?_point [c] (c' :: cs)
        ('e' :: (if first < 0 then '-' else '+') :: digitChars first.natAbs) hc
        (fun x hx => hd x (List.mem_cons_of_mem _ hx)) (by simp) (by simp [isDigit])
      rw [hexp] at hread
      exact hread

theorem roundDecimal_zeros {n : Nat} {e : Int} (h0 : 0 ≤ e) (h : e < 400) :
    roundDecimal (n * Nat.pow 10 (e.toNat + 1)) (-1) = roundDecimal n e := by
  by_cases hn : n = 0
  · simp only [hn, Nat.zero_mul, roundDecimal, if_true]
  have hne : n * Nat.pow 10 (e.toNat + 1) ≠ 0 := Nat.mul_ne_zero hn (Nat.ne_of_gt (Nat.pow_pos (by omega)))
  have hten : n * Nat.pow 10 (e.toNat + 1) = n * Nat.pow 10 e.toNat * 10 :=
    (Nat.mul_assoc n (Nat.pow 10 e.toNat) 10).symm
  have hneg := roundDecimal_neg (n := 1) hne (by omega) (by omega)
  rw [hten] at hneg ⊢
  rw [roundDecimal.eq_def n e, if_neg hn, if_neg (by omega), if_neg (by omega), if_pos h0]
  exact hneg.trans (roundRatio_mul_right _ 1 (k := 10) (by omega))

/-- The text of a decimal is a numeral, of the same value. -/
theorem readUnsigned?_decimal (d : Decimal) (layout : Layout) (hl : layout.highest < 400) :
    ∃ n e, readUnsigned? (d.chars layout) = some (n, e) ∧
      roundDecimal n e = roundDecimal d.digits d.exponent := by
  have hd : ∀ c ∈ digitChars d.digits, isDigit c := fun c hc => isDigit_of_mem_digitChars hc
  have hnat := natOfDigits_digitChars d.digits
  have hne : digitChars d.digits ≠ [] := digitChars_ne_nil
  have hlen := List.length_pos_iff.mpr hne
  simp only [Decimal.chars]
  generalize digitChars d.digits = ds at hd hnat hne hlen
  split
  · rename_i hfirst
    have hhigh := of_decide_eq_true (Bool.and_eq_true_iff.mp hfirst).2
    split
    · rename_i he
      refine ⟨_, _, readUnsigned?_before hd hne _, ?_⟩
      rw [hnat]
      exact roundDecimal_zeros he (by omega)
    · split
      · refine ⟨_, _, readUnsigned?_among hd hne (Nat.succ_pos _), ?_⟩
        rw [hnat]
        congr 1
        omega
      · refine ⟨_, _, readUnsigned?_after hd _, ?_⟩
        rw [hnat]
        congr 1
        omega
  · refine ⟨_, _, readUnsigned?_scientific ds _ hd hne, ?_⟩
    rw [hnat]
    congr 1
    omega

def isNumeral (c : Char) : Bool := isDigit c || c == '.' || c == 'e' || c == '+' || c == '-'

theorem isNumeral_of_isDigit {c : Char} (h : isDigit c) : isNumeral c := by simp [isNumeral, h]

theorem numeral_of_mem {ds : List Char} (hd : ∀ c ∈ ds, isDigit c) : ∀ c ∈ ds, isNumeral c :=
  fun c hc => isNumeral_of_isDigit (hd c hc)

theorem numeral_of_mem_append {as bs : List Char} (ha : ∀ c ∈ as, isNumeral c)
    (hb : ∀ c ∈ bs, isNumeral c) : ∀ c ∈ as ++ bs, isNumeral c :=
  fun c hc => (List.mem_append.mp hc).elim (ha c) (hb c)

theorem numeral_of_mem_cons {a : Char} {bs : List Char} (ha : isNumeral a)
    (hb : ∀ c ∈ bs, isNumeral c) : ∀ c ∈ a :: bs, isNumeral c :=
  fun c hc => (List.mem_cons.mp hc).elim (fun he => he ▸ ha) (hb c)

theorem decimal_chars (d : Decimal) (layout : Layout) :
    ∃ c cs, d.chars layout = c :: cs ∧ isDigit c ∧ (∀ x ∈ cs, isNumeral x) ∧
      ('.' ∈ cs ∨ 'e' ∈ cs) := by
  have hd : ∀ c ∈ digitChars d.digits, isDigit c := fun c hc => isDigit_of_mem_digitChars hc
  have hne : digitChars d.digits ≠ [] := digitChars_ne_nil
  have hz (k : Nat) : ∀ c ∈ List.replicate k '0', isNumeral c :=
    numeral_of_mem fun c hc => isDigit_of_mem_zeros hc
  simp only [Decimal.chars]
  generalize digitChars d.digits = ds at hd hne
  obtain ⟨c, cs, rfl⟩ := List.exists_cons_of_ne_nil hne
  have hc := hd c List.mem_cons_self
  have hcs : ∀ x ∈ cs, isNumeral x := numeral_of_mem fun x hx => hd x (List.mem_cons_of_mem c hx)
  split
  · split
    · refine ⟨c, _, rfl, hc, ?_, by simp⟩
      refine numeral_of_mem_append (numeral_of_mem_append hcs (hz _)) ?_
      exact numeral_of_mem_cons (by decide) (hz 1)
    · split
      · refine ⟨c, _, rfl, hc, ?_, by simp⟩
        refine numeral_of_mem_append (fun x hx => hcs x (List.mem_of_mem_take hx)) ?_
        exact numeral_of_mem_cons (by decide) fun x hx => hcs x (List.mem_of_mem_drop hx)
      · refine ⟨'0', _, rfl, isDigit_zero, ?_, by simp⟩
        refine numeral_of_mem_append (numeral_of_mem_cons (by decide) (hz _)) ?_
        exact numeral_of_mem_cons (isNumeral_of_isDigit hc) hcs
  · have hexp (first : Int) : ∀ x ∈ 'e' :: (if first < 0 then '-' else '+') :: digitChars first.natAbs,
        isNumeral x := by
      refine numeral_of_mem_cons (by decide) (numeral_of_mem_cons ?_ ?_)
      · split <;> decide
      · exact numeral_of_mem fun x hx => isDigit_of_mem_digitChars hx
    cases cs with
    | nil => exact ⟨c, _, rfl, hc, hexp _, by simp⟩
    | cons c' cs =>
      refine ⟨c, _, rfl, hc, ?_, by simp⟩
      exact numeral_of_mem_append (numeral_of_mem_cons (by decide) hcs) (hexp _)

theorem splitSign_digit {c : Char} (cs : List Char) (h : isDigit c) :
    splitSign (c :: cs) = (false, c :: cs) := by
  unfold splitSign
  split
  · rename_i heq
    obtain ⟨rfl, -⟩ := List.cons.inj heq
    cases h
  · rename_i heq
    obtain ⟨rfl, -⟩ := List.cons.inj heq
    cases h
  · rfl

theorem toLower_digit {c : Char} (h : isDigit c) : c.toLower = c := by
  have h9 : c ≤ '9' := by
    simp only [isDigit, Bool.and_eq_true, decide_eq_true_eq] at h
    exact h.2
  unfold Char.toLower
  rw [dif_neg]
  intro hu
  exact absurd (Char.le_trans hu.1 h9) (by decide)

theorem readWord?_digit {c : Char} (negative : Bool) (cs : List Char) (h : isDigit c) :
    readWord? negative (c :: cs) = none := by
  have hne {w : String} {a : Char} {as : List Char} (hw : w = String.ofList (a :: as))
      (ha : isDigit a = false) : String.ofList ((c :: cs).map Char.toLower) ≠ w := by
    intro he
    rw [hw, String.ofList_inj, List.map_cons, toLower_digit h] at he
    obtain ⟨rfl, -⟩ := List.cons.inj he
    rw [h] at ha
    cases ha
  simp only [readWord?, hne (w := "inf") rfl rfl, hne (w := "infinity") rfl rfl,
    hne (w := "nan") rfl rfl]
  rfl

theorem ofMagnitude_magnitudeBits (x : Double) : ofMagnitude x.isNegative x.magnitudeBits = x := by
  have hlt := x.bits.toNat_lt
  have hsign : signPlace = 2 ^ 63 := rfl
  unfold ofMagnitude isNegative magnitudeBits
  congr 1
  refine UInt64.toNat_inj.mp ?_
  rw [UInt64.toNat_ofNat', hsign]
  split <;> simp only [decide_eq_true_eq] at * <;> omega

theorem ofChars?_chars {x : Double} (hx : x.isFinite) : ofChars? x.chars = some x := by
  obtain ⟨n, e, hread, hround⟩ := readUnsigned?_decimal x.shortest .standard (by decide)
  obtain ⟨c, cs, hchars, hc, -⟩ := decimal_chars x.shortest .standard
  have hsign : splitSign x.chars = (x.isNegative, c :: cs) := by
    unfold chars
    rw [hchars]
    cases x.isNegative with
    | true => rfl
    | false => exact splitSign_digit cs hc
  rw [hchars] at hread
  simp only [ofChars?, hsign, readWord?_digit _ cs hc, hread, Option.map_some, ofDecimal, hround,
    roundDecimal_shortest hx, ofMagnitude_magnitudeBits]

theorem chars_inj {x y : Double} (hx : x.isFinite) (hy : y.isFinite) (h : x.chars = y.chars) :
    x = y := by
  have hread := ofChars?_chars hx
  rw [h, ofChars?_chars hy] at hread
  exact (Option.some.inj hread).symm

end Filing.Double
