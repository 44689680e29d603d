import Mathlib.Algebra.Order.Ring.Nat
import Mathlib.Tactic.Linarith
import Mathlib.Tactic.NormNum
import Mathlib.Tactic.Ring
import SqlGateway.Value.Double

/-
  This file shows that rounding a ratio or a decimal to a
  double depends on its value only, not on how it is
  written.

  Key definitions include:
    * `Double.fields`

  Main declarations:
    * `Double.ofFields_fields`
    * `Double.ofRatio_congr`
    * `Double.ofDecimal_mul_pow`
    * `Double.leadingPlace_scaledRatio`
-/

namespace SqlGateway

namespace Double

------------------------------------------------------------
-- Patterns
------------------------------------------------------------

/- The pattern of a double without the sign bit. -/
def fields (x : Double) : Nat :=
  x.bits.toNat % signUnit

/- The pattern that a sign and a magnitude are put into. -/
theorem toNat_bits_ofFields
    (negative : Bool)
    {m : Nat}
    (hFits : m < signUnit) :
    (ofFields negative m).bits.toNat =
      (if negative then signUnit else 0) + m := by
  unfold ofFields
  simp only [signUnit] at hFits ⊢
  rw [UInt64.toNat_ofNat']
  apply Nat.mod_eq_of_lt
  cases negative with
  | false =>
      simp only [Bool.false_eq_true, if_false]
      omega
  | true =>
      simp only [if_true]
      omega

/- The magnitude is read back from it. -/
theorem fields_ofFields
    (negative : Bool)
    {m : Nat}
    (hFits : m < signUnit) :
    (ofFields negative m).fields = m := by
  unfold fields
  rw [toNat_bits_ofFields negative hFits]
  cases negative with
  | false =>
      simp only [Bool.false_eq_true, if_false, Nat.zero_add]
      exact Nat.mod_eq_of_lt hFits
  | true =>
      simp only [if_true, Nat.add_mod_left]
      exact Nat.mod_eq_of_lt hFits

/- A double is made of its sign and the rest. -/
theorem ofFields_fields (x : Double) :
    ofFields x.isNegative x.fields = x := by
  have hBits : x.bits.toNat < signUnit * 2 :=
    x.bits.toNat_lt
  have hParts := Nat.div_add_mod x.bits.toNat signUnit
  have hSame :
      (ofFields x.isNegative x.fields).bits = x.bits := by
    apply UInt64.toNat_inj.mp
    have hFits : x.fields < signUnit :=
      Nat.mod_lt _ (by decide)
    rw [toNat_bits_ofFields _ hFits]
    unfold fields isNegative
    by_cases hSign : x.bits.toNat / signUnit = 1
    · rw [hSign] at hParts
      rw [if_pos (by simpa using hSign)]
      omega
    · have hZero : x.bits.toNat / signUnit = 0 := by
        have hMost : x.bits.toNat / signUnit ≤ 1 :=
          Nat.le_of_lt_succ (Nat.div_lt_of_lt_mul hBits)
        exact
          Nat.lt_one_iff.mp (Nat.lt_of_le_of_ne hMost hSign)
      rw [hZero] at hParts
      rw [if_neg (by simpa using hSign)]
      omega
  cases x
  exact congrArg Double.mk hSame

/- All magnitudes up to the infinities fit. -/
theorem lt_signUnit_of_le
    {m : Nat}
    (hMost : m ≤ infinityPattern) :
    m < signUnit := by
  simp only [infinityPattern, exponentUnit] at hMost
  simp only [signUnit]
  omega

------------------------------------------------------------
-- Ratios
------------------------------------------------------------

variable {k num den : Nat}

theorem roundQuotient_mul
    (hFactor : 0 < k)
    (num den : Nat) :
    roundQuotient (k * num) (k * den) =
      roundQuotient num den := by
  have hLeft :
      2 * (k * (num % den)) < k * den ↔
        2 * (num % den) < den := by
    rw [Nat.mul_left_comm, Nat.mul_lt_mul_left hFactor]
  have hRight :
      k * den < 2 * (k * (num % den)) ↔
        den < 2 * (num % den) := by
    rw [Nat.mul_left_comm, Nat.mul_lt_mul_left hFactor]
  unfold roundQuotient
  rw [Nat.mul_div_mul_left _ _ hFactor, Nat.mul_mod_mul_left]
  simp only [hLeft, hRight]

/- A quotient without a remainder is not rounded. -/
theorem roundQuotient_of_mul
    (hDen : 0 < den)
    (q : Nat) :
    roundQuotient (q * den) den = q := by
  unfold roundQuotient
  rw [Nat.mul_mod_left, Nat.mul_div_cancel q hDen,
    if_pos (by simpa using hDen)]

/- The leading place does not see a common factor. -/
theorem leadingPlace_mul
    (hFactor : 0 < k)
    (num den : Nat) :
    leadingPlace (k * num) (k * den) =
      leadingPlace num den := by
  have hLess : (k * den - 1) / k = den - 1 := by
    cases den with
    | zero => simp
    | succ den =>
        have hSplit :
            k * (den + 1) - 1 = (k - 1) + k * den := by
          rw [Nat.mul_succ]
          omega
        rw [hSplit, Nat.add_mul_div_left _ _ hFactor,
          Nat.div_eq_of_lt (by omega)]
        simp
  unfold leadingPlace
  simp only [Nat.mul_le_mul_left_iff hFactor]
  rw [Nat.mul_div_mul_left _ _ hFactor,
    ← Nat.div_div_eq_div_mul, hLess]

/- A common factor stays where it is when a ratio is scaled. -/
theorem scaledRatio_mul
    (base k num den : Nat)
    (power : Int) :
    scaledRatio base (k * num) (k * den) power =
      (k * (scaledRatio base num den power).1,
        k * (scaledRatio base num den power).2) := by
  cases power with
  | ofNat n => simp [scaledRatio, Nat.mul_assoc]
  | negSucc n => simp [scaledRatio, Nat.mul_assoc]

theorem ofRatio_mul
    (negative : Bool)
    (hFactor : 0 < k)
    (num den : Nat) :
    ofRatio negative (k * num) (k * den) =
      ofRatio negative num den := by
  have hZero : (k * num == 0) = (num == 0) := by
    rw [Bool.eq_iff_iff]
    simp [Nat.pos_iff_ne_zero.mp hFactor]
  unfold ofRatio lastPlace
  rw [hZero, leadingPlace_mul hFactor]
  simp only [scaledRatio_mul, roundQuotient_mul hFactor]

/- The nearest double depends on the value of a ratio. -/
theorem ofRatio_congr
    (negative : Bool)
    {num' den' : Nat}
    (hDen : 0 < den)
    (hDen' : 0 < den')
    (hSame : num * den' = num' * den) :
    ofRatio negative num den = ofRatio negative num' den' := by
  calc
    ofRatio negative num den =
        ofRatio negative (den' * num) (den' * den) :=
      (ofRatio_mul negative hDen' num den).symm
    _ = ofRatio negative (den * num') (den * den') := by
      rw [Nat.mul_comm den' num, hSame,
        Nat.mul_comm num' den, Nat.mul_comm den' den]
    _ = ofRatio negative num' den' :=
      ofRatio_mul negative hDen num' den'

------------------------------------------------------------
-- Decimals
------------------------------------------------------------

theorem ofDecimal_zero
    (negative : Bool)
    (power : Int) :
    ofDecimal negative 0 power = ofFields negative 0 := by
  simp [ofDecimal]

theorem digitCount_le_iff
    {n count : Nat}
    (hSome : 0 < count) :
    digitCount n ≤ count ↔ n < 10 ^ count :=
  Nat.length_toDigits_le_iff (by decide) hSome

/- A zero at the end is one digit more. -/
theorem digitCount_mul_ten
    {n : Nat}
    (hPos : 0 < n) :
    digitCount (n * 10) = digitCount n + 1 := by
  unfold digitCount Text.decimal
  rw [Nat.toDigits_of_base_le (by decide) (by omega),
    Nat.mul_div_cancel n (by decide), List.length_append]
  rfl

/- A zero at the end counts as one in the power of ten. -/
theorem ofDecimal_mul_ten
    (negative : Bool)
    (digits : Nat)
    (power : Int) :
    ofDecimal negative (digits * 10) power =
      ofDecimal negative digits (power + 1) := by
  cases Nat.eq_zero_or_pos digits with
  | inl hZero =>
      rw [hZero, Nat.zero_mul, ofDecimal_zero,
        ofDecimal_zero]
  | inr hPos =>
      have hPoint :
          ((digitCount (digits * 10) : Nat) : Int) + power =
            (digitCount digits : Nat) + (power + 1) := by
        rw [digitCount_mul_ten hPos]
        omega
      have hNonzero :
          (digits * 10 == 0) = (digits == 0) := by
        rw [Bool.eq_iff_iff, beq_iff_eq, beq_iff_eq]
        omega
      -- Both ratios have the same value, whatever the sign of
      -- the power.
      have hRatio :
          ofRatio negative
              (scaledRatio 10 (digits * 10) 1 power).1
              (scaledRatio 10 (digits * 10) 1 power).2 =
            ofRatio negative
              (scaledRatio 10 digits 1 (power + 1)).1
              (scaledRatio 10 digits 1 (power + 1)).2 := by
        cases power with
        | ofNat n =>
            have hNext :
                Int.ofNat n + 1 = Int.ofNat (n + 1) :=
              rfl
            rw [hNext]
            simp only [scaledRatio, Nat.pow_eq,
              Nat.pow_succ]
            rw [Nat.mul_assoc, Nat.mul_comm 10]
        | negSucc n =>
            cases n with
            | zero =>
                apply ofRatio_congr
                · simp [scaledRatio]
                · simp [scaledRatio]
                · simp [scaledRatio]
            | succ n =>
                have hNext :
                    Int.negSucc (n + 1) + 1 =
                      Int.negSucc n :=
                  rfl
                rw [hNext]
                apply ofRatio_congr
                · simp [scaledRatio]
                · simp [scaledRatio]
                · simp only [scaledRatio, Nat.pow_eq,
                    Nat.pow_succ, Nat.one_mul]
                  ring
      unfold ofDecimal
      rw [hNonzero, hPoint]
      simp only [hRatio]

theorem ofDecimal_mul_pow
    (negative : Bool)
    (digits count : Nat)
    (power : Int) :
    ofDecimal negative (digits * 10 ^ count) power =
      ofDecimal negative digits (power + count) := by
  induction count generalizing digits with
  | zero => simp
  | succ count ih =>
      rw [Nat.pow_succ', ← Nat.mul_assoc, ih,
        ofDecimal_mul_ten]
      congr 1
      omega

/- The nearest doubles of either sign have one magnitude. -/
theorem exists_ofRatio
    (num den : Nat) :
    ∃ m, m ≤ infinityPattern ∧ ∀ negative,
      ofRatio negative num den = ofFields negative m := by
  unfold ofRatio
  by_cases hZero : (num == 0) = true
  · simp only [if_pos hZero]
    exact ⟨0, Nat.zero_le _, fun negative => rfl⟩
  · simp only [if_neg hZero]
    exact ⟨_, Nat.min_le_right _ _, fun negative => rfl⟩

theorem exists_ofDecimal
    (digits : Nat)
    (power : Int) :
    ∃ m, m ≤ infinityPattern ∧ ∀ negative,
      ofDecimal negative digits power =
        ofFields negative m := by
  unfold ofDecimal
  simp only []
  split
  · exact ⟨0, Nat.zero_le _, fun negative => rfl⟩
  · split
    · exact ⟨infinityPattern, Nat.le_refl _, fun _ => rfl⟩
    · exact exists_ofRatio _ _

------------------------------------------------------------
-- Exact Values
------------------------------------------------------------

/- The leading place of a whole number times a power of
   two. -/
theorem leadingPlace_scaledRatio
    {s : Nat}
    (hPos : 0 < s)
    (e : Int) :
    leadingPlace (scaledRatio 2 s 1 e).1
        (scaledRatio 2 s 1 e).2 =
      s.log2 + e := by
  have hLow : 2 ^ s.log2 ≤ s :=
    Nat.log2_self_le (Nat.pos_iff_ne_zero.mp hPos)
  have hHigh : s < 2 ^ (s.log2 + 1) := Nat.lt_log2_self
  cases e with
  | ofNat n =>
      have hScaled : (s * 2 ^ n).log2 = s.log2 + n := by
        rw [Nat.log2_eq_iff (by positivity)]
        constructor
        · rw [Nat.pow_add]
          exact Nat.mul_le_mul_right _ hLow
        · rw [Nat.add_right_comm, Nat.pow_add]
          exact Nat.mul_lt_mul_of_pos_right hHigh
            (by positivity)
      have hOne : 1 ≤ s * 2 ^ n := by
        have hPositive : 0 < s * 2 ^ n := by positivity
        omega
      unfold leadingPlace
      simp only [scaledRatio, Nat.pow_eq, if_pos hOne,
        Nat.div_one, hScaled]
      rfl
  | negSucc n =>
      unfold leadingPlace
      simp only [scaledRatio, Nat.pow_eq, Nat.one_mul]
      by_cases hWhole : 2 ^ (n + 1) ≤ s
      · have hBits : n + 1 ≤ s.log2 :=
          (Nat.le_log2 (Nat.pos_iff_ne_zero.mp hPos)).mpr
            hWhole
        have hQuotient :
            (s / 2 ^ (n + 1)).log2 = s.log2 - (n + 1) := by
          rw [Nat.log2_eq_iff]
          · constructor
            · rw [Nat.le_div_iff_mul_le (by positivity),
                ← Nat.pow_add]
              rwa [Nat.sub_add_cancel hBits]
            · rw [Nat.div_lt_iff_lt_mul (by positivity),
                ← Nat.pow_add]
              have hExponent :
                  s.log2 - (n + 1) + 1 + (n + 1) =
                    s.log2 + 1 := by
                omega
              rwa [hExponent]
          · exact
              Nat.pos_iff_ne_zero.mp
                (Nat.div_pos hWhole (by positivity))
        rw [if_pos hWhole, hQuotient]
        omega
      · have hBits : s.log2 < n + 1 :=
          (Nat.log2_lt (Nat.pos_iff_ne_zero.mp hPos)).mpr
            (by omega)
        rcases Nat.exists_eq_add_of_lt hBits with ⟨j, hJ⟩
        -- The inverse lies between two powers of two, too.
        have hInverse :
            ((2 ^ (n + 1) - 1) / s).log2 = j := by
          have hAtLeast : s * 2 ^ j ≤ 2 ^ (n + 1) - 1 := by
            have hProduct :
                (s + 1) * 2 ^ j ≤ 2 ^ (n + 1) := by
              rw [hJ, Nat.add_right_comm, Nat.pow_add]
              exact Nat.mul_le_mul_right _ hHigh
            have hUnit : 1 ≤ 2 ^ j := Nat.one_le_two_pow
            rw [Nat.add_mul, Nat.one_mul] at hProduct
            omega
          have hBelow :
              2 ^ (n + 1) - 1 < 2 ^ (j + 1) * s := by
            have hProduct :
                2 ^ (j + 1) * 2 ^ s.log2 ≤
                  2 ^ (j + 1) * s :=
              Nat.mul_le_mul_left _ hLow
            rw [← Nat.pow_add,
              show j + 1 + s.log2 = n + 1 by omega]
              at hProduct
            have hUnit : 1 ≤ 2 ^ (n + 1) :=
              Nat.one_le_two_pow
            omega
          rw [Nat.log2_eq_iff]
          · constructor
            · rw [Nat.le_div_iff_mul_le hPos, Nat.mul_comm]
              exact hAtLeast
            · rw [Nat.div_lt_iff_lt_mul hPos]
              exact hBelow
          · apply Nat.pos_iff_ne_zero.mp
            apply Nat.div_pos _ hPos
            have hUnit : 1 ≤ 2 ^ j := Nat.one_le_two_pow
            have hOnce : s * 1 ≤ s * 2 ^ j :=
              Nat.mul_le_mul_left _ hUnit
            omega
        rw [if_neg hWhole, hInverse]
        omega

end Double

end SqlGateway
