import SqlGateway.Proofs.Value.Rounding

/-
  This file shows that the digits chosen for a finite double
  read back as that double: they were tried before they were
  taken, or are those of its exact value.

  Main declarations:
    * `Double.ofRatio_ratio`
    * `Double.ofDecimal_exactDecimal`
    * `Double.ofDecimal_shortest`
-/

namespace SqlGateway

namespace Double

variable {x : Double}

------------------------------------------------------------
-- Fields
------------------------------------------------------------

/- The two fields make up the pattern without the sign. -/
theorem fields_eq (x : Double) :
    x.fields =
      x.fractionField + exponentUnit * x.exponentField := by
  have hUnit : signUnit = exponentUnit * 2048 := by decide
  unfold fields fractionField exponentField
  rw [hUnit, Nat.mod_mul]

theorem fractionField_lt (x : Double) :
    x.fractionField < exponentUnit :=
  Nat.mod_lt _ (by decide)

/- The exponent is what the pattern holds above it. -/
theorem exponentField_eq (x : Double) :
    x.exponentField = x.fields / exponentUnit := by
  rw [fields_eq, Nat.add_mul_div_left _ _ (by decide),
    Nat.div_eq_of_lt x.fractionField_lt, Nat.zero_add]

/- The fraction is what it holds below. -/
theorem fractionField_eq (x : Double) :
    x.fractionField = x.fields % exponentUnit := by
  rw [fields_eq, Nat.add_mul_mod_self_left,
    Nat.mod_eq_of_lt x.fractionField_lt]

theorem fields_magnitude (x : Double) :
    x.magnitude.fields = x.fields :=
  fields_ofFields false (Nat.mod_lt _ (by decide))

theorem isSpecial_magnitude (x : Double) :
    x.magnitude.isSpecial = x.isSpecial := by
  unfold isSpecial
  rw [exponentField_eq, exponentField_eq, fields_magnitude]

theorem isZero_magnitude (x : Double) :
    x.magnitude.isZero = x.isZero := by
  unfold isZero
  rw [exponentField_eq, exponentField_eq, fractionField_eq,
    fractionField_eq, fields_magnitude]

/- The exponent of a finite double. -/
theorem exponentField_lt
    (hFinite : x.isSpecial = false) :
    x.exponentField < 2047 := by
  have hNot : x.exponentField ≠ 2047 := by
    simpa [isSpecial] using hFinite
  have hLess : x.exponentField < 2048 :=
    Nat.mod_lt _ (by decide)
  omega

/- The significand of a double other than zero. -/
theorem significand_pos
    (hNonzero : x.isZero = false) :
    0 < x.significand := by
  unfold significand
  split
  · rename_i hLow
    simp only [isZero, hLow, Bool.true_and,
      beq_eq_false_iff_ne] at hNonzero
    omega
  · have hUnit : 0 < exponentUnit := by decide
    omega

/-
  Significand and place are those of rounding: the place is
  as low as a significand of 53 bits allows, and the pattern
  is the place with the significand added to it.
-/
theorem place_fits
    (hFinite : x.isSpecial = false)
    (hNonzero : x.isZero = false) :
    max (((x.significand.log2 : Nat) : Int) + x.place - 52)
        (-1074) =
      x.place ∧
    (x.place + 1074).toNat * exponentUnit +
        x.significand =
      x.fields := by
  have hExponent := exponentField_lt hFinite
  have hFraction := x.fractionField_lt
  have hPositive := significand_pos hNonzero
  rw [fields_eq]
  by_cases hLow : x.exponentField = 0
  · -- Without an exponent the place is the lowest there is.
    have hPlace : x.place = -1074 := by
      simp [place, hLow]
    have hSignificand :
        x.significand = x.fractionField := by
      simp [significand, hLow]
    have hBits : x.significand.log2 < 52 := by
      rw [Nat.log2_lt (Nat.pos_iff_ne_zero.mp hPositive),
        hSignificand]
      exact hFraction
    rw [hPlace, hLow, hSignificand]
    rw [hSignificand] at hBits
    constructor
    · omega
    · simp
  · have hPlace :
        x.place = (x.exponentField : Int) - 1075 := by
      unfold place
      omega
    have hSignificand :
        x.significand = exponentUnit + x.fractionField := by
      simp [significand, hLow]
    have hBits : x.significand.log2 = 52 := by
      rw [Nat.log2_eq_iff (Nat.pos_iff_ne_zero.mp hPositive),
        hSignificand]
      simp only [exponentUnit] at hFraction ⊢
      omega
    have hCount :
        (x.place + 1074).toNat + 1 = x.exponentField := by
      omega
    constructor
    · rw [hBits, hPlace]
      omega
    · rw [hSignificand, ← hCount]
      ring

------------------------------------------------------------
-- Exact Values
------------------------------------------------------------

theorem exists_scaledRatio_neg
    (s : Nat)
    (e : Int) :
    ∃ k, 0 < k ∧
      scaledRatio 2 (scaledRatio 2 s 1 e).1
          (scaledRatio 2 s 1 e).2 (-e) =
        (s * k, k) := by
  cases e with
  | ofNat n =>
      cases n with
      | zero => exact ⟨1, Nat.one_pos, by simp [scaledRatio]⟩
      | succ n =>
          have hBack :
              -Int.ofNat (n + 1) = Int.negSucc n :=
            rfl
          refine ⟨2 ^ (n + 1), by positivity, ?_⟩
          rw [hBack]
          simp [scaledRatio]
  | negSucc n =>
      have hBack : -Int.negSucc n = Int.ofNat (n + 1) := rfl
      refine ⟨2 ^ (n + 1), by positivity, ?_⟩
      rw [hBack]
      simp [scaledRatio]

/- The double nearest to the value of a double is that
   double. -/
theorem ofRatio_ratio
    (negative : Bool)
    (hFinite : x.isSpecial = false)
    (hNonzero : x.isZero = false) :
    ofRatio negative x.ratio.1 x.ratio.2 =
      ofFields negative x.fields := by
  have hPositive := significand_pos hNonzero
  have hLeading := leadingPlace_scaledRatio hPositive x.place
  rcases place_fits hFinite hNonzero with ⟨hPlace, hPattern⟩
  rcases exists_scaledRatio_neg x.significand x.place with
    ⟨k, hFactor, hScaled⟩
  have hSome : (x.ratio.1 == 0) = false := by
    have hRatio : 0 < x.ratio.1 := by
      unfold ratio
      cases x.place with
      | ofNat n =>
          exact
            Nat.mul_pos hPositive (Nat.pow_pos (by decide))
      | negSucc n => exact hPositive
    simpa using Nat.pos_iff_ne_zero.mp hRatio
  have hMost : x.fields ≤ infinityPattern := by
    have hExponent := exponentField_lt hFinite
    have hFraction := x.fractionField_lt
    rw [fields_eq]
    simp only [infinityPattern, exponentUnit]
      at hFraction ⊢
    omega
  unfold ofRatio lastPlace
  rw [hSome]
  unfold ratio
  simp only [Bool.false_eq_true, if_false, hLeading, hPlace,
    hScaled, roundQuotient_of_mul hFactor, hPattern]
  rw [Nat.min_eq_left hMost]

theorem digitCount_le
    {n count : Nat}
    (hSome : 0 < count)
    (hLess : n < 10 ^ count) :
    digitCount n ≤ count :=
  (digitCount_le_iff hSome).mpr hLess

theorem lt_digitCount
    {n count : Nat}
    (hLeast : 10 ^ count ≤ n) :
    count < digitCount n := by
  cases count with
  | zero => exact Nat.length_toDigits_pos
  | succ count =>
      by_contra hFew
      have hLess :=
        (digitCount_le_iff (Nat.succ_pos count)).mp
          (Nat.le_of_not_lt hFew)
      omega

/- The significand of a double has 53 bits. -/
theorem significand_lt (x : Double) :
    x.significand < 2 ^ 53 := by
  have hFraction := x.fractionField_lt
  unfold significand
  simp only [exponentUnit] at hFraction ⊢
  split <;> omega

/- As many powers of five as doubles have places make up for
   all but 331 of as many powers of ten. -/
theorem ten_pow_le_five_pow
    {n : Nat}
    (hMost : n ≤ 1074) :
    10 ^ (n - 331) ≤ 5 ^ n := by
  by_cases hFew : n ≤ 331
  · rw [Nat.sub_eq_zero_of_le hFew]
    exact Nat.one_le_pow _ _ (by decide)
  · have hParts : n = 331 + (n - 331) := by omega
    have hPowers : 2 ^ (n - 331) ≤ 5 ^ 331 := by
      have hLast : n - 331 ≤ 743 := by omega
      exact
        (Nat.pow_le_pow_right (by decide) hLast).trans
          (by decide +kernel)
    calc
      10 ^ (n - 331) = 2 ^ (n - 331) * 5 ^ (n - 331) := by
        rw [← Nat.mul_pow]
      _ ≤ 5 ^ 331 * 5 ^ (n - 331) :=
        Nat.mul_le_mul_right _ hPowers
      _ = 5 ^ n := by rw [← Nat.pow_add, ← hParts]

/- The point of an exact value is one that is not settled by
   its place alone. -/
theorem point_exactDecimal
    (hFinite : x.isSpecial = false)
    (hNonzero : x.isZero = false) :
    (digitCount x.exactDecimal.digits : Nat) +
        x.exactDecimal.power ≤ 310 ∧
      -330 ≤
        (digitCount x.exactDecimal.digits : Nat) +
          x.exactDecimal.power := by
  have hExponent := exponentField_lt hFinite
  have hPositive := significand_pos hNonzero
  have hBits := x.significand_lt
  have hPlace :
      -1074 ≤ x.place ∧ x.place ≤ 971 := by
    unfold place
    omega
  unfold exactDecimal
  cases hE : x.place with
  | ofNat n =>
      have hMost : n ≤ 971 := by
        rw [hE] at hPlace
        have hCast : ((n : Nat) : Int) ≤ 971 := hPlace.2
        omega
      have hCount :
          digitCount (x.significand * 2 ^ n) ≤ 310 := by
        apply digitCount_le (by decide)
        calc
          x.significand * 2 ^ n <
              2 ^ 53 * 2 ^ n :=
            Nat.mul_lt_mul_of_pos_right hBits
              (by positivity)
          _ ≤ 2 ^ 53 * 2 ^ 971 :=
            Nat.mul_le_mul_left _
              (Nat.pow_le_pow_right (by decide) hMost)
          _ ≤ 10 ^ 310 := by decide +kernel
      simp only [Nat.pow_eq]
      omega
  | negSucc n =>
      have hMost : n ≤ 1073 := by
        rw [hE] at hPlace
        have hCast : -1074 ≤ Int.negSucc n := hPlace.1
        omega
      have hUpper :
          digitCount (x.significand * 5 ^ (n + 1)) ≤
            16 + (n + 1) := by
        apply digitCount_le (by omega)
        calc
          x.significand * 5 ^ (n + 1) <
              2 ^ 53 * 5 ^ (n + 1) :=
            Nat.mul_lt_mul_of_pos_right hBits
              (by positivity)
          _ ≤ 10 ^ 16 * 10 ^ (n + 1) :=
            Nat.mul_le_mul (by decide)
              (Nat.pow_le_pow_left (by decide) _)
          _ = 10 ^ (16 + (n + 1)) := (Nat.pow_add ..).symm
      have hLower :
          n + 1 - 331 < digitCount
            (x.significand * 5 ^ (n + 1)) := by
        apply lt_digitCount
        calc
          10 ^ (n + 1 - 331) ≤ 5 ^ (n + 1) :=
            ten_pow_le_five_pow (by omega)
          _ ≤ x.significand * 5 ^ (n + 1) :=
            Nat.le_mul_of_pos_left _ hPositive
      simp only [Nat.pow_eq]
      omega

/- The decimal that equals a finite double is read as
   that. -/
theorem ofDecimal_exactDecimal
    (negative : Bool)
    (hFinite : x.isSpecial = false)
    (hNonzero : x.isZero = false) :
    ofDecimal negative x.exactDecimal.digits
        x.exactDecimal.power =
      ofFields negative x.fields := by
  have hPositive := significand_pos hNonzero
  rcases point_exactDecimal hFinite hNonzero with
    ⟨hMost, hLeast⟩
  have hSome : (x.exactDecimal.digits == 0) = false := by
    have hDigits : 0 < x.exactDecimal.digits := by
      unfold exactDecimal
      cases x.place with
      | ofNat n =>
          exact
            Nat.mul_pos hPositive (Nat.pow_pos (by decide))
      | negSucc n =>
          exact
            Nat.mul_pos hPositive (Nat.pow_pos (by decide))
    simpa using Nat.pos_iff_ne_zero.mp hDigits
  unfold ofDecimal
  simp only [hSome, Bool.false_or, decide_eq_true_eq]
  rw [if_neg (by omega), if_neg (by omega),
    ← ofRatio_ratio negative hFinite hNonzero]
  unfold exactDecimal ratio
  cases x.place with
  | ofNat n => simp [scaledRatio]
  | negSucc n =>
      apply ofRatio_congr
      · simp [scaledRatio]
      · simp [scaledRatio]
      · simp only [scaledRatio, Nat.pow_eq, Nat.one_mul]
        rw [Nat.mul_assoc, ← Nat.mul_pow]

------------------------------------------------------------
-- Chosen Digits
------------------------------------------------------------

/- What the first of two trials yields has passed it. -/
theorem passes_of_firstOf
    (passes : Digits → Bool)
    {first second c : Digits}
    (hFound :
      (if passes first then
        some first
      else if passes second then
        some second
      else
        none) =
        some c) :
    passes c = true := by
  split at hFound
  · rename_i hFirst
    rw [← Option.some.inj hFound]
    exact hFirst
  · split at hFound
    · rename_i hSecond
      rw [← Option.some.inj hFound]
      exact hSecond
    · cases hFound

theorem readsBack_of_decimalOf?
    {count : Nat}
    {c : Digits}
    (hFound : x.decimalOf? count = some c) :
    ofDecimal false c.digits c.power = x :=
  beq_iff_eq.mp (passes_of_firstOf x.readsBack hFound)

/- Each number of digits is tried before the next; the trial
   itself stays closed here, as unfolding it takes long. -/
seal decimalOf? in
theorem shortestFrom_succ (count fuel : Nat) :
    x.shortestFrom count (fuel + 1) =
      match x.decimalOf? count with
      | some c => c
      | none => x.shortestFrom (count + 1) fuel :=
  rfl

theorem ofDecimal_shortestFrom
    (hFinite : x.isSpecial = false)
    (hNonzero : x.isZero = false)
    (hSign : ofFields false x.fields = x)
    (count fuel : Nat) :
    ofDecimal false (x.shortestFrom count fuel).digits
        (x.shortestFrom count fuel).power =
      x := by
  induction fuel generalizing count with
  | zero =>
      have hExact :=
        ofDecimal_exactDecimal false hFinite hNonzero
      rw [hSign] at hExact
      exact hExact
  | succ fuel ih =>
      rw [shortestFrom_succ]
      cases hFound : x.decimalOf? count with
      | none => exact ih (count + 1)
      | some c => exact readsBack_of_decimalOf? hFound

theorem ofDecimal_shortest
    (hFinite : x.isSpecial = false)
    (hNonzero : x.isZero = false) :
    ofDecimal x.isNegative x.shortest.digits
        x.shortest.power =
      x := by
  have hMagnitude :
      ofFields false x.magnitude.fields = x.magnitude := by
    rw [fields_magnitude]
    rfl
  have hPositive :
      ofDecimal false x.shortest.digits x.shortest.power =
        x.magnitude := by
    apply ofDecimal_shortestFrom
    · rw [isSpecial_magnitude]
      exact hFinite
    · rw [isZero_magnitude]
      exact hNonzero
    · exact hMagnitude
  rcases exists_ofDecimal x.shortest.digits
      x.shortest.power with
    ⟨m, hMost, hSame⟩
  have hFields : m = x.fields := by
    rw [← fields_magnitude, ← hPositive, hSame,
      fields_ofFields false (lt_signUnit_of_le hMost)]
  rw [hSame, hFields, ofFields_fields]

theorem shortest_digits_pos
    (hFinite : x.isSpecial = false)
    (hNonzero : x.isZero = false) :
    0 < x.shortest.digits := by
  rw [Nat.pos_iff_ne_zero]
  intro hZero
  have hRead := ofDecimal_shortest hFinite hNonzero
  rw [hZero, ofDecimal_zero] at hRead
  have hFields : x.fields = 0 := by
    rw [← hRead, fields_ofFields _ (by decide)]
  rw [isZero, exponentField_eq, fractionField_eq, hFields]
    at hNonzero
  cases hNonzero

end Double

end SqlGateway
