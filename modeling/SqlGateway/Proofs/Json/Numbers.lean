import SqlGateway.Json.Writer
import SqlGateway.Proofs.Json.Grammar
import SqlGateway.Proofs.Text.Trim
import SqlGateway.Proofs.Value.Shortest

/-
  This file shows that the written form of a whole number,
  and that of a finite double, is a number of the grammar
  and stands for the same value.

  Key definitions include:
    * `Json.IsLeading`

  Main declarations:
    * `Json.digitsValue_decimal`
    * `Json.reads_signed`
    * `Json.reads_positional`
    * `Json.reads_scientific`
    * `Json.reads_finite`
-/

namespace SqlGateway

namespace Json

open Text

------------------------------------------------------------
-- Digits
------------------------------------------------------------

/- The digits of a natural are digits. -/
theorem isDigits_decimal (n : Nat) : IsDigits (decimal n) :=
  ⟨Nat.toDigits_ne_nil,
    fun _ hMem => Nat.isDigit_of_mem_toDigits
      (by decide) (by decide) hMem⟩

theorem digitsValue_decimal (n : Nat) :
    digitsValue (decimal n) = n :=
  Nat.ofDigitChars_toDigits (by decide) (by decide)

theorem isDigits_zero : IsDigits ['0'] :=
  isDigits_decimal 0

theorem digitsValue_zeros_append
    (count : Nat)
    (ds : List Char) :
    digitsValue (List.replicate count '0' ++ ds) =
      digitsValue ds := by
  have hZeros :
      Nat.ofDigitChars 10 (List.replicate count '0') 0 = 0 := by
    rw [Nat.ofDigitChars_replicate_zero, Nat.mul_zero]
  exact
    (Nat.ofDigitChars_append 0).trans
      (congrArg (Nat.ofDigitChars 10 ds) hZeros)

/- Zeros at the end each count ten times. -/
theorem digitsValue_append_zeros
    (ds : List Char)
    (count : Nat) :
    digitsValue (ds ++ List.replicate count '0') =
      digitsValue ds * 10 ^ count := by
  rw [Nat.mul_comm]
  exact
    (Nat.ofDigitChars_append 0).trans
      Nat.ofDigitChars_replicate_zero

/- Digits that do not begin with a zero. -/
structure IsLeading (ds : List Char) : Prop where
  digits : IsDigits ds
  head : ds.head? ≠ some '0'

/- The digits of a positive natural do not. -/
theorem isLeading_decimal
    {n : Nat}
    (hPos : 0 < n) :
    IsLeading (decimal n) := by
  refine ⟨isDigits_decimal n, ?_⟩
  unfold decimal
  induction n using Nat.strongRecOn with
  | ind n ih =>
      by_cases hSmall : n < 10
      · rw [Nat.toDigits_of_lt_base hSmall]
        have hDigit :
            ∀ k < 10, 0 < k →
              [Nat.digitChar k].head? ≠ some '0' := by
          decide
        exact hDigit n hSmall hPos
      · have hFirst :=
          ih (n / 10) (by omega) (by omega)
        rcases List.exists_cons_of_ne_nil
            (Nat.toDigits_ne_nil : Nat.toDigits 10 (n / 10) ≠
              []) with ⟨d, ds, hDigits⟩
        rw [Nat.toDigits_of_base_le (by decide) (by omega)]
        rw [hDigits] at hFirst ⊢
        exact hFirst

/- No natural has a zero in front of other digits. -/
theorem decimal_noZero
    {n : Nat}
    (hZero : (decimal n).head? = some '0') :
    decimal n = ['0'] := by
  cases Nat.eq_zero_or_pos n with
  | inl hNone =>
      rw [hNone]
      rfl
  | inr hPos =>
      exact absurd hZero (isLeading_decimal hPos).head

theorem isDigits_padded (width n : Nat) :
    IsDigits (padded width n) := by
  have hDigits := isDigits_decimal n
  constructor
  · simp [padded, fillZeros, hDigits.1]
  · intro c hMem
    rcases List.mem_append.mp hMem with hZero | hDigit
    · rw [(List.mem_replicate.mp hZero).2]
      rfl
    · exact hDigits.2 c hDigit

theorem digitsValue_padded (width n : Nat) :
    digitsValue (padded width n) = n :=
  (digitsValue_zeros_append _ _).trans (digitsValue_decimal n)

------------------------------------------------------------
-- Whole Numbers
------------------------------------------------------------

/- A text is a number if it is the text of its parts. -/
theorem reads_number
    {cs : List Char}
    {v : Value}
    (n : Number)
    (hNumber : n.WellFormed)
    (hText : n.text = cs)
    (hValue : n.value = v) :
    Reads cs v := by
  subst hText hValue
  exact Reads.number hNumber

/- A whole number stands for itself. -/
theorem reads_signed (i : Int) :
    Reads (signed i) (.int i) := by
  have hParts :
      ∀ (negative : Bool) (n : Nat),
        (Number.mk negative (decimal n) [] [] []).WellFormed :=
    fun negative n =>
      ⟨isDigits_decimal n, decimal_noZero,
        fun c hMem => absurd hMem List.not_mem_nil,
        Or.inl ⟨rfl, rfl⟩⟩
  cases i with
  | ofNat n =>
      apply reads_number _ (hParts false n)
      · simp [Number.text, Number.sign, Number.fraction,
          signed]
      · simp [Number.value, digitsValue_decimal]
  | negSucc n =>
      apply reads_number _ (hParts true (n + 1))
      · simp [Number.text, Number.sign, Number.fraction,
          signed]
      · simp [Number.value, digitsValue_decimal,
          Int.negSucc_eq]

------------------------------------------------------------
-- Doubles
------------------------------------------------------------

/- The sign in front of a number. -/
def minusSign (negative : Bool) : List Char :=
  if negative then ['-'] else []

section Digits

variable {ds : List Char}

/- Digits around a point stand for a number with so many
   places. -/
theorem reads_fraction
    (negative : Bool)
    {whole places : List Char}
    (hWhole : IsDigits whole)
    (hZero : whole.head? = some '0' → whole = ['0'])
    (hPlaces : IsDigits places) :
    Reads (minusSign negative ++ (whole ++ '.' :: places))
      (.float
        (Double.ofDecimal negative
          (digitsValue (whole ++ places))
          (-(places.length : Int)))) := by
  apply reads_number ⟨negative, whole, places, [], []⟩
  · exact ⟨hWhole, hZero, hPlaces.2, Or.inl ⟨rfl, rfl⟩⟩
  · simp [Number.text, Number.sign, Number.fraction,
      minusSign, hPlaces.1]
  · simp [Number.value, Number.exponent, hPlaces.1,
      show digitsValue [] = 0 from rfl]

/- Digits with an exponent behind them stand for a number
   with that power of ten. -/
theorem reads_exponent
    (negative : Bool)
    {whole places : List Char}
    (hWhole : IsDigits whole)
    (hZero : whole.head? = some '0' → whole = ['0'])
    (hPlaces : ∀ c ∈ places, c.isDigit = true)
    (e : Int) :
    Reads
      (minusSign negative ++
        (whole ++
          ((if places.isEmpty then [] else '.' :: places) ++
            Double.writeExponent e)))
      (.float
        (Double.ofDecimal negative
          (digitsValue (whole ++ places))
          (e - places.length))) := by
  have hMark :
      ['e', if e < 0 then '-' else '+'] ∈ exponentMarks := by
    split <;> decide
  have hExponent :
      (Number.mk negative whole places
          ['e', if e < 0 then '-' else '+']
          (padded 2 e.natAbs)).exponent =
        e := by
    unfold Number.exponent
    rw [digitsValue_padded]
    by_cases hNegative : e < 0
    · simp only [if_pos hNegative]
      rw [if_pos (by decide)]
      omega
    · simp only [if_neg hNegative]
      rw [if_neg (by decide)]
      omega
  apply reads_number
    ⟨negative, whole, places,
      ['e', if e < 0 then '-' else '+'],
      padded 2 e.natAbs⟩
  · exact
      ⟨hWhole, hZero, hPlaces,
        Or.inr ⟨hMark, isDigits_padded _ _⟩⟩
  · simp [Number.text, Number.sign, Number.fraction,
      minusSign, Double.writeExponent]
  · unfold Number.value
    rw [hExponent]
    simp

/- The first of leading digits is none that has to stand
   alone. -/
theorem IsLeading.noZero
    (hLeading : IsLeading ds)
    {count : Nat}
    (hSome : 0 < count) :
    (ds.take count).head? = some '0' →
      ds.take count = ['0'] := by
  intro hZero
  rw [List.head?_take, if_neg (by omega)] at hZero
  exact absurd hZero hLeading.head

/- A part of digits is made of digits. -/
theorem isDigits_take
    (hDigits : IsDigits ds)
    {count : Nat}
    (hSome : 0 < count) :
    IsDigits (ds.take count) := by
  refine
    ⟨?_, fun c hMem =>
      hDigits.2 c (List.mem_of_mem_take hMem)⟩
  rw [Ne, List.take_eq_nil_iff, not_or]
  exact ⟨by omega, hDigits.1⟩

/- Digits with the point in its place stand for the number
   whose point is there. -/
theorem reads_positional
    (negative : Bool)
    (hLeading : IsLeading ds)
    (point : Int) :
    Reads
      (minusSign negative ++ Double.writePositional ds point)
      (.float
        (Double.ofDecimal negative (digitsValue ds)
          (point - ds.length))) := by
  have hDigits := hLeading.digits
  have hZeros :
      ∀ count : Nat,
        ∀ c ∈ List.replicate count '0', c.isDigit = true := by
    intro count c hMem
    rw [(List.mem_replicate.mp hMem).2]
    rfl
  unfold Double.writePositional
  split
  · -- All digits stand behind the point.
    rename_i hSmall
    have hPlaces :
        IsDigits (List.replicate point.natAbs '0' ++ ds) := by
      refine ⟨by simp [hDigits.1], fun c hMem => ?_⟩
      rcases List.mem_append.mp hMem with hZero | hDigit
      · exact hZeros _ c hZero
      · exact hDigits.2 c hDigit
    have hValue :
        digitsValue
            (['0'] ++
              (List.replicate point.natAbs '0' ++ ds)) =
          digitsValue ds := by
      rw [← List.append_assoc]
      exact digitsValue_zeros_append (point.natAbs + 1) ds
    have hPower :
        -((List.replicate point.natAbs '0' ++
            ds).length : Int) =
          point - ds.length := by
      rw [List.length_append, List.length_replicate]
      omega
    have hReads :=
      reads_fraction negative isDigits_zero (fun _ => rfl)
        hPlaces
    rw [hValue, hPower] at hReads
    exact hReads
  · rename_i hLarge
    have hPos : 0 < point.toNat := by omega
    simp only []
    split
    · -- All digits stand before the point.
      rename_i hFew
      have hWhole :
          IsDigits
            (ds ++
              List.replicate (point.toNat - ds.length)
                '0') := by
        refine ⟨by simp [hDigits.1], fun c hMem => ?_⟩
        rcases List.mem_append.mp hMem with hDigit | hZero
        · exact hDigits.2 c hDigit
        · exact hZeros _ c hZero
      have hNoZero :
          (ds ++ List.replicate (point.toNat - ds.length)
              '0').head? ≠ some '0' := by
        rcases List.exists_cons_of_ne_nil hDigits.1 with
          ⟨d, more, rfl⟩
        exact hLeading.head
      have hReads :=
        reads_fraction negative hWhole
          (fun hZero => absurd hZero hNoZero) isDigits_zero
      have hValue :
          digitsValue
              (ds ++ List.replicate
                (point.toNat - ds.length) '0' ++ ['0']) =
            digitsValue ds *
              10 ^ (point.toNat - ds.length + 1) := by
        rw [List.append_assoc, ← List.replicate_succ']
        exact digitsValue_append_zeros _ _
      rw [hValue, Double.ofDecimal_mul_pow] at hReads
      have hPower :
          -((['0'] : List Char).length : Int) +
              (point.toNat - ds.length + 1 : Nat) =
            point - ds.length := by
        simp only [List.length_singleton]
        omega
      rw [hPower] at hReads
      rw [List.append_assoc]
      rw [List.append_assoc] at hReads
      exact hReads
    · -- The point stands between the digits.
      rename_i hMany
      have hPlaces : IsDigits (ds.drop point.toNat) := by
        refine
          ⟨?_, fun c hMem =>
            hDigits.2 c (List.mem_of_mem_drop hMem)⟩
        rw [Ne, List.drop_eq_nil_iff]
        exact hMany
      have hReads :=
        reads_fraction negative (isDigits_take hDigits hPos)
          (hLeading.noZero hPos) hPlaces
      have hPower :
          -((ds.drop point.toNat).length : Int) =
            point - ds.length := by
        rw [List.length_drop]
        omega
      rw [List.take_append_drop, hPower] at hReads
      exact hReads

/- Digits with one of them before the point and an exponent
   behind them stand for the same number. -/
theorem reads_scientific
    (negative : Bool)
    (hLeading : IsLeading ds)
    (point : Int) :
    Reads
      (minusSign negative ++ Double.writeScientific ds point)
      (.float
        (Double.ofDecimal negative (digitsValue ds)
          (point - ds.length))) := by
  have hDigits := hLeading.digits
  have hLength : 0 < ds.length :=
    List.length_pos_iff.mpr hDigits.1
  have hFraction :
      (if ds.length ≤ 1 then [] else '.' :: ds.drop 1) =
        if (ds.drop 1).isEmpty then
          []
        else
          '.' :: ds.drop 1 := by
    simp only [List.isEmpty_iff, List.drop_eq_nil_iff]
  have hPower :
      point - 1 - ((ds.drop 1).length : Int) =
        point - ds.length := by
    rw [List.length_drop]
    omega
  have hPlaces : ∀ c ∈ ds.drop 1, c.isDigit = true :=
    fun c hMem => hDigits.2 c (List.mem_of_mem_drop hMem)
  have hReads :=
    reads_exponent negative
      (isDigits_take hDigits Nat.one_pos)
      (hLeading.noZero Nat.one_pos) hPlaces (point - 1)
  rw [List.take_append_drop, hPower, ← hFraction] at hReads
  unfold Double.writeScientific
  rw [List.append_assoc]
  exact hReads

end Digits

------------------------------------------------------------
-- Finite Doubles
------------------------------------------------------------

variable {x : Double}

/- The significant digits of a decimal, and the zeros behind
   them. -/
theorem exists_significant
    (c : Double.Digits)
    (hPos : 0 < c.digits) :
    ∃ count,
      decimal c.digits =
          Double.significant c ++ List.replicate count '0' ∧
        IsLeading (Double.significant c) := by
  have hLeading := isLeading_decimal hPos
  have hPositive : 0 < digitsValue (decimal c.digits) := by
    rw [digitsValue_decimal]
    exact hPos
  rcases exists_trimRight_append (· == '0')
      (decimal c.digits) with
    ⟨tail, hSplit, hZeros⟩
  have hTail : tail = List.replicate tail.length '0' :=
    List.eq_replicate_iff.mpr
      ⟨rfl, fun d hMem => eq_of_beq (hZeros d hMem)⟩
  have hSignificant :
      Double.significant c =
        trimRight (· == '0') (decimal c.digits) :=
    rfl
  rw [← hSignificant] at hSplit
  refine ⟨tail.length, by rw [← hTail]; exact hSplit, ?_⟩
  have hSome : Double.significant c ≠ [] := by
    intro hNone
    rw [hNone, hTail] at hSplit
    rw [hSplit, digitsValue_append_zeros] at hPositive
    simp [show digitsValue [] = 0 from rfl] at hPositive
  rw [hSplit] at hLeading
  refine
    ⟨⟨hSome, fun d hMem =>
      hLeading.digits.2 d (List.mem_append_left _ hMem)⟩, ?_⟩
  rcases List.exists_cons_of_ne_nil hSome with
    ⟨d, more, hCons⟩
  have hHead := hLeading.head
  rw [hCons] at hHead ⊢
  exact hHead

/- The significant digits of a double other than zero, with
   the point where it is written, stand for the double. -/
theorem ofDecimal_significant
    (hFinite : x.isSpecial = false)
    (hNonzero : x.isZero = false) :
    IsLeading (Double.significant x.shortest) ∧
      Double.ofDecimal x.isNegative
          (digitsValue (Double.significant x.shortest))
          ((Double.digitCount x.shortest.digits : Nat) +
              x.shortest.power -
            (Double.significant x.shortest).length) =
        x := by
  rcases exists_significant x.shortest
      (Double.shortest_digits_pos hFinite hNonzero) with
    ⟨count, hDigits, hLeading⟩
  refine ⟨hLeading, ?_⟩
  have hValue :
      x.shortest.digits =
        digitsValue (Double.significant x.shortest) *
          10 ^ count := by
    rw [← digitsValue_append_zeros, ← hDigits,
      digitsValue_decimal]
  have hCount :
      Double.digitCount x.shortest.digits =
        (Double.significant x.shortest).length + count := by
    unfold Double.digitCount
    rw [hDigits, List.length_append, List.length_replicate]
  have hRead := Double.ofDecimal_shortest hFinite hNonzero
  rw [hValue, Double.ofDecimal_mul_pow] at hRead
  have hPower :
      (Double.digitCount x.shortest.digits : Int) +
            x.shortest.power -
          (Double.significant x.shortest).length =
        x.shortest.power + count := by
    rw [hCount]
    omega
  rw [hPower]
  exact hRead

/- A finite double stands for itself. -/
theorem reads_finite (hFinite : x.isSpecial = false) :
    Reads x.writeFinite (.float x) := by
  have hForm :
      x.writeFinite =
        minusSign x.isNegative ++ x.writeMagnitude := by
    unfold Double.writeFinite minusSign
    split <;> rfl
  rw [hForm]
  unfold Double.writeMagnitude
  by_cases hZero : x.isZero = true
  · rw [if_pos hZero]
    have hReads :=
      reads_fraction x.isNegative isDigits_zero
        (fun _ => rfl) isDigits_zero
    have hFields : x.fields = 0 := by
      rw [Double.isZero, Bool.and_eq_true, beq_iff_eq,
        beq_iff_eq] at hZero
      rw [Double.fields_eq, hZero.1, hZero.2]
      rfl
    have hNone : digitsValue (['0'] ++ ['0']) = 0 := rfl
    rw [hNone, Double.ofDecimal_zero, ← hFields,
      Double.ofFields_fields] at hReads
    exact hReads
  · rw [if_neg hZero]
    have hNonzero : x.isZero = false := by simpa using hZero
    rcases ofDecimal_significant hFinite hNonzero with
      ⟨hLeading, hRead⟩
    simp only []
    split
    · have hReads :=
        reads_positional x.isNegative hLeading
          ((Double.digitCount x.shortest.digits : Nat) +
            x.shortest.power)
      rwa [hRead] at hReads
    · have hReads :=
        reads_scientific x.isNegative hLeading
          ((Double.digitCount x.shortest.digits : Nat) +
            x.shortest.power)
      rwa [hRead] at hReads

end Json

end SqlGateway
