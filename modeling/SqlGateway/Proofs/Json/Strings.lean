import SqlGateway.Json.Writer
import SqlGateway.Proofs.Json.Grammar

/-
  This file shows that a text that is written as a string is
  a string of the grammar and stands for that text, with the
  halves of pairs put together.

  Key definitions include:
    * `Text.Code.isSound`
    * `Json.spread`

  Main declarations:
    * `Json.unit?_hexadecimal`
    * `Json.escapeCode_form`
    * `Json.joined_flatMap_spread`
    * `Json.codeString_form`
    * `Json.string_form`
-/

namespace SqlGateway

open Text

/- A code that a text may have: a half is a unit of a pair. -/
def Text.Code.isSound : Code → Bool
  | .char _ => true
  | .half unit =>
      Json.isHighUnit unit || Json.isLowUnit unit

namespace Json

------------------------------------------------------------
-- Units
------------------------------------------------------------

/- One hexadecimal digit more stands for sixteen times as
   much. -/
theorem hexadecimal_succ
    {width : Nat}
    (hSome : 0 < width)
    (n : Nat) :
    hexadecimal (width + 1) n =
      hexadecimal width (n / 16) ++
        [Nat.digitChar (n % 16)] := by
  unfold hexadecimal fillZeros
  by_cases hDigit : n < 16
  · have hCount : width = width - 1 + 1 := by omega
    rw [Nat.div_eq_of_lt hDigit, Nat.mod_eq_of_lt hDigit,
      Nat.toDigits_of_lt_base hDigit,
      Nat.toDigits_of_lt_base (by decide)]
    simp only [List.length_singleton, Nat.add_sub_cancel]
    rw [show Nat.digitChar 0 = '0' from rfl,
      ← List.replicate_succ', ← hCount]
  · rw [Nat.toDigits_of_base_le (by decide) (by omega),
      List.length_append, List.length_singleton,
      Nat.add_sub_add_right, List.append_assoc]

theorem hexDigit?_digitChar :
    ∀ k < 16, hexDigit? (Nat.digitChar k) = some k := by
  decide

/- A unit is read back from its four digits. -/
theorem unit?_hexadecimal
    {n : Nat}
    (hUnit : n < 0x10000) :
    ∃ a b c d,
      hexadecimal 4 n = [a, b, c, d] ∧
        unit? a b c d = some n := by
  have hFirst :
      hexadecimal 1 (n / 16 / 16 / 16) =
        [Nat.digitChar (n / 16 / 16 / 16)] := by
    unfold hexadecimal fillZeros
    rw [Nat.toDigits_of_lt_base (by omega)]
    rfl
  refine
    ⟨Nat.digitChar (n / 16 / 16 / 16),
      Nat.digitChar (n / 16 / 16 % 16),
      Nat.digitChar (n / 16 % 16),
      Nat.digitChar (n % 16), ?_, ?_⟩
  · rw [hexadecimal_succ (by decide),
      hexadecimal_succ (by decide),
      hexadecimal_succ (by decide), hFirst]
    rfl
  · unfold unit?
    rw [hexDigit?_digitChar _ (by omega),
      hexDigit?_digitChar _ (by omega),
      hexDigit?_digitChar _ (by omega),
      hexDigit?_digitChar _ (by omega)]
    simp only [Option.bind_eq_bind, Option.bind_some,
      Option.pure_def, Option.some.injEq]
    omega

theorem unitEscape_form
    {n : Nat}
    (hUnit : n < 0x10000) :
    CodeForm (unitEscape n) (unitCode n) := by
  rcases unit?_hexadecimal hUnit with
    ⟨a, b, c, d, hDigits, hRead⟩
  unfold unitEscape
  rw [hDigits]
  exact CodeForm.unit hRead

------------------------------------------------------------
-- Codes
------------------------------------------------------------

/- The first unit of a character beyond the first plane. -/
def highUnit (c : Char) : Nat :=
  0xD800 + (c.toNat - 0x10000) / 0x400

/- The second unit of such a character. -/
def lowUnit (c : Char) : Nat :=
  0xDC00 + (c.toNat - 0x10000) % 0x400

/- A code by the units that it is written with. -/
def spread : Code → List Code
  | .char c =>
      if c.toNat < 0x10000 then
        [.char c]
      else
        [.half (highUnit c), .half (lowUnit c)]
  | .half unit => [.half unit]

theorem spread_char
    {c : Char}
    (hPlane : c.toNat < 0x10000) :
    spread (.char c) = [.char c] :=
  if_pos hPlane

theorem spread_char_beyond
    {c : Char}
    (hBeyond : ¬ c.toNat < 0x10000) :
    spread (.char c) =
      [.half (highUnit c), .half (lowUnit c)] :=
  if_neg hBeyond

/- A character is no half of a pair. -/
theorem unitCode_toNat (c : Char) :
    unitCode c.toNat = .char c := by
  have hValid : c.toNat < 0xD800 ∨
      (0xDFFF < c.toNat ∧ c.toNat < 0x110000) :=
    c.valid
  have hHigh : isHighUnit c.toNat = false := by
    simp only [isHighUnit, Bool.and_eq_false_iff,
      decide_eq_false_iff_not]
    omega
  have hLow : isLowUnit c.toNat = false := by
    simp only [isLowUnit, Bool.and_eq_false_iff,
      decide_eq_false_iff_not]
    omega
  unfold unitCode
  rw [hHigh, hLow, if_neg (by decide), Char.ofNat_toNat]

/- The units of a character are those of a pair. -/
theorem isHighUnit_highUnit
    {c : Char}
    (hBeyond : ¬ c.toNat < 0x10000) :
    isHighUnit (highUnit c) = true := by
  have hValid : c.toNat < 0xD800 ∨
      (0xDFFF < c.toNat ∧ c.toNat < 0x110000) :=
    c.valid
  unfold isHighUnit highUnit
  rw [Bool.and_eq_true, decide_eq_true_eq,
    decide_eq_true_eq]
  omega

theorem isLowUnit_lowUnit (c : Char) :
    isLowUnit (lowUnit c) = true := by
  unfold isLowUnit lowUnit
  rw [Bool.and_eq_true, decide_eq_true_eq,
    decide_eq_true_eq]
  omega

theorem pairChar_units
    {c : Char}
    (hBeyond : ¬ c.toNat < 0x10000) :
    pairChar (highUnit c) (lowUnit c) = c := by
  have hSum :
      0x10000 + (highUnit c - 0xD800) * 0x400 +
          (lowUnit c - 0xDC00) =
        c.toNat := by
    unfold highUnit lowUnit
    omega
  unfold pairChar
  rw [hSum, Char.ofNat_toNat]

theorem not_isLowUnit_of_isHighUnit
    {n : Nat}
    (hHigh : isHighUnit n = true) :
    isLowUnit n = false := by
  simp only [isHighUnit, Bool.and_eq_true,
    decide_eq_true_eq] at hHigh
  simp only [isLowUnit, Bool.and_eq_false_iff,
    decide_eq_false_iff_not]
  omega

/- A unit of a pair is the code of a half. -/
theorem unitCode_of_isUnit
    {n : Nat}
    (hUnit : (isHighUnit n || isLowUnit n) = true) :
    unitCode n = .half n ∧ n < 0x10000 := by
  constructor
  · unfold unitCode
    rw [if_pos hUnit]
  · simp only [isHighUnit, isLowUnit, Bool.or_eq_true,
      Bool.and_eq_true, decide_eq_true_eq] at hUnit
    omega

/- One text inside a string after another. -/
theorem BodyForm.append
    {cs cs' : List Char}
    {codes codes' : List Code}
    (hFirst : BodyForm cs codes)
    (hSecond : BodyForm cs' codes') :
    BodyForm (cs ++ cs') (codes ++ codes') := by
  induction hFirst with
  | nil => exact hSecond
  | cons hCode hRest ih =>
      rw [List.append_assoc]
      exact BodyForm.cons hCode ih

theorem CodeForm.body
    {cs : List Char}
    {code : Code}
    (hCode : CodeForm cs code) :
    BodyForm cs [code] := by
  have hBody := BodyForm.cons hCode BodyForm.nil
  rwa [List.append_nil] at hBody

/- The escape of a code point stands for its character, by
   one unit or two. -/
theorem codeEscape_form (c : Char) :
    BodyForm (codeEscape c.toNat) (spread (.char c)) := by
  by_cases hPlane : c.toNat < 0x10000
  · unfold codeEscape
    rw [if_pos hPlane, spread_char hPlane]
    have hBody := (unitEscape_form hPlane).body
    rwa [unitCode_toNat] at hBody
  · have hHigh : unitCode (highUnit c) = .half (highUnit c) ∧
        highUnit c < 0x10000 :=
      unitCode_of_isUnit (by simp [isHighUnit_highUnit hPlane])
    have hLow : unitCode (lowUnit c) = .half (lowUnit c) ∧
        lowUnit c < 0x10000 :=
      unitCode_of_isUnit (by simp [isLowUnit_lowUnit c])
    have hFirst := (unitEscape_form hHigh.2).body
    have hSecond := (unitEscape_form hLow.2).body
    rw [hHigh.1] at hFirst
    rw [hLow.1] at hSecond
    unfold codeEscape
    rw [if_neg hPlane, spread_char_beyond hPlane]
    exact hFirst.append hSecond

/- The escape by a letter stands for its character. -/
theorem short_form
    {c d e : Char}
    (hSame : (c == d) = true)
    (hShort : shortEscape? e = some d)
    (hPlane : d.toNat < 0x10000) :
    BodyForm ['\\', e] (spread (.char c)) := by
  rw [eq_of_beq hSame, spread_char hPlane]
  exact (CodeForm.short hShort).body

/- A character is written as itself or by an escape that
   stands for it. -/
theorem escape_form (c : Char) :
    BodyForm (escape c) (spread (.char c)) := by
  unfold escape
  split
  · rename_i hSame
    exact short_form hSame rfl (by decide)
  split
  · rename_i hSame
    exact short_form hSame rfl (by decide)
  split
  · rename_i hSame
    exact short_form hSame rfl (by decide)
  split
  · rename_i hSame
    exact short_form hSame rfl (by decide)
  split
  · rename_i hSame
    exact short_form hSame rfl (by decide)
  split
  · rename_i hSame
    exact short_form hSame rfl (by decide)
  split
  · rename_i hSame
    exact short_form hSame rfl (by decide)
  split
  · rename_i hQuote hEscape _ _ _ _ _ hPrinted
    simp only [beq_iff_eq] at hQuote hEscape
    simp only [Bool.and_eq_true, decide_eq_true_eq]
      at hPrinted
    rw [spread_char (by omega)]
    exact
      CodeForm.body
        (CodeForm.plain hQuote hEscape hPrinted.1)
  · exact codeEscape_form c

theorem escapeCode_form
    {code : Code}
    (hSound : code.isSound = true) :
    BodyForm (escapeCode code) (spread code) := by
  cases code with
  | char c => exact escape_form c
  | half unit =>
      rcases unitCode_of_isUnit hSound with ⟨hCode, hUnit⟩
      have hBody := (unitEscape_form hUnit).body
      rwa [hCode] at hBody

------------------------------------------------------------
-- Strings
------------------------------------------------------------

/- A half is put together with nothing but a second half
   behind it. -/
theorem joined_half
    {high : Nat}
    {codes : List Code}
    (hBehind :
      ∀ low rest, codes = .half low :: rest →
        isLowUnit low = false) :
    joined (.half high :: codes) =
      .half high :: joined codes := by
  cases codes with
  | nil => rfl
  | cons code codes =>
      cases code with
      | char c => rfl
      | half low =>
          have hLow := hBehind low codes rfl
          rw [joined, if_neg (by simp [hLow])]

/- Characters are not put together. -/
theorem joined_char
    (c : Char)
    (codes : List Code) :
    joined (.char c :: codes) = .char c :: joined codes := by
  rw [joined]
  intro high low rest hNot
  cases hNot

/- The units of one character are put together. -/
theorem joined_spread_char
    (c : Char)
    (codes : List Code) :
    joined (spread (.char c) ++ codes) =
      .char c :: joined codes := by
  by_cases hPlane : c.toNat < 0x10000
  · rw [spread_char hPlane]
    exact joined_char c codes
  · rw [spread_char_beyond hPlane]
    simp only [List.cons_append, List.nil_append]
    rw [joined,
      if_pos (by
        simp [isHighUnit_highUnit hPlane,
          isLowUnit_lowUnit c]),
      pairChar_units hPlane]

/- What a character is written with does not begin with a
   second half. -/
theorem not_isLowUnit_of_spread_char
    {c : Char}
    {low : Nat}
    {codes rest : List Code}
    (hBegin : spread (.char c) ++ codes = .half low :: rest) :
    isLowUnit low = false := by
  by_cases hPlane : c.toNat < 0x10000
  · rw [spread_char hPlane] at hBegin
    cases hBegin
  · rw [spread_char_beyond hPlane] at hBegin
    cases hBegin
    exact
      not_isLowUnit_of_isHighUnit (isHighUnit_highUnit hPlane)

theorem joined_flatMap_spread (codes : List Code) :
    joined (codes.flatMap spread) = joined codes := by
  fun_induction joined codes with
  | case1 high low codes hPair ih =>
      simp only [List.flatMap_cons, spread,
        List.cons_append, List.nil_append]
      rw [joined, if_pos hPair, ih]
  | case2 high low codes hPair ih =>
      simp only [List.flatMap_cons, spread,
        List.cons_append, List.nil_append] at ih ⊢
      rw [joined, if_neg hPair, ih]
  | case3 code codes hNoPair ih =>
      cases code with
      | char c =>
          rw [List.flatMap_cons, joined_spread_char, ih]
      | half high =>
          rw [← ih]
          apply joined_half
          intro low rest hBegin
          cases codes with
          | nil => cases hBegin
          | cons code codes =>
              cases code with
              | char c =>
                  exact not_isLowUnit_of_spread_char hBegin
              | half low' =>
                  exact absurd rfl (hNoPair high low' codes rfl)
  | case4 => rfl

@[simp]
theorem joined_ofChars (cs : List Char) :
    joined (Code.ofChars cs) = Code.ofChars cs := by
  induction cs with
  | nil => rfl
  | cons c cs ih =>
      have hCons :
          Code.ofChars (c :: cs) =
            .char c :: Code.ofChars cs :=
        rfl
      rw [hCons, joined_char, ih]

/- Codes are written as a string that stands for them. -/
theorem codeString_form
    {codes : List Code}
    (hSound : codes.all Code.isSound = true) :
    StringForm (codeString codes) (joined codes) := by
  have hBody :
      BodyForm (codes.flatMap escapeCode)
        (codes.flatMap spread) := by
    induction codes with
    | nil => exact BodyForm.nil
    | cons code codes ih =>
        rw [List.all_cons, Bool.and_eq_true] at hSound
        exact
          (escapeCode_form hSound.1).append (ih hSound.2)
  rw [← joined_flatMap_spread]
  exact StringForm.quoted hBody

theorem string_form (cs : List Char) :
    StringForm (string cs) (Code.ofChars cs) := by
  have hSame :
      string cs = codeString (Code.ofChars cs) := by
    unfold string codeString Code.ofChars
    rw [List.flatMap_map]
    rfl
  have hSound :
      (Code.ofChars cs).all Code.isSound = true := by
    unfold Code.ofChars
    rw [List.all_map, List.all_eq_true]
    intro c _
    rfl
  have hForm := codeString_form hSound
  rwa [joined_ofChars, ← hSame] at hForm

@[simp]
theorem ofCodes_ofChars (cs : List Char) :
    Value.ofCodes (Code.ofChars cs) =
      .text (String.ofList cs) := by
  unfold Value.ofCodes
  rw [Code.chars?_ofChars]

@[simp]
theorem nameOfCodes_ofChars (cs : List Char) :
    nameOfCodes (Code.ofChars cs) = String.ofList cs := by
  unfold nameOfCodes Code.ofChars
  rw [List.map_map]
  congr 1
  exact List.map_id _

end Json

end SqlGateway
