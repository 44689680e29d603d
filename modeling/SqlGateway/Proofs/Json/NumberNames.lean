import SqlGateway.Proofs.Json.Unambiguous

/-
  This file shows that no JSON document names a number that
  is not finite: outside its strings, a document has none of
  the capitals that such names begin with.

  Key definitions include:
    * `Json.Place`
    * `Json.namesNumber`
    * `Json.Tells`

  Main declarations:
    * `Json.StringForm.tells`
    * `Json.Joined.tells`
    * `Json.Reads.tells`
    * `Json.Decodes.namesNumber_eq_false`
-/

namespace SqlGateway

namespace Json

open Text

------------------------------------------------------------
-- Scanning
------------------------------------------------------------

/-
  Where a character stands: outside of strings, inside a
  string, or inside one behind a backslash.
-/
inductive Place where
  | outside
  | inside
  | escaped
deriving Repr, DecidableEq

/- Where the next character stands. -/
def Place.next : Place → Char → Place
  | outside, c => if c == '\x22' then inside else outside
  | inside, c =>
      if c == '\x22' then
        outside
      else if c == '\\' then
        escaped
      else
        inside
  | escaped, _ => inside

/- The capitals that begin the names of the numbers that are
   not finite. -/
def isInitial (c : Char) : Bool :=
  c == 'N' || c == 'I'

/- A capital that begins such a name stands outside the
   strings of a text. -/
def namesNumber : Place → List Char → Bool
  | _, [] => false
  | .outside, c :: cs =>
      isInitial c || namesNumber (Place.outside.next c) cs
  | place, c :: cs => namesNumber (place.next c) cs

/-
  A text is complete: it ends outside of strings where it
  begins there, and it alone tells whether it names a number
  that is not finite.
-/
def Tells (cs : List Char) (named : Bool) : Prop :=
  ∀ rest,
    namesNumber .outside (cs ++ rest) =
      (named || namesNumber .outside rest)

namespace Tells

variable {cs cs' : List Char}
variable {named named' : Bool}

/- What a text tells is found by scanning it. -/
theorem namesNumber_eq
    (hTells : Tells cs named) :
    namesNumber .outside cs = named := by
  have hAlone := hTells []
  rw [List.append_nil] at hAlone
  rw [hAlone]
  cases named <;> rfl

theorem nil : Tells [] false :=
  fun _ => rfl

/- What one text after another tells. -/
theorem append
    (hFirst : Tells cs named)
    (hSecond : Tells cs' named') :
    Tells (cs ++ cs') (named || named') := by
  intro rest
  rw [List.append_assoc, hFirst, hSecond, Bool.or_assoc]

/- Without quotes a text is scanned as it is. -/
theorem ofNoQuote
    (hQuote : '\x22' ∉ cs) :
    Tells cs (cs.any isInitial) := by
  intro rest
  induction cs with
  | nil => rfl
  | cons c cs ih =>
      rw [List.mem_cons, not_or] at hQuote
      have hPlace : Place.outside.next c = .outside := by
        simp [Place.next, Ne.symm hQuote.1]
      simp only [List.cons_append, namesNumber, hPlace,
        ih hQuote.2, List.any_cons, Bool.or_assoc]

/- A text that has neither quotes nor capitals of names. -/
theorem ofPlain
    (hPlain : ∀ c ∈ cs, c ≠ '\x22' ∧ isInitial c = false) :
    Tells cs false := by
  have hNone : cs.any isInitial = false := by
    rw [List.any_eq_false]
    intro c hMem
    simp [(hPlain c hMem).2]
  rw [← hNone]
  exact ofNoQuote fun hMem => (hPlain _ hMem).1 rfl

end Tells

------------------------------------------------------------
-- The Parts of Documents
------------------------------------------------------------

/- A hexadecimal digit leaves the place inside a string as it
   is. -/
theorem next_inside_of_hexDigit?
    {c : Char}
    {n : Nat}
    (hDigit : hexDigit? c = some n) :
    Place.inside.next c = .inside := by
  have hQuote : c ≠ '\x22' := by
    rintro rfl
    cases hDigit
  have hEscape : c ≠ '\\' := by
    rintro rfl
    cases hDigit
  simp [Place.next, hQuote, hEscape]

theorem digits_of_unit?
    {a b c d : Char}
    {n : Nat}
    (hUnit : unit? a b c d = some n) :
    (∃ i, hexDigit? a = some i) ∧
      (∃ j, hexDigit? b = some j) ∧
      (∃ k, hexDigit? c = some k) ∧
      ∃ l, hexDigit? d = some l := by
  unfold unit? at hUnit
  cases hA : hexDigit? a with
  | none => simp [hA] at hUnit
  | some i =>
      cases hB : hexDigit? b with
      | none => simp [hA, hB] at hUnit
      | some j =>
          cases hC : hexDigit? c with
          | none => simp [hA, hB, hC] at hUnit
          | some k =>
              cases hD : hexDigit? d with
              | none => simp [hA, hB, hC, hD] at hUnit
              | some l =>
                  exact ⟨⟨i, rfl⟩, ⟨j, rfl⟩, ⟨k, rfl⟩, l, rfl⟩

/- A code of a string leads back inside the string. -/
theorem CodeForm.namesNumber_inside
    {cs : List Char}
    {code : Code}
    (hCode : CodeForm cs code)
    (rest : List Char) :
    namesNumber .inside (cs ++ rest) =
      namesNumber .inside rest := by
  cases hCode with
  | plain hQuote hEscape hControl =>
      simp [namesNumber, Place.next, hQuote, hEscape]
  | short hShort => rfl
  | unit hUnit =>
      rcases digits_of_unit? hUnit with
        ⟨⟨i, hA⟩, ⟨j, hB⟩, ⟨k, hC⟩, l, hD⟩
      have hBegin :
          Place.inside.next '\\' = .escaped :=
        rfl
      have hLetter :
          Place.escaped.next 'u' = .inside :=
        rfl
      simp only [List.cons_append, List.nil_append,
        namesNumber, hBegin, hLetter,
        next_inside_of_hexDigit? hA,
        next_inside_of_hexDigit? hB,
        next_inside_of_hexDigit? hC,
        next_inside_of_hexDigit? hD]

theorem BodyForm.namesNumber_inside
    {body : List Char}
    {codes : List Code}
    (hBody : BodyForm body codes)
    (rest : List Char) :
    namesNumber .inside (body ++ rest) =
      namesNumber .inside rest := by
  induction hBody with
  | nil => rfl
  | cons hCode hRest ih =>
      rw [List.append_assoc, hCode.namesNumber_inside, ih]

theorem StringForm.tells
    {cs : List Char}
    {codes : List Code}
    (hString : StringForm cs codes) :
    Tells cs false := by
  cases hString with
  | quoted hBody =>
      intro rest
      have hOpen : Place.outside.next '\x22' = .inside := rfl
      have hClose : Place.inside.next '\x22' = .outside := rfl
      simp only [List.cons_append, List.append_assoc,
        namesNumber, hOpen, hBody.namesNumber_inside,
        List.nil_append, hClose]
      rfl

theorem IsGap.tells
    {cs : List Char}
    (hGap : IsGap cs) :
    Tells cs false := by
  apply Tells.ofPlain
  intro c hMem
  have hSpace := hGap c hMem
  simp only [isSpace, Bool.or_eq_true, beq_iff_eq] at hSpace
  rcases hSpace with ((rfl | rfl) | rfl) | rfl <;> decide

theorem Number.WellFormed.tells
    {n : Number}
    (hNumber : n.WellFormed) :
    Tells n.text false := by
  apply Tells.ofPlain
  intro c hMem
  have hChar := hNumber.isNumberChar_text c hMem
  constructor
  · rintro rfl
    cases hChar
  · cases hInitial : isInitial c with
    | false => rfl
    | true =>
        simp only [isInitial, Bool.or_eq_true, beq_iff_eq]
          at hInitial
        rcases hInitial with rfl | rfl <;> cases hChar

/- White space around a text adds nothing to what it tells. -/
theorem Padded.tells
    {inner outer : List Char}
    {named : Bool}
    (hPadded : Padded inner outer)
    (hInner : Tells inner named) :
    Tells outer named := by
  rcases hPadded with ⟨before, after, hBefore, hAfter, rfl⟩
  have hWhole :=
    hBefore.tells.append (hInner.append hAfter.tells)
  rwa [Bool.or_false, Bool.false_or] at hWhole

section Items

variable {α : Type}
variable {written : α → List Char}
variable {named : α → Bool}
variable {xs : List α}
variable {cs : List Char}

/- Items behind commas tell what any of them tells. -/
theorem More.tells
    (hXs : ∀ x ∈ xs, Tells (written x) (named x))
    (hMore : More (xs.map written) cs) :
    Tells cs (xs.any named) := by
  induction xs generalizing cs with
  | nil =>
      cases hMore
      exact Tells.nil
  | cons x xs ih =>
      rw [List.forall_mem_cons] at hXs
      cases hMore with
      | cons hItem hRest =>
          have hComma : Tells [','] false :=
            Tells.ofNoQuote (by decide)
          have hWhole :=
            hComma.append
              ((hItem.tells hXs.1).append (ih hXs.2 hRest))
          rwa [Bool.false_or] at hWhole

theorem Joined.tells
    (hXs : ∀ x ∈ xs, Tells (written x) (named x))
    (hJoined : Joined (xs.map written) cs) :
    Tells cs (xs.any named) := by
  cases xs with
  | nil =>
      cases hJoined with
      | nil hGap => exact hGap.tells
  | cons x xs =>
      rw [List.forall_mem_cons] at hXs
      cases hJoined with
      | cons hItem hRest =>
          exact
            (hItem.tells hXs.1).append
              (More.tells hXs.2 hRest)

theorem Joined.tells_enclosed
    {opening closing : Char}
    (hOpening : Tells [opening] false)
    (hClosing : Tells [closing] false)
    (hXs : ∀ x ∈ xs, Tells (written x) (named x))
    (hJoined : Joined (xs.map written) cs) :
    Tells (opening :: (cs ++ [closing])) (xs.any named) := by
  have hWhole :=
    hOpening.append ((hJoined.tells hXs).append hClosing)
  rwa [Bool.or_false, Bool.false_or] at hWhole

theorem Joined.tells_list
    (hXs : ∀ x ∈ xs, Tells (written x) (named x))
    (hJoined : Joined (xs.map written) cs) :
    Tells ('[' :: (cs ++ [']'])) (xs.any named) :=
  hJoined.tells_enclosed (Tells.ofNoQuote (by decide))
    (Tells.ofNoQuote (by decide)) hXs

theorem Joined.tells_object
    (hXs : ∀ x ∈ xs, Tells (written x) (named x))
    (hJoined : Joined (xs.map written) cs) :
    Tells ('\x7b' :: (cs ++ ['\x7d'])) (xs.any named) :=
  hJoined.tells_enclosed (Tells.ofNoQuote (by decide))
    (Tells.ofNoQuote (by decide)) hXs

/- Items that tell nothing leave nothing to tell. -/
theorem any_named_eq_false (xs : List α) :
    (xs.any fun _ => false) = false := by
  rw [List.any_eq_false]
  intro x _
  exact Bool.false_ne_true

end Items

/- A member tells what its value tells. -/
theorem Member.WellFormed.tells
    {m : Member}
    {named : Bool}
    (hMember : m.WellFormed)
    (hValue : Tells m.text named) :
    Tells m.written named := by
  have hColon : Tells [':'] false :=
    Tells.ofNoQuote (by decide)
  have hWhole :=
    hMember.key.tells.append
      (hMember.before.tells.append
        (hColon.append (hMember.after.tells.append hValue)))
  simp only [Bool.false_or] at hWhole
  exact hWhole

------------------------------------------------------------
-- Documents
------------------------------------------------------------

/- No value of the grammar names a number that is not
   finite. -/
theorem Reads.tells
    {cs : List Char}
    {v : Value}
    (hReads : Reads cs v) :
    Tells cs false := by
  induction hReads with
  | nullWord => exact Tells.ofNoQuote (by decide)
  | trueWord => exact Tells.ofNoQuote (by decide)
  | falseWord => exact Tells.ofNoQuote (by decide)
  | number hNumber => exact hNumber.tells
  | string hString => exact hString.tells
  | list hItems hInner ih =>
      have hWhole := hInner.tells_list ih
      rwa [any_named_eq_false] at hWhole
  | object hMembers hValues hInner ih =>
      have hWhole :=
        hInner.tells_object fun m hMem =>
          (hMembers m hMem).tells (ih m hMem)
      rwa [any_named_eq_false] at hWhole

theorem Decodes.namesNumber_eq_false
    {cs : List Char}
    {v : Value}
    (hDecodes : Decodes cs v) :
    namesNumber .outside cs = false := by
  rcases hDecodes with ⟨inner, hReads, hPadded⟩
  exact (hPadded.tells hReads.tells).namesNumber_eq

end Json

end SqlGateway
