import SqlGateway.Proofs.Json.Grammar

/-
  This file shows that the grammar of JSON is unambiguous: a
  text stands for one value at most, and where a value ends
  is settled by the text itself.

  Key definitions include:
    * `Json.isNumberChar`
    * `Json.Ends`
    * `Json.Stops`
    * `Json.Closes`
    * `Json.Delimited`
    * `Json.Settled`

  Main declarations:
    * `Json.StringForm.unique`
    * `Json.Number.WellFormed.unique`
    * `Json.Joined.unique`
    * `Json.Reads.settled`
    * `Json.Decodes.unique`
-/

namespace SqlGateway

namespace Json

open Text

------------------------------------------------------------
-- Runs
------------------------------------------------------------

/- A run of characters of one kind is found again in front of
   a text that goes on otherwise. -/
theorem takeWhile_run_append
    {p : Char → Bool}
    {run rest : List Char}
    (hRun : ∀ c ∈ run, p c = true)
    (hRest : ∀ c, rest.head? = some c → p c = false) :
    (run ++ rest).takeWhile p = run := by
  rw [List.takeWhile_append_of_pos hRun]
  cases rest with
  | nil => simp
  | cons c rest =>
      have hFirst : p c = false := hRest c rfl
      simp [hFirst]

theorem run_append_inj
    {p : Char → Bool}
    {run run' rest rest' : List Char}
    (hRun : ∀ c ∈ run, p c = true)
    (hRun' : ∀ c ∈ run', p c = true)
    (hRest : ∀ c, rest.head? = some c → p c = false)
    (hRest' : ∀ c, rest'.head? = some c → p c = false)
    (hText : run ++ rest = run' ++ rest') :
    run = run' ∧ rest = rest' := by
  have hSame : run = run' := by
    rw [← takeWhile_run_append hRun hRest, hText,
      takeWhile_run_append hRun' hRest']
  rw [hSame] at hText
  exact ⟨hSame, List.append_cancel_left hText⟩

------------------------------------------------------------
-- Strings
------------------------------------------------------------

theorem CodeForm.exists_cons
    {cs : List Char}
    {code : Code}
    (hCode : CodeForm cs code) :
    ∃ c rest, cs = c :: rest ∧ c ≠ '\x22' := by
  cases hCode with
  | plain hQuote hEscape hControl =>
      exact ⟨_, _, rfl, hQuote⟩
  | short hShort => exact ⟨_, _, rfl, by decide⟩
  | unit hUnit => exact ⟨_, _, rfl, by decide⟩

/- Where a code ends is settled by the code. -/
theorem CodeForm.unique
    {cs cs' r r' : List Char}
    {code code' : Code}
    (hCode : CodeForm cs code)
    (hCode' : CodeForm cs' code')
    (hText : cs ++ r = cs' ++ r') :
    cs = cs' ∧ code = code' := by
  cases hCode with
  | plain hQuote hEscape hControl =>
      cases hCode' with
      | plain hQuote' hEscape' hControl' =>
          have hSame := (List.cons_eq_cons.mp hText).1
          rw [hSame]
          exact ⟨rfl, rfl⟩
      | short hShort =>
          exact absurd (List.cons_eq_cons.mp hText).1 hEscape
      | unit hUnit =>
          exact absurd (List.cons_eq_cons.mp hText).1 hEscape
  | short hShort =>
      cases hCode' with
      | plain hQuote hEscape hControl =>
          exact
            absurd (List.cons_eq_cons.mp hText).1.symm hEscape
      | short hShort' =>
          simp only [List.cons_append, List.cons.injEq,
            true_and] at hText
          rw [hText.1] at hShort ⊢
          rw [hShort] at hShort'
          cases hShort'
          exact ⟨rfl, rfl⟩
      | unit hUnit =>
          simp only [List.cons_append, List.cons.injEq,
            true_and] at hText
          rw [hText.1] at hShort
          cases hShort
  | unit hUnit =>
      cases hCode' with
      | plain hQuote hEscape hControl =>
          exact
            absurd (List.cons_eq_cons.mp hText).1.symm hEscape
      | short hShort =>
          simp only [List.cons_append, List.cons.injEq,
            true_and] at hText
          rw [← hText.1] at hShort
          cases hShort
      | unit hUnit' =>
          simp only [List.cons_append, List.cons.injEq,
            true_and] at hText
          rcases hText with ⟨rfl, rfl, rfl, rfl, hRest⟩
          rw [hUnit] at hUnit'
          cases hUnit'
          exact ⟨rfl, rfl⟩

/- Where the codes of a string end is settled by the quote
   behind them. -/
theorem BodyForm.unique
    {body body' r r' : List Char}
    {codes codes' : List Code}
    (hBody : BodyForm body codes)
    (hBody' : BodyForm body' codes')
    (hText : body ++ '\x22' :: r = body' ++ '\x22' :: r') :
    body = body' ∧ codes = codes' := by
  induction hBody generalizing body' codes' with
  | nil =>
      cases hBody' with
      | nil => exact ⟨rfl, rfl⟩
      | cons hCode hRest =>
          rcases hCode.exists_cons with ⟨c, more, rfl, hQuote⟩
          exact
            absurd (List.cons_eq_cons.mp hText).1.symm hQuote
  | cons hCode hRest ih =>
      cases hBody' with
      | nil =>
          rcases hCode.exists_cons with ⟨c, more, rfl, hQuote⟩
          exact absurd (List.cons_eq_cons.mp hText).1 hQuote
      | cons hCode' hRest' =>
          rw [List.append_assoc, List.append_assoc] at hText
          rcases hCode.unique hCode' hText with ⟨rfl, rfl⟩
          rcases ih hRest' (List.append_cancel_left hText)
            with ⟨rfl, rfl⟩
          exact ⟨rfl, rfl⟩

theorem StringForm.exists_cons
    {cs : List Char}
    {codes : List Code}
    (hString : StringForm cs codes) :
    ∃ rest, cs = '\x22' :: rest := by
  cases hString with
  | quoted hBody => exact ⟨_, rfl⟩

/- Where a string ends is settled by the string. -/
theorem StringForm.unique
    {cs cs' r r' : List Char}
    {codes codes' : List Code}
    (hString : StringForm cs codes)
    (hString' : StringForm cs' codes')
    (hText : cs ++ r = cs' ++ r') :
    cs = cs' ∧ codes = codes' := by
  cases hString with
  | quoted hBody =>
      cases hString' with
      | quoted hBody' =>
          simp only [List.cons_append, List.append_assoc,
            List.nil_append, List.cons.injEq, true_and]
            at hText
          rcases hBody.unique hBody' hText with ⟨rfl, rfl⟩
          exact ⟨rfl, rfl⟩

------------------------------------------------------------
-- Numbers
------------------------------------------------------------

/- The characters that numbers are made of. -/
def isNumberChar (c : Char) : Bool :=
  c.isDigit || c == '-' || c == '+' || c == '.' ||
    c == 'e' || c == 'E'

/- A text does not go on with a number. -/
def Ends (cs : List Char) : Prop :=
  ∀ c, cs.head? = some c → isNumberChar c = false

theorem of_mem_exponentMarks :
    ∀ mark ∈ exponentMarks,
      mark ≠ [] ∧ mark.head? ≠ some '.' ∧
        ∀ c ∈ mark, c.isDigit = false ∧
          isNumberChar c = true := by
  simp [exponentMarks, isNumberChar]

namespace Number

variable {n n' : Number}

/- The digits of a power are digits. -/
theorem WellFormed.power
    (hNumber : n.WellFormed) :
    ∀ c ∈ n.power, c.isDigit = true := by
  rcases hNumber.exponent with ⟨-, hPower⟩ | ⟨-, hPower⟩
  · simp [hPower]
  · exact hPower.2

/- No character of a mark is a digit. -/
theorem WellFormed.mark
    (hNumber : n.WellFormed) :
    ∀ c ∈ n.mark, c.isDigit = false ∧
      isNumberChar c = true := by
  rcases hNumber.exponent with ⟨hMark, -⟩ | ⟨hMark, -⟩
  · simp [hMark]
  · exact (of_mem_exponentMarks _ hMark).2.2

/- What follows the digits before or behind the point is no
   digit. -/
theorem WellFormed.not_isDigit_exponent
    (hNumber : n.WellFormed) :
    ∀ c, (n.mark ++ n.power).head? = some c →
      c.isDigit = false ∧ c ≠ '.' := by
  intro c hHead
  rcases hNumber.exponent with ⟨hMark, hPower⟩ | ⟨hMark, -⟩
  · rw [hMark, hPower] at hHead
    cases hHead
  · rcases of_mem_exponentMarks _ hMark with
      ⟨hSome, hPoint, hChars⟩
    rcases List.exists_cons_of_ne_nil hSome with
      ⟨d, more, hCons⟩
    rw [hCons] at hHead hPoint hChars
    cases hHead
    exact
      ⟨(hChars _ List.mem_cons_self).1,
        fun hSame => hPoint (congrArg some hSame)⟩

theorem WellFormed.not_isDigit_fraction
    (hNumber : n.WellFormed) :
    ∀ c, (n.fraction ++ (n.mark ++ n.power)).head? =
        some c →
      c.isDigit = false := by
  intro c hHead
  unfold fraction at hHead
  split at hHead
  · exact (hNumber.not_isDigit_exponent c hHead).1
  · cases hHead
    rfl

/- A number is made of the characters of numbers. -/
theorem WellFormed.isNumberChar_text
    (hNumber : n.WellFormed) :
    ∀ c ∈ n.text, isNumberChar c = true := by
  have hDigit :
      ∀ c : Char, c.isDigit = true →
        isNumberChar c = true := by
    intro c hC
    simp [isNumberChar, hC]
  intro c hMem
  simp only [text, List.mem_append] at hMem
  rcases hMem with hSign | hWhole | hFraction | hMark | hPower
  · unfold sign at hSign
    split at hSign
    · rw [List.mem_singleton.mp hSign]
      rfl
    · cases hSign
  · exact hDigit c (hNumber.whole.2 c hWhole)
  · unfold fraction at hFraction
    split at hFraction
    · cases hFraction
    · rcases List.mem_cons.mp hFraction with hPoint | hPlace
      · rw [hPoint]
        rfl
      · exact hDigit c (hNumber.places c hPlace)
  · exact (hNumber.mark c hMark).2
  · exact hDigit c (hNumber.power c hPower)

/- A number begins with a character of numbers. -/
theorem WellFormed.exists_cons
    (hNumber : n.WellFormed) :
    ∃ c rest, n.text = c :: rest ∧
      isNumberChar c = true := by
  have hSome : n.text ≠ [] := by
    simp [text, hNumber.whole.1]
  rcases List.exists_cons_of_ne_nil hSome with
    ⟨c, rest, hText⟩
  refine ⟨c, rest, hText, ?_⟩
  apply hNumber.isNumberChar_text
  rw [hText]
  exact List.mem_cons_self

/- The sign is found again in front of digits. -/
theorem sign_append_inj
    {rest rest' : List Char}
    (hDigits :
      ∀ c, rest.head? = some c → c ≠ '-')
    (hDigits' :
      ∀ c, rest'.head? = some c → c ≠ '-')
    (hText : n.sign ++ rest = n'.sign ++ rest') :
    n.negative = n'.negative ∧ rest = rest' := by
  unfold sign at hText
  cases hSign : n.negative with
  | false =>
      cases hSign' : n'.negative with
      | false =>
          rw [hSign, hSign'] at hText
          exact ⟨rfl, hText⟩
      | true =>
          rw [hSign, hSign'] at hText
          have hHead : rest.head? = some '-' := by
            rw [show rest = '-' :: rest' from hText]
            rfl
          exact absurd rfl (hDigits _ hHead)
  | true =>
      cases hSign' : n'.negative with
      | false =>
          rw [hSign, hSign'] at hText
          have hHead : rest'.head? = some '-' := by
            rw [← show '-' :: rest = rest' from hText]
            rfl
          exact absurd rfl (hDigits' _ hHead)
      | true =>
          rw [hSign, hSign'] at hText
          exact ⟨rfl, (List.cons_eq_cons.mp hText).2⟩

/- The fraction is found again in front of an exponent. -/
theorem fraction_append_inj
    (hNumber : n.WellFormed)
    (hNumber' : n'.WellFormed)
    (hText :
      n.fraction ++ (n.mark ++ n.power) =
        n'.fraction ++ (n'.mark ++ n'.power)) :
    n.places = n'.places ∧
      n.mark ++ n.power = n'.mark ++ n'.power := by
  have hPoint := fun c hHead =>
    (hNumber.not_isDigit_exponent c hHead).2
  have hPoint' := fun c hHead =>
    (hNumber'.not_isDigit_exponent c hHead).2
  unfold fraction at hText
  cases hPlaces : n.places with
  | nil =>
      cases hPlaces' : n'.places with
      | nil =>
          rw [hPlaces, hPlaces'] at hText
          exact ⟨rfl, hText⟩
      | cons d ds =>
          rw [hPlaces, hPlaces'] at hText
          have hHead :
              (n.mark ++ n.power).head? = some '.' :=
            congrArg List.head? hText
          exact absurd rfl (hPoint _ hHead)
  | cons d ds =>
      cases hPlaces' : n'.places with
      | nil =>
          rw [hPlaces, hPlaces'] at hText
          have hHead :
              (n'.mark ++ n'.power).head? = some '.' :=
            congrArg List.head? hText.symm
          exact absurd rfl (hPoint' _ hHead)
      | cons d' ds' =>
          rw [hPlaces, hPlaces'] at hText
          have hDigits := hNumber.places
          have hDigits' := hNumber'.places
          rw [hPlaces] at hDigits
          rw [hPlaces'] at hDigits'
          exact
            run_append_inj hDigits hDigits'
              (fun c hHead =>
                (hNumber.not_isDigit_exponent c hHead).1)
              (fun c hHead =>
                (hNumber'.not_isDigit_exponent c hHead).1)
              (List.cons_eq_cons.mp hText).2

/- The parts of a number are settled by its text. -/
theorem WellFormed.text_inj
    (hNumber : n.WellFormed)
    (hNumber' : n'.WellFormed)
    (hText : n.text = n'.text) :
    n = n' := by
  have hNoSign :
      ∀ {m : Number}, m.WellFormed →
        ∀ c, (m.whole ++ (m.fraction ++
            (m.mark ++ m.power))).head? = some c →
          c ≠ '-' := by
    intro m hM c hHead hMinus
    rcases List.exists_cons_of_ne_nil hM.whole.1 with
      ⟨d, ds, hCons⟩
    rw [hCons] at hHead
    cases hHead
    have hDigit := hM.whole.2 c (by simp [hCons])
    rw [hMinus] at hDigit
    cases hDigit
  rcases sign_append_inj (hNoSign hNumber) (hNoSign hNumber')
    hText with ⟨hSign, hRest⟩
  rcases run_append_inj hNumber.whole.2 hNumber'.whole.2
    hNumber.not_isDigit_fraction
    hNumber'.not_isDigit_fraction hRest with ⟨hWhole, hRest⟩
  rcases fraction_append_inj hNumber hNumber' hRest with
    ⟨hPlaces, hRest⟩
  have hMarks :
      ∀ {m : Number}, m.WellFormed →
        ∀ c ∈ m.mark, (!c.isDigit) = true := by
    intro m hM c hMem
    simp [(hM.mark c hMem).1]
  have hPowers :
      ∀ {m : Number}, m.WellFormed →
        ∀ c, m.power.head? = some c →
          (!c.isDigit) = false := by
    intro m hM c hHead
    simp [hM.power c (List.mem_of_mem_head? hHead)]
  rcases run_append_inj (hMarks hNumber) (hMarks hNumber')
    (hPowers hNumber) (hPowers hNumber') hRest with
    ⟨hMark, hPower⟩
  cases n
  cases n'
  simp only [Number.mk.injEq]
  exact ⟨hSign, hWhole, hPlaces, hMark, hPower⟩

/- Where a number ends is settled by what follows. -/
theorem WellFormed.unique
    {r r' : List Char}
    (hNumber : n.WellFormed)
    (hNumber' : n'.WellFormed)
    (hText : n.text ++ r = n'.text ++ r')
    (hEnds : Ends r)
    (hEnds' : Ends r') :
    n = n' :=
  hNumber.text_inj hNumber'
    (run_append_inj hNumber.isNumberChar_text
      hNumber'.isNumberChar_text hEnds hEnds' hText).1

end Number

------------------------------------------------------------
-- Items
------------------------------------------------------------

/- A text goes on neither with a number nor with white
   space. -/
def Stops (cs : List Char) : Prop :=
  ∀ c, cs.head? = some c →
    isNumberChar c = false ∧ isSpace c = false

/- White space is no part of a number. -/
theorem isNumberChar_of_isSpace
    {c : Char}
    (hSpace : isSpace c = true) :
    isNumberChar c = false := by
  simp only [isSpace, Bool.or_eq_true, beq_iff_eq] at hSpace
  rcases hSpace with ((rfl | rfl) | rfl) | rfl <;> rfl

/- White space before a stop is no part of a number. -/
theorem Stops.ends_append
    {gap r : List Char}
    (hStops : Stops r)
    (hGap : IsGap gap) :
    Ends (gap ++ r) := by
  intro c hHead
  cases gap with
  | nil => exact (hStops c hHead).1
  | cons d gap =>
      cases hHead
      exact isNumberChar_of_isSpace (hGap _ List.mem_cons_self)

/- White space is found again before a stop. -/
theorem gap_append_inj
    {gap gap' r r' : List Char}
    (hGap : IsGap gap)
    (hGap' : IsGap gap')
    (hFirst : ∀ c, r.head? = some c → isSpace c = false)
    (hFirst' : ∀ c, r'.head? = some c → isSpace c = false)
    (hText : gap ++ r = gap' ++ r') :
    gap = gap' ∧ r = r' :=
  run_append_inj hGap hGap' hFirst hFirst' hText

/- The first characters that items do not have: white space
   and what stands behind items. -/
def isSeparator (c : Char) : Bool :=
  isSpace c || c == ',' || c == ']' || c == '\x7d'

/- A text begins with no separator. -/
def Opened (cs : List Char) : Prop :=
  ∃ c rest, cs = c :: rest ∧ isSeparator c = false

theorem Opened.not_isSpace
    {cs : List Char}
    (hOpened : Opened cs)
    (r : List Char) :
    ∀ c, (cs ++ r).head? = some c → isSpace c = false := by
  intro c hHead
  rcases hOpened with ⟨d, rest, rfl, hNot⟩
  cases hHead
  simp only [isSeparator, Bool.or_eq_false_iff] at hNot
  exact hNot.1.1.1

/- A character closes a list of items: it stops an item, and
   is a separator other than the comma. -/
structure Closes (close : Char) : Prop where
  stops : ∀ rest, Stops (close :: rest)
  noComma : close ≠ ','
  separator : isSeparator close = true

theorem Closes.not_isSpace
    {close : Char}
    (hClose : Closes close)
    (rest : List Char) :
    ∀ c, (close :: rest).head? = some c →
      isSpace c = false :=
  fun c hHead => (hClose.stops rest c hHead).2

theorem closes_bracket : Closes ']' := by
  refine ⟨?_, by decide, rfl⟩
  intro rest c hHead
  cases hHead
  exact ⟨rfl, rfl⟩

theorem closes_brace : Closes '\x7d' := by
  refine ⟨?_, by decide, rfl⟩
  intro rest c hHead
  cases hHead
  exact ⟨rfl, rfl⟩

section Items

variable {α : Type}
variable {written : α → List Char}
variable {P : α → Prop}

/- Where an item ends is settled by what follows, and what
   is written there is one item only. -/
def Delimited
    (written : α → List Char)
    (P : α → Prop)
    (x : α) : Prop :=
  ∀ y, P y → ∀ r r',
    written x ++ r = written y ++ r' →
      Ends r → Ends r' → x = y

/- Items are found again between white space. -/
theorem Padded.unique
    {x y : α}
    {cs cs' r r' : List Char}
    (hX : Delimited written P x)
    (hY : P y)
    (hOpenedX : Opened (written x))
    (hOpenedY : Opened (written y))
    (hPadded : Padded (written x) cs)
    (hPadded' : Padded (written y) cs')
    (hStops : Stops r)
    (hStops' : Stops r')
    (hText : cs ++ r = cs' ++ r') :
    x = y ∧ r = r' := by
  rcases hPadded with ⟨before, after, hBefore, hAfter, rfl⟩
  rcases hPadded' with
    ⟨before', after', hBefore', hAfter', rfl⟩
  simp only [List.append_assoc] at hText
  have hInner :=
    (gap_append_inj hBefore hBefore'
      (hOpenedX.not_isSpace _) (hOpenedY.not_isSpace _)
      hText).2
  have hItem : x = y :=
    hX y hY _ _ hInner (hStops.ends_append hAfter)
      (hStops'.ends_append hAfter')
  rw [hItem] at hInner
  exact
    ⟨hItem,
      (gap_append_inj hAfter hAfter'
        (fun c hHead => (hStops c hHead).2)
        (fun c hHead => (hStops' c hHead).2)
        (List.append_cancel_left hInner)).2⟩

/- A comma stops an item, and so does a closing bracket. -/
theorem More.stops
    {items : List (List Char)}
    {cs r : List Char}
    (hMore : More items cs)
    (hStops : Stops r) :
    Stops (cs ++ r) := by
  cases hMore with
  | nil => exact hStops
  | cons hItem hRest =>
      intro c hHead
      cases hHead
      decide

/- Items behind commas are found again before a bracket. -/
theorem More.unique
    {xs ys : List α}
    {cs cs' r r' : List Char}
    {close : Char}
    (hClose : Closes close)
    (hXs : ∀ x ∈ xs, Delimited written P x)
    (hYs : ∀ y ∈ ys, P y)
    (hOpenedXs : ∀ x ∈ xs, Opened (written x))
    (hOpenedYs : ∀ y ∈ ys, Opened (written y))
    (hMore : More (xs.map written) cs)
    (hMore' : More (ys.map written) cs')
    (hText : cs ++ close :: r = cs' ++ close :: r') :
    xs = ys ∧ r = r' := by
  induction xs generalizing ys cs cs' with
  | nil =>
      cases hMore
      cases ys with
      | nil =>
          cases hMore'
          exact ⟨rfl, (List.cons_eq_cons.mp hText).2⟩
      | cons y ys =>
          cases hMore' with
          | cons hItem hRest =>
              exact
                absurd (List.cons_eq_cons.mp hText).1
                  hClose.noComma
  | cons x xs ih =>
      rw [List.forall_mem_cons] at hXs hOpenedXs
      cases hMore with
      | cons hItem hRest =>
          cases ys with
          | nil =>
              cases hMore'
              exact
                absurd (List.cons_eq_cons.mp hText).1.symm
                  hClose.noComma
          | cons y ys =>
              rw [List.forall_mem_cons] at hYs hOpenedYs
              cases hMore' with
              | cons hItem' hRest' =>
                  simp only [List.cons_append,
                    List.append_assoc, List.cons.injEq,
                    true_and] at hText
                  rcases hItem.unique hXs.1 hYs.1
                      hOpenedXs.1 hOpenedYs.1 hItem'
                      (hRest.stops (hClose.stops r))
                      (hRest'.stops (hClose.stops r')) hText
                    with
                    ⟨rfl, hLeft⟩
                  rcases ih hXs.2 hYs.2 hOpenedXs.2
                      hOpenedYs.2 hRest hRest' hLeft with
                    ⟨rfl, hBehind⟩
                  exact ⟨rfl, hBehind⟩

/- White space in front of a bracket is told apart from white
   space in front of an item. -/
theorem Padded.gap_append_ne
    {item cs gap r r' : List Char}
    {close : Char}
    (hOpened : Opened item)
    (hPadded : Padded item cs)
    (hGap : IsGap gap)
    (hClose : Closes close) :
    gap ++ close :: r ≠ cs ++ r' := by
  intro hText
  rcases hPadded with ⟨before, after, hBefore, hAfter, rfl⟩
  simp only [List.append_assoc] at hText
  have hInner :=
    (gap_append_inj hGap hBefore
      (hClose.not_isSpace r) (hOpened.not_isSpace _) hText).2
  rcases hOpened with ⟨c, rest, rfl, hNot⟩
  have hSeparator := hClose.separator
  rw [(List.cons_eq_cons.mp hInner).1, hNot] at hSeparator
  cases hSeparator

/- Items between commas are found again before a bracket. -/
theorem Joined.unique
    {xs ys : List α}
    {cs cs' r r' : List Char}
    {close : Char}
    (hClose : Closes close)
    (hXs : ∀ x ∈ xs, Delimited written P x)
    (hYs : ∀ y ∈ ys, P y)
    (hOpenedXs : ∀ x ∈ xs, Opened (written x))
    (hOpenedYs : ∀ y ∈ ys, Opened (written y))
    (hJoined : Joined (xs.map written) cs)
    (hJoined' : Joined (ys.map written) cs')
    (hText : cs ++ close :: r = cs' ++ close :: r') :
    xs = ys ∧ r = r' := by
  cases xs with
  | nil =>
      cases hJoined with
      | nil hGap =>
          cases ys with
          | nil =>
              cases hJoined' with
              | nil hGap' =>
                  have hInner :=
                    (gap_append_inj hGap hGap'
                      (hClose.not_isSpace r)
                      (hClose.not_isSpace r') hText).2
                  exact ⟨rfl, (List.cons_eq_cons.mp hInner).2⟩
          | cons y ys =>
              cases hJoined' with
              | cons hItem hRest =>
                  rw [List.append_assoc] at hText
                  exact
                    absurd hText
                      (hItem.gap_append_ne
                        (hOpenedYs y List.mem_cons_self)
                        hGap hClose)
  | cons x xs =>
      rw [List.forall_mem_cons] at hXs hOpenedXs
      cases hJoined with
      | cons hItem hRest =>
          cases ys with
          | nil =>
              cases hJoined' with
              | nil hGap =>
                  rw [List.append_assoc] at hText
                  exact
                    absurd hText.symm
                      (hItem.gap_append_ne hOpenedXs.1 hGap hClose)
          | cons y ys =>
              rw [List.forall_mem_cons] at hYs hOpenedYs
              cases hJoined' with
              | cons hItem' hRest' =>
                  rw [List.append_assoc, List.append_assoc]
                    at hText
                  rcases hItem.unique hXs.1 hYs.1
                      hOpenedXs.1 hOpenedYs.1 hItem'
                      (hRest.stops (hClose.stops r))
                      (hRest'.stops (hClose.stops r')) hText
                    with
                    ⟨rfl, hLeft⟩
                  rcases hRest.unique hClose hXs.2 hYs.2
                      hOpenedXs.2 hOpenedYs.2 hRest' hLeft
                    with
                    ⟨rfl, hBehind⟩
                  exact ⟨rfl, hBehind⟩

end Items

------------------------------------------------------------
-- Values
------------------------------------------------------------

/- The first characters that a value may have. -/
def opens : Value → Char → Bool
  | .null, c => c == 'n'
  | .bool b, c => c == (if b then 't' else 'f')
  | .int _, c => isNumberChar c
  | .float _, c => isNumberChar c
  | .text _, c => c == '"'
  | .raw _, c => c == '"'
  | .list _, c => c == '['
  | .object _, c => c == '{'
  | _, _ => false

@[simp]
theorem opens_null (c : Char) :
    opens .null c = (c == 'n') :=
  rfl

@[simp]
theorem opens_bool (b : Bool) (c : Char) :
    opens (.bool b) c = (c == (if b then 't' else 'f')) :=
  rfl

@[simp]
theorem opens_list (vs : List Value) (c : Char) :
    opens (.list vs) c = (c == '[') :=
  rfl

@[simp]
theorem opens_object (fields : Fields) (c : Char) :
    opens (.object fields) c = (c == '\x7b') :=
  rfl

@[simp]
theorem opens_value (n : Number) (c : Char) :
    opens n.value c = isNumberChar c := by
  unfold Number.value
  split <;> rfl

@[simp]
theorem opens_ofCodes (codes : List Code) (c : Char) :
    opens (.ofCodes codes) c = (c == '"') := by
  unfold Value.ofCodes
  split <;> rfl

/- The text of a value begins with one of its characters. -/
theorem Reads.exists_cons
    {cs : List Char}
    {v : Value}
    (hReads : Reads cs v) :
    ∃ c rest, cs = c :: rest ∧ opens v c = true := by
  cases hReads with
  | nullWord => exact ⟨_, _, rfl, rfl⟩
  | trueWord => exact ⟨_, _, rfl, rfl⟩
  | falseWord => exact ⟨_, _, rfl, rfl⟩
  | number hNumber =>
      rcases hNumber.exists_cons with ⟨c, rest, hText, hChar⟩
      exact ⟨c, rest, hText, by simpa using hChar⟩
  | string hString =>
      rcases hString.exists_cons with ⟨rest, hText⟩
      exact ⟨_, rest, hText, by simp⟩
  | list hItems hInner => exact ⟨_, _, rfl, rfl⟩
  | object hMembers hValues hInner => exact ⟨_, _, rfl, rfl⟩

/- No character of a number is a separator. -/
theorem not_isSeparator_of_isNumberChar
    {c : Char}
    (hChar : isNumberChar c = true) :
    isSeparator c = false := by
  cases hSeparator : isSeparator c with
  | false => rfl
  | true =>
      simp only [isSeparator, Bool.or_eq_true, beq_iff_eq]
        at hSeparator
      rcases hSeparator with ((hSpace | rfl) | rfl) | rfl
      · rw [isNumberChar_of_isSpace hSpace] at hChar
        cases hChar
      · cases hChar
      · cases hChar
      · cases hChar

theorem not_isSeparator_of_opens
    {v : Value}
    {c : Char}
    (hOpens : opens v c = true) :
    isSeparator c = false := by
  unfold opens at hOpens
  split at hOpens
  · rw [eq_of_beq hOpens]
    rfl
  · rw [eq_of_beq hOpens]
    split <;> rfl
  · exact not_isSeparator_of_isNumberChar hOpens
  · exact not_isSeparator_of_isNumberChar hOpens
  · rw [eq_of_beq hOpens]
    rfl
  · rw [eq_of_beq hOpens]
    rfl
  · rw [eq_of_beq hOpens]
    rfl
  · rw [eq_of_beq hOpens]
    rfl
  · cases hOpens

theorem Reads.opened
    {cs : List Char}
    {v : Value}
    (hReads : Reads cs v) :
    Opened cs := by
  rcases hReads.exists_cons with ⟨c, rest, hText, hOpens⟩
  exact ⟨c, rest, hText, not_isSeparator_of_opens hOpens⟩

theorem Member.WellFormed.opened
    {m : Member}
    (hMember : m.WellFormed) :
    Opened m.written := by
  rcases hMember.key.exists_cons with ⟨rest, hKey⟩
  unfold Member.written
  rw [hKey]
  exact ⟨_, _, rfl, rfl⟩

/- What a text stands for and where it ends is settled by the
   text. -/
def Settled (cs : List Char) (v : Value) : Prop :=
  ∀ cs' v' r r', Reads cs' v' →
    cs ++ r = cs' ++ r' → Ends r → Ends r' →
      v = v' ∧ r = r'

theorem Settled.delimited
    {item : List Char × Value}
    (hSettled : Settled item.1 item.2) :
    Delimited Prod.fst
      (fun item : List Char × Value => Reads item.1 item.2)
      item := by
  intro other hOther r r' hText hEnds hEnds'
  rcases hSettled _ _ r r' hOther hText hEnds hEnds' with
    ⟨hValue, hBehind⟩
  rw [hBehind] at hText
  exact Prod.ext (List.append_cancel_right hText) hValue

/- Where a member ends is settled by its value. -/
theorem Member.WellFormed.delimited
    {m : Member}
    (hMember : m.WellFormed)
    (hReads : Reads m.text m.value)
    (hSettled : Settled m.text m.value) :
    Delimited Member.written
      (fun m => m.WellFormed ∧ Reads m.text m.value) m := by
  rintro ⟨key, before, after, text, codes, v⟩
    ⟨hOther, hOtherReads⟩ r r' hText hEnds hEnds'
  simp only [written, List.append_assoc, List.cons_append]
    at hText
  rcases hMember.key.unique hOther.key hText with
    ⟨hKey, hCodes⟩
  rw [hKey] at hText
  have hColon := fun rest : List Char =>
    show ∀ c, (':' :: rest).head? = some c →
        isSpace c = false by
      intro c hHead
      cases hHead
      rfl
  rcases gap_append_inj hMember.before hOther.before
      (hColon _) (hColon _) (List.append_cancel_left hText)
    with ⟨hBefore, hAfterColon⟩
  rcases gap_append_inj hMember.after hOther.after
      (hReads.opened.not_isSpace _)
      (hOtherReads.opened.not_isSpace _)
      (List.cons_eq_cons.mp hAfterColon).2 with
    ⟨hAfter, hRest⟩
  rcases hSettled _ _ r r' hOtherReads hRest hEnds hEnds'
    with ⟨hSame, hBehind⟩
  rw [hBehind] at hRest
  cases m
  simp only [Member.mk.injEq]
  exact
    ⟨hKey, hBefore, hAfter, List.append_cancel_right hRest,
      hCodes, hSame⟩

/- Values that the same text begins with have a first character
   in common. -/
theorem Reads.exists_opens
    {cs cs' r r' : List Char}
    {v v' : Value}
    (hReads : Reads cs v)
    (hReads' : Reads cs' v')
    (hText : cs ++ r = cs' ++ r') :
    ∃ c, opens v c = true ∧ opens v' c = true := by
  rcases hReads.exists_cons with ⟨c, more, rfl, hC⟩
  rcases hReads'.exists_cons with ⟨d, more', rfl, hD⟩
  rw [← (List.cons_eq_cons.mp hText).1] at hD
  exact ⟨c, hC, hD⟩

/- What every value stands for and where it ends is settled by
   its text.  Both texts were read by the same rule, as they
   have the first character in common. -/
theorem Reads.settled
    {cs : List Char}
    {v : Value}
    (hReads : Reads cs v) :
    Settled cs v := by
  induction hReads with
  | nullWord =>
      intro cs' v' r r' hReads' hText hEnds hEnds'
      rcases Reads.nullWord.exists_opens hReads' hText with
        ⟨c, hC, hD⟩
      simp only [opens_null, beq_iff_eq] at hC
      subst hC
      cases hReads' with
      | nullWord =>
          exact ⟨rfl, List.append_cancel_left hText⟩
      | _ => simp [isNumberChar] at hD
  | trueWord =>
      intro cs' v' r r' hReads' hText hEnds hEnds'
      rcases Reads.trueWord.exists_opens hReads' hText with
        ⟨c, hC, hD⟩
      simp only [opens_bool, if_true, beq_iff_eq] at hC
      subst hC
      cases hReads' with
      | trueWord =>
          exact ⟨rfl, List.append_cancel_left hText⟩
      | _ => simp [isNumberChar] at hD
  | falseWord =>
      intro cs' v' r r' hReads' hText hEnds hEnds'
      rcases Reads.falseWord.exists_opens hReads' hText with
        ⟨c, hC, hD⟩
      simp only [opens_bool, Bool.false_eq_true, if_false,
        beq_iff_eq] at hC
      subst hC
      cases hReads' with
      | falseWord =>
          exact ⟨rfl, List.append_cancel_left hText⟩
      | _ => simp [isNumberChar] at hD
  | number hNumber =>
      intro cs' v' r r' hReads' hText hEnds hEnds'
      rcases (Reads.number hNumber).exists_opens hReads' hText
        with ⟨c, hC, hD⟩
      rw [opens_value] at hC
      cases hReads' with
      | number hNumber' =>
          have hSame :=
            hNumber.unique hNumber' hText hEnds hEnds'
          subst hSame
          exact ⟨rfl, List.append_cancel_left hText⟩
      | _ =>
          simp at hD
          rw [hD] at hC
          cases hC
  | string hString =>
      intro cs' v' r r' hReads' hText hEnds hEnds'
      rcases (Reads.string hString).exists_opens hReads' hText
        with ⟨c, hC, hD⟩
      simp only [opens_ofCodes, beq_iff_eq] at hC
      subst hC
      cases hReads' with
      | string hString' =>
          rcases hString.unique hString' hText with
            ⟨rfl, rfl⟩
          exact ⟨rfl, List.append_cancel_left hText⟩
      | _ => simp [isNumberChar] at hD
  | list hItems hInner ih =>
      intro cs' v' r r' hReads' hText hEnds hEnds'
      rcases (Reads.list hItems hInner).exists_opens hReads'
        hText with ⟨c, hC, hD⟩
      simp only [opens_list, beq_iff_eq] at hC
      subst hC
      cases hReads' with
      | list hItems' hInner' =>
          simp only [List.cons_append, List.append_assoc,
            List.nil_append, List.cons.injEq, true_and]
            at hText
          rcases hInner.unique closes_bracket
              (fun item hMem =>
                Settled.delimited (ih item hMem))
              hItems'
              (fun item hMem => (hItems item hMem).opened)
              (fun item hMem => (hItems' item hMem).opened)
              hInner' hText with
            ⟨rfl, hBehind⟩
          exact ⟨rfl, hBehind⟩
      | _ => simp [isNumberChar] at hD
  | object hMembers hValues hInner ih =>
      intro cs' v' r r' hReads' hText hEnds hEnds'
      rcases (Reads.object hMembers hValues
        hInner).exists_opens hReads' hText with ⟨c, hC, hD⟩
      simp only [opens_object, beq_iff_eq] at hC
      subst hC
      cases hReads' with
      | object hMembers' hValues' hInner' =>
          simp only [List.cons_append, List.append_assoc,
            List.nil_append, List.cons.injEq, true_and]
            at hText
          rcases hInner.unique closes_brace
              (fun m hMem =>
                (hMembers m hMem).delimited (hValues m hMem)
                  (ih m hMem))
              (fun m hMem =>
                ⟨hMembers' m hMem, hValues' m hMem⟩)
              (fun m hMem => (hMembers m hMem).opened)
              (fun m hMem => (hMembers' m hMem).opened)
              hInner' hText with
            ⟨rfl, hBehind⟩
          exact ⟨rfl, hBehind⟩
      | _ => simp [isNumberChar] at hD

/- A document stands for one value. -/
theorem Decodes.unique
    {cs : List Char}
    {v v' : Value}
    (hDecodes : Decodes cs v)
    (hDecodes' : Decodes cs v') :
    v = v' := by
  rcases hDecodes with ⟨inner, hReads, hPadded⟩
  rcases hDecodes' with ⟨inner', hReads', hPadded'⟩
  have hEmpty : Stops [] := by
    intro c hHead
    cases hHead
  have hPair : (inner, v) = (inner', v') :=
    (Padded.unique (Settled.delimited hReads.settled)
      hReads' hReads.opened hReads'.opened hPadded hPadded'
      hEmpty hEmpty rfl).1
  exact congrArg Prod.snd hPair

end Json

end SqlGateway
