import SqlGateway.Proofs.Statement.RowLimit

/-
  This file shows where a keyword stands that a text is
  searched for: between two characters that do not belong to
  words, or an end of the text in place of either.

  Key definitions include:
    * `Keyword.Begins`
    * `Keyword.Opens`
    * `Keyword.StandsIn`

  Main declarations:
    * `startsWithKeyword_iff`
    * `isSelect_iff_opens`
    * `hasKeyword_iff`
    * `isSelect_of_spaced`
-/

namespace SqlGateway

namespace Statement

open Text

variable {k : Keyword}
variable {cs : List Char}

------------------------------------------------------------
-- Ends of Words
------------------------------------------------------------

/- A text begins with a keyword, and no word goes on behind
   it. -/
def Keyword.Begins
    (k : Keyword)
    (cs : List Char) : Prop :=
  ∃ word rest, cs = word ++ rest ∧ k.SpelledBy word ∧
    startsWith isWordChar rest = false

theorem startsWithKeyword_iff :
    startsWithKeyword k cs = true ↔ k.Begins cs := by
  unfold startsWithKeyword splitKeyword?
  constructor
  · intro hStarts
    split at hStarts
    · rename_i word rest hSplit
      rcases splitWord?_eq_some.mp hSplit with
        ⟨hText, hSpelled⟩
      exact
        ⟨word, rest, hText, hSpelled, by simpa using hStarts⟩
    · cases hStarts
  · rintro ⟨word, rest, hText, hSpelled, hEnds⟩
    rw [splitWord?_eq_some.mpr ⟨hText, hSpelled⟩]
    simpa using hEnds

/- A text begins so behind blanks, if there are any. -/
def Keyword.Opens
    (k : Keyword)
    (cs : List Char) : Prop :=
  ∃ blanks body, cs = blanks ++ body ∧
    (∀ c ∈ blanks, isBlank c = true) ∧ k.Begins body

/- A SELECT is a text that opens with the word. -/
theorem isSelect_iff_opens :
    isSelect cs = true ↔ Keyword.Opens .select cs := by
  unfold isSelect
  rw [startsWithKeyword_iff]
  constructor
  · intro hBegins
    refine
      ⟨cs.takeWhile isBlank, trimLeft isBlank cs, ?_, ?_,
        hBegins⟩
    · exact List.takeWhile_append_dropWhile.symm
    · exact fun c hMem => List.mem_takeWhile_imp hMem
  · rintro ⟨blanks, body, rfl, hBlanks, hBegins⟩
    rcases hBegins with ⟨word, rest, rfl, hSpelled, hEnds⟩
    exact
      ⟨word, rest, trimLeft_blanks_append hBlanks hSpelled rest,
        hSpelled, hEnds⟩

/- The blank characters, one by one. -/
def blankCharacters : List Char :=
  blankRanges.flatMap fun r =>
    (List.range' r.1 (r.2 + 1 - r.1)).map Char.ofNat

theorem mem_blankCharacters_of_isBlank
    {c : Char}
    (hBlank : isBlank c = true) :
    c ∈ blankCharacters := by
  rcases List.any_eq_true.mp hBlank with
    ⟨r, hRange, hInside⟩
  rcases Bool.and_eq_true_iff.mp hInside with ⟨hLow, hHigh⟩
  have hLeast : r.1 ≤ c.toNat := of_decide_eq_true hLow
  have hMost : c.toNat ≤ r.2 := of_decide_eq_true hHigh
  refine List.mem_flatMap.mpr ⟨r, hRange, ?_⟩
  refine List.mem_map.mpr ⟨c.toNat, ?_, Char.ofNat_toNat c⟩
  rw [List.mem_range'_1]
  omega

theorem not_isWordChar_of_isBlank
    {c : Char}
    (hBlank : isBlank c = true) :
    isWordChar c = false := by
  have hAll : blankCharacters.all (!isWordChar ·) = true := by
    decide +kernel
  have hMem := mem_blankCharacters_of_isBlank hBlank
  simpa using List.all_eq_true.mp hAll c hMem

theorem not_startsWith_isWordChar
    (hBlank : startsWith isBlank cs = true) :
    startsWith isWordChar cs = false := by
  cases cs with
  | nil => rfl
  | cons c cs => exact not_isWordChar_of_isBlank hBlank

/- A SELECT with a blank behind it is one by its first
   word. -/
theorem isSelect_of_spaced
    (hSpaced :
      startsWithSpaced .select (trimLeft isBlank cs) =
        true) :
    isSelect cs = true := by
  rcases startsWithSpaced_iff.mp hSpaced with
    ⟨word, rest, hText, hSpelled, hBlank⟩
  exact startsWithKeyword_iff.mpr
    ⟨word, rest, hText, hSpelled,
      not_startsWith_isWordChar hBlank⟩

------------------------------------------------------------
-- Keywords Anywhere
------------------------------------------------------------

/- A text ends inside a word; an empty one as what stands
   before it does. -/
def endsInWord
    (inWord : Bool)
    (cs : List Char) : Bool :=
  (cs.getLast?.map isWordChar).getD inWord

/- The first character stands before the others. -/
theorem endsInWord_cons
    (inWord : Bool)
    (c : Char)
    (cs : List Char) :
    endsInWord inWord (c :: cs) =
      endsInWord (isWordChar c) cs := by
  unfold endsInWord
  rw [List.getLast?_cons]
  cases cs.getLast? with
  | none => rfl
  | some last => rfl

/- A keyword is found behind a front that does not end inside
   a word, and with the end of a word behind it. -/
theorem hasKeywordFrom_iff
    {inWord : Bool} :
    hasKeywordFrom k inWord cs = true ↔
      ∃ before word after, cs = before ++ (word ++ after) ∧
        endsInWord inWord before = false ∧
        k.SpelledBy word ∧
        startsWith isWordChar after = false := by
  induction cs generalizing inWord with
  | nil =>
      constructor
      · intro hFound
        cases hFound
      · rintro ⟨before, word, after, hText, -, hSpelled, -⟩
        rcases hSpelled.exists_cons with ⟨c, more, rfl⟩
        simp at hText
  | cons c cs ih =>
      rw [hasKeywordFrom, Bool.or_eq_true,
        Bool.and_eq_true, startsWithKeyword_iff, ih]
      constructor
      · rintro (⟨hOut, word, after, hText, hRest⟩ |
          ⟨before, word, after, hText, hOut, hRest⟩)
        · have hEnds : endsInWord inWord [] = false := by
            simpa [endsInWord] using hOut
          exact ⟨[], word, after, hText, hEnds, hRest⟩
        · refine
            ⟨c :: before, word, after, ?_, ?_, hRest⟩
          · rw [hText, List.cons_append]
          · rw [endsInWord_cons]
            exact hOut
      · rintro ⟨before, word, after, hText, hOut, hRest⟩
        cases before with
        | nil =>
            left
            have hNot : (!inWord) = true := by
              simpa [endsInWord] using hOut
            exact ⟨hNot, word, after, hText, hRest⟩
        | cons first before =>
            right
            rcases List.cons_eq_cons.mp hText with
              ⟨rfl, hMore⟩
            rw [endsInWord_cons] at hOut
            exact ⟨before, word, after, hMore, hOut, hRest⟩

/- A keyword stands in a text as a word of its own: no word
   goes on before it or behind it. -/
def Keyword.StandsIn
    (k : Keyword)
    (cs : List Char) : Prop :=
  ∃ before word after, cs = before ++ (word ++ after) ∧
    endsInWord false before = false ∧
    k.SpelledBy word ∧
    startsWith isWordChar after = false

theorem hasKeyword_iff :
    hasKeyword k cs = true ↔ k.StandsIn cs :=
  hasKeywordFrom_iff

theorem hasKeyword_eq_false_iff :
    hasKeyword k cs = false ↔ ¬ k.StandsIn cs := by
  rw [← hasKeyword_iff, Bool.not_eq_true]

end Statement

end SqlGateway
