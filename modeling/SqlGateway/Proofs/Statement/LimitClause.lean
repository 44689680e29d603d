import SqlGateway.Proofs.Statement.EngineCaps

/-
  This file shows that capping a statement for PostgreSQL
  takes nothing from it but blanks in front and blanks and
  semicolons at the end, and puts a LIMIT clause on a line
  of its own behind it, where it is found as a word when the
  statement is capped again.

  Key definitions include:
    * `isSeparator`
    * `trimClosing`
    * `isLineBreak`
    * `lastLine`
    * `LimitAppended`

  Main declarations:
    * `trimClosing_append`
    * `exists_limitBody_append`
    * `lastLine_limitClause`
    * `capRows_postgres_eq_iff`
    * `limit_appended_to_body`
-/

namespace SqlGateway

namespace Statement

open Text

variable {cs : List Char}
variable {n : Int}

------------------------------------------------------------
-- Bodies
------------------------------------------------------------

/- The characters between statements: blanks and
   semicolons. -/
def isSeparator (c : Char) : Bool :=
  isBlank c || c == ';'

/- No separator belongs to a keyword. -/
theorem Keyword.SpelledBy.not_isSeparator
    {k : Keyword}
    {word : List Char}
    (hSpelled : k.SpelledBy word) :
    ∀ c ∈ word, isSeparator c = false := by
  intro c hMem
  unfold isSeparator
  rw [hSpelled.not_isBlank c hMem,
    hSpelled.ne_semicolon c hMem]
  rfl

theorem Keyword.SpelledBy.exists_getLast?
    {k : Keyword}
    {word : List Char}
    (hSpelled : k.SpelledBy word) :
    ∃ c ∈ word.getLast?, isSeparator c = false := by
  rcases hSpelled.exists_last with ⟨c, hMem, hLast⟩
  exact ⟨c, hLast, hSpelled.not_isSeparator c hMem⟩

/- Blanks, semicolons and blanks, as many as there are. -/
def IsClosing (cs : List Char) : Prop :=
  ∃ blanks semicolons more : List Char,
    cs = blanks ++ (semicolons ++ more) ∧
      (∀ c ∈ blanks, isBlank c = true) ∧
      (∀ c ∈ semicolons, (c == ';') = true) ∧
      (∀ c ∈ more, isBlank c = true)

theorem IsClosing.isSeparator
    (hClosing : IsClosing cs) :
    ∀ c ∈ cs, isSeparator c = true := by
  rcases hClosing with
    ⟨blanks, semicolons, more, rfl, hBlanks, hSemicolons,
      hMore⟩
  intro c hMem
  unfold Statement.isSeparator
  rw [List.mem_append, List.mem_append] at hMem
  rcases hMem with hBlank | hSemicolon | hAfter
  · simp [hBlanks c hBlank]
  · simp [hSemicolons c hSemicolon]
  · simp [hMore c hAfter]

/- A text without what a statement loses at its end. -/
def trimClosing (cs : List Char) : List Char :=
  trimRight isBlank
    (trimRight (· == ';') (trimRight isBlank cs))

theorem exists_trimClosing_append (cs : List Char) :
    ∃ closing : List Char,
      cs = trimClosing cs ++ closing ∧ IsClosing closing := by
  rcases exists_trimRight_append isBlank cs with
    ⟨more, hText, hMore⟩
  rcases exists_trimRight_append (· == ';')
      (trimRight isBlank cs) with
    ⟨semicolons, hFront, hSemicolons⟩
  rcases exists_trimRight_append isBlank
      (trimRight (· == ';') (trimRight isBlank cs)) with
    ⟨blanks, hBody, hBlanks⟩
  refine
    ⟨blanks ++ (semicolons ++ more), ?_, blanks, semicolons,
      more, rfl, hBlanks, hSemicolons, hMore⟩
  calc
    cs = trimRight isBlank cs ++ more := hText
    _ = trimRight (· == ';') (trimRight isBlank cs) ++
          (semicolons ++ more) := by
      rw [← List.append_assoc, ← hFront]
    _ = trimClosing cs ++
          (blanks ++ (semicolons ++ more)) := by
      unfold trimClosing
      rw [← List.append_assoc _ blanks, ← hBody]

/- A last character that is no separator keeps all before
   it. -/
theorem trimClosing_append
    {core : List Char}
    (hLast : ∃ c ∈ core.getLast?, isSeparator c = false)
    (tail : List Char) :
    trimClosing (core ++ tail) =
      core ++ trimClosing tail := by
  rcases hLast with ⟨c, hMem, hStays⟩
  rcases Bool.or_eq_false_iff.mp hStays with
    ⟨hBlank, hSemicolon⟩
  unfold trimClosing
  rw [trimRight_append ⟨c, hMem, hBlank⟩,
    trimRight_append ⟨c, hMem, hSemicolon⟩,
    trimRight_append ⟨c, hMem, hBlank⟩]

/- A text that ends a word at its front does so when its end
   is cut off. -/
theorem not_startsWith_of_append
    {p : Char → Bool}
    {front tail : List Char}
    (hNot : startsWith p (front ++ tail) = false) :
    startsWith p front = false := by
  cases front with
  | nil => rfl
  | cons c front => exact hNot

/- The body of a statement begins with the keyword that
   opens it. -/
theorem limitBody_append
    {k : Keyword}
    {leading word : List Char}
    (hLeading : ∀ c ∈ leading, isBlank c = true)
    (hSpelled : k.SpelledBy word)
    (rest : List Char) :
    limitBody (leading ++ (word ++ rest)) =
      word ++ trimClosing rest := by
  change
    trimClosing
        (trimLeft isBlank (leading ++ (word ++ rest))) =
      word ++ trimClosing rest
  rw [trimLeft_blanks_append hLeading hSpelled,
    trimClosing_append hSpelled.exists_getLast?]

/- The body of a SELECT is the statement without blanks in
   front and separators at the end, and still a SELECT. -/
theorem exists_limitBody_append
    (hOpens : Keyword.Opens .select cs) :
    ∃ leading tail : List Char,
      cs = leading ++ (limitBody cs ++ tail) ∧
        (∀ c ∈ leading, isBlank c = true) ∧
        (∀ c ∈ tail, isSeparator c = true) ∧
        Keyword.Begins .select (limitBody cs) := by
  rcases hOpens with
    ⟨leading, text, rfl, hLeading, word, rest, rfl, hSpelled,
      hEnds⟩
  have hBody := limitBody_append hLeading hSpelled rest
  rcases exists_trimClosing_append rest with
    ⟨tail, hRest, hClosing⟩
  refine ⟨leading, tail, ?_, hLeading, hClosing.isSeparator, ?_⟩
  · rw [hBody, List.append_assoc, ← hRest]
  · rw [hRest] at hEnds
    rw [hBody]
    exact ⟨word, _, rfl, hSpelled, not_startsWith_of_append hEnds⟩

------------------------------------------------------------
-- Lines
------------------------------------------------------------

/- The characters that end a line. -/
def isLineBreak (c : Char) : Bool :=
  inRanges
    [(0x0A, 0x0D), (0x1C, 0x1E), (0x85, 0x85),
     (0x2028, 0x2029)]
    c

/- What stands behind the last line break of a text. -/
def lastLine (cs : List Char) : List Char :=
  (cs.reverse.takeWhile (!isLineBreak ·)).reverse

/- A text without line breaks is the last line where it
   stands behind one. -/
theorem lastLine_append
    {line : List Char}
    {stop : Char}
    (hStop : isLineBreak stop = true)
    (hLine : ∀ c ∈ line, isLineBreak c = false)
    (cs : List Char) :
    lastLine (cs ++ stop :: line) = line := by
  have hReverse :
      (cs ++ stop :: line).reverse =
        line.reverse ++ stop :: cs.reverse := by
    simp
  have hKept : ∀ c ∈ line.reverse,
      (!isLineBreak c) = true := by
    intro c hMem
    rw [hLine c (List.mem_reverse.mp hMem)]
    rfl
  unfold lastLine
  rw [hReverse, List.takeWhile_append_of_pos hKept,
    List.takeWhile_cons_of_neg (by simp [hStop]),
    List.append_nil, List.reverse_reverse]

theorem not_isLineBreak_of_isDigit
    {c : Char}
    (hDigit : c.isDigit = true) :
    isLineBreak c = false := by
  rcases Char.isDigit_iff_toNat.mp hDigit with ⟨hLow, hHigh⟩
  have hZero : '0'.toNat = 0x30 := rfl
  have hNine : '9'.toNat = 0x39 := rfl
  simp only [isLineBreak, inRanges, inRange, List.any_cons,
    List.any_nil, Bool.or_eq_false_iff, Bool.and_eq_false_iff,
    decide_eq_false_iff_not, and_true]
  omega

theorem not_isLineBreak_of_mem_signed
    {c : Char}
    (hMem : c ∈ signed n) :
    isLineBreak c = false := by
  have hDecimal : ∀ k : Nat, c ∈ decimal k →
      isLineBreak c = false := by
    intro k hDigit
    exact not_isLineBreak_of_isDigit
      (Nat.isDigit_of_mem_toDigits (by decide) (by decide)
        hDigit)
  cases n with
  | ofNat k => exact hDecimal k hMem
  | negSucc k =>
      rcases List.mem_cons.mp hMem with hSign | hDigit
      · rw [hSign]
        decide
      · exact hDecimal (k + 1) hDigit

/- The limit is the last line of a text with a LIMIT clause at
   its end, whatever stands before. -/
theorem lastLine_limitClause
    (cs : List Char)
    (n : Int) :
    lastLine (cs ++ limitClause n) =
      ("LIMIT " ++ toString n).toList := by
  rw [String.toList_append, ← signed_eq_toString]
  have hBreak : isLineBreak '\n' = true := by decide
  have hLetters :
      ['L', 'I', 'M', 'I', 'T', ' '].all (!isLineBreak ·) =
        true := by
    decide
  apply lastLine_append hBreak
  intro c hMem
  rcases List.mem_append.mp hMem with hWord | hNumber
  · simpa using List.all_eq_true.mp hLetters c hWord
  · exact not_isLineBreak_of_mem_signed hNumber

------------------------------------------------------------
-- Appending
------------------------------------------------------------

/-
  A text is the body of a statement with a LIMIT clause
  behind it, on the last line.  The body is the statement
  without blanks in front and separators at the end; it is
  not empty and begins with SELECT.
-/
def LimitAppended
    (cs : List Char)
    (n : Int)
    (result : List Char) : Prop :=
  ∃ leading body tail : List Char,
    cs = leading ++ (body ++ tail) ∧
      (∀ c ∈ leading, isBlank c = true) ∧
      (∀ c ∈ tail, isSeparator c = true) ∧
      body ≠ [] ∧
      Keyword.Begins .select body ∧
      result = body ++ ("\nLIMIT " ++ toString n).toList ∧
      lastLine result = ("LIMIT " ++ toString n).toList

/- A statement is not changed where it is no SELECT or has a
   limit of its own. -/
theorem capRows_postgres_eq_iff :
    capRows .postgres cs n = cs ↔
      ¬ Keyword.Opens .select cs ∨
        Keyword.StandsIn .limit cs := by
  rw [← isSelect_iff_opens, ← hasKeyword_iff]
  cases hLimit : hasKeyword .limit cs with
  | true =>
      have hSame : capRows .postgres cs n = cs :=
        capRows_of_hasKeyword List.mem_cons_self hLimit n
      simp [hSame]
  | false =>
      rw [← not_iff_not, ← ne_eq,
        capRows_postgres_ne_iff hLimit]
      simp

/- A text that begins with a keyword is not empty. -/
theorem Keyword.Begins.ne_nil
    {k : Keyword}
    (hBegins : k.Begins cs) :
    cs ≠ [] := by
  rcases hBegins with ⟨word, rest, rfl, hSpelled, -⟩
  rcases hSpelled.exists_cons with ⟨c, more, rfl⟩
  exact List.cons_ne_nil c _

/- What is changed has the clause behind its body. -/
theorem limitAppended_of_capRows_ne
    (hCapped : capRows .postgres cs n ≠ cs) :
    LimitAppended cs n (capRows .postgres cs n) := by
  have hUnlimited := isUnlimited_of_capRows_ne hCapped
  have hSelect : isSelect cs = true :=
    (Bool.and_eq_true_iff.mp hUnlimited).1
  rcases exists_limitBody_append
      (isSelect_iff_opens.mp hSelect) with
    ⟨leading, tail, hText, hLeading, hTail, hBegins⟩
  have hResult := capRows_of_isUnlimited hUnlimited n
  have hLine :
      lastLine (capRows .postgres cs n) =
        ("LIMIT " ++ toString n).toList := by
    rw [hResult]
    exact lastLine_limitClause _ n
  rw [limitClause_eq] at hResult
  exact
    ⟨leading, limitBody cs, tail, hText, hLeading, hTail,
      hBegins.ne_nil, hBegins, hResult, hLine⟩

/-
  For PostgreSQL a statement stays as it is, or is given a
  LIMIT clause behind its body.  It stays as it is if and
  only if it does not open with the word SELECT or the word
  LIMIT stands in it; capping the result again, at whatever
  number, does not change it.
-/
theorem limit_appended_to_body
    (cs : List Char)
    (n : Int) :
    (capRows .postgres cs n = cs ↔
        ¬ Keyword.Opens .select cs ∨
          Keyword.StandsIn .limit cs) ∧
      (capRows .postgres cs n = cs ∨
        LimitAppended cs n (capRows .postgres cs n)) ∧
      ∀ m : Int,
        capRows .postgres (capRows .postgres cs n) m =
          capRows .postgres cs n := by
  refine ⟨capRows_postgres_eq_iff, ?_, ?_⟩
  · by_cases hSame : capRows .postgres cs n = cs
    · exact Or.inl hSame
    · exact Or.inr (limitAppended_of_capRows_ne hSame)
  · intro m
    by_cases hSame : capRows .postgres cs n = cs
    · -- Whether a statement is changed does not hang on the
      -- number.
      rw [hSame]
      exact
        capRows_postgres_eq_iff.mpr
          (capRows_postgres_eq_iff.mp hSame)
    · have hUnlimited := isUnlimited_of_capRows_ne hSame
      rw [capRows_of_isUnlimited hUnlimited n]
      exact
        capRows_of_hasKeyword (k := .limit)
          List.mem_cons_self
          (hasKeyword_limitClause _ n) m

/- A comment at the end keeps its line, and the semicolon
   behind it goes. -/
theorem limit_appended_to_comment :
    let sql := " SELECT a FROM t -- all; ".toList
    let capped := "SELECT a FROM t -- all\nLIMIT 50".toList
    capRows .postgres sql 50 = capped ∧
      LimitAppended sql 50 capped ∧
      ∀ m : Int, capRows .postgres capped m = capped := by
  intro sql capped
  have hCapped : capRows .postgres sql 50 = capped := by
    decide +kernel
  have hOther : capped ≠ sql := by decide
  rcases limit_appended_to_body sql 50 with
    ⟨-, hForm, hAgain⟩
  rw [hCapped] at hForm hAgain
  exact ⟨hCapped, hForm.resolve_left hOther, hAgain⟩

end Statement

end SqlGateway
