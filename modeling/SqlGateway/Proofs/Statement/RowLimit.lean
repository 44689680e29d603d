import SqlGateway.Proofs.Statement.Classify
import SqlGateway.Statement.RowLimit

/-
  This file shows that capping the rows of a statement does
  not change its class: whatever is cut off or put in stands
  behind the opening that the class is told by.

  Main declarations:
    * `splitSpaced?_eq_some`
    * `topPoint?_eq_some`
    * `classify_topClause`
    * `classify_limitClause`
    * `classify_capRows`
-/

namespace SqlGateway

namespace Statement

open Text

variable {cs : List Char}

------------------------------------------------------------
-- SELECT
------------------------------------------------------------

/- The end of a keyword at the front of a text is not
   trimmed. -/
theorem trimRight_append_of_spelledBy
    {p : Char → Bool}
    {k : Keyword}
    {word : List Char}
    (hSpelled : k.SpelledBy word)
    (hStays : ∀ c ∈ word, p c = false)
    (rest : List Char) :
    trimRight p (word ++ rest) = word ++ trimRight p rest := by
  rcases hSpelled.exists_last with ⟨c, hMem, hLast⟩
  exact trimRight_append ⟨c, hLast, hStays c hMem⟩ rest

/- No semicolon belongs to a keyword. -/
theorem Keyword.SpelledBy.ne_semicolon
    {k : Keyword}
    {word : List Char}
    (hSpelled : k.SpelledBy word) :
    ∀ c ∈ word, (c == ';') = false := by
  intro c hMem
  rw [beq_eq_false_iff_ne]
  rintro rfl
  have hLetter : ';' ∈ k.letters := by
    rw [← hSpelled]
    exact List.mem_map.mpr ⟨';', hMem, rfl⟩
  revert hLetter
  cases k <;> decide

theorem select_of_prefix_openings :
    ∀ rule ∈ openings,
      Keyword.select.letters <+: rule.1.word.letters →
        rule = (.keyword .select, .read) := by
  decide

/- A text that opens with SELECT reads. -/
theorem classify_of_select
    (hSpaced :
      startsWithSpaced .select (trimLeft isBlank cs) =
        true) :
    classify cs = some .read :=
  classify_of_opens (o := .keyword .select)
    (List.mem_cons_self) hSpaced

/- A SELECT of a known class opens with SELECT and a blank
   behind it. -/
theorem select_of_isSelect
    {found : StatementClass}
    (hSelect : isSelect cs = true)
    (hClass : classify (trim isBlank cs) = some found) :
    found = .read ∧
      startsWithSpaced .select (trim isBlank cs) = true := by
  rcases exists_opens_of_classify hClass with
    ⟨o, hMem, hOpens⟩
  rw [trimLeft_trim] at hOpens
  unfold isSelect startsWithKeyword at hSelect
  split at hSelect
  · rename_i word rest hSplit
    rcases splitWord?_eq_some.mp hSplit with
      ⟨hText, hSpelled⟩
    have hLeft := opens_of_opens_trim hOpens
    rw [hText] at hLeft
    have hPrefix :
        Keyword.select.letters <+: o.word.letters :=
      Opening.letters_prefix_word hLeft hSpelled
    have hRule :=
      select_of_prefix_openings (o, found) hMem hPrefix
    rcases Prod.mk.inj hRule with ⟨rfl, rfl⟩
    exact ⟨rfl, hOpens⟩
  · cases hSelect

------------------------------------------------------------
-- Capping
------------------------------------------------------------

/- A keyword is split off with the blanks behind it, where it
   has some. -/
theorem splitSpaced?_eq_some
    {k : Keyword}
    {taken left : List Char} :
    splitSpaced? k cs = some (taken, left) ↔
      ∃ word rest : List Char,
        cs = word ++ rest ∧ k.SpelledBy word ∧
          startsWith isBlank rest = true ∧
          taken = word ++ rest.takeWhile isBlank ∧
          left = rest.dropWhile isBlank := by
  simp only [splitSpaced?, splitKeyword?, splitBlanks?,
    Option.bind_eq_bind, Option.bind_eq_some_iff,
    Option.pure_def, Option.some.injEq, Prod.exists,
    Prod.mk.injEq, Option.ite_none_right_eq_some,
    splitWord?_eq_some]
  constructor
  · rintro
      ⟨word, rest, ⟨hText, hSpelled⟩, _, _,
        ⟨hBlank, rfl, rfl⟩, rfl, rfl⟩
    exact ⟨word, rest, hText, hSpelled, hBlank, rfl, rfl⟩
  · rintro ⟨word, rest, hText, hSpelled, hBlank, rfl, rfl⟩
    exact
      ⟨word, rest, ⟨hText, hSpelled⟩, _, _,
        ⟨hBlank, rfl, rfl⟩, rfl, rfl⟩

/- The TOP clause goes behind SELECT, the blanks that follow
   it, and what is split off there as a quantifier. -/
theorem topPoint?_eq_some
    {before body : List Char} :
    topPoint? cs = some (before, body) ↔
      ∃ word rest : List Char,
        trimLeft isBlank cs = word ++ rest ∧
          Keyword.SpelledBy .select word ∧
          startsWith isBlank rest = true ∧
          before =
            cs.takeWhile isBlank ++
              (word ++ (rest.takeWhile isBlank ++
                (splitQuantifier
                  (rest.dropWhile isBlank)).1)) ∧
          body =
            (splitQuantifier (rest.dropWhile isBlank)).2 := by
  simp only [topPoint?, Option.bind_eq_bind,
    Option.bind_eq_some_iff, Option.pure_def,
    Option.some.injEq, Prod.exists, Prod.mk.injEq,
    splitSpaced?_eq_some]
  constructor
  · rintro
      ⟨_, _, ⟨word, rest, hText, hSpelled, hBlank, rfl, rfl⟩,
        rfl, rfl⟩
    refine ⟨word, rest, hText, hSpelled, hBlank, ?_, rfl⟩
    simp only [List.append_assoc]
  · rintro ⟨word, rest, hText, hSpelled, hBlank, rfl, rfl⟩
    refine
      ⟨_, _, ⟨word, rest, hText, hSpelled, hBlank, rfl, rfl⟩,
        ?_, rfl⟩
    simp only [List.append_assoc]

/- A text that begins with a blank begins with a run of
   them. -/
theorem startsWith_takeWhile
    {p : Char → Bool}
    (hStarts : startsWith p cs = true) :
    startsWith p (cs.takeWhile p) = true := by
  cases cs with
  | nil => cases hStarts
  | cons c cs =>
      have hFirst : p c = true := hStarts
      rw [List.takeWhile_cons, if_pos hFirst]
      exact hFirst

/- A TOP clause does not change that a SELECT reads. -/
theorem classify_topClause
    {before body : List Char}
    (hPoint : topPoint? cs = some (before, body))
    (n : Int) :
    classify (before ++ topClause n ++ body) =
      some .read := by
  rcases topPoint?_eq_some.mp hPoint with
    ⟨word, rest, -, hSpelled, hBlank, rfl, -⟩
  have hLeading : ∀ c ∈ cs.takeWhile isBlank,
      isBlank c = true :=
    fun c hMem => List.mem_takeWhile_imp hMem
  apply classify_of_select
  simp only [List.append_assoc]
  unfold trimLeft
  rw [List.dropWhile_append_of_pos hLeading]
  apply startsWithSpaced_iff.mpr
  exact
    ⟨word, _, trimLeft_append_of_spelledBy hSpelled _, hSpelled,
      startsWith_append (startsWith_takeWhile hBlank) _⟩

/- A text still begins with a blank when its front is cut
   short in front of one. -/
theorem startsWith_trimRight_append
    {p q : Char → Bool}
    {tail : List Char}
    (hStarts : startsWith q (cs ++ tail) = true)
    (hTail : startsWith q tail = true) :
    startsWith q (trimRight p cs ++ tail) = true := by
  rcases exists_trimRight_append p cs with ⟨cut, hCut, -⟩
  rw [hCut] at hStarts
  cases hKept : trimRight p cs with
  | nil => exact hTail
  | cons c kept =>
      rw [hKept] at hStarts
      exact hStarts

/- A LIMIT clause does not change that a SELECT reads, even
   where only its first word is left before the clause. -/
theorem classify_limitClause
    (hSpaced :
      startsWithSpaced .select (trim isBlank cs) = true)
    (n : Int) :
    classify (limitBody cs ++ limitClause n) =
      some .read := by
  rcases startsWithSpaced_iff.mp hSpaced with
    ⟨word, rest, hText, hSpelled, hBlank⟩
  have hBody :
      limitBody cs =
        word ++
          trimRight isBlank (trimRight (· == ';') rest) := by
    unfold limitBody
    rw [hText,
      trimRight_append_of_spelledBy hSpelled
        hSpelled.ne_semicolon,
      trimRight_append_of_spelledBy hSpelled
        hSpelled.not_isBlank]
  apply classify_of_select
  apply startsWithSpaced_iff.mpr
  refine
    ⟨word,
      trimRight isBlank (trimRight (· == ';') rest) ++
        limitClause n, ?_, hSpelled, ?_⟩
  · rw [hBody, List.append_assoc]
    exact trimLeft_append_of_spelledBy hSpelled _
  · have hClause :
        startsWith isBlank (limitClause n) = true := by
      have hBreak : isBlank '\n' = true := by decide
      exact hBreak
    apply startsWith_trimRight_append _ hClause
    apply startsWith_trimRight_append _ hClause
    exact startsWith_append hBlank _

/-
  A statement that is capped has the class that it has
  without the blanks around it, if that is known.
-/
theorem classify_capRows
    {found : StatementClass}
    (engine : Engine)
    (n : Int)
    (hClass : classify (trim isBlank cs) = some found) :
    classify (capRows engine cs n) = some found := by
  unfold capRows rowCap?
  by_cases hUnlimited : isUnlimited engine cs = true
  · rw [if_pos hUnlimited]
    have hSelect : isSelect cs = true :=
      (Bool.and_eq_true_iff.mp hUnlimited).1
    rcases select_of_isSelect hSelect hClass with
      ⟨rfl, hSpaced⟩
    cases engine with
    | postgres => exact classify_limitClause hSpaced n
    | sqlServer =>
        cases hPoint : topPoint? cs with
        | none => exact classify_of_trim hClass
        | some parts => exact classify_topClause hPoint n
  · rw [if_neg hUnlimited]
    exact classify_of_trim hClass

end Statement

end SqlGateway
