import SqlGateway.Proofs.Statement.KeywordSearch

/-
  This file shows where the TOP clause goes into a SELECT:
  behind the word and the blanks that follow it, and behind
  a quantifier if a blank ends that too.  A quantifier that
  ends at another character, as at a parenthesis, is left
  behind the clause.

  Key definitions include:
    * `QuantifiedSelect`
    * `TopBehind`

  Main declarations:
    * `append_of_topPoint?`
    * `topPoint?_isSome_iff`
    * `top_behind_quantifier_iff`
-/

namespace SqlGateway

namespace Statement

open Text

variable {k : Keyword}
variable {cs : List Char}

------------------------------------------------------------
-- Keywords and Blanks
------------------------------------------------------------

/- Blanks in front of a keyword are split off as they
   are. -/
theorem takeWhile_blanks_append
    {blanks word : List Char}
    (hBlanks : ∀ c ∈ blanks, isBlank c = true)
    (hSpelled : k.SpelledBy word)
    (rest : List Char) :
    (blanks ++ (word ++ rest)).takeWhile isBlank = blanks ∧
      (blanks ++ (word ++ rest)).dropWhile isBlank =
        word ++ rest := by
  have hStays :
      (word ++ rest).dropWhile isBlank = word ++ rest :=
    trimLeft_append_of_spelledBy hSpelled rest
  refine ⟨?_, trimLeft_blanks_append hBlanks hSpelled rest⟩
  · rw [List.takeWhile_append_of_pos hBlanks]
    have hNone : (word ++ rest).takeWhile isBlank = [] := by
      have hSplit :=
        List.takeWhile_append_dropWhile
          (p := isBlank) (l := word ++ rest)
      rw [hStays] at hSplit
      simpa using hSplit
    rw [hNone, List.append_nil]

theorem splitKeyword?_append
    {word : List Char}
    (hSpelled : k.SpelledBy word)
    (rest : List Char) :
    splitKeyword? k (word ++ rest) = some (word, rest) :=
  splitWord?_eq_some.mpr ⟨rfl, hSpelled⟩

/- A word with a blank behind it is split off with all
   blanks there are. -/
theorem splitSpaced?_append
    {word rest : List Char}
    (hSpelled : k.SpelledBy word)
    (hBlank : startsWith isBlank rest = true) :
    splitSpaced? k (word ++ rest) =
      some (word ++ rest.takeWhile isBlank,
        rest.dropWhile isBlank) :=
  splitSpaced?_eq_some.mpr
    ⟨word, rest, rfl, hSpelled, hBlank, rfl, rfl⟩

/- A word without a blank behind it is not split off. -/
theorem splitSpaced?_append_of_not
    {word rest : List Char}
    (hSpelled : k.SpelledBy word)
    (hBlank : startsWith isBlank rest = false) :
    splitSpaced? k (word ++ rest) = none := by
  simp [splitSpaced?, splitKeyword?_append hSpelled,
    splitBlanks?, hBlank]

/- Keywords that begin with different letters do not open the
   same text. -/
theorem splitSpaced?_append_of_other
    {other : Keyword}
    {word : List Char}
    (hSpelled : other.SpelledBy word)
    (hHead : k.letters.head? ≠ other.letters.head?)
    (rest : List Char) :
    splitSpaced? k (word ++ rest) = none := by
  have hNone : splitKeyword? k (word ++ rest) = none := by
    apply Option.eq_none_iff_forall_ne_some.mpr
    rintro ⟨taken, left⟩ hSplit
    rcases splitWord?_eq_some.mp hSplit with
      ⟨hText, hTaken⟩
    have hTakenSpelled : k.SpelledBy taken := hTaken
    rcases hSpelled.exists_cons with ⟨c, more, rfl⟩
    rcases hTakenSpelled.exists_cons with ⟨d, others, rfl⟩
    have hSame : c = d := (List.cons_eq_cons.mp hText).1
    apply hHead
    rw [← hTaken, ← show List.map letterOf (c :: more) =
      other.letters from hSpelled, hSame]
    rfl
  simp [splitSpaced?, hNone]

/- What is split off and the rest make up the text. -/
theorem append_of_splitSpaced?
    {taken rest : List Char}
    (hSplit : splitSpaced? k cs = some (taken, rest)) :
    taken ++ rest = cs := by
  rcases splitSpaced?_eq_some.mp hSplit with
    ⟨word, more, rfl, -, -, rfl, rfl⟩
  rw [List.append_assoc, List.takeWhile_append_dropWhile]

------------------------------------------------------------
-- The Place of the Clause
------------------------------------------------------------

/- A quantifier, or nothing, and the rest make up the
   text. -/
theorem append_splitQuantifier
    (cs : List Char) :
    (splitQuantifier cs).1 ++ (splitQuantifier cs).2 =
      cs := by
  unfold splitQuantifier
  split
  · rename_i parts hSplit
    exact append_of_splitSpaced? hSplit
  · cases hAll : splitSpaced? .all cs with
    | none => rfl
    | some parts => exact append_of_splitSpaced? hAll

/- The TOP clause goes between two parts that make up the
   statement. -/
theorem append_of_topPoint?
    {before body : List Char}
    (hPoint : topPoint? cs = some (before, body)) :
    before ++ body = cs := by
  rcases topPoint?_eq_some.mp hPoint with
    ⟨word, rest, hText, -, -, rfl, rfl⟩
  calc
    cs.takeWhile isBlank ++
            (word ++ (rest.takeWhile isBlank ++
              (splitQuantifier (rest.dropWhile isBlank)).1)) ++
          (splitQuantifier (rest.dropWhile isBlank)).2 =
        cs.takeWhile isBlank ++
          (word ++ (rest.takeWhile isBlank ++
            rest.dropWhile isBlank)) := by
      simp only [List.append_assoc, append_splitQuantifier]
    _ = cs.takeWhile isBlank ++ trimLeft isBlank cs := by
      rw [List.takeWhile_append_dropWhile, hText]
    _ = cs := List.takeWhile_append_dropWhile

/- A quantifier that a blank ends is split off with its
   blanks. -/
theorem splitQuantifier_append
    {word rest : List Char}
    (hQuantifier : k = .distinct ∨ k = .all)
    (hSpelled : k.SpelledBy word)
    (hBlank : startsWith isBlank rest = true) :
    splitQuantifier (word ++ rest) =
      (word ++ rest.takeWhile isBlank,
        rest.dropWhile isBlank) := by
  have hSplit := splitSpaced?_append hSpelled hBlank
  unfold splitQuantifier
  rcases hQuantifier with rfl | rfl
  · rw [hSplit]
  · have hNone : splitSpaced? .distinct (word ++ rest) = none :=
      splitSpaced?_append_of_other hSpelled (by decide) rest
    rw [hNone, hSplit]
    rfl

/- In a text that is split in front of SELECT and behind it,
   its place is found in the second part. -/
theorem topPoint?_append
    {leading word rest : List Char}
    (hLeading : ∀ c ∈ leading, isBlank c = true)
    (hSpelled : Keyword.SpelledBy .select word)
    (hBlank : startsWith isBlank rest = true) :
    topPoint? (leading ++ (word ++ rest)) =
      some (leading ++ (word ++ (rest.takeWhile isBlank ++
          (splitQuantifier (rest.dropWhile isBlank)).1)),
        (splitQuantifier (rest.dropWhile isBlank)).2) := by
  rcases takeWhile_blanks_append hLeading hSpelled rest with
    ⟨hTaken, hLeft⟩
  apply topPoint?_eq_some.mpr
  rw [hTaken]
  exact ⟨word, rest, hLeft, hSpelled, hBlank, rfl, rfl⟩

/- There is a place in the statements that open with SELECT
   and a blank. -/
theorem topPoint?_isSome_iff :
    (topPoint? cs).isSome = true ↔
      startsWithSpaced .select (trimLeft isBlank cs) =
        true := by
  rw [startsWithSpaced_iff, Option.isSome_iff_exists]
  constructor
  · rintro ⟨⟨before, body⟩, hPoint⟩
    rcases topPoint?_eq_some.mp hPoint with
      ⟨word, rest, hText, hSpelled, hBlank, -⟩
    exact ⟨word, rest, hText, hSpelled, hBlank⟩
  · rintro ⟨word, rest, hText, hSpelled, hBlank⟩
    exact
      ⟨_, topPoint?_eq_some.mpr
        ⟨word, rest, hText, hSpelled, hBlank, rfl, rfl⟩⟩

/- A statement that is changed is a SELECT without a limit of
   its own. -/
theorem isUnlimited_of_capRows_ne
    {engine : Engine}
    {n : Int}
    (hCapped : capRows engine cs n ≠ cs) :
    isUnlimited engine cs = true := by
  by_contra hLimited
  apply hCapped
  unfold capRows rowCap?
  rw [if_neg hLimited]

/- A SELECT without a limit of its own is given the clause at
   its place. -/
theorem capRows_of_topPoint?
    {before body : List Char}
    (hUnlimited : isUnlimited .sqlServer cs = true)
    (hPoint : topPoint? cs = some (before, body))
    (n : Int) :
    capRows .sqlServer cs n =
      before ++ topClause n ++ body := by
  unfold capRows rowCap?
  rw [if_pos hUnlimited, hPoint]
  rfl

------------------------------------------------------------
-- Quantifiers
------------------------------------------------------------

/-
  A SELECT with a quantifier: blanks, the word SELECT, at
  least one blank, DISTINCT or ALL as a whole word, and a
  rest.
-/
structure QuantifiedSelect where
  leading : List Char
  select : List Char
  blanks : List Char
  quantifier : Keyword
  word : List Char
  rest : List Char
  leading_blank : ∀ c ∈ leading, isBlank c = true
  select_spelled : Keyword.SpelledBy .select select
  blanks_ne_nil : blanks ≠ []
  blanks_blank : ∀ c ∈ blanks, isBlank c = true
  quantifier_eq :
    quantifier = .distinct ∨ quantifier = .all
  word_spelled : quantifier.SpelledBy word
  word_ends : startsWith isWordChar rest = false

/-
  The TOP clause for a number of rows stands behind a front
  of a statement once that is capped.
-/
def TopBehind
    (front cs : List Char)
    (n : Int) : Prop :=
  ∃ before after : List Char,
    cs = before ++ after ∧ front <+: before ∧
      capRows .sqlServer cs n =
        before ++ topClause n ++ after

namespace QuantifiedSelect

variable {n : Int}

/- What stands in front of the quantifier. -/
def opening (s : QuantifiedSelect) : List Char :=
  s.leading ++ (s.select ++ s.blanks)

/- The whole text. -/
def text (s : QuantifiedSelect) : List Char :=
  s.opening ++ (s.word ++ s.rest)

theorem splitQuantifier_of_blank
    {s : QuantifiedSelect}
    (hBlank : startsWith isBlank s.rest = true) :
    splitQuantifier (s.word ++ s.rest) =
      (s.word ++ s.rest.takeWhile isBlank,
        s.rest.dropWhile isBlank) :=
  splitQuantifier_append s.quantifier_eq s.word_spelled hBlank

theorem splitQuantifier_of_not_blank
    {s : QuantifiedSelect}
    (hBlank : startsWith isBlank s.rest = false) :
    splitQuantifier (s.word ++ s.rest) =
      ([], s.word ++ s.rest) := by
  have hNone : ∀ k : Keyword, k = .distinct ∨ k = .all →
      splitSpaced? k (s.word ++ s.rest) = none := by
    intro k hQuantifier
    by_cases hSame : k = s.quantifier
    · rw [hSame]
      exact splitSpaced?_append_of_not s.word_spelled hBlank
    · apply splitSpaced?_append_of_other s.word_spelled
      -- The two quantifiers begin with different letters.
      rcases hQuantifier with rfl | rfl <;>
        rcases s.quantifier_eq with hWord | hWord <;>
          rw [hWord] at hSame ⊢
      · exact absurd rfl hSame
      · decide
      · decide
      · exact absurd rfl hSame
  unfold splitQuantifier
  rw [hNone .distinct (.inl rfl), hNone .all (.inr rfl)]
  rfl

/- The clause goes behind the opening, and behind the
   quantifier where that is split off. -/
theorem topPoint?_text
    (s : QuantifiedSelect) :
    topPoint? s.text =
      some (s.opening ++
          (splitQuantifier (s.word ++ s.rest)).1,
        (splitQuantifier (s.word ++ s.rest)).2) := by
  have hText :
      s.text =
        s.leading ++
          (s.select ++ (s.blanks ++ (s.word ++ s.rest))) := by
    simp only [text, opening, List.append_assoc]
  have hFirst :
      startsWith isBlank (s.blanks ++ (s.word ++ s.rest)) =
        true := by
    rcases List.exists_cons_of_ne_nil s.blanks_ne_nil with
      ⟨c, blanks, hBlanks⟩
    have hMem : c ∈ s.blanks := by
      rw [hBlanks]
      exact List.mem_cons_self
    rw [hBlanks]
    exact s.blanks_blank c hMem
  rcases takeWhile_blanks_append s.blanks_blank s.word_spelled
      s.rest with
    ⟨hTaken, hLeft⟩
  rw [hText, topPoint?_append s.leading_blank s.select_spelled
    hFirst, hTaken, hLeft]
  simp only [opening, List.append_assoc]

/- Behind a quantifier that a blank ends stands the
   clause. -/
theorem topBehind_of_blank
    {s : QuantifiedSelect}
    (hBlank : startsWith isBlank s.rest = true)
    (hUnlimited : isUnlimited .sqlServer s.text = true) :
    TopBehind (s.opening ++ s.word) s.text n := by
  have hPoint := s.topPoint?_text
  rw [splitQuantifier_of_blank hBlank] at hPoint
  refine ⟨_, _, (append_of_topPoint? hPoint).symm, ?_,
    capRows_of_topPoint? hUnlimited hPoint n⟩
  rw [← List.append_assoc]
  exact List.prefix_append _ _

/- A quantifier that no blank ends stands behind the clause.
   -/
theorem capRows_of_not_blank
    {s : QuantifiedSelect}
    (hBlank : startsWith isBlank s.rest = false)
    (hUnlimited : isUnlimited .sqlServer s.text = true) :
    capRows .sqlServer s.text n =
      s.opening ++ topClause n ++ (s.word ++ s.rest) := by
  have hPoint := s.topPoint?_text
  rw [splitQuantifier_of_not_blank hBlank,
    List.append_nil] at hPoint
  exact capRows_of_topPoint? hUnlimited hPoint n

/- A quantifier does not begin as the clause does. -/
theorem not_word_prefix_topClause
    (s : QuantifiedSelect)
    (more : List Char) :
    ¬ s.word <+: topClause n ++ more := by
  intro hPrefix
  have hSpelled := s.word_spelled
  rcases hSpelled.exists_cons with ⟨c, others, hWord⟩
  rw [hWord] at hPrefix hSpelled
  have hFirst : c = 'T' :=
    (List.cons_prefix_cons.mp hPrefix).1
  have hLetters :
      letterOf c :: others.map letterOf =
        s.quantifier.letters :=
    hSpelled
  have hHead : s.quantifier.letters.head? = some 't' := by
    rw [← hLetters, hFirst]
    rfl
  rcases s.quantifier_eq with hDistinct | hAll
  · rw [hDistinct] at hHead
    revert hHead
    decide
  · rw [hAll] at hHead
    revert hHead
    decide

theorem not_topBehind_of_not_blank
    {s : QuantifiedSelect}
    (hBlank : startsWith isBlank s.rest = false)
    (hUnlimited : isUnlimited .sqlServer s.text = true) :
    ¬ TopBehind (s.opening ++ s.word) s.text n := by
  rintro ⟨before, after, -, hFront, hResult⟩
  rw [capRows_of_not_blank hBlank hUnlimited] at hResult
  have hPrefix :
      s.opening ++ s.word <+:
        s.opening ++
          (topClause n ++ (s.word ++ s.rest)) := by
    rw [← List.append_assoc s.opening, hResult,
      List.append_assoc before]
    exact hFront.trans (List.prefix_append _ _)
  exact s.not_word_prefix_topClause _
    ((List.prefix_append_right_inj s.opening).mp hPrefix)

end QuantifiedSelect

/-
  In a SELECT with a quantifier that is capped, the TOP
  clause stands behind the quantifier if and only if a blank
  ends that; otherwise it stands between SELECT and the
  quantifier.
-/
theorem top_behind_quantifier_iff
    (s : QuantifiedSelect)
    (n : Int)
    (hCapped : capRows .sqlServer s.text n ≠ s.text) :
    (TopBehind (s.opening ++ s.word) s.text n ↔
        startsWith isBlank s.rest = true) ∧
      (startsWith isBlank s.rest = false →
        capRows .sqlServer s.text n =
          s.opening ++ topClause n ++
            (s.word ++ s.rest)) := by
  have hUnlimited := isUnlimited_of_capRows_ne hCapped
  constructor
  · constructor
    · intro hBehind
      by_contra hBlank
      have hNot : startsWith isBlank s.rest = false := by
        simpa using hBlank
      exact QuantifiedSelect.not_topBehind_of_not_blank hNot
        hUnlimited hBehind
    · intro hBlank
      exact QuantifiedSelect.topBehind_of_blank hBlank
        hUnlimited
  · intro hBlank
    exact QuantifiedSelect.capRows_of_not_blank hBlank
      hUnlimited

/- A SELECT of distinct names, with a given rest behind the
   quantifier. -/
def selectDistinct
    (rest : List Char)
    (hEnds : startsWith isWordChar rest = false) :
    QuantifiedSelect where
  leading := []
  select := "SELECT".toList
  blanks := [' ']
  quantifier := .distinct
  word := "DISTINCT".toList
  rest := rest
  leading_blank := by simp
  select_spelled := by rfl
  blanks_ne_nil := by simp
  blanks_blank := by
    intro c hMem
    rw [List.mem_singleton.mp hMem]
    rfl
  quantifier_eq := .inl rfl
  word_spelled := by rfl
  word_ends := hEnds

/- With a space behind DISTINCT the clause is in its
   place. -/
theorem top_behind_spaced_distinct :
    let s := selectDistinct " name FROM t".toList rfl
    capRows .sqlServer s.text 20 ≠ s.text ∧
      (TopBehind (s.opening ++ s.word) s.text 20 ↔
          startsWith isBlank s.rest = true) ∧
        (startsWith isBlank s.rest = false →
          capRows .sqlServer s.text 20 =
            s.opening ++ topClause 20 ++
              (s.word ++ s.rest)) := by
  have hCapped :
      capRows .sqlServer
          (selectDistinct " name FROM t".toList rfl).text 20 ≠
        (selectDistinct " name FROM t".toList rfl).text := by
    decide
  exact ⟨hCapped, top_behind_quantifier_iff _ 20 hCapped⟩

/- With a parenthesis behind DISTINCT the clause gets
   between SELECT and DISTINCT. -/
theorem top_before_distinct_of_parenthesis :
    let s := selectDistinct "(name) FROM t".toList rfl
    s.text = "SELECT DISTINCT(name) FROM t".toList ∧
      capRows .sqlServer s.text 20 =
        "SELECT TOP 20 DISTINCT(name) FROM t".toList ∧
      capRows .sqlServer s.text 20 ≠ s.text ∧
      ¬ TopBehind (s.opening ++ s.word) s.text 20 := by
  refine ⟨rfl, rfl, by decide, ?_⟩
  exact QuantifiedSelect.not_topBehind_of_not_blank rfl rfl

end Statement

end SqlGateway
