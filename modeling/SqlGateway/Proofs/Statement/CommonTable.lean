import SqlGateway.Proofs.Statement.Classify
import SqlGateway.Proofs.Statement.LetterCase

/-
  This file shows that a common table expression is known by
  one look along the text.  Its head is a text that can be
  split into certain parts; blanks may belong to several of
  them and AS to two, so there are many ways to split it.
  The look takes the longest run of names and reads AS off
  its end.

  Key definitions include:
    * `TableSplit`
    * `ScansAsTable`
    * `Keyword.Fronts`

  Main declarations:
    * `TableSplit.scans`
    * `TableSplit.exists_of_scans`
    * `opensCommonTable_iff_scans`
    * `commonTable_told_by_scan`
-/

namespace SqlGateway

namespace Statement

open Text

variable {k : Keyword}
variable {cs : List Char}

------------------------------------------------------------
-- Splits and Scans
------------------------------------------------------------

/-
  The parts of a text that begins a common table expression:
  blanks, the word WITH, at least one blank, at least one
  character of a list of names, at least one blank, the word
  AS, blanks, a parenthesis, and a rest.
-/
structure TableSplit where
  leading : List Char
  word : List Char
  gap : List Char
  names : List Char
  space : List Char
  closing : List Char
  filler : List Char
  rest : List Char
  leading_blank : ∀ c ∈ leading, isBlank c = true
  word_spelled : Keyword.SpelledBy .with word
  gap_ne_nil : gap ≠ []
  gap_blank : ∀ c ∈ gap, isBlank c = true
  names_ne_nil : names ≠ []
  names_listed : ∀ c ∈ names, isNameListChar c = true
  space_ne_nil : space ≠ []
  space_blank : ∀ c ∈ space, isBlank c = true
  closing_spelled : Keyword.SpelledBy .as closing
  filler_blank : ∀ c ∈ filler, isBlank c = true

namespace TableSplit

/- What stands between WITH and AS. -/
def before (split : TableSplit) : List Char :=
  split.gap ++ (split.names ++ split.space)

/- What stands between WITH and the parenthesis. -/
def run (split : TableSplit) : List Char :=
  split.before ++ split.closing ++ split.filler

/- The text that the parts make up. -/
def text (split : TableSplit) : List Char :=
  split.leading ++ (split.word ++
    (split.run ++ '(' :: split.rest))

end TableSplit

/- A text begins, behind blanks, with the letters of a
   keyword, whether a word ends there or not. -/
def Keyword.Fronts
    (k : Keyword)
    (cs : List Char) : Prop :=
  ∃ word rest, trimLeft isBlank cs = word ++ rest ∧
    k.SpelledBy word

/-
  What one look along a text finds: WITH behind the leading
  blanks; a parenthesis behind the longest run of names that
  follows it; AS at the end of that run, in front of its
  last blanks; and before AS at least three characters, of
  which the first and the last are blank.
-/
def ScansAsTable (cs : List Char) : Prop :=
  ∃ word rest, trimLeft isBlank cs = word ++ rest ∧
    Keyword.SpelledBy .with word ∧
    startsWith (· == '(') (rest.dropWhile isNameListChar) =
      true ∧
    ∃ before closing,
      trimRight isBlank (rest.takeWhile isNameListChar) =
          before ++ closing ∧
        Keyword.SpelledBy .as closing ∧
        3 ≤ before.length ∧
        startsWith isBlank before = true ∧
        startsWith isBlank before.reverse = true

------------------------------------------------------------
-- Characters
------------------------------------------------------------

theorem isNameListChar_of_isBlank
    {c : Char}
    (hBlank : isBlank c = true) :
    isNameListChar c = true := by
  simp [isNameListChar, hBlank]

/- A character may stand in a list of names if the letter may
   that it counts as. -/
theorem isNameListChar_letterOf (c : Char) :
    isNameListChar (letterOf c) = isNameListChar c := by
  have hDotted : c = '\u0130' ∨ c = '\u0131' →
      isNameListChar c = isNameListChar 'i' := by
    rintro (rfl | rfl)
    · decide
    · decide
  have hLong : c = '\u017F' →
      isNameListChar c = isNameListChar 's' := by
    rintro rfl
    decide
  have hKelvin : c = '\u212A' →
      isNameListChar c = isNameListChar 'k' := by
    rintro rfl
    decide +kernel
  unfold letterOf
  split
  · rename_i hSame
    exact (hDotted (by simpa using hSame)).symm
  · split
    · rename_i hSame
      exact (hLong (by simpa using hSame)).symm
    · split
      · rename_i hSame
        exact (hKelvin (by simpa using hSame)).symm
      · exact ignoresCase_isNameListChar c

theorem isNameListChar_of_as
    {closing : List Char}
    (hSpelled : Keyword.SpelledBy .as closing) :
    ∀ c ∈ closing, isNameListChar c = true := by
  have hLetters : ∀ l ∈ Keyword.as.letters,
      isNameListChar l = true :=
    List.all_eq_true.mp (by decide)
  intro c hMem
  rw [← isNameListChar_letterOf]
  apply hLetters
  rw [← hSpelled]
  exact List.mem_map_of_mem hMem

/- A word without blanks at the end of a text keeps it from
   being trimmed. -/
theorem trimRight_append_closing
    {closing : List Char}
    (hSpelled : k.SpelledBy closing)
    (before : List Char) :
    trimRight isBlank (before ++ closing) =
      before ++ closing := by
  rcases hSpelled.exists_last with ⟨c, hMem, hLast⟩
  apply trimRight_eq_self
  refine ⟨c, ?_, hSpelled.not_isBlank c hMem⟩
  rw [List.getLast?_append, hLast]
  rfl

------------------------------------------------------------
-- From a Split to the Scan
------------------------------------------------------------

namespace TableSplit

/- Before AS stand three parts that are not empty. -/
theorem three_le_length_before (split : TableSplit) :
    3 ≤ split.before.length := by
  have hGap := List.length_pos_iff.mpr split.gap_ne_nil
  have hNames := List.length_pos_iff.mpr split.names_ne_nil
  have hSpace := List.length_pos_iff.mpr split.space_ne_nil
  unfold before
  simp only [List.length_append]
  omega

/- What stands before AS begins with a blank. -/
theorem startsWith_before (split : TableSplit) :
    startsWith isBlank split.before = true := by
  rcases List.exists_cons_of_ne_nil split.gap_ne_nil with
    ⟨c, more, hGap⟩
  have hBlank : isBlank c = true := by
    apply split.gap_blank
    rw [hGap]
    exact List.mem_cons_self
  unfold before
  rw [hGap]
  exact hBlank

/- What stands before AS ends with a blank. -/
theorem startsWith_reverse_before (split : TableSplit) :
    startsWith isBlank split.before.reverse = true := by
  have hNotNil : split.space.reverse ≠ [] := by
    simpa using split.space_ne_nil
  rcases List.exists_cons_of_ne_nil hNotNil with
    ⟨c, more, hSpace⟩
  have hBlank : isBlank c = true := by
    apply split.space_blank
    rw [← List.mem_reverse, hSpace]
    exact List.mem_cons_self
  unfold before
  rw [List.reverse_append, List.reverse_append, hSpace]
  exact hBlank

/- All of the run may stand in a list of names. -/
theorem run_listed (split : TableSplit) :
    ∀ c ∈ split.run, isNameListChar c = true := by
  intro c hMem
  simp only [run, before, List.mem_append] at hMem
  rcases hMem with
    ((hGap | hNames | hSpace) | hClosing) | hFiller
  · exact isNameListChar_of_isBlank (split.gap_blank c hGap)
  · exact split.names_listed c hNames
  · exact
      isNameListChar_of_isBlank (split.space_blank c hSpace)
  · exact isNameListChar_of_as split.closing_spelled c hClosing
  · exact
      isNameListChar_of_isBlank (split.filler_blank c hFiller)

/- Behind the leading blanks and WITH stand the run and the
   parenthesis. -/
theorem trimLeft_text (split : TableSplit) :
    trimLeft isBlank split.text =
      split.word ++ (split.run ++ '(' :: split.rest) := by
  exact
    trimLeft_blanks_append split.leading_blank
      split.word_spelled _

/-
  However a text is split, the scan finds the same: the
  parenthesis ends the run of names, and AS is the last of
  it but for blanks.
-/
theorem scans (split : TableSplit) :
    ScansAsTable split.text := by
  have hParenthesis : isNameListChar '(' = false := by decide
  have hTaken :
      (split.run ++ '(' :: split.rest).takeWhile
          isNameListChar =
        split.run := by
    rw [List.takeWhile_append_of_pos split.run_listed,
      List.takeWhile_cons, hParenthesis]
    exact List.append_nil split.run
  have hLeft :
      (split.run ++ '(' :: split.rest).dropWhile
          isNameListChar =
        '(' :: split.rest := by
    rw [List.dropWhile_append_of_pos split.run_listed,
      List.dropWhile_cons, hParenthesis]
    rfl
  refine
    ⟨split.word, split.run ++ '(' :: split.rest,
      split.trimLeft_text, split.word_spelled, ?_,
      split.before, split.closing, ?_, split.closing_spelled,
      split.three_le_length_before, split.startsWith_before,
      split.startsWith_reverse_before⟩
  · rw [hLeft]
    rfl
  · rw [hTaken]
    unfold run
    rw [trimRight_append_of_all split.filler_blank]
    exact
      trimRight_append_closing split.closing_spelled
        split.before

------------------------------------------------------------
-- From the Scan to a Split
------------------------------------------------------------

/- A text of three characters or more is its first, its last
   and what stands between them. -/
theorem exists_between
    {before : List Char}
    (hLength : 3 ≤ before.length)
    (hFirst : startsWith isBlank before = true)
    (hLast : startsWith isBlank before.reverse = true) :
    ∃ (first last : Char) (names : List Char),
      before = [first] ++ (names ++ [last]) ∧
        isBlank first = true ∧ isBlank last = true ∧
        names ≠ [] := by
  cases before with
  | nil => cases hFirst
  | cons first more =>
      rcases List.eq_nil_or_concat more with
        rfl | ⟨names, last, rfl⟩
      · simp at hLength
      · rw [List.concat_eq_append] at hLength hLast ⊢
        refine ⟨first, last, names, rfl, hFirst, ?_, ?_⟩
        · have hReverse :
              (first :: (names ++ [last])).reverse =
                last :: (first :: names).reverse := by
            simp
          rw [hReverse] at hLast
          exact hLast
        · rintro rfl
          simp at hLength

/-
  What the scan finds is split as follows: the first and the
  last blank before AS are the two gaps, and all between
  them are the names.
-/
theorem exists_of_scans
    (hScan : ScansAsTable cs) :
    ∃ split : TableSplit, cs = split.text := by
  rcases hScan with
    ⟨word, rest, hText, hWord, hParenthesis, before, closing,
      hRun, hClosing, hLength, hFirst, hLast⟩
  rcases exists_between hLength hFirst hLast with
    ⟨first, last, names, hBefore, hBlankFirst, hBlankLast,
      hSome⟩
  rcases exists_trimRight_append isBlank
      (rest.takeWhile isNameListChar) with
    ⟨filler, hTaken, hFiller⟩
  have hListed : ∀ c ∈ names, isNameListChar c = true := by
    intro c hMem
    apply List.mem_takeWhile_imp (l := rest)
    rw [hTaken, hRun, hBefore]
    simp [hMem]
  cases hLeft : rest.dropWhile isNameListChar with
  | nil =>
      rw [hLeft] at hParenthesis
      cases hParenthesis
  | cons stop tail =>
      rw [hLeft] at hParenthesis
      have hStop : stop = '(' := by
        simpa [startsWith] using hParenthesis
      have hRest :
          rest = [first] ++ (names ++ ([last] ++
            (closing ++ (filler ++ '(' :: tail)))) := by
        calc
          rest = rest.takeWhile isNameListChar ++
              rest.dropWhile isNameListChar :=
            List.takeWhile_append_dropWhile.symm
          _ = ([first] ++ (names ++ [last])) ++ closing ++
                filler ++ '(' :: tail := by
            rw [hLeft, hTaken, hRun, hBefore, hStop]
          _ = _ := by simp only [List.append_assoc]
      refine ⟨{
        leading := cs.takeWhile isBlank
        word := word
        gap := [first]
        names := names
        space := [last]
        closing := closing
        filler := filler
        rest := tail
        leading_blank := fun c hMem =>
          List.mem_takeWhile_imp hMem
        word_spelled := hWord
        gap_ne_nil := List.cons_ne_nil first []
        gap_blank := by simpa using hBlankFirst
        names_ne_nil := hSome
        names_listed := hListed
        space_ne_nil := List.cons_ne_nil last []
        space_blank := by simpa using hBlankLast
        closing_spelled := hClosing
        filler_blank := hFiller }, ?_⟩
      calc
        cs = cs.takeWhile isBlank ++ trimLeft isBlank cs :=
          List.takeWhile_append_dropWhile.symm
        _ = cs.takeWhile isBlank ++ (word ++ rest) := by
          rw [hText]
        _ = _ := by
          rw [hRest]
          simp only [text, run, TableSplit.before,
            List.append_assoc]

end TableSplit

------------------------------------------------------------
-- The Gate
------------------------------------------------------------

/- The gate looks along the text in this way. -/
theorem opensCommonTable_iff_scans :
    opensCommonTable (trimLeft isBlank cs) = true ↔
      ScansAsTable cs := by
  unfold opensCommonTable splitKeyword?
  constructor
  · intro hOpens
    split at hOpens
    · rename_i word rest hSplit
      rcases splitWord?_eq_some.mp hSplit with
        ⟨hText, hSpelled⟩
      rcases Bool.and_eq_true_iff.mp hOpens with
        ⟨hParenthesis, hCloses⟩
      exact
        ⟨word, rest, hText, hSpelled, hParenthesis,
          Opening.closesWithAs_reverse_iff.mp hCloses⟩
    · cases hOpens
  · rintro ⟨word, rest, hText, hSpelled, hParenthesis, hCloses⟩
    rw [splitWord?_eq_some.mpr ⟨hText, hSpelled⟩]
    exact Bool.and_eq_true_iff.mpr
      ⟨hParenthesis,
        Opening.closesWithAs_reverse_iff.mpr hCloses⟩

/- No keyword of the table begins with the letters of WITH;
   only a common table expression does. -/
theorem eq_commonTable_of_prefix :
    ∀ rule ∈ openings,
      Keyword.with.letters <+: rule.1.word.letters →
        rule = (.commonTable, .read) := by
  decide

/- A text that begins with WITH has no other class than that
   of a common table expression. -/
theorem opensCommonTable_of_classify
    {found : StatementClass}
    (hWith : Keyword.with.Fronts cs)
    (hClass : classify cs = some found) :
    opensCommonTable (trimLeft isBlank cs) = true := by
  rcases hWith with ⟨word, rest, hText, hSpelled⟩
  rcases exists_opens_of_classify hClass with
    ⟨o, hMem, hOpens⟩
  have hPrefix : Keyword.with.letters <+: o.word.letters := by
    rw [hText] at hOpens
    exact Opening.letters_prefix_word hOpens hSpelled
  have hRule := eq_commonTable_of_prefix _ hMem hPrefix
  rw [(Prod.mk.inj hRule).1] at hOpens
  exact hOpens

/- A common table expression reads. -/
theorem classify_of_scans
    (hScan : ScansAsTable cs) :
    classify cs = some .read :=
  classify_of_opens (o := .commonTable) (by decide)
    (opensCommonTable_iff_scans.mpr hScan)

/-
  There is a way to split a text as the head of a common
  table expression if and only if the scan finds one, and
  that is what the gate goes by.  Such a text reads; any
  other text that begins with WITH has no class.
-/
theorem commonTable_told_by_scan (cs : List Char) :
    ((∃ split : TableSplit, cs = split.text) ↔
        ScansAsTable cs) ∧
      (Opening.commonTable.opens (trimLeft isBlank cs) =
          true ↔
        ScansAsTable cs) ∧
      (Keyword.with.Fronts cs →
        (classify cs = some .read ↔ ScansAsTable cs) ∧
          (classify cs = none ↔ ¬ ScansAsTable cs)) := by
  refine ⟨?_, opensCommonTable_iff_scans, ?_⟩
  · constructor
    · rintro ⟨split, rfl⟩
      exact split.scans
    · exact TableSplit.exists_of_scans
  · intro hWith
    have hScans : ∀ found, classify cs = some found →
        ScansAsTable cs := by
      intro found hClass
      exact opensCommonTable_iff_scans.mp
        (opensCommonTable_of_classify hWith hClass)
    constructor
    · exact ⟨hScans .read, classify_of_scans⟩
    · constructor
      · intro hNone hScan
        rw [classify_of_scans hScan] at hNone
        cases hNone
      · intro hNot
        apply Option.eq_none_iff_forall_ne_some.mpr
        intro found hClass
        exact hNot (hScans found hClass)

/- A text with AS twice in its list of names, and once more
   behind a word that ends in the same letters. -/
def repeatedAs : List Char :=
  "WITH as AS, bias As\t(SELECT 1)".toList

/- A text with several AS begins with WITH, and the scan
   finds the last of them. -/
theorem repeatedAs_told_by_scan :
    Keyword.with.Fronts repeatedAs ∧
      ((∃ split : TableSplit, repeatedAs = split.text) ↔
        ScansAsTable repeatedAs) ∧
      (classify repeatedAs = some .read ↔
        ScansAsTable repeatedAs) ∧
      classify repeatedAs = some .read := by
  have hWith : Keyword.with.Fronts repeatedAs :=
    ⟨"WITH".toList, " as AS, bias As\t(SELECT 1)".toList, rfl,
      rfl⟩
  rcases commonTable_told_by_scan repeatedAs with
    ⟨hSplit, -, hClass⟩
  exact ⟨hWith, hSplit, (hClass hWith).1, rfl⟩

end Statement

end SqlGateway
