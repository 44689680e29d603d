import Mathlib.Data.List.Nodup
import SqlGateway.Proofs.Statement.Classify
import SqlGateway.Proofs.Statement.LetterCase

/-
  This file shows that the class of a statement is told by
  the keyword that opens it, and by nothing else: not by the
  order of the openings, the blanks in front, the case of
  letters, or what follows.

  Key definitions include:
    * `openingLetters`

  Main declarations:
    * `countP_opens_le_one`
    * `classify_append`
    * `classify_eq_of_sameButCase`
    * `class_told_by_opening_word`
-/

namespace SqlGateway

namespace Statement

open Text

variable {cs other : List Char}
variable {found otherFound : StatementClass}

------------------------------------------------------------
-- The Order of the Openings
------------------------------------------------------------

/- At most one rule of the table applies to a text. -/
theorem countP_opens_le_one (cs : List Char) :
    (openings.countP fun rule => rule.1.opens cs) ≤ 1 := by
  have hNodup : openings.Nodup := by decide
  rw [List.countP_eq_length_filter]
  cases hFits : openings.filter fun rule => rule.1.opens cs with
  | nil => exact Nat.zero_le 1
  | cons rule rules =>
      have hMem : ∀ r ∈ rule :: rules,
          r ∈ openings ∧ r.1.opens cs = true := by
        intro r hFit
        rw [← hFits] at hFit
        exact List.mem_filter.mp hFit
      have hRule := hMem rule List.mem_cons_self
      have hAll : ∀ r ∈ rule :: rules, r = rule := by
        intro r hFit
        have hThis := hMem r hFit
        exact openings_eq_of_opens hThis.1 hRule.1 hThis.2
          hRule.2
      have hFilter := hNodup.filter fun rule => rule.1.opens cs
      rw [hFits, List.eq_replicate_of_mem hAll,
        List.nodup_replicate] at hFilter
      exact hFilter

/- The order of the rules does not matter. -/
theorem classifyBy_perm
    {rules : List (Opening × StatementClass)}
    (hOrder : rules.Perm openings) :
    classifyBy rules cs = classify cs := by
  apply Option.ext
  intro found
  exact
    (classifyBy_eq_some_iff hOrder).trans
      (classifyBy_eq_some_iff (.refl openings)).symm

------------------------------------------------------------
-- The Word
------------------------------------------------------------

/- The letters of the word that a text opens with. -/
def openingLetters (cs : List Char) : List Char :=
  (leadingWord (trimLeft isBlank cs)).map letterOf

/- Statements that open with the same word have the same
   class, if both have one. -/
theorem class_eq_of_openingLetters
    (hClass : classify cs = some found)
    (hOther : classify other = some otherFound)
    (hWord : openingLetters cs = openingLetters other) :
    found = otherFound := by
  rcases exists_opens_of_classify hClass with
    ⟨o, hMem, hOpens⟩
  rcases exists_opens_of_classify hOther with
    ⟨o', hMem', hOpens'⟩
  have hThis : openingLetters cs = o.word.letters :=
    Opening.spelledBy_leadingWord hOpens
  have hThat : openingLetters other = o'.word.letters :=
    Opening.spelledBy_leadingWord hOpens'
  have hSame :=
    openings_eq_of_word _ hMem _ hMem'
      (hThis.symm.trans (hWord.trans hThat))
  exact (Prod.mk.inj hSame).2

------------------------------------------------------------
-- Blanks, Case and What Follows
------------------------------------------------------------

/- Blanks in front of a statement do not matter. -/
theorem classify_blanks_append
    {blanks : List Char}
    (hBlanks : ∀ c ∈ blanks, isBlank c = true)
    (cs : List Char) :
    classify (blanks ++ cs) = classify cs := by
  have hTrim :
      trimLeft isBlank (blanks ++ cs) = trimLeft isBlank cs :=
    List.dropWhile_append_of_pos hBlanks
  unfold classify classifyBy
  rw [hTrim]

theorem classify_map_toLower (cs : List Char) :
    classify (cs.map Char.toLower) = classify cs := by
  have hTrim :
      trimLeft isBlank (cs.map Char.toLower) =
        (trimLeft isBlank cs).map Char.toLower :=
    ignoresCase_isBlank.dropWhile_map cs
  unfold classify classifyBy
  simp only [hTrim, Opening.opens_map_toLower]

theorem classify_eq_of_sameButCase
    (hCase : SameButCase cs other) :
    classify other = classify cs := by
  rw [← classify_map_toLower other, ← classify_map_toLower cs,
    hCase]

/- What follows a statement of a known class does not
   matter. -/
theorem classify_append
    (hClass : classify cs = some found)
    (tail : List Char) :
    classify (cs ++ tail) = some found := by
  rcases exists_opens_of_classify hClass with
    ⟨o, hMem, hOpens⟩
  have hSome : trimLeft isBlank cs ≠ [] := by
    intro hNil
    rw [hNil] at hOpens
    have hSpelled : o.word.SpelledBy [] :=
      Opening.spelledBy_leadingWord hOpens
    rcases hSpelled.exists_cons with ⟨c, more, hWord⟩
    cases hWord
  have hTrim :
      trimLeft isBlank (cs ++ tail) =
        trimLeft isBlank cs ++ tail := by
    unfold trimLeft at hSome ⊢
    rw [List.dropWhile_append,
      List.isEmpty_eq_false_iff.mpr hSome]
    rfl
  apply classify_of_opens hMem
  rw [hTrim]
  exact Opening.opens_append hOpens tail

/-
  At most one rule applies to a statement, so the class is
  the same for every order of the rules.  It is the same
  with blanks in front and with letters in another case.  A
  class that is known stays whatever follows, and whatever
  blanks stand around the statement.  Two statements that
  open with the same word do not have different classes.
-/
theorem class_told_by_opening_word (cs : List Char) :
    (openings.countP fun rule =>
        rule.1.opens (trimLeft isBlank cs)) ≤ 1 ∧
      (∀ rules : List (Opening × StatementClass),
        rules.Perm openings →
          classifyBy rules cs = classify cs) ∧
      (∀ blanks : List Char,
        (∀ c ∈ blanks, isBlank c = true) →
          classify (blanks ++ cs) = classify cs) ∧
      (∀ other : List Char,
        SameButCase cs other →
          classify other = classify cs) ∧
      (∀ (found : StatementClass) (tail : List Char),
        classify cs = some found →
          classify (cs ++ tail) = some found) ∧
      (∀ found : StatementClass,
        classify (trim isBlank cs) = some found →
          classify cs = some found) ∧
      (∀ (other : List Char)
          (found otherFound : StatementClass),
        classify cs = some found →
          classify other = some otherFound →
          openingLetters cs = openingLetters other →
            found = otherFound) := by
  refine ⟨countP_opens_le_one _, ?_, ?_, ?_, ?_, ?_, ?_⟩
  · intro rules hOrder
    exact classifyBy_perm hOrder
  · intro blanks hBlanks
    exact classify_blanks_append hBlanks cs
  · intro other hCase
    exact classify_eq_of_sameButCase hCase
  · intro found tail hClass
    exact classify_append hClass tail
  · intro found hClass
    exact classify_of_trim hClass
  · intro other found otherFound hClass hOther hWord
    exact class_eq_of_openingLetters hClass hOther hWord

/- A statement with its keyword in letters of both cases and
   a blank at each end. -/
def mixedDescribe : List Char :=
  "\tDescribe t\n".toList

/- A DESCRIBE keeps its class with the rules in reverse,
   behind other blanks, in other letters, in front of more
   text and without its blanks, and shares it with what
   opens so. -/
theorem mixedDescribe_class_stable :
    let upper := "\tDESCRIBE T\n".toList
    let another := "describe u".toList
    (openings.reverse.Perm openings ∧
        classifyBy openings.reverse mixedDescribe =
          classify mixedDescribe) ∧
      ((∀ c ∈ ['\n', ' '], isBlank c = true) ∧
        classify (['\n', ' '] ++ mixedDescribe) =
          classify mixedDescribe) ∧
      (SameButCase mixedDescribe upper ∧
        classify upper = classify mixedDescribe) ∧
      (classify mixedDescribe = some .read ∧
        classify (mixedDescribe ++ another) = some .read) ∧
      (classify (trim isBlank mixedDescribe) = some .read ∧
        classify mixedDescribe = some .read) ∧
      classify another = some .read ∧
      openingLetters mixedDescribe = openingLetters another ∧
      StatementClass.read = .read := by
  rcases class_told_by_opening_word mixedDescribe with
    ⟨-, hRules, hFront, hLetters, hTail, hTrim, hWord⟩
  have hOrder : openings.reverse.Perm openings :=
    List.reverse_perm openings
  have hBlanks : ∀ c ∈ ['\n', ' '], isBlank c = true :=
    List.all_eq_true.mp (by decide)
  have hCase :
      SameButCase mixedDescribe "\tDESCRIBE T\n".toList := by
    decide
  have hClass : classify mixedDescribe = some .read := by
    rfl
  have hTrimmed :
      classify (trim isBlank mixedDescribe) = some .read := by
    rfl
  have hOther : classify "describe u".toList = some .read := by
    rfl
  have hSame :
      openingLetters mixedDescribe =
        openingLetters "describe u".toList := by
    rfl
  exact
    ⟨⟨hOrder, hRules _ hOrder⟩, ⟨hBlanks, hFront _ hBlanks⟩,
      ⟨hCase, hLetters _ hCase⟩, ⟨hClass, hTail _ _ hClass⟩,
      ⟨hTrimmed, hTrim _ hTrimmed⟩, hOther, hSame,
      hWord _ _ _ hClass hOther hSame⟩

end Statement

end SqlGateway
