import SqlGateway.Proofs.Text.Trim
import SqlGateway.Statement.Classify

/-
  This file shows that the opening of a statement begins
  with its leading word, up to the first blank, and that
  what follows the opening does not matter.

  Key definitions include:
    * `Keyword.SpelledBy`
    * `leadingWord`
    * `Opening.word`

  Main declarations:
    * `Opening.closesWithAs_reverse_iff`
    * `Opening.spelledBy_leadingWord`
    * `Opening.opens_append`
-/

namespace SqlGateway

namespace Statement

open Text

------------------------------------------------------------
-- Spelling
------------------------------------------------------------

/- A word spells a keyword, in letters of any case. -/
def Keyword.SpelledBy
    (k : Keyword)
    (word : List Char) : Prop :=
  word.map letterOf = k.letters

/- A word that spells a keyword is not empty. -/
theorem Keyword.SpelledBy.exists_cons
    {k : Keyword}
    {word : List Char}
    (hSpelled : k.SpelledBy word) :
    ∃ c more, word = c :: more := by
  cases word with
  | cons c more => exact ⟨c, more, rfl⟩
  | nil =>
      have hNil : [] = k.letters := hSpelled
      cases k <;> cases hNil

/- A word that is split off is the front of the text, and
   consists of the letters asked for. -/
theorem splitWord?_eq_some
    {ls cs word rest : List Char} :
    splitWord? ls cs = some (word, rest) ↔
      cs = word ++ rest ∧ word.map letterOf = ls := by
  induction ls generalizing cs word with
  | nil =>
      simp only [splitWord?, Option.some.injEq,
        Prod.mk.injEq, List.map_eq_nil_iff]
      constructor
      · rintro ⟨rfl, rfl⟩
        exact ⟨rfl, rfl⟩
      · rintro ⟨rfl, rfl⟩
        exact ⟨rfl, rfl⟩
  | cons l ls ih =>
      cases cs with
      | nil =>
          constructor
          · intro hSplit
            cases hSplit
          · rintro ⟨hNil, hSpelled⟩
            have hWord : word = [] :=
              (List.append_eq_nil_iff.mp hNil.symm).1
            rw [hWord] at hSpelled
            cases hSpelled
      | cons c cs =>
          simp only [splitWord?, Option.ite_none_right_eq_some,
            Option.map_eq_some_iff, Prod.exists,
            Prod.mk.injEq]
          constructor
          · rintro ⟨hLetter, word, rest, hSplit, rfl, rfl⟩
            rcases ih.mp hSplit with ⟨rfl, hSpelled⟩
            refine ⟨rfl, ?_⟩
            rw [List.map_cons, hLetter, hSpelled]
          · rintro ⟨hText, hSpelled⟩
            cases word with
            | nil => cases hSpelled
            | cons first word =>
                rcases List.cons_eq_cons.mp hText with
                  ⟨rfl, hRest⟩
                rcases List.cons_eq_cons.mp hSpelled with
                  ⟨hLetter, hWord⟩
                have hSplit := ih.mpr ⟨hRest, hWord⟩
                exact ⟨hLetter, word, rest, hSplit, rfl, rfl⟩

/- A text begins as its front does. -/
theorem startsWith_append
    {p : Char → Bool}
    {cs : List Char}
    (hStarts : startsWith p cs = true)
    (tail : List Char) :
    startsWith p (cs ++ tail) = true := by
  cases cs with
  | nil => cases hStarts
  | cons c cs => exact hStarts

/- A text opens with a keyword if it can be split there. -/
theorem startsWithSpaced_iff
    {k : Keyword}
    {cs : List Char} :
    startsWithSpaced k cs = true ↔
      ∃ word rest, cs = word ++ rest ∧ k.SpelledBy word ∧
        startsWith isBlank rest = true := by
  unfold startsWithSpaced splitKeyword?
  constructor
  · intro hStarts
    split at hStarts
    · rename_i word rest hSplit
      rcases splitWord?_eq_some.mp hSplit with
        ⟨hText, hSpelled⟩
      exact ⟨word, rest, hText, hSpelled, hStarts⟩
    · cases hStarts
  · rintro ⟨word, rest, hText, hSpelled, hBlank⟩
    rw [splitWord?_eq_some.mpr ⟨hText, hSpelled⟩]
    exact hBlank

/- A blank is no letter of either case. -/
theorem letterOf_of_isBlank
    {c : Char}
    (hBlank : isBlank c = true) :
    letterOf c = c := by
  have hRange :
      c.toNat < 65 ∨ (90 < c.toNat ∧ c.toNat ≠ 0x130 ∧
        c.toNat ≠ 0x131 ∧ c.toNat ≠ 0x17F ∧
        c.toNat ≠ 0x212A) := by
    simp only [isBlank, inRanges, blankRanges, inRange,
      List.any_cons, List.any_nil, Bool.or_eq_true,
      Bool.and_eq_true, decide_eq_true_eq,
      Bool.or_false] at hBlank
    omega
  have hNot : ∀ d : Char, d.toNat ≠ c.toNat →
      (c == d) = false := by
    intro d hNe
    rw [beq_eq_false_iff_ne]
    rintro rfl
    exact hNe rfl
  unfold letterOf
  rw [hNot '\u0130' (by change 0x130 ≠ _; omega),
    hNot '\u0131' (by change 0x131 ≠ _; omega),
    hNot '\u017F' (by change 0x17F ≠ _; omega),
    hNot '\u212A' (by change 0x212A ≠ _; omega)]
  simp only [Bool.or_false, Bool.false_eq_true, if_false]
  unfold Char.toLower
  apply dif_neg
  rintro ⟨hLow, hHigh⟩
  have hLeast : 65 ≤ c.toNat :=
    UInt32.le_iff_toNat_le.mp hLow
  have hMost : c.toNat ≤ 90 :=
    UInt32.le_iff_toNat_le.mp hHigh
  omega

/- The letters of keywords are no blanks. -/
theorem Keyword.not_isBlank_of_mem_letters
    (k : Keyword) :
    ∀ l ∈ k.letters, isBlank l = false := by
  have hAll : k.letters.all (!isBlank ·) = true := by
    cases k <;> decide
  intro l hMem
  simpa using List.all_eq_true.mp hAll l hMem

/- The characters that spell a keyword are no blanks. -/
theorem Keyword.SpelledBy.not_isBlank
    {k : Keyword}
    {word : List Char}
    (hSpelled : k.SpelledBy word) :
    ∀ c ∈ word, isBlank c = false := by
  intro c hMem
  by_contra hBlank
  have hSame : letterOf c = c :=
    letterOf_of_isBlank (by simpa using hBlank)
  have hLetter : c ∈ k.letters := by
    rw [← hSpelled]
    exact List.mem_map.mpr ⟨c, hMem, hSame⟩
  exact hBlank (k.not_isBlank_of_mem_letters c hLetter)

/- A word that spells a keyword has a last character. -/
theorem Keyword.SpelledBy.exists_last
    {k : Keyword}
    {word : List Char}
    (hSpelled : k.SpelledBy word) :
    ∃ c ∈ word, word.getLast? = some c := by
  rcases hSpelled.exists_cons with ⟨first, more, rfl⟩
  have hNotNil := List.cons_ne_nil first more
  exact
    ⟨_, List.getLast_mem hNotNil,
      List.getLast?_eq_some_getLast hNotNil⟩

/- A keyword at the front of a text is not trimmed. -/
theorem trimLeft_append_of_spelledBy
    {k : Keyword}
    {word : List Char}
    (hSpelled : k.SpelledBy word)
    (rest : List Char) :
    trimLeft isBlank (word ++ rest) = word ++ rest := by
  apply trimLeft_eq_self
  intro c hHead
  rcases hSpelled.exists_cons with ⟨first, more, rfl⟩
  have hFirst : first = c := Option.some.inj hHead
  apply hSpelled.not_isBlank
  rw [hFirst]
  exact List.mem_cons_self

theorem trimLeft_blanks_append
    {k : Keyword}
    {blanks word : List Char}
    (hBlanks : ∀ c ∈ blanks, isBlank c = true)
    (hSpelled : k.SpelledBy word)
    (rest : List Char) :
    trimLeft isBlank (blanks ++ (word ++ rest)) =
      word ++ rest := by
  unfold trimLeft
  rw [List.dropWhile_append_of_pos hBlanks]
  exact trimLeft_append_of_spelledBy hSpelled rest

------------------------------------------------------------
-- Leading Words
------------------------------------------------------------

/- The front of a text, up to the first blank. -/
def leadingWord (cs : List Char) : List Char :=
  cs.takeWhile fun c => !isBlank c

/- A word without blanks is at the front of the leading
   word. -/
theorem leadingWord_append
    {word : List Char}
    (hWord : ∀ c ∈ word, isBlank c = false)
    (rest : List Char) :
    leadingWord (word ++ rest) = word ++ leadingWord rest :=
  List.takeWhile_append_of_pos fun c hMem => by
    simp [hWord c hMem]

/- A text that begins with a blank has no leading word. -/
theorem leadingWord_of_startsWith
    {cs : List Char}
    (hBlank : startsWith isBlank cs = true) :
    leadingWord cs = [] := by
  cases cs with
  | nil => rfl
  | cons c cs =>
      have hFirst : isBlank c = true := hBlank
      simp [leadingWord, hFirst]

namespace Opening

/- The word that an opening begins with. -/
def word : Opening → Keyword
  | keyword k => k
  | commonTable => .with

/- What follows a list of names does not belong to it. -/
private theorem takeWhile_append_of_dropWhile
    {p : Char → Bool}
    {cs : List Char}
    (hRest : cs.dropWhile p ≠ [])
    (tail : List Char) :
    (cs ++ tail).takeWhile p = cs.takeWhile p := by
  rw [List.takeWhile_append, if_neg]
  intro hLength
  apply hRest
  have hAll : cs.takeWhile p = cs :=
    (List.takeWhile_prefix p).eq_of_length hLength
  exact List.dropWhile_eq_nil_iff.mpr
    (List.takeWhile_eq_self_iff.mp hAll)

/-
  A list of names closes with AS if it ends so in front of
  its last blanks, and at least three characters stand
  before AS, of which the first and the last are blank.
-/
theorem closesWithAs_reverse_iff
    {names : List Char} :
    closesWithAs names.reverse = true ↔
      ∃ before closing : List Char,
        trimRight isBlank names = before ++ closing ∧
          Keyword.SpelledBy .as closing ∧
          3 ≤ before.length ∧
          startsWith isBlank before = true ∧
          startsWith isBlank before.reverse = true := by
  have hTrim :
      names.reverse.dropWhile isBlank =
        (trimRight isBlank names).reverse :=
    List.reverse_reverse _ |>.symm
  unfold closesWithAs
  rw [hTrim]
  constructor
  · intro hCloses
    split at hCloses
    · rename_i closing before hSplit
      rcases splitWord?_eq_some.mp hSplit with
        ⟨hText, hSpelled⟩
      simp only [Bool.and_eq_true, decide_eq_true_eq]
        at hCloses
      rcases hCloses with ⟨⟨hLength, hLast⟩, hFirst⟩
      refine
        ⟨before.reverse, closing.reverse, ?_, ?_, ?_, hFirst,
          ?_⟩
      · rw [← List.reverse_append, ← hText,
          List.reverse_reverse]
      · unfold Keyword.SpelledBy
        rw [List.map_reverse, hSpelled, List.reverse_reverse]
      · rw [List.length_reverse]
        exact hLength
      · rw [List.reverse_reverse]
        exact hLast
    · cases hCloses
  · rintro
      ⟨before, closing, hText, hSpelled, hLength, hFirst, hLast⟩
    have hSplit :
        splitWord? Keyword.as.letters.reverse
            (trimRight isBlank names).reverse =
          some (closing.reverse, before.reverse) := by
      apply splitWord?_eq_some.mpr
      constructor
      · rw [hText, List.reverse_append]
      · rw [List.map_reverse, hSpelled]
    rw [hSplit]
    simp only [List.length_reverse, List.reverse_reverse,
      hLength, hFirst, hLast]
    rfl

theorem startsWith_of_closesWithAs
    {names : List Char}
    (hCloses : closesWithAs names.reverse = true) :
    startsWith isBlank names = true := by
  rcases closesWithAs_reverse_iff.mp hCloses with
    ⟨before, closing, hText, -, -, hFirst, -⟩
  rcases exists_trimRight_append isBlank names with
    ⟨tail, hNames, -⟩
  rw [hNames, hText, List.append_assoc]
  exact startsWith_append hFirst _

/- Behind the WITH of a common table expression stands a
   blank. -/
theorem startsWithSpaced_of_opensCommonTable
    {cs : List Char}
    (hOpens : opensCommonTable cs = true) :
    startsWithSpaced .with cs = true := by
  unfold opensCommonTable at hOpens
  split at hOpens
  · rename_i taken rest hSplit
    rcases splitWord?_eq_some.mp hSplit with
      ⟨hText, hSpelled⟩
    have hNames :
        startsWith isBlank (rest.takeWhile isNameListChar) =
          true :=
      startsWith_of_closesWithAs
        (Bool.and_eq_true_iff.mp hOpens).2
    have hBlank : startsWith isBlank rest = true := by
      have hMore := startsWith_append hNames
        (rest.dropWhile isNameListChar)
      rw [List.takeWhile_append_dropWhile] at hMore
      exact hMore
    exact startsWithSpaced_iff.mpr
      ⟨taken, rest, hText, hSpelled, hBlank⟩
  · cases hOpens

/- An opening is its word with a blank behind it. -/
theorem startsWithSpaced_of_opens
    {o : Opening}
    {cs : List Char}
    (hOpens : o.opens cs = true) :
    startsWithSpaced o.word cs = true := by
  cases o with
  | keyword k => exact hOpens
  | commonTable =>
      exact startsWithSpaced_of_opensCommonTable hOpens

/- The leading word of a text spells the word of its
   opening. -/
theorem spelledBy_leadingWord
    {o : Opening}
    {cs : List Char}
    (hOpens : o.opens cs = true) :
    o.word.SpelledBy (leadingWord cs) := by
  have hSpaced := startsWithSpaced_of_opens hOpens
  rcases startsWithSpaced_iff.mp hSpaced with
    ⟨taken, rest, hText, hSpelled, hBlank⟩
  have hWord : leadingWord cs = taken := by
    rw [hText, leadingWord_append hSpelled.not_isBlank,
      leadingWord_of_startsWith hBlank, List.append_nil]
  rw [hWord]
  exact hSpelled

/- A text that begins with the letters of a keyword has no
   opening whose word does not begin with them. -/
theorem letters_prefix_word
    {o : Opening}
    {k : Keyword}
    {word rest : List Char}
    (hOpens : o.opens (word ++ rest) = true)
    (hSpelled : k.SpelledBy word) :
    k.letters <+: o.word.letters := by
  have hLeading := spelledBy_leadingWord hOpens
  rw [leadingWord_append hSpelled.not_isBlank] at hLeading
  rw [← hLeading, List.map_append, ← hSpelled]
  exact List.prefix_append _ _

/- Behind a character that is in no list of names nothing
   matters: it ends the names, whether a common table
   expression opens there or not. -/
theorem opensCommonTable_append_eq
    {cs taken rest : List Char}
    (hSplit : splitKeyword? .with cs = some (taken, rest))
    (hEnds : rest.dropWhile isNameListChar ≠ [])
    (tail : List Char) :
    opensCommonTable (cs ++ tail) = opensCommonTable cs := by
  have hSplitMore :
      splitKeyword? .with (cs ++ tail) =
        some (taken, rest ++ tail) := by
    rcases splitWord?_eq_some.mp hSplit with
      ⟨hText, hSpelled⟩
    apply splitWord?_eq_some.mpr
    rw [hText, List.append_assoc]
    exact ⟨rfl, hSpelled⟩
  have hStarts :
      startsWith (· == '(')
          (rest.dropWhile isNameListChar ++ tail) =
        startsWith (· == '(')
          (rest.dropWhile isNameListChar) := by
    cases hDrop : rest.dropWhile isNameListChar with
    | nil => exact absurd hDrop hEnds
    | cons c cs => rfl
  unfold opensCommonTable
  rw [hSplit, hSplitMore]
  simp only [takeWhile_append_of_dropWhile hEnds,
    List.dropWhile_append, List.isEmpty_eq_false_iff.mpr
      hEnds, Bool.false_eq_true, if_false, hStarts]

/- What follows the parenthesis of a common table expression
   does not matter. -/
theorem opensCommonTable_append
    {cs : List Char}
    (hOpens : opensCommonTable cs = true)
    (tail : List Char) :
    opensCommonTable (cs ++ tail) = true := by
  cases hSplit : splitKeyword? .with cs with
  | none =>
      unfold opensCommonTable at hOpens
      rw [hSplit] at hOpens
      cases hOpens
  | some parts =>
      have hEnds :
          parts.2.dropWhile isNameListChar ≠ [] := by
        intro hNil
        unfold opensCommonTable at hOpens
        rw [hSplit] at hOpens
        simp [hNil, startsWith] at hOpens
      rw [opensCommonTable_append_eq hSplit hEnds tail]
      exact hOpens

/- What follows an opening does not matter. -/
theorem opens_append
    {o : Opening}
    {cs : List Char}
    (hOpens : o.opens cs = true)
    (tail : List Char) :
    o.opens (cs ++ tail) = true := by
  cases o with
  | keyword k =>
      rcases startsWithSpaced_iff.mp hOpens with
        ⟨taken, rest, hText, hSpelled, hBlank⟩
      refine startsWithSpaced_iff.mpr
        ⟨taken, rest ++ tail, ?_, hSpelled, ?_⟩
      · rw [hText, List.append_assoc]
      · exact startsWith_append hBlank tail
  | commonTable =>
      exact opensCommonTable_append hOpens tail

end Opening

end Statement

end SqlGateway
