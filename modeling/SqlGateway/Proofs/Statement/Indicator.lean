import SqlGateway.Proofs.Statement.LeadingWord
import SqlGateway.Statement.Indicator

/-
  This file shows how the indicators of a text in front of a
  semicolon and those behind it add up: the semicolon ends
  every word, every call and every list of names, so no
  indicator reaches across it but the one that begins there.

  Main declarations:
    * `splitWord?_append_stop`
    * `opensCommonTable_append_semicolon`
    * `hasIndicator_append_semicolon`
    * `hasIndicator_semicolon`
-/

namespace SqlGateway

namespace Statement

open Text

------------------------------------------------------------
-- Stops
------------------------------------------------------------

/- A character outside a set ends the run of its members. -/
theorem takeWhile_append_stop
    {p : Char → Bool}
    {stop : Char}
    (hStop : p stop = false)
    (cs tail : List Char) :
    (cs ++ stop :: tail).takeWhile p = cs.takeWhile p := by
  rw [List.takeWhile_append]
  split
  · rename_i hLength
    have hAll : cs.takeWhile p = cs :=
      (List.takeWhile_prefix p).eq_of_length hLength
    rw [List.takeWhile_cons, hStop, hAll]
    exact List.append_nil cs
  · rfl

/- What is left behind the run ends in the same. -/
theorem dropWhile_append_stop
    {p : Char → Bool}
    {stop : Char}
    (hStop : p stop = false)
    (cs tail : List Char) :
    (cs ++ stop :: tail).dropWhile p =
      cs.dropWhile p ++ stop :: tail := by
  rw [List.dropWhile_append]
  split
  · rename_i hEmpty
    rw [List.dropWhile_cons, hStop, List.isEmpty_iff.mp hEmpty]
    rfl
  · rfl

theorem startsWith_append_stop
    {p : Char → Bool}
    {stop : Char}
    (hStop : p stop = false)
    (cs tail : List Char) :
    startsWith p (cs ++ stop :: tail) = startsWith p cs := by
  cases cs with
  | nil => exact hStop
  | cons c cs => rfl

/- A character that is no letter of a word ends the text
   that the word is looked for in. -/
theorem splitWord?_append_stop
    {ls : List Char}
    {stop : Char}
    (hStop : letterOf stop ∉ ls)
    (cs tail : List Char) :
    splitWord? ls (cs ++ stop :: tail) =
      (splitWord? ls cs).map fun parts =>
        (parts.1, parts.2 ++ stop :: tail) := by
  induction ls generalizing cs with
  | nil => rfl
  | cons l ls ih =>
      rw [List.mem_cons, not_or] at hStop
      cases cs with
      | nil =>
          simp only [List.nil_append, splitWord?,
            if_neg hStop.1]
          rfl
      | cons c cs =>
          simp only [List.cons_append, splitWord?]
          split
          · rw [ih hStop.2]
            simp only [Option.map_map]
            rfl
          · rfl

------------------------------------------------------------
-- The Semicolon
------------------------------------------------------------

theorem Keyword.semicolon_not_mem_letters
    (k : Keyword) :
    letterOf ';' ∉ k.letters := by
  cases k <;> decide

theorem semicolon_not_mem_commandProcedures :
    ∀ name ∈ commandProcedures, letterOf ';' ∉ name := by
  decide

theorem splitKeyword?_append_semicolon
    (k : Keyword)
    (cs tail : List Char) :
    splitKeyword? k (cs ++ ';' :: tail) =
      (splitKeyword? k cs).map fun parts =>
        (parts.1, parts.2 ++ ';' :: tail) :=
  splitWord?_append_stop k.semicolon_not_mem_letters cs tail

/- The blank behind a keyword stands before a semicolon. -/
theorem startsWithSpaced_append_semicolon
    (k : Keyword)
    (cs tail : List Char) :
    startsWithSpaced k (cs ++ ';' :: tail) =
      startsWithSpaced k cs := by
  unfold startsWithSpaced
  rw [splitKeyword?_append_semicolon]
  cases splitKeyword? k cs with
  | none => rfl
  | some parts =>
      exact startsWith_append_stop (by decide) parts.2 tail

theorem callAt_append_semicolon
    (cs tail : List Char) :
    callAt (cs ++ ';' :: tail) = callAt cs := by
  unfold callAt
  rw [splitKeyword?_append_semicolon]
  cases splitKeyword? .exec cs with
  | none => rfl
  | some parts =>
      simp only [Option.map_some]
      rw [dropWhile_append_stop (by decide),
        startsWith_append_stop (by decide)]

theorem opensCommonTable_append_semicolon
    (cs tail : List Char) :
    opensCommonTable (cs ++ ';' :: tail) =
      opensCommonTable cs := by
  unfold opensCommonTable
  rw [splitKeyword?_append_semicolon]
  cases splitKeyword? .with cs with
  | none => rfl
  | some parts =>
      simp only [Option.map_some]
      rw [dropWhile_append_stop (by decide),
        takeWhile_append_stop (by decide),
        startsWith_append_stop (by decide)]

/- No opening reaches across a semicolon. -/
theorem Opening.opens_append_semicolon
    (o : Opening)
    (cs tail : List Char) :
    o.opens (cs ++ ';' :: tail) = o.opens cs := by
  cases o with
  | keyword k =>
      exact startsWithSpaced_append_semicolon k cs tail
  | commonTable =>
      exact opensCommonTable_append_semicolon cs tail

------------------------------------------------------------
-- Indicators
------------------------------------------------------------

/- The name of a procedure begins a text. -/
def procedureAt (cs : List Char) : Bool :=
  commandProcedures.any fun name =>
    (splitWord? name cs).isSome

/- An indicator is a separator with what is forbidden behind
   it, or the name of a procedure. -/
theorem indicatorAt_cons
    (c : Char)
    (cs : List Char) :
    indicatorAt (c :: cs) =
      (c == ';' &&
          forbiddenAfterSeparator (cs.dropWhile isBlank) ||
        procedureAt (c :: cs)) := by
  by_cases hSeparator : c = ';'
  · subst hSeparator
    rfl
  · have hNot : (c == ';') = false :=
      beq_eq_false_iff_ne.mpr hSeparator
    unfold indicatorAt
    split
    · rename_i rest hText
      exact absurd (List.cons_eq_cons.mp hText).1 hSeparator
    · rw [hNot]
      rfl

/- What is forbidden stands before the next semicolon. -/
theorem forbiddenAfterSeparator_append_semicolon
    (cs tail : List Char) :
    forbiddenAfterSeparator (cs ++ ';' :: tail) =
      forbiddenAfterSeparator cs := by
  unfold forbiddenAfterSeparator
  simp only [startsWithSpaced_append_semicolon,
    callAt_append_semicolon]

theorem procedureAt_append_semicolon
    (cs tail : List Char) :
    procedureAt (cs ++ ';' :: tail) = procedureAt cs := by
  rw [Bool.eq_iff_iff]
  unfold procedureAt
  rw [List.any_eq_true, List.any_eq_true]
  apply exists_congr
  intro name
  apply and_congr_right
  intro hMem
  rw [splitWord?_append_stop
      (semicolon_not_mem_commandProcedures name hMem),
    Option.isSome_map]

theorem indicatorAt_append_semicolon
    (c : Char)
    (cs tail : List Char) :
    indicatorAt (c :: (cs ++ ';' :: tail)) =
      indicatorAt (c :: cs) := by
  have hName := procedureAt_append_semicolon (c :: cs) tail
  rw [List.cons_append] at hName
  rw [indicatorAt_cons, indicatorAt_cons, hName,
    dropWhile_append_stop (by decide),
    forbiddenAfterSeparator_append_semicolon]

/- The indicators of a text are those in front of a
   semicolon and those from there on. -/
theorem hasIndicator_append_semicolon
    (cs tail : List Char) :
    hasIndicator (cs ++ ';' :: tail) =
      (hasIndicator cs || hasIndicator (';' :: tail)) := by
  induction cs with
  | nil => rfl
  | cons c cs ih =>
      change
        (indicatorAt (c :: (cs ++ ';' :: tail)) ||
            hasIndicator (cs ++ ';' :: tail)) =
          (indicatorAt (c :: cs) || hasIndicator cs ||
            hasIndicator (';' :: tail))
      rw [indicatorAt_append_semicolon, ih, Bool.or_assoc]

/- No indicator begins with a blank. -/
theorem indicatorAt_of_isBlank
    {c : Char}
    (hBlank : isBlank c = true)
    (cs : List Char) :
    indicatorAt (c :: cs) = false := by
  have hSeparator : (c == ';') = false := by
    rw [beq_eq_false_iff_ne]
    rintro rfl
    exact absurd hBlank (by decide)
  have hName : procedureAt (c :: cs) = false := by
    have hFirst : ∀ l : Char, isBlank l = false →
        letterOf c ≠ l := by
      intro l hLetter hSame
      rw [letterOf_of_isBlank hBlank] at hSame
      rw [hSame, hLetter] at hBlank
      cases hBlank
    simp only [procedureAt, commandProcedures, List.any_cons,
      List.any_nil, splitWord?, if_neg (hFirst 'x' (by decide)),
      if_neg (hFirst 's' (by decide))]
    rfl
  rw [indicatorAt_cons, hSeparator, hName]
  rfl

/- Blanks in front of a text have no part in its
   indicators. -/
theorem hasIndicator_blanks_append
    {blanks : List Char}
    (hBlanks : ∀ c ∈ blanks, isBlank c = true)
    (cs : List Char) :
    hasIndicator (blanks ++ cs) = hasIndicator cs := by
  induction blanks with
  | nil => rfl
  | cons c blanks ih =>
      rw [List.forall_mem_cons] at hBlanks
      change
        (indicatorAt (c :: (blanks ++ cs)) ||
            hasIndicator (blanks ++ cs)) =
          hasIndicator cs
      rw [indicatorAt_of_isBlank hBlanks.1, ih hBlanks.2,
        Bool.false_or]

/- A semicolon adds the indicator that it is itself, told by
   what stands behind it and the blanks that follow. -/
theorem hasIndicator_semicolon
    {blanks : List Char}
    (hBlanks : ∀ c ∈ blanks, isBlank c = true)
    (cs : List Char) :
    hasIndicator (';' :: (blanks ++ cs)) =
      (forbiddenAfterSeparator (trimLeft isBlank cs) ||
        hasIndicator cs) := by
  have hName : procedureAt (';' :: (blanks ++ cs)) = false :=
    procedureAt_append_semicolon [] (blanks ++ cs)
  have hRest :
      (blanks ++ cs).dropWhile isBlank =
        trimLeft isBlank cs :=
    List.dropWhile_append_of_pos hBlanks
  change
    (indicatorAt (';' :: (blanks ++ cs)) ||
        hasIndicator (blanks ++ cs)) =
      _
  rw [indicatorAt_cons, hName, hRest,
    hasIndicator_blanks_append hBlanks]
  simp

end Statement

end SqlGateway
