import SqlGateway.Tool.Call
import SqlGateway.Failure.Message
import SqlGateway.Proofs.Act.Run
import SqlGateway.Proofs.Statement.Indicator

/-
  This file shows that the search for indicators finds them
  wherever they stand: a text has one if and only if some
  contiguous part of it is one.  So nothing that is put
  around a text hides an indicator in it, and no mode but
  the widest permits the whole.

  Key definitions include:
    * `IsIndicator`

  Main declarations:
    * `indicatorAt_iff`
    * `hasIndicator_iff`
    * `authorize_of_hasIndicator`
    * `indicator_found_in_every_context`
-/

namespace SqlGateway

namespace Statement

open Text

variable {cs : List Char}

------------------------------------------------------------
-- Indicators
------------------------------------------------------------

/-
  An indicator: a semicolon, blanks, one of the keywords
  that change data or schemas, and a blank; a semicolon,
  blanks, EXEC, blanks, and a parenthesis; or the name of a
  procedure that runs commands.
-/
inductive IsIndicator : List Char → Prop where
  | chained
      {k : Keyword}
      {blanks word : List Char}
      {blank : Char}
      (hKeyword :
        k ∈ [Keyword.drop, .delete, .truncate, .update,
          .insert, .alter, .create])
      (hBlanks : ∀ c ∈ blanks, isBlank c = true)
      (hSpelled : k.SpelledBy word)
      (hBlank : isBlank blank = true) :
      IsIndicator (';' :: (blanks ++ (word ++ [blank])))
  | call
      {blanks word filler : List Char}
      (hBlanks : ∀ c ∈ blanks, isBlank c = true)
      (hSpelled : Keyword.SpelledBy .exec word)
      (hFiller : ∀ c ∈ filler, isBlank c = true) :
      IsIndicator
        (';' :: (blanks ++ (word ++ (filler ++ ['(']))))
  | procedure
      {name : List Char}
      (hName :
        name.map letterOf = "xp_cmdshell".toList ∨
          name.map letterOf = "sp_executesql".toList) :
      IsIndicator name

/- A call begins a text that EXEC and a parenthesis begin,
   with nothing but blanks between them. -/
theorem callAt_iff :
    callAt cs = true ↔
      ∃ word filler rest : List Char,
        cs = word ++ (filler ++ '(' :: rest) ∧
          Keyword.SpelledBy .exec word ∧
          ∀ c ∈ filler, isBlank c = true := by
  unfold callAt splitKeyword?
  constructor
  · intro hCall
    split at hCall
    · rename_i word rest hSplit
      rcases splitWord?_eq_some.mp hSplit with
        ⟨hText, hSpelled⟩
      cases hLeft : rest.dropWhile isBlank with
      | nil =>
          rw [hLeft] at hCall
          cases hCall
      | cons stop tail =>
          rw [hLeft] at hCall
          have hStop : stop = '(' := by
            simpa [startsWith] using hCall
          refine
            ⟨word, rest.takeWhile isBlank, tail, ?_, hSpelled,
              fun c hMem => List.mem_takeWhile_imp hMem⟩
          rw [hText, ← hStop, ← hLeft,
            List.takeWhile_append_dropWhile]
    · cases hCall
  · rintro ⟨word, filler, rest, rfl, hSpelled, hFiller⟩
    have hLeft :
        (filler ++ '(' :: rest).dropWhile isBlank =
          '(' :: rest := by
      rw [List.dropWhile_append_of_pos hFiller]
      rfl
    rw [splitWord?_eq_some.mpr ⟨rfl, hSpelled⟩]
    simp only [hLeft]
    rfl

/- A procedure is named where the letters of one of the names
   begin a text. -/
theorem procedureAt_iff :
    procedureAt cs = true ↔
      ∃ name rest : List Char, cs = name ++ rest ∧
        (name.map letterOf = "xp_cmdshell".toList ∨
          name.map letterOf = "sp_executesql".toList) := by
  have hProcedures :
      commandProcedures =
        ["xp_cmdshell".toList, "sp_executesql".toList] := by
    rfl
  have hNames : ∀ letters : List Char,
      letters ∈ commandProcedures ↔
        letters = "xp_cmdshell".toList ∨
          letters = "sp_executesql".toList := by
    intro letters
    rw [hProcedures, List.mem_cons, List.mem_singleton]
  unfold procedureAt
  rw [List.any_eq_true]
  constructor
  · rintro ⟨letters, hMem, hSome⟩
    rcases Option.isSome_iff_exists.mp hSome with
      ⟨⟨name, rest⟩, hSplit⟩
    rcases splitWord?_eq_some.mp hSplit with ⟨hText, hName⟩
    refine ⟨name, rest, hText, ?_⟩
    rw [hName]
    exact (hNames letters).mp hMem
  · rintro ⟨name, rest, hText, hName⟩
    refine ⟨name.map letterOf, (hNames _).mpr hName, ?_⟩
    rw [splitWord?_eq_some.mpr ⟨hText, rfl⟩]
    rfl

------------------------------------------------------------
-- At the Front of a Text
------------------------------------------------------------

/- What is forbidden behind a separator and its blanks makes
   an indicator with them. -/
theorem exists_isIndicator_of_forbidden
    (hForbidden :
      forbiddenAfterSeparator (trimLeft isBlank cs) = true) :
    ∃ part : List Char,
      IsIndicator part ∧ part <+: ';' :: cs := by
  have hBlanks : ∀ c ∈ cs.takeWhile isBlank,
      isBlank c = true :=
    fun c hMem => List.mem_takeWhile_imp hMem
  have hText :
      ';' :: cs =
        ';' :: (cs.takeWhile isBlank ++ trimLeft isBlank cs) :=
    congrArg (';' :: ·) List.takeWhile_append_dropWhile.symm
  unfold forbiddenAfterSeparator at hForbidden
  rcases Bool.or_eq_true_iff.mp hForbidden with
    hChained | hCall
  · rcases List.any_eq_true.mp hChained with
      ⟨k, hKeyword, hSpaced⟩
    rcases startsWithSpaced_iff.mp hSpaced with
      ⟨word, rest, hLeft, hSpelled, hBlank⟩
    cases rest with
    | nil => cases hBlank
    | cons blank rest =>
        refine
          ⟨_, .chained hKeyword hBlanks hSpelled hBlank, rest,
            ?_⟩
        rw [hText, hLeft]
        simp
  · rcases callAt_iff.mp hCall with
      ⟨word, filler, rest, hLeft, hSpelled, hFiller⟩
    refine ⟨_, .call hBlanks hSpelled hFiller, rest, ?_⟩
    rw [hText, hLeft]
    simp

/- What is forbidden behind a separator and blanks is found
   with them. -/
theorem indicatorAt_separator
    (hForbidden :
      forbiddenAfterSeparator (trimLeft isBlank cs) = true) :
    indicatorAt (';' :: cs) = true := by
  unfold trimLeft at hForbidden
  rw [indicatorAt_cons, hForbidden]
  rfl

/- The search finds an indicator at the front of a text. -/
theorem IsIndicator.indicatorAt_append
    {part : List Char}
    (hPart : IsIndicator part)
    (rest : List Char) :
    indicatorAt (part ++ rest) = true := by
  cases hPart with
  | @chained k blanks word blank hKeyword hBlanks hSpelled
      hBlank =>
      have hMem : k ∈ chainedKeywords := hKeyword
      have hSpaced :
          startsWithSpaced k (word ++ blank :: rest) = true :=
        startsWithSpaced_iff.mpr
          ⟨word, blank :: rest, rfl, hSpelled, hBlank⟩
      have hChained :
          chainedKeywords.any
              (startsWithSpaced · (word ++ blank :: rest)) =
            true :=
        List.any_eq_true.mpr ⟨k, hMem, hSpaced⟩
      simp only [List.cons_append, List.append_assoc,
        List.nil_append]
      apply indicatorAt_separator
      rw [trimLeft_blanks_append hBlanks hSpelled]
      unfold forbiddenAfterSeparator
      rw [hChained, Bool.true_or]
  | @call blanks word filler hBlanks hSpelled hFiller =>
      have hCall :
          callAt (word ++ (filler ++ '(' :: rest)) = true :=
        callAt_iff.mpr
          ⟨word, filler, rest, rfl, hSpelled, hFiller⟩
      simp only [List.cons_append, List.append_assoc,
        List.nil_append]
      apply indicatorAt_separator
      rw [trimLeft_blanks_append hBlanks hSpelled]
      unfold forbiddenAfterSeparator
      rw [hCall, Bool.or_true]
  | procedure hName =>
      have hProcedure : procedureAt (part ++ rest) = true :=
        procedureAt_iff.mpr ⟨part, rest, rfl, hName⟩
      cases hText : part ++ rest with
      | nil =>
          rw [hText] at hProcedure
          cases hProcedure
      | cons c more =>
          rw [hText] at hProcedure
          rw [indicatorAt_cons, hProcedure, Bool.or_true]

theorem indicatorAt_iff :
    indicatorAt cs = true ↔
      ∃ part : List Char, IsIndicator part ∧ part <+: cs := by
  constructor
  · intro hFound
    cases cs with
    | nil => cases hFound
    | cons c cs =>
        rw [indicatorAt_cons] at hFound
        rcases Bool.or_eq_true_iff.mp hFound with
          hSeparator | hProcedure
        · rcases Bool.and_eq_true_iff.mp hSeparator with
            ⟨hSame, hForbidden⟩
          rw [eq_of_beq hSame]
          exact exists_isIndicator_of_forbidden hForbidden
        · rcases procedureAt_iff.mp hProcedure with
            ⟨name, rest, hText, hName⟩
          exact ⟨name, .procedure hName, rest, hText.symm⟩
  · rintro ⟨part, hPart, rest, rfl⟩
    exact hPart.indicatorAt_append rest

------------------------------------------------------------
-- Anywhere in a Text
------------------------------------------------------------

/- A text is searched from each of its characters on. -/
theorem hasIndicator_iff_suffix :
    hasIndicator cs = true ↔
      ∃ back : List Char,
        indicatorAt back = true ∧ back <:+ cs := by
  induction cs with
  | nil =>
      constructor
      · intro hFound
        cases hFound
      · rintro ⟨back, hAt, hSuffix⟩
        rw [List.suffix_nil.mp hSuffix] at hAt
        cases hAt
  | cons c cs ih =>
      rw [hasIndicator, Bool.or_eq_true, ih]
      constructor
      · rintro (hAt | ⟨back, hAt, hSuffix⟩)
        · exact ⟨c :: cs, hAt, List.suffix_refl _⟩
        · exact ⟨back, hAt, hSuffix.trans (List.suffix_cons c cs)⟩
      · rintro ⟨back, hAt, hSuffix⟩
        rcases List.suffix_cons_iff.mp hSuffix with
          rfl | hLater
        · exact Or.inl hAt
        · exact Or.inr ⟨back, hAt, hLater⟩

/- A text has an indicator if and only if a part of it is
   one. -/
theorem hasIndicator_iff :
    hasIndicator cs = true ↔
      ∃ part : List Char, IsIndicator part ∧ part <:+: cs := by
  rw [hasIndicator_iff_suffix]
  constructor
  · rintro ⟨back, hAt, hSuffix⟩
    rcases indicatorAt_iff.mp hAt with
      ⟨part, hPart, hPrefix⟩
    exact
      ⟨part, hPart, hPrefix.isInfix.trans hSuffix.isInfix⟩
  · rintro ⟨part, hPart, hInfix⟩
    rcases List.infix_iff_prefix_suffix.mp hInfix with
      ⟨back, hPrefix, hSuffix⟩
    exact
      ⟨back, indicatorAt_iff.mpr ⟨part, hPart, hPrefix⟩,
        hSuffix⟩

/- Whatever is put around a text, its indicators are found. -/
theorem hasIndicator_append_append
    (hFound : hasIndicator cs = true)
    (front back : List Char) :
    hasIndicator (front ++ cs ++ back) = true := by
  rcases hasIndicator_iff.mp hFound with
    ⟨part, hPart, hInfix⟩
  exact hasIndicator_iff.mpr
    ⟨part, hPart, hInfix.trans ⟨front, back, rfl⟩⟩

------------------------------------------------------------
-- Refusal
------------------------------------------------------------

/- A text with an indicator is not a text of blanks. -/
theorem trim_ne_nil_of_hasIndicator
    (hFound : hasIndicator cs = true) :
    trim isBlank cs ≠ [] := by
  intro hNone
  have hBlanks := all_of_trim_eq_nil hNone
  have hNothing := hasIndicator_blanks_append hBlanks []
  rw [List.append_nil, hFound] at hNothing
  cases hNothing

/- No mode but the widest permits it, and none looks at its
   class before it is refused. -/
theorem authorize_of_hasIndicator
    {mode : QueryMode}
    (hMode : mode ≠ .full)
    (hFound : hasIndicator cs = true) :
    authorize mode cs = .error .dangerousPattern := by
  have hSome : (trim isBlank cs).isEmpty = false :=
    List.isEmpty_eq_false_iff.mpr
      (trim_ne_nil_of_hasIndicator hFound)
  unfold authorize
  rw [hSome, hFound, if_neg (by simp), if_pos (by simp [hMode])]

/- The refusal is a failure of the caller, with a warning
   logged. -/
theorem run_permit_of_hasIndicator
    {σ : Type}
    {mode : QueryMode}
    (hMode : mode ≠ .full)
    (hFound : hasIndicator cs = true)
    (s : σ)
    (w : World) :
    ((permit mode (String.ofList cs)).run s w).result =
      .error (.refused .dangerousPattern) := by
  unfold permit
  rw [String.toList_ofList,
    authorize_of_hasIndicator hMode hFound]
  rfl

/-
  A text has an indicator if and only if a contiguous part
  of it is one, at whatever position.  So does then every
  text around it, and safe and write mode refuse each of
  these as invalid for that reason, whatever the class of
  what stands in front.
-/
theorem indicator_found_in_every_context (cs : List Char) :
    (hasIndicator cs = true ↔
        ∃ part : List Char,
          IsIndicator part ∧ part <:+: cs) ∧
      (hasIndicator cs = true → ∀ front back : List Char,
        hasIndicator (front ++ cs ++ back) = true ∧
          ∀ mode : QueryMode, mode ≠ .full →
            authorize mode (front ++ cs ++ back) =
                .error .dangerousPattern ∧
              ∀ (σ : Type) (s : σ) (w : World),
                ((permit mode
                    (String.ofList (front ++ cs ++ back))).run
                  s w).result =
                  .error (.refused .dangerousPattern)) ∧
      (Failure.refused .dangerousPattern).category? =
        some .validation := by
  refine ⟨hasIndicator_iff, ?_, rfl⟩
  intro hFound front back
  have hWhole := hasIndicator_append_append hFound front back
  refine ⟨hWhole, ?_⟩
  intro mode hMode
  refine ⟨authorize_of_hasIndicator hMode hWhole, ?_⟩
  intro σ s w
  exact run_permit_of_hasIndicator hMode hWhole s w

/- A separator with a keyword that drops a table behind it,
   both with blanks around them. -/
def smuggledDrop : List Char :=
  ";\n Drop\t".toList

/- A DROP is found behind other separators and in front of
   what it drops, and refused there. -/
theorem smuggledDrop_found_and_refused :
    let whole := "GRANT x;;".toList ++ smuggledDrop ++ "t".toList
    hasIndicator smuggledDrop = true ∧
      hasIndicator whole = true ∧
      QueryMode.write ≠ .full ∧
      authorize .write whole = .error .dangerousPattern ∧
      ((permit .write (String.ofList whole)).run () {}).result =
        .error (.refused .dangerousPattern) := by
  have hFound : hasIndicator smuggledDrop = true := by decide
  have hMode : QueryMode.write ≠ .full := by decide
  rcases indicator_found_in_every_context smuggledDrop with
    ⟨-, hContext, -⟩
  rcases hContext hFound "GRANT x;;".toList "t".toList with
    ⟨hWhole, hRefused⟩
  rcases hRefused .write hMode with ⟨hAuthorized, hPermit⟩
  exact ⟨hFound, hWhole, hMode, hAuthorized, hPermit Unit () {}⟩

end Statement

end SqlGateway
