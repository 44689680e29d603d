import SqlGateway.Proofs.Statement.EngineCaps

/-
  This file shows that capping a statement for SQL Server
  puts a TOP clause into it and changes nothing else.  The
  clause goes behind the longest front of the statement that
  is the head of a SELECT, where it is found as a word when
  the statement is capped again.

  Key definitions include:
    * `IsSpacing`
    * `IsQuantifier`
    * `IsSelectHead`
    * `IsLongestHead`
    * `TopInserted`

  Main declarations:
    * `isLongestHead_of_topPoint?`
    * `capRows_sqlServer_ne_iff_head`
    * `hasKeyword_topClause`
    * `top_inserted_behind_longest_head`
-/

namespace SqlGateway

namespace Statement

open Text

variable {cs : List Char}
variable {n : Int}

------------------------------------------------------------
-- Heads
------------------------------------------------------------

/- Blanks, at least one. -/
def IsSpacing (cs : List Char) : Prop :=
  cs ≠ [] ∧ ∀ c ∈ cs, isBlank c = true

/- DISTINCT or ALL with blanks behind it, or nothing. -/
def IsQuantifier (cs : List Char) : Prop :=
  cs = [] ∨
    ∃ (k : Keyword) (word spacing : List Char),
      cs = word ++ spacing ∧
        (k = .distinct ∨ k = .all) ∧
        k.SpelledBy word ∧
        IsSpacing spacing

/-
  The head of a SELECT: blanks, if there are any, the word,
  blanks, and a quantifier, if there is one.
-/
def IsSelectHead (cs : List Char) : Prop :=
  ∃ leading word spacing quantifier : List Char,
    cs = leading ++ (word ++ (spacing ++ quantifier)) ∧
      (∀ c ∈ leading, isBlank c = true) ∧
      Keyword.SpelledBy .select word ∧
      IsSpacing spacing ∧
      IsQuantifier quantifier

/- The longest head that a text begins with. -/
def IsLongestHead (head cs : List Char) : Prop :=
  IsSelectHead head ∧ head <+: cs ∧
    ∀ other : List Char,
      IsSelectHead other → other <+: cs → other <+: head

/- The blanks at the front of a text, where it begins with
   one. -/
theorem isSpacing_takeWhile
    (hBlank : startsWith isBlank cs = true) :
    IsSpacing (cs.takeWhile isBlank) := by
  have hStarts := startsWith_takeWhile hBlank
  constructor
  · intro hNil
    rw [hNil] at hStarts
    cases hStarts
  · exact fun c hMem => List.mem_takeWhile_imp hMem

/- A text begins with a blank where spacing begins it. -/
theorem IsSpacing.startsWith_append
    {spacing : List Char}
    (hSpacing : IsSpacing spacing)
    (rest : List Char) :
    startsWith isBlank (spacing ++ rest) = true := by
  rcases List.exists_cons_of_ne_nil hSpacing.1 with
    ⟨c, more, rfl⟩
  exact hSpacing.2 c List.mem_cons_self

/- No word goes on behind spacing. -/
theorem IsSpacing.endsInWord_append
    {spacing : List Char}
    (hSpacing : IsSpacing spacing)
    (inWord : Bool)
    (front : List Char) :
    endsInWord inWord (front ++ spacing) = false := by
  have hLast :=
    List.getLast?_eq_some_getLast hSpacing.1
  have hBlank := hSpacing.2 _ (List.getLast_mem hSpacing.1)
  unfold endsInWord
  rw [List.getLast?_append, hLast]
  exact not_isWordChar_of_isBlank hBlank

theorem IsSelectHead.endsInWord
    {head : List Char}
    (hHead : IsSelectHead head) :
    endsInWord false head = false := by
  rcases hHead with
    ⟨leading, word, spacing, quantifier, rfl, -, -, hSpacing,
      hQuantifier⟩
  rcases hQuantifier with
    rfl | ⟨k, quantified, more, rfl, -, -, hMore⟩
  · rw [List.append_nil, ← List.append_assoc]
    exact hSpacing.endsInWord_append false _
  · simp only [← List.append_assoc]
    exact hMore.endsInWord_append false _

------------------------------------------------------------
-- The Longest Head
------------------------------------------------------------

/- What is split off as a quantifier is one. -/
theorem isQuantifier_splitQuantifier (cs : List Char) :
    IsQuantifier (splitQuantifier cs).1 := by
  have hSpaced : ∀ k : Keyword, k = .distinct ∨ k = .all →
      ∀ parts, splitSpaced? k cs = some parts →
        IsQuantifier parts.1 := by
    intro k hQuantifier parts hSplit
    rcases splitSpaced?_eq_some.mp hSplit with
      ⟨word, rest, -, hSpelled, hBlank, hTaken, -⟩
    exact Or.inr
      ⟨k, word, rest.takeWhile isBlank, hTaken, hQuantifier,
        hSpelled, isSpacing_takeWhile hBlank⟩
  unfold splitQuantifier
  split
  · rename_i parts hSplit
    exact hSpaced .distinct (.inl rfl) parts hSplit
  · cases hAll : splitSpaced? .all cs with
    | none => exact Or.inl rfl
    | some parts => exact hSpaced .all (.inr rfl) parts hAll

/- A quantifier in front of a text is split off it, with the
   blanks that come before and behind it. -/
theorem IsQuantifier.prefix_split
    {quantifier : List Char}
    (hQuantifier : IsQuantifier quantifier)
    (rest : List Char) :
    quantifier <+:
      (quantifier ++ rest).takeWhile isBlank ++
        (splitQuantifier
          ((quantifier ++ rest).dropWhile isBlank)).1 := by
  rcases hQuantifier with
    rfl | ⟨k, word, spacing, rfl, hKeyword, hSpelled, hSpacing⟩
  · exact List.nil_prefix
  · have hNoBlank : ∀ c ∈ ([] : List Char), isBlank c = true :=
      List.forall_mem_nil _
    rcases takeWhile_blanks_append hNoBlank hSpelled
        (spacing ++ rest) with
      ⟨hTaken, hLeft⟩
    rw [List.nil_append] at hTaken hLeft
    rw [List.append_assoc, hTaken, hLeft, List.nil_append,
      splitQuantifier_append hKeyword hSpelled
        (hSpacing.startsWith_append rest),
      List.takeWhile_append_of_pos hSpacing.2,
      List.prefix_append_right_inj]
    exact List.prefix_append _ _

/- Where a head begins a text, there is a place for the
   clause, and it is not in front of the end of the head. -/
theorem IsSelectHead.exists_topPoint?
    {head : List Char}
    (hHead : IsSelectHead head)
    (rest : List Char) :
    ∃ before body : List Char,
      topPoint? (head ++ rest) = some (before, body) ∧
        head <+: before := by
  rcases hHead with
    ⟨leading, word, spacing, quantifier, rfl, hLeading,
      hSpelled, hSpacing, hQuantifier⟩
  have hPoint :=
    topPoint?_append hLeading hSpelled
      (hSpacing.startsWith_append (quantifier ++ rest))
  rw [List.takeWhile_append_of_pos hSpacing.2,
    List.dropWhile_append_of_pos hSpacing.2] at hPoint
  simp only [List.append_assoc] at hPoint ⊢
  refine ⟨_, _, hPoint, ?_⟩
  simp only [List.prefix_append_right_inj]
  exact hQuantifier.prefix_split rest

theorem isSelectHead_of_topPoint?
    {before body : List Char}
    (hPoint : topPoint? cs = some (before, body)) :
    IsSelectHead before := by
  rcases topPoint?_eq_some.mp hPoint with
    ⟨word, rest, -, hSpelled, hBlank, rfl, -⟩
  exact
    ⟨_, word, _, _, rfl,
      fun c hMem => List.mem_takeWhile_imp hMem, hSpelled,
      isSpacing_takeWhile hBlank,
      isQuantifier_splitQuantifier _⟩

theorem isLongestHead_of_topPoint?
    {before body : List Char}
    (hPoint : topPoint? cs = some (before, body)) :
    IsLongestHead before cs := by
  refine ⟨isSelectHead_of_topPoint? hPoint, ?_, ?_⟩
  · rw [← append_of_topPoint? hPoint]
    exact List.prefix_append before body
  · rintro other hOther ⟨rest, rfl⟩
    rcases hOther.exists_topPoint? rest with
      ⟨front, back, hFront, hPrefix⟩
    rw [hPoint] at hFront
    cases hFront
    exact hPrefix

------------------------------------------------------------
-- Insertion
------------------------------------------------------------

/-
  A text is a statement with a TOP clause put in behind the
  longest head: without the clause it is the statement.
-/
def TopInserted
    (cs : List Char)
    (n : Int)
    (result : List Char) : Prop :=
  ∃ head rest : List Char,
    cs = head ++ rest ∧ IsLongestHead head cs ∧
      result =
        head ++ ("TOP " ++ toString n ++ " ").toList ++ rest

/- A statement is changed where it begins with a head and has
   neither of the words that limit its rows. -/
theorem capRows_sqlServer_ne_iff_head :
    capRows .sqlServer cs n ≠ cs ↔
      (∃ head, IsSelectHead head ∧ head <+: cs) ∧
        ¬ Keyword.StandsIn .top cs ∧
        ¬ Keyword.StandsIn .offset cs := by
  constructor
  · intro hCapped
    have hNot : ∀ k ∈ limitWords .sqlServer,
        hasKeyword k cs = false := by
      intro k hWord
      by_contra hLimited
      exact hCapped
        (capRows_of_hasKeyword hWord (by simpa using hLimited)
          n)
    have hTop := hNot .top (by decide)
    have hOffset := hNot .offset (by decide)
    refine ⟨?_, hasKeyword_eq_false_iff.mp hTop,
      hasKeyword_eq_false_iff.mp hOffset⟩
    have hSpaced :=
      (capRows_sqlServer_ne_iff hTop hOffset).mp hCapped
    rcases Option.isSome_iff_exists.mp
        (topPoint?_isSome_iff.mpr hSpaced) with
      ⟨⟨before, body⟩, hPoint⟩
    have hLongest := isLongestHead_of_topPoint? hPoint
    exact ⟨before, hLongest.1, hLongest.2.1⟩
  · rintro ⟨⟨head, hHead, rest, rfl⟩, hTop, hOffset⟩
    rcases hHead.exists_topPoint? rest with
      ⟨before, body, hPoint, -⟩
    have hPlace :
        (topPoint? (head ++ rest)).isSome = true := by
      rw [hPoint]
      rfl
    exact
      (capRows_sqlServer_ne_iff
        (hasKeyword_eq_false_iff.mpr hTop)
        (hasKeyword_eq_false_iff.mpr hOffset)).mpr
        (topPoint?_isSome_iff.mp hPlace)

/- What is changed has the clause put in. -/
theorem topInserted_of_capRows_ne
    (hCapped : capRows .sqlServer cs n ≠ cs) :
    TopInserted cs n (capRows .sqlServer cs n) := by
  rcases capRows_sqlServer_ne_iff_head.mp hCapped with
    ⟨⟨head, hHead, rest, rfl⟩, -⟩
  rcases hHead.exists_topPoint? rest with
    ⟨before, body, hPoint, -⟩
  have hResult :=
    capRows_of_topPoint? (isUnlimited_of_capRows_ne hCapped)
      hPoint n
  rw [topClause_eq] at hResult
  exact
    ⟨before, body, (append_of_topPoint? hPoint).symm,
      isLongestHead_of_topPoint? hPoint, hResult⟩

/- Behind a head the clause is found as a word. -/
theorem hasKeyword_topClause
    {head : List Char}
    (hHead : IsSelectHead head)
    (n : Int)
    (rest : List Char) :
    hasKeyword .top (head ++ topClause n ++ rest) = true := by
  apply hasKeyword_iff.mpr
  refine
    ⟨head, "TOP".toList, ' ' :: (signed n ++ ' ' :: rest), ?_,
      hHead.endsInWord, rfl, ?_⟩
  · simp [topClause]
  · have hSpace : isWordChar ' ' = false := by decide
    exact hSpace

/-
  For SQL Server a statement stays as it is, or is given a
  TOP clause behind its longest head and changed nowhere
  else.  It is given one if and only if there is such a head
  and neither TOP nor OFFSET stands in the statement as a
  word; capping the result again, at whatever number, does
  not change it.
-/
theorem top_inserted_behind_longest_head
    (cs : List Char)
    (n : Int) :
    (capRows .sqlServer cs n = cs ∨
        TopInserted cs n (capRows .sqlServer cs n)) ∧
      (capRows .sqlServer cs n ≠ cs ↔
        (∃ head, IsSelectHead head ∧ head <+: cs) ∧
          ¬ Keyword.StandsIn .top cs ∧
          ¬ Keyword.StandsIn .offset cs) ∧
      ∀ m : Int,
        capRows .sqlServer (capRows .sqlServer cs n) m =
          capRows .sqlServer cs n := by
  refine ⟨?_, capRows_sqlServer_ne_iff_head, ?_⟩
  · by_cases hSame : capRows .sqlServer cs n = cs
    · exact Or.inl hSame
    · exact Or.inr (topInserted_of_capRows_ne hSame)
  · intro m
    by_cases hSame : capRows .sqlServer cs n = cs
    · rw [hSame]
      by_contra hOther
      -- Whether a statement is changed does not hang on the
      -- number.
      exact
        capRows_sqlServer_ne_iff_head.mpr
          (capRows_sqlServer_ne_iff_head.mp hOther) hSame
    · rcases topInserted_of_capRows_ne hSame with
        ⟨head, rest, -, hLongest, hResult⟩
      rw [hResult, ← topClause_eq]
      exact
        capRows_of_hasKeyword (k := .top) (by decide)
          (hasKeyword_topClause hLongest.1 n rest) m

/- The clause goes behind the quantifier and the blanks that
   follow it, and is not put in twice. -/
theorem top_inserted_behind_distinct :
    let sql := "\tselect DISTINCT  name FROM users".toList
    let capped :=
      "\tselect DISTINCT  TOP 20 name FROM users".toList
    capRows .sqlServer sql 20 = capped ∧
      TopInserted sql 20 capped ∧
      ∀ m : Int, capRows .sqlServer capped m = capped := by
  intro sql capped
  have hCapped : capRows .sqlServer sql 20 = capped := by
    decide +kernel
  have hOther : capped ≠ sql := by decide
  rcases top_inserted_behind_longest_head sql 20 with
    ⟨hForm, -, hAgain⟩
  rw [hCapped] at hForm hAgain
  exact ⟨hCapped, hForm.resolve_left hOther, hAgain⟩

end Statement

end SqlGateway
