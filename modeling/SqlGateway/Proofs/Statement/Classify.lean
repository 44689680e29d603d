import SqlGateway.Proofs.Statement.LeadingWord
import SqlGateway.Statement.Authorize

/-
  This file shows that a statement has the class of the one
  opening that it matches, and keeps the class it had
  without the blanks around it.

  Main declarations:
    * `openings_eq_of_word`
    * `classifyBy_eq_some_iff`
    * `classify_of_opens`
    * `classify_of_trim`
    * `authorize_iff`
    * `exists_class_of_authorize`
-/

namespace SqlGateway

namespace Statement

open Text

------------------------------------------------------------
-- Openings and Classes
------------------------------------------------------------

theorem openings_eq_of_word :
    ∀ rule ∈ openings, ∀ other ∈ openings,
      rule.1.word.letters = other.1.word.letters →
        rule = other := by
  decide

/- Only one opening fits a text: the leading word leaves no
   choice. -/
theorem openings_eq_of_opens
    {cs : List Char}
    {rule otherRule : Opening × StatementClass}
    (hRule : rule ∈ openings)
    (hOther : otherRule ∈ openings)
    (hOpens : rule.1.opens cs = true)
    (hOpensToo : otherRule.1.opens cs = true) :
    rule = otherRule := by
  apply openings_eq_of_word rule hRule otherRule hOther
  have hThis := Opening.spelledBy_leadingWord hOpens
  have hThat := Opening.spelledBy_leadingWord hOpensToo
  exact hThis.symm.trans hThat

/- In whatever order the rules are looked at, the class is
   that of the one opening that fits. -/
theorem classifyBy_eq_some_iff
    {cs : List Char}
    {found : StatementClass}
    {rules : List (Opening × StatementClass)}
    (hOrder : rules.Perm openings) :
    classifyBy rules cs = some found ↔
      ∃ o : Opening, (o, found) ∈ openings ∧
        o.opens (trimLeft isBlank cs) = true := by
  unfold classifyBy
  rw [Option.map_eq_some_iff]
  constructor
  · rintro ⟨rule, hFind, rfl⟩
    have hMem := List.mem_of_find?_eq_some hFind
    have hOpens := List.find?_some hFind
    exact ⟨rule.1, hOrder.mem_iff.mp hMem, hOpens⟩
  · rintro ⟨o, hMem, hOpens⟩
    have hSome :
        (rules.find? fun rule =>
          rule.1.opens (trimLeft isBlank cs)).isSome = true := by
      rw [List.find?_isSome]
      exact ⟨(o, found), hOrder.mem_iff.mpr hMem, hOpens⟩
    rcases Option.isSome_iff_exists.mp hSome with
      ⟨rule, hFind⟩
    have hRule :=
      hOrder.mem_iff.mp (List.mem_of_find?_eq_some hFind)
    have hFits := List.find?_some hFind
    have hSame : rule = (o, found) :=
      openings_eq_of_opens hRule hMem hFits hOpens
    exact ⟨rule, hFind, congrArg Prod.snd hSame⟩

theorem exists_opens_of_classify
    {cs : List Char}
    {found : StatementClass}
    (hClass : classify cs = some found) :
    ∃ o : Opening, (o, found) ∈ openings ∧
      o.opens (trimLeft isBlank cs) = true :=
  (classifyBy_eq_some_iff (.refl openings)).mp hClass

/- A statement has the class of any opening it matches. -/
theorem classify_of_opens
    {cs : List Char}
    {o : Opening}
    {found : StatementClass}
    (hMem : (o, found) ∈ openings)
    (hOpens : o.opens (trimLeft isBlank cs) = true) :
    classify cs = some found :=
  (classifyBy_eq_some_iff (.refl openings)).mpr
    ⟨o, hMem, hOpens⟩

/- A statement that opens with blanks taken from both ends
   opens so with blanks in front of it only. -/
theorem opens_of_opens_trim
    {cs : List Char}
    {o : Opening}
    (hOpens : o.opens (trim isBlank cs) = true) :
    o.opens (trimLeft isBlank cs) = true := by
  rcases exists_trim_append isBlank cs with ⟨tail, hTail⟩
  rw [hTail]
  exact Opening.opens_append hOpens tail

/-
  A statement has the class it has without the blanks around
  it, if that is known.  The converse fails: the blank that
  an opening needs may be one of those around it.
-/
theorem classify_of_trim
    {cs : List Char}
    {found : StatementClass}
    (hClass : classify (trim isBlank cs) = some found) :
    classify cs = some found := by
  rcases exists_opens_of_classify hClass with
    ⟨o, hMem, hOpens⟩
  rw [trimLeft_trim] at hOpens
  exact classify_of_opens hMem (opens_of_opens_trim hOpens)

------------------------------------------------------------
-- Permitted Statements
------------------------------------------------------------

/- The classes that a mode permits. -/
def QueryMode.permits : QueryMode → StatementClass → Bool
  | safe, .read => true
  | safe, _ => false
  | write, .ddl => false
  | write, _ => true
  | full, _ => true

/- A mode has nothing against a statement of a class that it
   permits. -/
theorem judge_some_iff
    {mode : QueryMode}
    {found : StatementClass} :
    mode.judge (some found) = .ok () ↔
      mode.permits found = true := by
  cases mode <;> cases found <;>
    simp [QueryMode.judge, QueryMode.permits]

/- In all modes but the widest, what is permitted has no
   indicator, and its class is one that the mode permits. -/
theorem authorize_iff
    {mode : QueryMode}
    {cs : List Char}
    (hMode : mode ≠ .full) :
    authorize mode cs = .ok () ↔
      hasIndicator cs = false ∧
        mode.judge (classify (trim isBlank cs)) = .ok () := by
  unfold authorize
  cases hEmpty : (trim isBlank cs).isEmpty with
  | true =>
      -- An empty statement has no class.
      have hNone : classify (trim isBlank cs) = none := by
        rw [List.isEmpty_iff.mp hEmpty]
        rfl
      rw [hNone]
      cases mode with
      | full => exact absurd rfl hMode
      | safe => simp [QueryMode.judge]
      | write => simp [QueryMode.judge]
  | false =>
      cases hIndicator : hasIndicator cs with
      | true => simp [hMode]
      | false => simp

/- In all modes but the widest, a permitted statement is of a
   known class, and the mode permits that class. -/
theorem exists_class_of_authorize
    {mode : QueryMode}
    {cs : List Char}
    (hMode : mode ≠ .full)
    (hPermitted : authorize mode cs = .ok ()) :
    ∃ found, classify (trim isBlank cs) = some found ∧
      mode.permits found = true := by
  have hJudged := ((authorize_iff hMode).mp hPermitted).2
  cases hClass : classify (trim isBlank cs) with
  | none =>
      rw [hClass] at hJudged
      cases mode with
      | full => exact absurd rfl hMode
      | safe => cases hJudged
      | write => cases hJudged
  | some found =>
      rw [hClass] at hJudged
      exact ⟨found, rfl, judge_some_iff.mp hJudged⟩

end Statement

end SqlGateway
