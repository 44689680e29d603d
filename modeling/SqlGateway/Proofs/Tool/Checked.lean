import SqlGateway.Tool.Call

/-
  This file shows what is known of parameters that passed
  their checks.

  Main declarations:
    * `Checked.seq_eq_accepted`
    * `Field.read_accepted`
    * `checkBounds_eq_ok`
    * `QueryParams.limit_bounds`
    * `Request.limit_bounds_of_ofCall`
-/

namespace SqlGateway

------------------------------------------------------------
-- Checked Results
------------------------------------------------------------

namespace Checked

variable {α β : Type}

/- A change of a result is accepted if the result is. -/
theorem map_eq_accepted
    {f : α → β}
    {result : Checked α}
    {b : β} :
    f <$> result = accepted b ↔
      ∃ a, result = accepted a ∧ f a = b := by
  cases result with
  | accepted a =>
      constructor
      · intro hMap
        exact ⟨a, rfl, accepted.inj hMap⟩
      · rintro ⟨_, hSame, rfl⟩
        cases hSame
        rfl
  | rejected issues =>
      constructor
      · intro hMap
        cases hMap
      · rintro ⟨_, hSame, _⟩
        cases hSame

/- Two results together are accepted if both are. -/
theorem seq_eq_accepted
    {f : Checked (α → β)}
    {result : Checked α}
    {b : β} :
    f <*> result = accepted b ↔
      ∃ g a, f = accepted g ∧ result = accepted a ∧
        g a = b := by
  cases f with
  | rejected issues =>
      constructor
      · intro hSeq
        cases result with
        | accepted a => cases hSeq
        | rejected more => cases hSeq
      · rintro ⟨_, _, hSame, _⟩
        cases hSame
  | accepted g =>
      cases result with
      | accepted a =>
          constructor
          · intro hSeq
            exact ⟨g, a, rfl, rfl, accepted.inj hSeq⟩
          · rintro ⟨_, _, hFirst, hSecond, rfl⟩
            cases hFirst
            cases hSecond
            rfl
      | rejected issues =>
          constructor
          · intro hSeq
            cases hSeq
          · rintro ⟨_, _, _, hSame, _⟩
            cases hSame

/- A result is accepted from outside if it is inside. -/
theorem under_eq_accepted
    {name : String}
    {result : Checked α}
    {a : α} :
    result.under name = accepted a ↔ result = accepted a := by
  cases result with
  | accepted other => exact Iff.rfl
  | rejected issues =>
      constructor
      · intro hUnder
        cases hUnder
      · intro hSame
        cases hSame

/- The result of a check of a value is accepted if the check
   succeeds. -/
theorem ofExcept_eq_accepted
    {v : Value}
    {result : Except IssueKind α}
    {a : α} :
    ofExcept v result = accepted a ↔ result = .ok a := by
  cases result with
  | ok other =>
      exact ⟨fun hSame => congrArg _ (accepted.inj hSame),
        fun hSame => congrArg _ (Except.ok.inj hSame)⟩
  | error kind => exact ⟨nofun, nofun⟩

end Checked

------------------------------------------------------------
-- Fields and Limits
------------------------------------------------------------

/- The value of a field passed the check of its kind, or is
   the default. -/
theorem Field.read_accepted
    {α : Type}
    {field : Field α}
    {given : Fields}
    {a : α}
    (hRead : field.read given = .accepted a) :
    (∃ v, field.kind.check v = .accepted a) ∨
      ∃ d, field.default = some d ∧ d.value = a := by
  have hInner := Checked.under_eq_accepted.mp hRead
  split at hInner
  · exact .inl ⟨_, hInner⟩
  · rename_i d hAbsent hDefault
    exact .inr ⟨d, hDefault, Checked.accepted.inj hInner⟩
  · cases hInner

/- A field that was accepted is read from what is given under
   its name. -/
theorem Field.read_of_get?_eq
    {α : Type}
    {field : Field α}
    {given given' : Fields}
    {a : α}
    (hSame :
      Fields.get? given' field.name =
        Fields.get? given field.name)
    (hRead : field.read given = .accepted a) :
    field.read given' = .accepted a := by
  have hInner := Checked.under_eq_accepted.mp hRead
  apply Checked.under_eq_accepted.mpr
  rw [hSame]
  revert hInner
  cases Fields.get? given field.name with
  | some v => exact id
  | none =>
      cases field.default with
      | some d => exact id
      | none => nofun

/- A number that was accepted lies within all bounds. -/
theorem checkBounds_eq_ok
    {bounds : List Bound}
    {n m : Int}
    (hChecked : checkBounds bounds n = .ok m) :
    m = n ∧ ∀ bound ∈ bounds, bound.issue? n = none := by
  unfold checkBounds at hChecked
  split at hChecked
  · cases hChecked
  · rename_i hNone
    refine ⟨(Except.ok.inj hChecked).symm, ?_⟩
    exact List.findSome?_eq_none_iff.mp hNone

/- A whole number that was accepted lies within all
   bounds. -/
theorem Kind.whole_accepted
    {bounds : List Bound}
    {v : Value}
    {n : Int}
    (hChecked : (Kind.whole bounds).check v = .accepted n) :
    ∀ bound ∈ bounds, bound.issue? n = none := by
  have hResult := Checked.ofExcept_eq_accepted.mp hChecked
  cases hRead : readWhole v with
  | error kind =>
      rw [hRead] at hResult
      cases hResult
  | ok m =>
      rw [hRead] at hResult
      rcases checkBounds_eq_ok hResult with ⟨rfl, hAll⟩
      exact hAll

namespace QueryParams

/- The default of the limit passes the check of it. -/
theorem limitField_bounds
    {given : Fields}
    {n : Int}
    (hRead : limitField.read given = .accepted n) :
    1 ≤ n ∧ n ≤ 1000 := by
  rcases Field.read_accepted hRead with
    ⟨v, hChecked⟩ | ⟨d, hDefault, rfl⟩
  · have hAll := Kind.whole_accepted hChecked
    have hLeast := hAll (.atLeast 1) (by simp)
    have hMost := hAll (.atMost 1000) (by simp)
    simp only [Bound.issue?, ite_eq_left_iff,
      reduceCtorEq, imp_false, Decidable.not_not]
      at hLeast hMost
    exact ⟨hLeast, hMost⟩
  · cases hDefault
    decide

/- The limit of accepted parameters lies between 1 and
   1000. -/
theorem limit_bounds
    {v : Value}
    {params : QueryParams}
    (hChecked : model.check v = .accepted params) :
    1 ≤ params.limit ∧ params.limit ≤ 1000 := by
  cases v with
  | object given =>
      have hRead :
          QueryParams.mk <$> queryField.read given <*>
            limitField.read given <*>
            formatField.read given = .accepted params :=
        hChecked
      rcases Checked.seq_eq_accepted.mp hRead with
        ⟨g, format, hFirst, -, rfl⟩
      rcases Checked.seq_eq_accepted.mp hFirst with
        ⟨g', limit, hQuery, hLimit, rfl⟩
      rcases Checked.map_eq_accepted.mp hQuery with
        ⟨query, -, rfl⟩
      exact limitField_bounds hLimit
  | _ => cases hChecked

end QueryParams

/- A result that is good after a change was good before. -/
theorem exists_of_map_eq_ok
    {ε α β : Type}
    {f : α → β}
    {result : Except ε α}
    {b : β}
    (hMap : f <$> result = .ok b) :
    ∃ a, result = .ok a ∧ f a = b := by
  cases result with
  | error e => cases hMap
  | ok a => exact ⟨a, rfl, Except.ok.inj hMap⟩

/- Parameters that are returned were accepted by their
   model. -/
theorem exists_of_checkParams
    {α : Type}
    {tool : Tool}
    {model : Model α}
    {given : Fields}
    {a : α}
    (hParams : checkParams tool model given = .ok a) :
    ∃ v, model.check v = .accepted a := by
  cases hGiven : Fields.get? given "params" with
  | none =>
      simp only [checkParams, hGiven] at hParams
      cases hParams
  | some v =>
      simp only [checkParams, hGiven, checkGiven] at hParams
      cases hRead : readParams v with
      | error fault =>
          rw [hRead] at hParams
          cases hParams
      | ok read =>
          rw [hRead] at hParams
          dsimp only at hParams
          cases hChecked : model.check read with
          | rejected issues =>
              rw [hChecked] at hParams
              cases hParams
          | accepted params =>
              rw [hChecked] at hParams
              have hSame : params = a := Except.ok.inj hParams
              exact ⟨read, hSame ▸ hChecked⟩

/- Only the tool for statements executes them. -/
theorem Request.checkParams_of_ofCall
    {name : String}
    {given : Fields}
    {params : QueryParams}
    (hCall :
      Request.ofCall name given =
        .ok (.executeQuery params)) :
    checkParams .executeQuery QueryParams.model given =
      .ok params := by
  unfold ofCall at hCall
  cases hTool : Tool.ofName? name with
  | none =>
      rw [hTool] at hCall
      cases hCall
  | some tool =>
      rw [hTool] at hCall
      cases tool with
      | executeQuery =>
          rcases exists_of_map_eq_ok hCall with
            ⟨other, hParams, hSame⟩
          rw [hParams, Request.executeQuery.inj hSame]
      | connect | switchDatabase | describeTable =>
          rcases exists_of_map_eq_ok hCall with ⟨_, _, hSame⟩
          cases hSame
      | disconnect | status | listDatabases | listTables =>
          cases hCall

/- The limit of a statement that is to be executed lies
   between 1 and 1000. -/
theorem Request.limit_bounds_of_ofCall
    {name : String}
    {given : Fields}
    {params : QueryParams}
    (hCall :
      Request.ofCall name given =
        .ok (.executeQuery params)) :
    1 ≤ params.limit ∧ params.limit ≤ 1000 := by
  have hParams := Request.checkParams_of_ofCall hCall
  rcases exists_of_checkParams hParams with ⟨v, hChecked⟩
  exact QueryParams.limit_bounds hChecked

end SqlGateway
