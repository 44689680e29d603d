import Mathlib.Data.Nat.Find
import SqlGateway.Value.Basic

/-
  This file shows what is found under a name in named
  values: the last value that was set under it.  In a row
  that was made of names and values it is the value at the
  last position of the name.

  Key definitions include:
    * `LastPlace`

  Main declarations:
    * `Fields.get?_put`
    * `Fields.get?_putAll`
    * `Fields.get?_ofColumns`
-/

namespace SqlGateway

------------------------------------------------------------
-- Last Places
------------------------------------------------------------

/- A position is the last at which a list of names has the
   name of another position. -/
structure LastPlace
    (names : List String)
    (j k : Nat) : Prop where
  le : j ≤ k
  name_eq : names[k]? = names[j]?
  last : ∀ m > k, names[m]? ≠ names[j]?

namespace LastPlace

variable {names : List String}
variable {j k : Nat}

/- The last place of a name is in the list. -/
theorem lt_length
    (hLast : LastPlace names j k)
    (hLength : j < names.length) :
    k < names.length := by
  by_cases hBeyond : k < names.length
  · exact hBeyond
  · have hNone : names[k]? = none :=
      List.getElem?_eq_none (by omega)
    rw [hLast.name_eq, List.getElem?_eq_getElem hLength]
      at hNone
    cases hNone

theorem exists_of_lt
    (hLength : j < names.length) :
    ∃ k, LastPlace names j k := by
  refine
    ⟨Nat.findGreatest (fun k => names[k]? = names[j]?)
      names.length, ?_⟩
  constructor
  · exact Nat.le_findGreatest (Nat.le_of_lt hLength) rfl
  · exact Nat.findGreatest_spec
      (P := fun k => names[k]? = names[j]?)
      (Nat.le_of_lt hLength) rfl
  · intro m hLater
    by_cases hInside : m ≤ names.length
    · exact Nat.findGreatest_is_greatest hLater hInside
    · rw [List.getElem?_eq_none (by omega),
        List.getElem?_eq_getElem hLength]
      exact Option.some_ne_none _ ∘ Eq.symm

theorem self
    (hOnly : ∀ m > j, names[m]? ≠ names[j]?) :
    LastPlace names j j :=
  ⟨Nat.le_refl j, rfl, hOnly⟩

end LastPlace

------------------------------------------------------------
-- Named Values
------------------------------------------------------------

namespace Fields

/- The first value under a name is found. -/
theorem get?_cons
    (name key : String)
    (v : Value)
    (fields : Fields) :
    get? ((name, v) :: fields) key =
      if name = key then some v else get? fields key := by
  by_cases hSame : name = key
  · simp [get?, hSame]
  · simp [get?, hSame]

theorem get?_append
    (fields more : Fields)
    (key : String) :
    get? (fields ++ more) key =
      (get? fields key).or (get? more key) := by
  induction fields with
  | nil => rfl
  | cons field fields ih =>
      rw [List.cons_append, get?_cons, get?_cons, ih]
      by_cases hSame : field.1 = key
      · rw [if_pos hSame, if_pos hSame]
        rfl
      · rw [if_neg hSame, if_neg hSame]

/- A value that is set is found under its name, and changes
   what is found under no other. -/
theorem get?_put
    (fields : Fields)
    (name key : String)
    (v : Value) :
    get? (put fields name v) key =
      if name = key then some v else get? fields key := by
  induction fields with
  | nil => exact get?_cons name key v []
  | cons field fields ih =>
      rcases field with ⟨other, value⟩
      by_cases hTaken : other = name
      · rw [put, if_pos (by simpa using hTaken), get?_cons,
          get?_cons, hTaken]
        by_cases hSame : name = key
        · rw [if_pos hSame, if_pos hSame]
        · rw [if_neg hSame, if_neg hSame, if_neg hSame]
      · rw [put, if_neg (by simpa using hTaken), get?_cons,
          get?_cons, ih]
        by_cases hFound : other = key
        · have hApart : name ≠ key := by
            rw [← hFound]
            exact Ne.symm hTaken
          rw [if_pos hFound, if_neg hApart, if_pos hFound]
        · rw [if_neg hFound, if_neg hFound]

/- Of values that are set one after the other, the last one
   under a name is found. -/
theorem get?_putAll
    (fields more : Fields)
    (key : String) :
    get? (putAll fields more) key =
      (get? more.reverse key).or (get? fields key) := by
  induction more generalizing fields with
  | nil => rfl
  | cons field more ih =>
      have hStep :
          putAll fields (field :: more) =
            putAll (put fields field.1 field.2) more :=
        rfl
      have hOne :
          get? [field] key =
            if field.1 = key then some field.2 else none :=
        get?_cons field.1 key field.2 []
      rw [hStep, ih, get?_put, List.reverse_cons, get?_append,
        hOne, Option.or_assoc]
      by_cases hSame : field.1 = key
      · rw [if_pos hSame, if_pos hSame]
        rfl
      · rw [if_neg hSame, if_neg hSame]
        rfl

/- From behind, what is found is at the last position that
   has the name. -/
theorem get?_reverse_of_last
    {fields : Fields}
    {key : String}
    {v : Value}
    {k : Nat}
    (hAt : fields[k]? = some (key, v))
    (hLast : ∀ m > k,
      (fields[m]?).map Prod.fst ≠ some key) :
    get? fields.reverse key = some v := by
  -- Reversed, the first field comes last, and is found only
  -- where no other has the name.
  induction fields generalizing k with
  | nil => simp at hAt
  | cons field fields ih =>
      rw [List.reverse_cons, get?_append]
      cases k with
      | succ k =>
          have hInner :
              get? fields.reverse key = some v := by
            apply ih
            · simpa using hAt
            · intro m hLater
              simpa using hLast (m + 1) (by omega)
          rw [hInner]
          rfl
      | zero =>
          have hField : field = (key, v) := by
            simpa using hAt
          have hNone : get? fields.reverse key = none := by
            have hApart :
                ∀ other ∈ fields, other.1 ≠ key := by
              intro other hMem hSame
              rcases List.getElem?_of_mem hMem with
                ⟨m, hOther⟩
              apply hLast (m + 1) (by omega)
              simp [hOther, hSame]
            simpa [get?] using hApart
          rw [hNone, hField]
          exact get?_cons key key v [] ▸ if_pos rfl

/-
  A row is made of names and values.  Under the name of a
  position it has the value of the last position with that
  name.
-/
theorem get?_ofColumns
    {names : List String}
    {values : List Value}
    {name : String}
    {v : Value}
    {j k : Nat}
    (hLast : LastPlace names j k)
    (hName : names[j]? = some name)
    (hValue : values[k]? = some v) :
    get? (ofColumns names values) name = some v := by
  have hFound :
      get? (names.zip values).reverse name = some v := by
    apply get?_reverse_of_last
    · rw [List.getElem?_zip_eq_some]
      exact ⟨hLast.name_eq.trans hName, hValue⟩
    · intro m hLater hSame
      apply hLast.last m hLater
      rw [hName]
      rcases Option.map_eq_some_iff.mp hSame with
        ⟨pair, hPair, hFirst⟩
      rw [← hFirst]
      exact (List.getElem?_zip_eq_some.mp hPair).1
  unfold ofColumns
  rw [get?_putAll, hFound]
  rfl

end Fields

end SqlGateway
