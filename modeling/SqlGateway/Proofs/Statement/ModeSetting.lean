import SqlGateway.Proofs.Statement.LetterCase
import SqlGateway.Statement.QueryMode

/-
  This file shows which settings give a query mode.  A wider
  mode is given to its name alone, in letters of ASCII, be
  they large or small, and with any blanks around it.  Every
  other setting gives the narrowest mode.

  Key definitions include:
    * `QueryMode.Spells`

  Main declarations:
    * `QueryMode.ofSetting_eq_iff`
    * `QueryMode.ofSetting_eq_safe`
    * `QueryMode.ofSetting_of_not_ascii`
-/

namespace SqlGateway

namespace Statement

open Text

namespace QueryMode

variable {value? : Option String}

/- A setting spells a word: without the blanks around it, it
   is the word but for the case of ASCII letters. -/
def Spells
    (value? : Option String)
    (word : String) : Prop :=
  ∃ text : String,
    value? = some text ∧
      SameButCase (trim isBlank text.toList) word.toList

/- A setting that is present spells a word by its text. -/
theorem spells_some_iff
    {text word : String} :
    Spells (some text) word ↔
      SameButCase (trim isBlank text.toList) word.toList := by
  constructor
  · rintro ⟨_, ⟨⟩, hSame⟩
    exact hSame
  · intro hSame
    exact ⟨text, rfl, hSame⟩

/- A mode has the name that it is found by. -/
theorem ofName?_eq_some_iff
    {text : String}
    {mode : QueryMode} :
    ofName? text = some mode ↔ text = mode.name := by
  constructor
  · intro hFound
    have hName := List.find?_some hFound
    exact (beq_iff_eq.mp hName).symm
  · rintro rfl
    cases mode with
    | safe => rfl
    | write => rfl
    | full => rfl

/- The name of a wider mode is a word of ASCII without a k,
   in small letters. -/
theorem ascii_of_mem_name
    {mode : QueryMode}
    (hWide : mode ≠ safe) :
    ∀ d ∈ mode.name.toList,
      d.toNat < 128 ∧ d ≠ 'k' ∧ d.toLower = d := by
  cases mode with
  | safe => exact absurd rfl hWide
  | write => simp [name]
  | full => simp [name]

theorem map_toLower_name
    {mode : QueryMode}
    (hWide : mode ≠ safe) :
    mode.name.toList.map Char.toLower =
      mode.name.toList := by
  refine (List.map_congr_left ?_).trans (List.map_id _)
  exact fun d hMem => (ascii_of_mem_name hWide d hMem).2.2

/- A text has the small form of such a name if it is the name
   but for the case of ASCII letters. -/
theorem lowerCase_eq_name_iff
    {mode : QueryMode}
    (hWide : mode ≠ safe)
    (cs : List Char) :
    lowerCase (String.ofList cs) = mode.name ↔
      SameButCase cs mode.name.toList := by
  have hName : ∀ d ∈ mode.name.toList,
      d.toNat < 128 ∧ d ≠ 'k' := by
    intro d hMem
    rcases ascii_of_mem_name hWide d hMem with
      ⟨hAscii, hKelvin, -⟩
    exact ⟨hAscii, hKelvin⟩
  unfold SameButCase
  rw [lowerCase_eq_iff hName, String.toList_ofList,
    map_toLower_name hWide]

/- A wider mode is given to the settings that spell its name,
   and to no other. -/
theorem ofSetting_eq_iff
    {mode : QueryMode}
    (hWide : mode ≠ safe) :
    ofSetting value? = mode ↔ Spells value? mode.name := by
  cases value? with
  | none => simp [ofSetting, Spells, hWide.symm]
  | some text =>
      unfold ofSetting
      rw [spells_some_iff, Option.getD_eq_iff,
        ofName?_eq_some_iff, lowerCase_eq_name_iff hWide]
      simp [hWide.symm]

/- A setting that spells neither write nor full gives the
   narrowest mode. -/
theorem ofSetting_eq_safe
    (hWrite : ¬ Spells value? "write")
    (hFull : ¬ Spells value? "full") :
    ofSetting value? = safe := by
  cases hMode : ofSetting value? with
  | safe => rfl
  | write =>
      exact absurd ((ofSetting_eq_iff (by decide)).mp hMode)
        hWrite
  | full =>
      exact absurd ((ofSetting_eq_iff (by decide)).mp hMode)
        hFull

/- What spells the name of a wider mode is in ASCII. -/
theorem ascii_of_spells
    {mode : QueryMode}
    {text : String}
    (hWide : mode ≠ safe)
    (hSpells : Spells (some text) mode.name) :
    ∀ c ∈ trim isBlank text.toList, c.toNat < 128 := by
  have hSame := spells_some_iff.mp hSpells
  unfold SameButCase at hSame
  apply ascii_of_map_toLower
  rw [hSame, map_toLower_name hWide]
  exact fun d hMem => (ascii_of_mem_name hWide d hMem).1

theorem ofSetting_of_not_ascii
    {text : String}
    {c : Char}
    (hMem : c ∈ trim isBlank text.toList)
    (hBeyond : 128 ≤ c.toNat) :
    ofSetting (some text) = safe := by
  by_contra hWide
  have hSpells := (ofSetting_eq_iff hWide).mp rfl
  exact Nat.not_lt.mpr hBeyond
    (ascii_of_spells hWide hSpells c hMem)

end QueryMode

end Statement

end SqlGateway
