import SqlGateway.Text.LowerCase

/-
  This file shows which texts have a small form in ASCII.
  Beyond ASCII, the sign of the kelvin is the only character
  whose small form has no other character than those of
  ASCII, and it is a letter k.  So a word of ASCII without a
  k is the small form of its own spellings in ASCII, and of
  no other text.

  Key definitions include:
    * `CaseRun.Lawful`

  Main declarations:
    * `lawful_of_mem_lowerRuns`
    * `lowerBehind_of_ascii`
    * `ascii_of_lowerBehind`
    * `lowerCase_eq_iff`
-/

namespace SqlGateway

namespace Text

variable {c : Char}
variable {cs before after : List Char}

------------------------------------------------------------
-- Letters of ASCII
------------------------------------------------------------

/- Only the capital letters of ASCII have another small
   letter in ASCII. -/
theorem toLower_of_not_capital
    (hOther : ¬ (0x41 ≤ c.toNat ∧ c.toNat ≤ 0x5A)) :
    c.toLower = c := by
  unfold Char.toLower
  apply dif_neg
  rintro ⟨hLow, hHigh⟩
  exact hOther
    ⟨UInt32.le_iff_toNat_le.mp hLow,
      UInt32.le_iff_toNat_le.mp hHigh⟩

theorem toLower_of_capital
    (hLow : 0x41 ≤ c.toNat)
    (hHigh : c.toNat ≤ 0x5A) :
    c.toLower = Char.ofNat (c.toNat + 32) := by
  have hAll : ∀ n < 0x5B, 0x41 ≤ n →
      (Char.ofNat n).toLower = Char.ofNat (n + 32) := by
    decide
  have hChar := hAll c.toNat (by omega) hLow
  rw [Char.ofNat_toNat] at hChar
  exact hChar

------------------------------------------------------------
-- The Runs of the Table
------------------------------------------------------------

/- The small letters of a run are characters, and none of
   them is in ASCII. -/
def CaseRun.LandsBeyond (run : CaseRun) : Prop :=
  128 ≤ run.first + run.distance ∧
    (run.last + run.distance < 0xD800 ∨
      (0xDFFF < run.first + run.distance ∧
        run.last + run.distance < 0x110000))

instance (run : CaseRun) : Decidable run.LandsBeyond := by
  unfold CaseRun.LandsBeyond
  infer_instance

/-
  A run is one of the capital letters of ASCII, of the sign
  of the kelvin, or of characters beyond ASCII whose small
  letters are beyond it too.
-/
def CaseRun.Lawful (run : CaseRun) : Prop :=
  (run.first = 0x41 ∧ run.last = 0x5A ∧ run.distance = 32) ∨
    (run.first = 0x212A ∧ run.last = 0x212A) ∨
    (128 ≤ run.first ∧ run.LandsBeyond)

instance (run : CaseRun) : Decidable run.Lawful := by
  unfold CaseRun.Lawful
  infer_instance

theorem lawful_of_mem_lowerRuns :
    ∀ run ∈ lowerRuns, run.Lawful := by
  decide +kernel

/- A run that is found for a number is of the table, and has
   the number between its ends. -/
theorem bounds_of_find?
    {run : CaseRun}
    {n : Nat}
    (hFound : lowerRuns.find? (·.holds n) = some run) :
    run.Lawful ∧ run.first ≤ n ∧ n ≤ run.last := by
  have hMem := List.mem_of_find?_eq_some hFound
  have hHolds := List.find?_some hFound
  simp only [CaseRun.holds, Bool.and_eq_true,
    decide_eq_true_eq] at hHolds
  exact ⟨lawful_of_mem_lowerRuns run hMem, hHolds.1⟩

/- A number that is the number of a character. -/
theorem toNat_ofNat_of_lands
    {n : Int}
    (hLow : 128 ≤ n)
    (hValid : n < 0xD800 ∨ (0xDFFF < n ∧ n < 0x110000)) :
    (Char.ofNat n.toNat).toNat = n.toNat := by
  have hChar : n.toNat.isValidChar := by
    rcases hValid with hBefore | ⟨hBehind, hBelow⟩
    · left
      omega
    · right
      constructor
      · omega
      · omega
  rw [Char.ofNat, dif_pos hChar]
  rfl

------------------------------------------------------------
-- Small Letters
------------------------------------------------------------

/- In ASCII a character has the small letter of ASCII. -/
theorem lowerChar_of_ascii
    (hAscii : c.toNat < 128) :
    lowerChar c = c.toLower := by
  unfold lowerChar
  split
  · rename_i run hFound
    rcases bounds_of_find? hFound with ⟨hLawful, hLe, hGe⟩
    rcases hLawful with
      ⟨hFirst, hLast, hDistance⟩ | ⟨hFirst, -⟩ | ⟨hFirst, -⟩
    · rw [toLower_of_capital (by omega) (by omega), hDistance]
      rfl
    · omega
    · omega
  · rename_i hNone
    -- The table begins with the capital letters of ASCII.
    have hCapitals :
        (⟨0x41, 0x5A, 1, 32⟩ : CaseRun) ∈ lowerRuns :=
      List.mem_cons_self
    have hNot := List.find?_eq_none.mp hNone _ hCapitals
    symm
    apply toLower_of_not_capital
    intro hCapital
    simp [CaseRun.holds, hCapital, Nat.mod_one] at hNot

/- Beyond ASCII it has one beyond ASCII, unless it is the
   sign of the kelvin. -/
theorem le_toNat_lowerChar
    (hWide : 128 ≤ c.toNat)
    (hKelvin : c ≠ '\u212A') :
    128 ≤ (lowerChar c).toNat := by
  unfold lowerChar
  split
  · rename_i run hFound
    rcases bounds_of_find? hFound with ⟨hLawful, hLe, hGe⟩
    rcases hLawful with
      ⟨-, hLast, -⟩ | ⟨hFirst, hLast⟩ |
        ⟨hFirst, hLands, hValid⟩
    · omega
    · refine absurd ?_ hKelvin
      apply Char.toNat_inj.mp
      change c.toNat = 0x212A
      omega
    · rw [toNat_ofNat_of_lands (by omega) (by omega)]
      omega
  · exact hWide

------------------------------------------------------------
-- Small Forms
------------------------------------------------------------

theorem lowerAt_of_ascii
    (before after : List Char)
    (hAscii : c.toNat < 128) :
    lowerAt before after c = [c.toLower] := by
  have hOther : ∀ d : Char, 128 ≤ d.toNat →
      (c == d) = false := by
    intro d hWide
    rw [beq_eq_false_iff_ne]
    rintro rfl
    omega
  unfold lowerAt
  rw [hOther '\u03A3' (by decide), hOther '\u0130' (by decide),
    lowerChar_of_ascii hAscii]
  rfl

/- In the small form of another there is a character beyond
   ASCII, or a letter k. -/
theorem exists_mem_lowerAt
    (before after : List Char)
    (hWide : 128 ≤ c.toNat) :
    ∃ d ∈ lowerAt before after c,
      128 ≤ d.toNat ∨ d = 'k' := by
  unfold lowerAt
  split
  · exact ⟨_, List.mem_cons_self, .inl (by decide)⟩
  · split
    · exact
        ⟨_, List.mem_cons_of_mem _ List.mem_cons_self,
          .inl (by decide)⟩
    · refine ⟨_, List.mem_cons_self, ?_⟩
      by_cases hKelvin : c = '\u212A'
      · rw [hKelvin]
        exact .inr (by decide +kernel)
      · exact .inl (le_toNat_lowerChar hWide hKelvin)

/- The small form of a text of ASCII. -/
theorem lowerBehind_of_ascii
    (before : List Char)
    (hAscii : ∀ c ∈ cs, c.toNat < 128) :
    lowerBehind before cs = cs.map Char.toLower := by
  induction cs generalizing before with
  | nil => rfl
  | cons c cs ih =>
      rcases List.forall_mem_cons.mp hAscii with
        ⟨hFirst, hRest⟩
      rw [lowerBehind, lowerAt_of_ascii before cs hFirst,
        ih (c :: before) hRest]
      rfl

/- A text whose small form is in ASCII, without a k, is in
   ASCII. -/
theorem ascii_of_lowerBehind
    (hLower : ∀ d ∈ lowerBehind before cs,
      d.toNat < 128 ∧ d ≠ 'k') :
    ∀ c ∈ cs, c.toNat < 128 := by
  induction cs generalizing before with
  | nil => exact List.forall_mem_nil _
  | cons c cs ih =>
      rw [lowerBehind] at hLower
      rcases List.forall_mem_append.mp hLower with
        ⟨hFirst, hRest⟩
      refine List.forall_mem_cons.mpr
        ⟨Nat.not_le.mp ?_, ih hRest⟩
      intro hWide
      rcases exists_mem_lowerAt before cs hWide with
        ⟨d, hMem, hBeyond | hKelvin⟩
      · exact Nat.not_lt.mpr hBeyond (hFirst d hMem).1
      · exact (hFirst d hMem).2 hKelvin

/- A text whose letters are in ASCII when they are made small
   is in ASCII. -/
theorem ascii_of_map_toLower
    (hLower : ∀ d ∈ cs.map Char.toLower, d.toNat < 128) :
    ∀ c ∈ cs, c.toNat < 128 := by
  intro c hMem
  refine Nat.not_le.mp ?_
  intro hWide
  have hKept : c.toLower = c :=
    toLower_of_not_capital (by omega)
  have hSmall := hLower c.toLower (List.mem_map_of_mem hMem)
  rw [hKept] at hSmall
  exact Nat.not_lt.mpr hWide hSmall

/-
  A word of ASCII without a k is the small form of those
  texts that differ from it in the case of ASCII letters
  only, however a text is spelled.
-/
theorem lowerCase_eq_iff
    {word text : String}
    (hWord : ∀ d ∈ word.toList, d.toNat < 128 ∧ d ≠ 'k') :
    lowerCase text = word ↔
      text.toList.map Char.toLower = word.toList := by
  have hForm :
      lowerCase text = word ↔
        lowerBehind [] text.toList = word.toList := by
    rw [← String.toList_inj, lowerCase, String.toList_ofList]
  rw [hForm]
  constructor
  · intro hLower
    have hAscii : ∀ c ∈ text.toList, c.toNat < 128 := by
      apply ascii_of_lowerBehind
      rw [hLower]
      exact hWord
    rw [← lowerBehind_of_ascii [] hAscii]
    exact hLower
  · intro hSame
    have hAscii : ∀ c ∈ text.toList, c.toNat < 128 := by
      apply ascii_of_map_toLower
      rw [hSame]
      exact fun d hMem => (hWord d hMem).1
    rw [lowerBehind_of_ascii [] hAscii]
    exact hSame

end Text

end SqlGateway
