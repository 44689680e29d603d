import SqlGateway.QueryResult

/-
  This file defines how the lines of a text are read, and a
  line as a row of a markdown table, and shows when a row
  comes back as it was written.

  Key definitions include:
    * `splitLines`
    * `splitBars`
    * `ReadsAs`
    * `Tabular`

  Main declarations:
    * `splitLines_joined`
    * `readsAs_tableLine_iff`
-/

namespace SqlGateway

namespace Table

------------------------------------------------------------
-- Lines and Rows
------------------------------------------------------------

/- A character that ends a line. -/
def isBreak (c : Char) : Bool :=
  c == '\n' || c == '\r'

/- No character of a text ends a line. -/
def Unbroken (cs : List Char) : Prop :=
  ∀ c ∈ cs, isBreak c = false

instance (cs : List Char) : Decidable (Unbroken cs) :=
  decidable_of_iff (cs.any isBreak = false) (by
    simp [Unbroken])

/- Put a character in front of the first part. -/
def onFirst
    (c : Char) : List (List Char) → List (List Char)
  | [] => [[c]]
  | part :: parts => (c :: part) :: parts

/- The lines of a text, where a return and a line feed behind
   it are one end of a line. -/
def splitLines : List Char → List (List Char)
  | [] => [[]]
  | '\r' :: '\n' :: cs => [] :: splitLines cs
  | c :: cs =>
      if isBreak c then
        [] :: splitLines cs
      else
        onFirst c (splitLines cs)

/- The parts of a line between its bars, where a bar behind a
   backslash is a character of its part. -/
def splitBars : List Char → List (List Char)
  | [] => [[]]
  | '\\' :: '|' :: cs => onFirst '|' (splitBars cs)
  | c :: cs =>
      if c = '|' then
        [] :: splitBars cs
      else
        onFirst c (splitBars cs)

/- A cell with a blank on either side. -/
def padded (cell : String) : List Char :=
  ' ' :: (cell.toList ++ [' '])

/- A line is read as a row of cells: it has a bar at either
   end, and the cells in between, each with a blank on either
   side. -/
def ReadsAs
    (line : List Char)
    (cells : List String) : Prop :=
  splitBars line = [] :: (cells.map padded ++ [[]])

instance
    (line : List Char)
    (cells : List String) :
    Decidable (ReadsAs line cells) := by
  unfold ReadsAs
  infer_instance

/- A text has a place in a row: no bar and no end of a line
   is in it. -/
def Tabular (cell : String) : Prop :=
  '|' ∉ cell.toList ∧ Unbroken cell.toList

instance (cell : String) : Decidable (Tabular cell) := by
  unfold Tabular
  infer_instance

------------------------------------------------------------
-- Parts
------------------------------------------------------------

/- With a character in front there is a part. -/
theorem onFirst_ne_nil
    (c : Char)
    (parts : List (List Char)) :
    onFirst c parts ≠ [] := by
  cases parts with
  | nil => exact List.cons_ne_nil _ _
  | cons part parts => exact List.cons_ne_nil _ _

theorem flatten_onFirst
    (c : Char)
    (parts : List (List Char)) :
    (onFirst c parts).flatten = c :: parts.flatten := by
  cases parts with
  | nil => rfl
  | cons part parts => rfl

/- There are as many parts as before, if there were any. -/
theorem length_onFirst
    {parts : List (List Char)}
    (hSome : parts ≠ [])
    (c : Char) :
    (onFirst c parts).length = parts.length := by
  cases parts with
  | nil => exact absurd rfl hSome
  | cons part parts => rfl

/- A character in front is one more in the parts. -/
theorem mem_onFirst
    {c : Char}
    {parts : List (List Char)}
    {part : List Char}
    (hMem : part ∈ onFirst c parts) :
    part ∈ parts ∨
      ∃ rest, part = c :: rest ∧
        (rest ∈ parts ∨ rest = []) := by
  cases parts with
  | nil =>
      have hOnly := List.mem_singleton.mp hMem
      exact .inr ⟨[], hOnly, .inr rfl⟩
  | cons first others =>
      rcases List.mem_cons.mp hMem with hFirst | hOther
      · exact .inr ⟨first, hFirst, .inl List.mem_cons_self⟩
      · exact .inl (List.mem_cons_of_mem _ hOther)

------------------------------------------------------------
-- Reading Lines
------------------------------------------------------------

/- No line has the end of a line in it. -/
theorem unbroken_of_mem_splitLines
    {cs line : List Char}
    (hLine : line ∈ splitLines cs) :
    Unbroken line := by
  fun_induction splitLines cs generalizing line with
  | case1 =>
      rw [List.mem_singleton.mp hLine]
      exact nofun
  | case2 cs ih =>
      rcases List.mem_cons.mp hLine with rfl | hLater
      · exact nofun
      · exact ih hLater
  | case3 c cs hNotPair hBreak ih =>
      rcases List.mem_cons.mp hLine with rfl | hLater
      · exact nofun
      · exact ih hLater
  | case4 c cs hNotPair hInside ih =>
      rcases mem_onFirst hLine with
        hLater | ⟨rest, rfl, hRest⟩
      · exact ih hLater
      · intro d hMem
        rcases List.mem_cons.mp hMem with rfl | hMem
        · simpa using hInside
        · rcases hRest with hRest | rfl
          · exact ih hRest d hMem
          · cases hMem

/- A character of a line is put in front of the first. -/
theorem splitLines_cons
    {c : Char}
    (hInside : isBreak c = false)
    (cs : List Char) :
    splitLines (c :: cs) = onFirst c (splitLines cs) := by
  have hReturn : c ≠ '\r' := by
    rintro rfl
    cases hInside
  rw [splitLines]
  · simp [hInside]
  · intro rest hSame _
    exact hReturn hSame

theorem splitLines_append
    {line : List Char}
    (hLine : Unbroken line)
    (rest : List Char) :
    splitLines (line ++ '\n' :: rest) =
      line :: splitLines rest := by
  induction line with
  | nil => simp [splitLines, isBreak]
  | cons c line ih =>
      rcases List.forall_mem_cons.mp hLine with
        ⟨hFirst, hLater⟩
      rw [List.cons_append, splitLines_cons hFirst, ih hLater]
      rfl

/- A text without any is one line. -/
theorem splitLines_of_unbroken
    {line : List Char}
    (hLine : Unbroken line) :
    splitLines line = [line] := by
  induction line with
  | nil => rfl
  | cons c line ih =>
      rcases List.forall_mem_cons.mp hLine with
        ⟨hFirst, hLater⟩
      rw [splitLines_cons hFirst, ih hLater]
      rfl

/- Lines come back that were written one below the other. -/
theorem splitLines_joined
    {first : List Char}
    {others : List (List Char)}
    (hLines : ∀ line ∈ first :: others, Unbroken line) :
    splitLines
        (first ++ others.flatMap fun line => '\n' :: line) =
      first :: others := by
  induction others generalizing first with
  | nil =>
      rw [List.flatMap_nil, List.append_nil]
      exact splitLines_of_unbroken
        (hLines first List.mem_cons_self)
  | cons second others ih =>
      rcases List.forall_mem_cons.mp hLines with
        ⟨hFirst, hOthers⟩
      rw [List.flatMap_cons, List.cons_append,
        splitLines_append hFirst, ih hOthers]

------------------------------------------------------------
-- Reading Rows
------------------------------------------------------------

/- The parts hold characters of the line only. -/
theorem mem_of_mem_splitBars
    {cs part : List Char}
    (hPart : part ∈ splitBars cs) :
    ∀ c ∈ part, c ∈ cs := by
  fun_induction splitBars cs generalizing part with
  | case1 =>
      rw [List.mem_singleton.mp hPart]
      exact nofun
  | case2 cs ih =>
      rcases mem_onFirst hPart with
        hLater | ⟨rest, rfl, hRest⟩
      · intro c hMem
        exact List.mem_cons_of_mem _
          (List.mem_cons_of_mem _ (ih hLater c hMem))
      · intro c hMem
        rcases List.mem_cons.mp hMem with rfl | hMem
        · exact List.mem_cons_of_mem _ List.mem_cons_self
        · rcases hRest with hRest | rfl
          · exact List.mem_cons_of_mem _
              (List.mem_cons_of_mem _ (ih hRest c hMem))
          · cases hMem
  | case3 cs hNotPair ih =>
      rcases List.mem_cons.mp hPart with rfl | hLater
      · exact nofun
      · exact fun c hMem =>
          List.mem_cons_of_mem _ (ih hLater c hMem)
  | case4 d cs hNotPair hOther ih =>
      rcases mem_onFirst hPart with
        hLater | ⟨rest, rfl, hRest⟩
      · exact fun c hMem =>
          List.mem_cons_of_mem _ (ih hLater c hMem)
      · intro c hMem
        rcases List.mem_cons.mp hMem with rfl | hMem
        · exact List.mem_cons_self
        · rcases hRest with hRest | rfl
          · exact List.mem_cons_of_mem _ (ih hRest c hMem)
          · cases hMem

theorem splitBars_ne_nil (cs : List Char) :
    splitBars cs ≠ [] := by
  fun_cases splitBars cs with
  | case1 => exact List.cons_ne_nil _ _
  | case2 cs => exact onFirst_ne_nil _ _
  | case3 cs hNotPair => exact List.cons_ne_nil _ _
  | case4 c cs hNotPair hOther => exact onFirst_ne_nil _ _

/-
  Every bar of a line either ends a part, or it and the
  backslash before it are one character of a part.  So the
  bars that are read as characters can be counted.
-/
theorem length_splitBars (cs : List Char) :
    (splitBars cs).flatten.length + (splitBars cs).length +
        (splitBars cs).flatten.count '|' =
      cs.length + 1 := by
  fun_induction splitBars cs with
  | case1 => rfl
  | case2 cs ih =>
      rw [flatten_onFirst,
        length_onFirst (splitBars_ne_nil cs),
        List.count_cons_self]
      simp only [List.length_cons]
      omega
  | case3 cs hNotPair ih =>
      simp only [List.flatten_cons, List.nil_append,
        List.length_cons]
      omega
  | case4 c cs hNotPair hOther ih =>
      rw [flatten_onFirst,
        length_onFirst (splitBars_ne_nil cs),
        List.count_cons_of_ne hOther]
      simp only [List.length_cons]
      omega

/- A character other than a bar and a backslash before one is
   put in front of the first part. -/
theorem splitBars_cons
    {c : Char}
    {cs : List Char}
    (hOther : c ≠ '|')
    (hNext : cs.head? ≠ some '|') :
    splitBars (c :: cs) = onFirst c (splitBars cs) := by
  rw [splitBars]
  · exact if_neg hOther
  · rintro rest _ rfl
    exact hNext rfl

/- A padded cell without bars is a part up to the bar behind
   it. -/
theorem splitBars_padded_append
    {cell : String}
    (hCell : '|' ∉ cell.toList)
    (rest : List Char) :
    splitBars (padded cell ++ '|' :: rest) =
      padded cell :: splitBars rest := by
  have hInside :
      ∀ cs : List Char, '|' ∉ cs →
        splitBars (cs ++ ' ' :: '|' :: rest) =
          (cs ++ [' ']) :: splitBars rest := by
    intro cs hCs
    induction cs with
    | nil => simp [splitBars, onFirst]
    | cons c cs ih =>
        have hFirst : c ≠ '|' := fun hSame =>
          hCs (hSame ▸ List.mem_cons_self)
        have hLater : '|' ∉ cs := fun hMem =>
          hCs (List.mem_cons_of_mem _ hMem)
        have hNext :
            (cs ++ ' ' :: '|' :: rest).head? ≠ some '|' := by
          cases cs with
          | nil => exact nofun
          | cons d cs =>
              intro hHead
              have hSame : d = '|' := Option.some.inj hHead
              exact hLater (hSame ▸ List.mem_cons_self)
        rw [List.cons_append,
          splitBars_cons hFirst hNext, ih hLater]
        rfl
  have hSpaced : '|' ∉ ' ' :: cell.toList := by
    simpa using hCell
  have hText :
      padded cell ++ '|' :: rest =
        (' ' :: cell.toList) ++ ' ' :: '|' :: rest := by
    simp [padded]
  rw [hText, hInside _ hSpaced]
  rfl

------------------------------------------------------------
-- Rows That Come Back
------------------------------------------------------------

/- Cells, each padded and with a bar behind it. -/
def barred (cells : List String) : List Char :=
  cells.flatMap fun cell => padded cell ++ ['|']

/- Texts with another between each two: the first, and each
   of the others behind the one between. -/
theorem intercalate_cons
    (between first : List Char)
    (others : List (List Char)) :
    List.intercalate between (first :: others) =
      first ++ others.flatMap fun text => between ++ text := by
  induction others generalizing first with
  | nil => simp [List.intercalate]
  | cons second others ih =>
      rw [List.intercalate_cons_cons, ih, List.flatMap_cons,
        List.append_assoc, List.append_assoc]

/- A line of a table is a bar and its cells. -/
theorem toList_tableLine
    {cells : List String}
    (hSome : cells ≠ []) :
    (tableLine cells).toList = '|' :: barred cells := by
  have hOthers : ∀ cells : List String,
      ((cells.map String.toList).flatMap fun text =>
            [' ', '|', ' '] ++ text) ++ [' ', '|'] =
        [' ', '|'] ++ barred cells := by
    intro cells
    induction cells with
    | nil => rfl
    | cons cell cells ih =>
        rw [List.map_cons, List.flatMap_cons,
          List.append_assoc, ih]
        simp [barred, padded]
  cases cells with
  | nil => exact absurd rfl hSome
  | cons first cells =>
      have hLine :
          (tableLine (first :: cells)).toList =
            ['|', ' '] ++
              List.intercalate [' ', '|', ' ']
                ((first :: cells).map String.toList) ++
              [' ', '|'] := by
        simp [tableLine, String.toList_append,
          String.toList_intercalate]
      rw [hLine, List.map_cons, intercalate_cons,
        List.append_assoc, List.append_assoc, hOthers]
      simp [barred, padded]

theorem splitBars_barred
    {cells : List String}
    (hCells : ∀ cell ∈ cells, '|' ∉ cell.toList) :
    splitBars (barred cells) = cells.map padded ++ [[]] := by
  induction cells with
  | nil => rfl
  | cons cell cells ih =>
      rcases List.forall_mem_cons.mp hCells with
        ⟨hFirst, hLater⟩
      have hText :
          barred (cell :: cells) =
            padded cell ++ '|' :: barred cells := by
        simp [barred]
      rw [hText, splitBars_padded_append hFirst, ih hLater]
      rfl

theorem splitBars_bar (cs : List Char) :
    splitBars ('|' :: cs) = [] :: splitBars cs := by
  simp [splitBars]

/- What is behind the cells is counted with them. -/
theorem length_barred (cells : List String) :
    (barred cells).length =
      (cells.map padded).flatten.length + cells.length := by
  induction cells with
  | nil => rfl
  | cons cell cells ih =>
      simp only [barred, List.flatMap_cons, List.length_append,
        List.map_cons, List.flatten_cons, List.length_cons,
        List.length_nil] at ih ⊢
      omega

/-
  A row comes back as it was written if and only if none of
  its cells has a bar.  For the second direction all bars of
  the line are counted: each is one that was put around the
  cells.
-/
theorem readsAs_tableLine_iff
    {cells : List String}
    (hSome : cells ≠ []) :
    ReadsAs (tableLine cells).toList cells ↔
      ∀ cell ∈ cells, '|' ∉ cell.toList := by
  unfold ReadsAs
  rw [toList_tableLine hSome, splitBars_bar]
  constructor
  · intro hReads cell hCell hBar
    have hParts := (List.cons_eq_cons.mp hReads).2
    have hCount := length_splitBars (barred cells)
    have hLength := length_barred cells
    rw [hParts] at hCount
    simp only [List.flatten_append, List.flatten_singleton,
      List.append_nil, List.length_append, List.length_map,
      List.length_singleton] at hCount
    have hNone :
        (cells.map padded).flatten.count '|' = 0 := by
      omega
    apply List.count_eq_zero.mp hNone
    refine List.mem_flatten.mpr
      ⟨padded cell, List.mem_map_of_mem hCell, ?_⟩
    exact List.mem_cons_of_mem _
      (List.mem_append_left _ hBar)
  · intro hCells
    rw [splitBars_barred hCells]

/- The cells of a row have the characters of the line
   only. -/
theorem ReadsAs.mem
    {line : List Char}
    {cells : List String}
    (hReads : ReadsAs line cells)
    {cell : String}
    (hCell : cell ∈ cells)
    {c : Char}
    (hMem : c ∈ cell.toList) :
    c ∈ line := by
  have hPart : padded cell ∈ splitBars line := by
    rw [hReads]
    exact List.mem_cons_of_mem _ (List.mem_append_left _
      (List.mem_map_of_mem hCell))
  apply mem_of_mem_splitBars hPart
  exact List.mem_cons_of_mem _ (List.mem_append_left _ hMem)

theorem ReadsAs.unbroken
    {line : List Char}
    {cells : List String}
    (hReads : ReadsAs line cells)
    (hLine : Unbroken line) :
    ∀ cell ∈ cells, Unbroken cell.toList :=
  fun _ hCell c hMem => hLine c (hReads.mem hCell hMem)

/- A line of cells without the end of one is a single line.
   -/
theorem unbroken_tableLine
    {cells : List String}
    (hSome : cells ≠ [])
    (hCells : ∀ cell ∈ cells, Unbroken cell.toList) :
    Unbroken (tableLine cells).toList := by
  intro c hMem
  rw [toList_tableLine hSome, barred] at hMem
  rcases List.mem_cons.mp hMem with rfl | hMem
  · rfl
  · rcases List.mem_flatMap.mp hMem with ⟨cell, hCell, hMem⟩
    rcases List.mem_append.mp hMem with hPadded | hBar
    · rcases List.mem_cons.mp hPadded with rfl | hRest
      · rfl
      · rcases List.mem_append.mp hRest with hInside | hBlank
        · exact hCells cell hCell c hInside
        · rw [List.mem_singleton.mp hBlank]
          rfl
    · rw [List.mem_singleton.mp hBar]
      rfl

end Table

end SqlGateway
