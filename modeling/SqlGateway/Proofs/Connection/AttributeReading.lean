import Mathlib.Data.List.TakeWhile
import SqlGateway.Connection.AttributeString

/-
  This file defines how a connection string of ODBC is read,
  and shows when reading gives back what was written: a
  value in braces always comes back, and any other value
  comes back if and only if it holds no semicolon and does
  not begin with an opening brace.

  Key definitions include:
    * `AttributeString.readBraced`
    * `AttributeString.readValue`
    * `AttributeString.read`
    * `AttributeString.Bare`

  Main declarations:
    * `AttributeString.readBraced_append`
    * `AttributeString.readValue_append_iff`
    * `AttributeString.read_write_iff`
-/

namespace SqlGateway

open Text

namespace AttributeString

------------------------------------------------------------
-- Reading
------------------------------------------------------------

/- A value in braces begins with this. -/
def openingBrace : Code := .char '\x7b'

/- A value in braces ends with this, if it is not
   doubled. -/
def closingBrace : Code := .char '\x7d'

/- What stands between two attributes. -/
def semicolon : Code := .char ';'

/- What stands between the name and the value. -/
def equalsSign : Code := .char '='

/-
  Read a value in braces, behind its opening brace: up to
  the first closing brace that is not doubled, where two
  stand for one.  What follows that brace is left.
-/
def readBraced :
    List Code → Option (List Code × List Code)
  | [] => none
  | c :: cs =>
      if c = closingBrace then
        match cs with
        | [] => some ([], [])
        | d :: rest =>
            if d = closingBrace then
              (readBraced rest).map fun parts =>
                (d :: parts.1, parts.2)
            else
              some ([], d :: rest)
      else
        (readBraced cs).map fun parts =>
          (c :: parts.1, parts.2)

/- Read a value without braces, up to the next
   semicolon. -/
def readBare (cs : List Code) : List Code × List Code :=
  (cs.takeWhile (· ≠ semicolon),
    cs.dropWhile (· ≠ semicolon))

/- Read a value, which is in braces if it begins with
   one. -/
def readValue :
    List Code → Option (List Code × List Code)
  | [] => some ([], [])
  | c :: cs =>
      if c = openingBrace then
        readBraced cs
      else
        some (readBare (c :: cs))

/- Read an attribute: its name, up to the equals sign, and
   its value. -/
def readAttribute (cs : List Code) :
    Option ((List Code × List Code) × List Code) :=
  match cs.dropWhile (· ≠ equalsSign) with
  | [] => none
  | _ :: rest =>
      (readValue rest).map fun parts =>
        ((cs.takeWhile (· ≠ equalsSign), parts.1), parts.2)

/- Read a number of attributes at most, with a semicolon
   between two of them. -/
def readWithin :
    Nat → List Code → Option (List (List Code × List Code))
  | _, [] => some []
  | 0, _ :: _ => none
  | n + 1, c :: cs =>
      match readAttribute (c :: cs) with
      | none => none
      | some (pair, []) => some [pair]
      | some (pair, d :: rest) =>
          if d = semicolon then
            (readWithin n rest).map (pair :: ·)
          else
            none

/- Read the names and values of a connection string, which
   has no more attributes than codes. -/
def read (cs : List Code) :
    Option (List (List Code × List Code)) :=
  readWithin cs.length cs

------------------------------------------------------------
-- Values in Braces
------------------------------------------------------------

/-
  A written value ends where it should, and comes back, if
  no closing brace follows it.
-/
theorem readBraced_append
    (value : List Code)
    {rest : List Code}
    (hRest : rest.head? ≠ some closingBrace) :
    readBraced
        (value.flatMap bracedCode ++ closingBrace :: rest) =
      some (value, rest) := by
  induction value with
  | nil =>
      cases rest with
      | nil => simp [readBraced]
      | cons d rest =>
          have hOther : d ≠ closingBrace := by
            simpa using hRest
          simp [readBraced, hOther]
  | cons c value ih =>
      by_cases hClosing : c = closingBrace
      · have hTwice : bracedCode c = [c, c] :=
          if_pos hClosing
        simp only [List.flatMap_cons, hTwice,
          List.cons_append, List.nil_append]
        simp only [readBraced, if_pos hClosing, ih,
          Option.map_some]
      · have hOnce : bracedCode c = [c] :=
          if_neg hClosing
        simp only [List.flatMap_cons, hOnce,
          List.cons_append, List.nil_append]
        rw [readBraced.eq_def]
        simp only [if_neg hClosing, ih, Option.map_some]

/- What is read from braces was written so. -/
theorem eq_of_readBraced
    {cs value rest : List Code}
    (hRead : readBraced cs = some (value, rest)) :
    cs = value.flatMap bracedCode ++ closingBrace :: rest := by
  fun_induction readBraced cs generalizing value with
  | case1 => cases hRead
  | case2 =>
      cases hRead
      rfl
  | case3 later ih =>
      rcases Option.map_eq_some_iff.mp hRead with
        ⟨parts, hParts, hEq⟩
      cases hEq
      rw [List.flatMap_cons, ih hParts]
      rfl
  | case4 d later hOther =>
      cases hRead
      rfl
  | case5 c cs hOther ih =>
      rcases Option.map_eq_some_iff.mp hRead with
        ⟨parts, hParts, hEq⟩
      cases hEq
      have hOnce : bracedCode c = [c] := if_neg hOther
      rw [List.flatMap_cons, hOnce, ih hParts]
      rfl

/- A value in braces is read as what was put there. -/
theorem readValue_braced_append
    (value : List Code)
    {rest : List Code}
    (hRest : rest.head? ≠ some closingBrace) :
    readValue (braced value ++ rest) =
      some (value, rest) := by
  have hText :
      braced value ++ rest =
        openingBrace ::
          (value.flatMap bracedCode ++
            closingBrace :: rest) := by
    simp [braced, openingBrace, closingBrace]
  rw [hText, readValue, if_pos rfl]
  exact readBraced_append value hRest

------------------------------------------------------------
-- Values Without Braces
------------------------------------------------------------

/- A value that may stand without braces. -/
def Bare (value : List Code) : Prop :=
  semicolon ∉ value ∧ value.head? ≠ some openingBrace

instance (value : List Code) : Decidable (Bare value) := by
  unfold Bare
  infer_instance

/- An attribute ends here: the text does, or a semicolon
   follows. -/
def AtEnd (rest : List Code) : Prop :=
  ∀ c, rest.head? = some c → c = semicolon

/- A value that may stand without braces is read as it
   is. -/
theorem readValue_append_of_bare
    {value rest : List Code}
    (hBare : Bare value)
    (hRest : AtEnd rest) :
    readValue (value ++ rest) = some (value, rest) := by
  have hInside : ∀ c ∈ value, decide (c ≠ semicolon) := by
    intro c hMem
    apply decide_eq_true
    rintro rfl
    exact hBare.1 hMem
  have hFirst : (value ++ rest).head? ≠ some openingBrace := by
    cases value with
    | nil =>
        intro hHead
        have hEq := hRest _ hHead
        cases hEq
    | cons c value => exact hBare.2
  have hTake :
      (value ++ rest).takeWhile (· ≠ semicolon) = value := by
    rw [List.takeWhile_append_of_pos hInside]
    cases rest with
    | nil => simp
    | cons c rest => simp [hRest c rfl]
  have hDrop :
      (value ++ rest).dropWhile (· ≠ semicolon) = rest := by
    rw [List.dropWhile_append_of_pos hInside]
    cases rest with
    | nil => rfl
    | cons c rest => simp [hRest c rfl]
  have hBoth : readBare (value ++ rest) = (value, rest) := by
    unfold readBare
    rw [hTake, hDrop]
  cases hText : value ++ rest with
  | nil =>
      rcases List.append_eq_nil_iff.mp hText with
        ⟨rfl, rfl⟩
      rfl
  | cons c cs =>
      rw [hText] at hFirst hBoth
      have hOther : c ≠ openingBrace := by
        simpa using hFirst
      rw [readValue, if_neg hOther, hBoth]

/-
  Doubling the closing braces of a text does not make up for
  an opening brace in front of it.
-/
private theorem append_ne_opening_cons
    (value tail : List Code)
    {rest : List Code}
    (hRest : rest.head? ≠ some openingBrace) :
    value ++ rest ≠
      openingBrace :: (value.flatMap bracedCode ++ tail) := by
  induction value with
  | nil =>
      rintro rfl
      exact hRest rfl
  | cons c value ih =>
      intro hEq
      rcases List.cons_eq_cons.mp hEq with ⟨rfl, hLater⟩
      exact ih hLater

/- A value that is read as it is may stand without
   braces. -/
theorem bare_of_readValue
    {value rest later : List Code}
    (hRest : AtEnd rest)
    (hRead :
      readValue (value ++ rest) = some (value, later)) :
    Bare value := by
  have hOpening : rest.head? ≠ some openingBrace := by
    intro hHead
    have hEq := hRest _ hHead
    cases hEq
  cases value with
  | nil => exact ⟨by simp, by simp⟩
  | cons c value =>
      rw [List.cons_append] at hRead
      by_cases hBrace : c = openingBrace
      · rw [readValue, if_pos hBrace] at hRead
        have hText := eq_of_readBraced hRead
        have hOnce : bracedCode c = [c] := by
          rw [hBrace]
          rfl
        rw [List.flatMap_cons, hOnce, hBrace] at hText
        exact absurd hText
          (append_ne_opening_cons value _ hOpening)
      · rw [readValue, if_neg hBrace] at hRead
        have hValue :
            (c :: (value ++ rest)).takeWhile
                (· ≠ semicolon) =
              c :: value :=
          congrArg Prod.fst (Option.some.inj hRead)
        constructor
        · intro hMem
          rw [← hValue] at hMem
          have hNot := List.mem_takeWhile_imp hMem
          simp at hNot
        · simpa using hBrace

theorem readValue_append_iff
    {value rest : List Code}
    (hRest : AtEnd rest) :
    (∃ later, readValue (value ++ rest) =
        some (value, later)) ↔
      Bare value := by
  constructor
  · rintro ⟨later, hRead⟩
    exact bare_of_readValue hRest hRead
  · intro hBare
    exact ⟨rest, readValue_append_of_bare hBare hRest⟩

------------------------------------------------------------
-- Attributes
------------------------------------------------------------

namespace Attribute

/- The name and the value of an attribute. -/
def pair (a : Attribute) : List Code × List Code :=
  (Code.ofText a.name, a.value)

/- The name of an attribute ends at the equals sign. -/
def WellNamed (a : Attribute) : Prop :=
  equalsSign ∉ Code.ofText a.name

/- The value of an attribute comes back as it was
   written. -/
def Readable (a : Attribute) : Prop :=
  a.inBraces = true ∨ Bare a.value

end Attribute

/- The value of an attribute, as it is written. -/
def writtenValue (a : Attribute) : List Code :=
  if a.inBraces then braced a.value else a.value

/- An attribute is read up to its equals sign, and then its
   value is. -/
theorem readAttribute_writeAttribute_append
    {a : Attribute}
    (hName : a.WellNamed)
    (rest : List Code) :
    readAttribute (writeAttribute a ++ rest) =
      (readValue (writtenValue a ++ rest)).map fun parts =>
        ((Code.ofText a.name, parts.1), parts.2) := by
  have hInside :
      ∀ c ∈ Code.ofText a.name, decide (c ≠ equalsSign) := by
    intro c hMem
    apply decide_eq_true
    rintro rfl
    exact hName hMem
  have hText :
      writeAttribute a ++ rest =
        Code.ofText a.name ++
          equalsSign :: (writtenValue a ++ rest) := by
    simp [writeAttribute, writtenValue, equalsSign]
  unfold readAttribute
  rw [hText, List.takeWhile_append_of_pos hInside,
    List.dropWhile_append_of_pos hInside]
  simp

/- A readable attribute is read as it was. -/
theorem readAttribute_of_readable
    {a : Attribute}
    {rest : List Code}
    (hName : a.WellNamed)
    (hReadable : a.Readable)
    (hRest : AtEnd rest) :
    readAttribute (writeAttribute a ++ rest) =
      some (a.pair, rest) := by
  rw [readAttribute_writeAttribute_append hName]
  by_cases hBraces : a.inBraces = true
  · have hWritten : writtenValue a = braced a.value :=
      if_pos hBraces
    have hOther : rest.head? ≠ some closingBrace := by
      intro hHead
      have hEq := hRest _ hHead
      cases hEq
    rw [hWritten, readValue_braced_append a.value hOther]
    rfl
  · have hWritten : writtenValue a = a.value :=
      if_neg hBraces
    have hBare := hReadable.resolve_left hBraces
    rw [hWritten, readValue_append_of_bare hBare hRest]
    rfl

/- An attribute that is read as it was is readable. -/
theorem readable_of_readAttribute
    {a : Attribute}
    {rest later : List Code}
    (hName : a.WellNamed)
    (hRest : AtEnd rest)
    (hRead :
      readAttribute (writeAttribute a ++ rest) =
        some (a.pair, later)) :
    a.Readable := by
  rw [readAttribute_writeAttribute_append hName] at hRead
  by_cases hBraces : a.inBraces = true
  · exact .inl hBraces
  · have hWritten : writtenValue a = a.value :=
      if_neg hBraces
    rcases Option.map_eq_some_iff.mp hRead with
      ⟨parts, hParts, hEq⟩
    have hValue : parts.1 = a.value := by
      have hPair := congrArg (·.1.2) hEq
      exact hPair
    rw [hWritten] at hParts
    apply Or.inr
    apply (readValue_append_iff hRest).mp
    exact ⟨parts.2, by rw [hParts, ← hValue]⟩

------------------------------------------------------------
-- Connection Strings
------------------------------------------------------------

/- What follows the first attribute: nothing, or a semicolon
   and the other attributes. -/
def afterFirst : List Attribute → List Code
  | [] => []
  | a :: as => semicolon :: write (a :: as)

/- An attribute ends where the others begin. -/
theorem atEnd_afterFirst (as : List Attribute) :
    AtEnd (afterFirst as) := by
  intro c hHead
  cases as with
  | nil => cases hHead
  | cons a as => exact (Option.some.inj hHead).symm

/- Attributes are written one after the other. -/
theorem write_cons
    (a : Attribute)
    (as : List Attribute) :
    write (a :: as) = writeAttribute a ++ afterFirst as := by
  cases as with
  | nil => simp [write, afterFirst, List.intercalate]
  | cons b as =>
      simp [write, afterFirst, List.intercalate, semicolon]

theorem writeAttribute_ne_nil (a : Attribute) :
    writeAttribute a ≠ [] := by
  simp [writeAttribute]

/- There are no more attributes than codes. -/
theorem length_le_length_write (as : List Attribute) :
    as.length ≤ (write as).length := by
  induction as with
  | nil => simp
  | cons a as ih =>
      have hFirst :=
        List.length_pos_iff.mpr (writeAttribute_ne_nil a)
      rw [write_cons, List.length_append, List.length_cons]
      cases as with
      | nil =>
          simp only [List.length_nil] at *
          omega
      | cons b as =>
          simp only [afterFirst, List.length_cons] at *
          omega

/- What reading does with the first attribute, if that is
   read as it was. -/
theorem readWithin_write_cons
    {a : Attribute}
    (hName : a.WellNamed)
    (hReadable : a.Readable)
    (as : List Attribute)
    (n : Nat) :
    readWithin (n + 1) (write (a :: as)) =
      if as = [] then
        some [a.pair]
      else
        (readWithin n (write as)).map (a.pair :: ·) := by
  have hRead :=
    readAttribute_of_readable hName hReadable
      (atEnd_afterFirst as)
  rw [← write_cons] at hRead
  cases hText : write (a :: as) with
  | nil =>
      rw [write_cons] at hText
      have hNil := (List.append_eq_nil_iff.mp hText).1
      exact absurd hNil (writeAttribute_ne_nil a)
  | cons c cs =>
      rw [hText] at hRead
      cases as with
      | nil =>
          simp [readWithin, hRead, afterFirst]
      | cons b as =>
          simp [readWithin, hRead, afterFirst]

/- If the first attribute comes back, it is readable. -/
theorem readable_of_readWithin
    {a : Attribute}
    {as : List Attribute}
    {n : Nat}
    {later : List (List Code × List Code)}
    (hName : a.WellNamed)
    (hRead :
      readWithin n (write (a :: as)) =
        some (a.pair :: later)) :
    a.Readable := by
  cases hText : write (a :: as) with
  | nil =>
      rw [write_cons] at hText
      have hNil := (List.append_eq_nil_iff.mp hText).1
      exact absurd hNil (writeAttribute_ne_nil a)
  | cons c cs =>
      have hEnd := atEnd_afterFirst as
      rw [write_cons] at hText
      rw [write_cons, hText] at hRead
      cases n with
      | zero => cases hRead
      | succ n =>
          rw [readWithin] at hRead
          split at hRead
          · cases hRead
          · rename_i pair hFirst
            cases hRead
            rw [← hText] at hFirst
            exact readable_of_readAttribute hName hEnd hFirst
          · rename_i pair d rest hFirst
            rw [← hText] at hFirst
            split at hRead
            · rcases Option.map_eq_some_iff.mp hRead with
                ⟨others, -, hEq⟩
              cases hEq
              exact readable_of_readAttribute hName hEnd
                hFirst
            · cases hRead

/-
  Attributes come back exactly if each of them is in braces
  or has a value that may stand without.
-/
theorem read_write_iff
    {as : List Attribute}
    (hNames : ∀ a ∈ as, a.WellNamed) :
    read (write as) = some (as.map Attribute.pair) ↔
      ∀ a ∈ as, a.Readable := by
  have hWithin : ∀ n, as.length ≤ n →
      (readWithin n (write as) =
          some (as.map Attribute.pair) ↔
        ∀ a ∈ as, a.Readable) := by
    induction as with
    | nil =>
        intro n _
        simp [write, List.intercalate, readWithin]
    | cons a as ih =>
        intro n hLength
        have hName := hNames a List.mem_cons_self
        have hOthers := ih fun b hMem =>
          hNames b (List.mem_cons_of_mem a hMem)
        by_cases hReadable : a.Readable
        · rcases Nat.exists_eq_add_one_of_ne_zero
              (n := n) (by simp at hLength; omega) with
            ⟨m, rfl⟩
          have hRest := hOthers m (by simpa using hLength)
          rw [readWithin_write_cons hName hReadable]
          simp only [List.forall_mem_cons, hReadable,
            true_and, List.map_cons]
          rw [← hRest]
          by_cases hNil : as = []
          · simp [hNil, write, List.intercalate, readWithin]
          · simp [hNil, Option.map_eq_some_iff]
        · constructor
          · intro hRead
            exact absurd (readable_of_readWithin hName hRead)
              hReadable
          · intro hAll
            exact absurd (hAll a List.mem_cons_self)
              hReadable
  exact hWithin _ (length_le_length_write as)

end AttributeString

end SqlGateway
