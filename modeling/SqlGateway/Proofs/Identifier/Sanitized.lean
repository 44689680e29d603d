import SqlGateway.Failure.Message
import SqlGateway.Proofs.Identifier.Delimited

/-
  This file shows which texts are sanitised to a name, and
  that nothing of a name stands outside the delimiters that
  it is quoted with.

  The delimiters are removed by a pattern of six
  alternatives, each of which may match anew behind another.
  It comes to one character at each end at most, and what is
  left has to be a name as a whole.

  Key definitions include:
    * `IsNameChar`
    * `IsName`
    * `Wraps`
    * `AtMostOne`
    * `Refused`
    * `substituted`
    * `quotedSegment`
    * `Quotes`

  Main declarations:
    * `sanitize?_eq_some_iff`
    * `sanitize?_eq_substituted`
    * `delimited_quotes`
    * `sanitize_accepts_grammar`
-/

namespace SqlGateway

namespace Identifier

variable {cs name : List Char}

------------------------------------------------------------
-- The Grammar of Names
------------------------------------------------------------

/- ASCII letters, digits, underscores and dots. -/
def IsNameChar (c : Char) : Prop :=
  ('a' ≤ c ∧ c ≤ 'z') ∨ ('A' ≤ c ∧ c ≤ 'Z') ∨
    ('0' ≤ c ∧ c ≤ '9') ∨ c = '_' ∨ c = '.'

/- A text of such characters, of one at least and with no
   dot first. -/
structure IsName (name : List Char) : Prop where
  ne_nil : name ≠ []
  isNameChar : ∀ c ∈ name, IsNameChar c
  head_ne_dot : name.head? ≠ some '.'

/- A text around another, with at most one delimiter at each
   end. -/
def Wraps (cs name : List Char) : Prop :=
  ∃ before behind : List Char,
    before ∈ [[], ['['], ['\x22'], ['\x27']] ∧
      behind ∈ [[], [']'], ['\x22'], ['\x27']] ∧
      cs = before ++ (name ++ behind)

/- The characters of names are those of segments, and the
   dot. -/
theorem isNameChar_iff
    {c : Char} :
    IsNameChar c ↔ isSegmentChar c = true ∨ c = '.' := by
  have hAlphanum :
      c.isAlphanum =
        (decide ('A' ≤ c ∧ c ≤ 'Z') ||
          (decide ('a' ≤ c) && decide (c ≤ 'z')) ||
          (decide ('0' ≤ c) && decide (c ≤ '9'))) := by
    rfl
  unfold isSegmentChar IsNameChar
  simp only [hAlphanum, Bool.or_eq_true, Bool.and_eq_true,
    decide_eq_true_eq, beq_iff_eq, or_assoc]
  exact or_left_comm

theorem IsNameChar.not_delimiter
    {c : Char}
    (hChar : IsNameChar c) :
    isOpening c = false ∧ isClosing c = false := by
  have hSome : (isSegmentChar c || c == '.') = true := by
    simpa using isNameChar_iff.mp hChar
  have hOther : ∀ d : Char,
      (isSegmentChar d || d == '.') = false → c ≠ d := by
    rintro d hNone rfl
    rw [hSome] at hNone
    cases hNone
  have hOpen : c ≠ '[' := hOther '[' rfl
  have hClose : c ≠ ']' := hOther ']' rfl
  have hDouble : c ≠ '\x22' := hOther '\x22' rfl
  have hSingle : c ≠ '\x27' := hOther '\x27' rfl
  constructor
  · simp [isOpening, hOpen, hDouble, hSingle]
  · simp [isClosing, hClose, hDouble, hSingle]

theorem isIdentifier_iff :
    isIdentifier name = true ↔ IsName name := by
  cases name with
  | nil =>
      constructor
      · intro hIs
        cases hIs
      · intro hIs
        exact absurd rfl hIs.ne_nil
  | cons c more =>
      constructor
      · intro hIs
        refine ⟨List.cons_ne_nil c more, ?_, ?_⟩
        · intro d hMem
          exact isNameChar_iff.mpr
            (isSegmentChar_or_dot hIs hMem)
        · intro hDot
          rcases Bool.and_eq_true_iff.mp hIs with ⟨hFirst, -⟩
          rw [List.head?_cons, Option.some.injEq] at hDot
          rw [hDot] at hFirst
          cases hFirst
      · rintro ⟨-, hChars, hHead⟩
        have hFirst := isNameChar_iff.mp
          (hChars c List.mem_cons_self)
        have hNotDot : c ≠ '.' := by simpa using hHead
        refine Bool.and_eq_true_iff.mpr
          ⟨hFirst.resolve_right hNotDot, ?_⟩
        refine List.all_eq_true.mpr ?_
        intro d hMem
        have hChar := isNameChar_iff.mp
          (hChars d (List.mem_cons_of_mem c hMem))
        simpa using hChar

------------------------------------------------------------
-- Unwrapping
------------------------------------------------------------

/- At most one character, which is of a set. -/
def AtMostOne
    (p : Char → Bool)
    (front : List Char) : Prop :=
  front = [] ∨ ∃ c, p c = true ∧ front = [c]

theorem AtMostOne.reverse_eq
    {p : Char → Bool}
    {front : List Char}
    (hOne : AtMostOne p front) :
    front.reverse = front := by
  rcases hOne with rfl | ⟨c, -, rfl⟩
  · rfl
  · rfl

theorem AtMostOne.of_mem
    {p : Char → Bool}
    {front : List Char}
    {c : Char}
    (hOne : AtMostOne p front)
    (hMem : c ∈ front) :
    p c = true := by
  rcases hOne with rfl | ⟨d, hSome, rfl⟩
  · cases hMem
  · rw [List.mem_singleton.mp hMem]
    exact hSome

/- What is dropped is one character of the set, if any. -/
theorem exists_dropFirstIf_append
    (p : Char → Bool)
    (cs : List Char) :
    ∃ front : List Char,
      AtMostOne p front ∧ cs = front ++ dropFirstIf p cs := by
  cases cs with
  | nil => exact ⟨[], .inl rfl, rfl⟩
  | cons c cs =>
      cases hSome : p c with
      | false =>
          refine ⟨[], .inl rfl, ?_⟩
          simp [dropFirstIf, hSome]
      | true =>
          refine ⟨[c], .inr ⟨c, hSome, rfl⟩, ?_⟩
          simp [dropFirstIf, hSome]

/- A character of the set is dropped in front of a text that
   does not begin with another. -/
theorem dropFirstIf_append
    {p : Char → Bool}
    {front : List Char}
    (hFront : AtMostOne p front)
    (hHead : ∀ c, cs.head? = some c → p c = false) :
    dropFirstIf p (front ++ cs) = cs := by
  rcases hFront with rfl | ⟨c, hSome, rfl⟩
  · cases cs with
    | nil => rfl
    | cons c cs =>
        exact if_neg (Bool.eq_false_iff.mp (hHead c rfl))
  · exact if_pos hSome

/- The delimiters in front of a name. -/
theorem mem_openings_iff
    {front : List Char} :
    front ∈ [[], ['['], ['\x22'], ['\x27']] ↔
      AtMostOne isOpening front := by
  simp [AtMostOne, isOpening, or_and_right, exists_or,
    or_assoc]

theorem mem_closings_iff
    {back : List Char} :
    back ∈ [[], [']'], ['\x22'], ['\x27']] ↔
      AtMostOne isClosing back := by
  simp [AtMostOne, isClosing, or_and_right, exists_or,
    or_assoc]

/- A text is what is left of it, wrapped. -/
theorem wraps_unwrap (cs : List Char) :
    Wraps cs (unwrap cs) := by
  rcases exists_dropFirstIf_append isOpening cs with
    ⟨front, hFront, hText⟩
  rcases exists_dropFirstIf_append isClosing
      (dropFirstIf isOpening cs).reverse with
    ⟨back, hBack, hLeft⟩
  refine
    ⟨front, back, mem_openings_iff.mpr hFront,
      mem_closings_iff.mpr hBack, ?_⟩
  have hInner := congrArg List.reverse hLeft
  rw [List.reverse_reverse, List.reverse_append,
    hBack.reverse_eq] at hInner
  exact hText.trans (congrArg (front ++ ·) hInner)

theorem Wraps.unwrap_eq
    (hName : IsName name)
    (hWraps : Wraps cs name) :
    unwrap cs = name := by
  rcases hWraps with ⟨front, back, hFront, hBack, rfl⟩
  have hBefore := mem_openings_iff.mp hFront
  have hBehind := mem_closings_iff.mp hBack
  have hHead : ∀ c, (name ++ back).head? = some c →
      isOpening c = false := by
    intro c hSome
    rcases List.exists_cons_of_ne_nil hName.ne_nil with
      ⟨first, more, rfl⟩
    cases hSome
    exact (hName.isNameChar _
      List.mem_cons_self).not_delimiter.1
  have hLast : ∀ c, name.reverse.head? = some c →
      isClosing c = false := by
    intro c hSome
    have hMem := List.mem_reverse.mp (List.mem_of_head? hSome)
    exact (hName.isNameChar c hMem).not_delimiter.2
  unfold unwrap
  rw [dropFirstIf_append hBefore hHead, List.reverse_append,
    hBehind.reverse_eq, dropFirstIf_append hBehind hLast,
    List.reverse_reverse]

/- A text is sanitised to a name if and only if it is the
   name or wraps it. -/
theorem sanitize?_eq_some_iff :
    sanitize? cs = some name ↔
      IsName name ∧ Wraps cs name := by
  unfold sanitize?
  rw [Option.ite_none_right_eq_some, Option.some.injEq,
    isIdentifier_iff]
  constructor
  · rintro ⟨hName, rfl⟩
    exact ⟨hName, wraps_unwrap cs⟩
  · rintro ⟨hName, hWraps⟩
    have hSame := hWraps.unwrap_eq hName
    rw [hSame]
    exact ⟨hName, rfl⟩

/- A text that wraps no name is not sanitised. -/
theorem sanitize?_eq_none_iff :
    sanitize? cs = none ↔
      ∀ name, ¬ (IsName name ∧ Wraps cs name) := by
  rw [Option.eq_none_iff_forall_ne_some]
  exact forall_congr' fun name =>
    not_congr sanitize?_eq_some_iff

------------------------------------------------------------
-- Refusal
------------------------------------------------------------

/- A text is refused: it is neither sanitised nor quoted, and
   no statement is built from it, which is the mistake of the
   caller. -/
structure Refused (cs : List Char) : Prop where
  unsanitized : sanitize? cs = none
  unquoted : ∀ engine : Engine, escape? engine cs = none
  unstated :
    Session.useStatement (String.ofList cs) =
      .error (.invalidIdentifier (String.ofList cs))
  validation :
    (Failure.invalidIdentifier
      (String.ofList cs)).category? = some .validation

theorem refused_of_sanitize?_eq_none
    (hNone : sanitize? cs = none) :
    Refused cs := by
  have hQuoted : ∀ engine : Engine, escape? engine cs = none := by
    intro engine
    unfold escape?
    rw [hNone, Option.map_none]
  refine ⟨hNone, hQuoted, ?_, rfl⟩
  unfold Session.useStatement
  rw [String.toList_ofList, hQuoted]

/- All characters of a text around a name are those of names
   or delimiters. -/
theorem Wraps.isNameChar_or_delimiter
    {c : Char}
    (hName : IsName name)
    (hWraps : Wraps cs name)
    (hMem : c ∈ cs) :
    IsNameChar c ∨ isOpening c = true ∨
      isClosing c = true := by
  rcases hWraps with ⟨front, back, hFront, hBack, rfl⟩
  rcases List.mem_append.mp hMem with hBefore | hRest
  · have hOne := mem_openings_iff.mp hFront
    exact .inr (.inl (hOne.of_mem hBefore))
  · rcases List.mem_append.mp hRest with hInner | hBehind
    · exact .inl (hName.isNameChar c hInner)
    · have hOne := mem_closings_iff.mp hBack
      exact .inr (.inr (hOne.of_mem hBehind))

/- The characters of names are ASCII. -/
theorem IsNameChar.toNat_lt
    {c : Char}
    (hChar : IsNameChar c) :
    c.toNat < 128 := by
  have hLe : ∀ d : Char, c ≤ d → c.toNat ≤ d.toNat :=
    fun d hLe => UInt32.le_iff_toNat_le.mp hLe
  rcases hChar with
    ⟨-, hTop⟩ | ⟨-, hTop⟩ | ⟨-, hTop⟩ | rfl | rfl
  · exact Nat.lt_of_le_of_lt (hLe 'z' hTop) (by decide)
  · exact Nat.lt_of_le_of_lt (hLe 'Z' hTop) (by decide)
  · exact Nat.lt_of_le_of_lt (hLe '9' hTop) (by decide)
  · decide
  · decide

theorem toNat_lt_of_delimiter
    {c : Char}
    (hDelimiter : isOpening c = true ∨ isClosing c = true) :
    c.toNat < 128 := by
  simp only [isOpening, isClosing, Bool.or_eq_true,
    beq_iff_eq] at hDelimiter
  rcases hDelimiter with
    ((rfl | rfl) | rfl) | ((rfl | rfl) | rfl)
    <;> decide

/- A text with another character is refused. -/
theorem sanitize?_of_not_ascii
    {c : Char}
    (hMem : c ∈ cs)
    (hWide : 128 ≤ c.toNat) :
    sanitize? cs = none := by
  refine sanitize?_eq_none_iff.mpr ?_
  rintro name ⟨hName, hWraps⟩
  refine Nat.not_lt.mpr hWide ?_
  rcases hWraps.isNameChar_or_delimiter hName hMem with
    hChar | hDelimiter
  · exact hChar.toNat_lt
  · exact toNat_lt_of_delimiter hDelimiter

/- A line feed is no character of a name. -/
theorem not_isNameChar_newline : ¬ IsNameChar '\n' := by
  intro hChar
  rcases isNameChar_iff.mp hChar with hSegment | hDot
  · cases hSegment
  · cases hDot

/- A text with a line feed is refused, be it the last:
   though the pattern takes what stands in front of that for
   the end, the line feed is left. -/
theorem sanitize?_of_newline
    (hMem : '\n' ∈ cs) :
    sanitize? cs = none := by
  refine sanitize?_eq_none_iff.mpr ?_
  rintro name ⟨hName, hWraps⟩
  rcases hWraps.isNameChar_or_delimiter hName hMem with
    hChar | hDelimiter
  · exact not_isNameChar_newline hChar
  · rcases hDelimiter with hOpening | hClosing
    · cases hOpening
    · cases hClosing

/- Of two characters at an end, a name without one delimiter
   has one. -/
theorem mem_or_mem_of_cons_cons
    {p : Char → Bool}
    {c d : Char}
    {rest front back : List Char}
    (hSome : name ≠ [])
    (hFront : AtMostOne p front)
    (hText : c :: d :: rest = front ++ (name ++ back)) :
    c ∈ name ∨ d ∈ name := by
  rcases List.exists_cons_of_ne_nil hSome with
    ⟨first, more, rfl⟩
  rcases hFront with rfl | ⟨e, -, rfl⟩
  · have hSame : c = first := (List.cons.inj hText).1
    exact .inl (hSame ▸ List.mem_cons_self)
  · have hRest := (List.cons.inj hText).2
    have hSame : d = first := (List.cons.inj hRest).1
    exact .inr (hSame ▸ List.mem_cons_self)

/- A text with two delimiters in front is refused. -/
theorem sanitize?_of_doubled_opening
    {c d : Char}
    (hFirst : isOpening c = true)
    (hSecond : isOpening d = true)
    (rest : List Char) :
    sanitize? (c :: d :: rest) = none := by
  refine sanitize?_eq_none_iff.mpr ?_
  rintro name ⟨hName, front, back, hFront, -, hText⟩
  rcases mem_or_mem_of_cons_cons hName.ne_nil
      (mem_openings_iff.mp hFront) hText with
    hMem | hMem
  · rw [(hName.isNameChar c hMem).not_delimiter.1] at hFirst
    cases hFirst
  · rw [(hName.isNameChar d hMem).not_delimiter.1] at hSecond
    cases hSecond

theorem sanitize?_of_doubled_closing
    {c d : Char}
    (hFirst : isClosing c = true)
    (hSecond : isClosing d = true)
    (rest : List Char) :
    sanitize? (rest ++ [c, d]) = none := by
  refine sanitize?_eq_none_iff.mpr ?_
  rintro name ⟨hName, front, back, -, hBack, hText⟩
  have hOne := mem_closings_iff.mp hBack
  have hReversed :
      d :: c :: rest.reverse =
        back ++ (name.reverse ++ front.reverse) := by
    simpa [hOne.reverse_eq] using congrArg List.reverse hText
  have hSome : name.reverse ≠ [] := by
    simpa using hName.ne_nil
  rcases mem_or_mem_of_cons_cons hSome hOne hReversed with
    hMem | hMem
  · have hChar :=
      hName.isNameChar d (List.mem_reverse.mp hMem)
    rw [hChar.not_delimiter.2] at hSecond
    cases hSecond
  · have hChar :=
      hName.isNameChar c (List.mem_reverse.mp hMem)
    rw [hChar.not_delimiter.2] at hFirst
    cases hFirst

------------------------------------------------------------
-- Substitution
------------------------------------------------------------

/- The end of a text is assumed where nothing follows, and
   in front of a line feed with nothing behind it. -/
def atEnd (cs : List Char) : Bool :=
  cs == [] || cs == ['\n']

/-
  A text without every match of the pattern, from a position
  on that is the start of the text or is not: an opening
  delimiter at the start, a closing one at an end.
-/
def substituted (atStart : Bool) : List Char → List Char
  | [] => []
  | c :: cs =>
      if (atStart && isOpening c) ||
          (isClosing c && atEnd cs) then
        substituted false cs
      else
        c :: substituted false cs

/- What is no delimiter is not substituted. -/
theorem mem_substituted
    {c : Char}
    (hOpening : isOpening c = false)
    (hClosing : isClosing c = false)
    (hMem : c ∈ cs)
    (atStart : Bool) :
    c ∈ substituted atStart cs := by
  induction cs generalizing atStart with
  | nil => cases hMem
  | cons d cs ih =>
      unfold substituted
      rcases List.mem_cons.mp hMem with rfl | hLater
      · rw [hOpening, hClosing, Bool.and_false,
          Bool.false_and]
        exact List.mem_cons_self
      · have hRest := ih hLater false
        split
        · exact hRest
        · exact List.mem_cons_of_mem d hRest

/- In front of others, the last character stays last of what
   is kept. -/
theorem dropFirstIf_concat
    (p : Char → Bool)
    (c : Char)
    (hSome : cs ≠ []) :
    dropFirstIf p (cs ++ [c]) = dropFirstIf p cs ++ [c] := by
  rcases List.exists_cons_of_ne_nil hSome with
    ⟨first, more, rfl⟩
  cases hFirst : p first
    <;> simp [dropFirstIf, hFirst]

/- Behind the start, a closing delimiter is removed where it
   is last, if no line feed is. -/
theorem substituted_false
    (hLine : cs.getLast? ≠ some '\n') :
    substituted false cs =
      (dropFirstIf isClosing cs.reverse).reverse := by
  induction cs with
  | nil => rfl
  | cons c cs ih =>
      cases cs with
      | nil =>
          cases hClosing : isClosing c
            <;> simp [substituted, dropFirstIf, atEnd,
              hClosing]
      | cons d rest =>
          have hInner : (d :: rest).getLast? ≠ some '\n' := by
            simpa using hLine
          have hMiddle : atEnd (d :: rest) = false := by
            have hOther : d :: rest ≠ ['\n'] := by
              intro hSame
              rw [hSame] at hInner
              exact hInner rfl
            simpa [atEnd] using hOther
          have hSome : (d :: rest).reverse ≠ [] := by simp
          have hReversed :
              (c :: d :: rest).reverse =
                (d :: rest).reverse ++ [c] :=
            List.reverse_cons
          rw [substituted, Bool.false_and, hMiddle,
            Bool.and_false, Bool.or_false,
            if_neg Bool.false_ne_true, ih hInner, hReversed,
            dropFirstIf_concat isClosing c hSome,
            List.reverse_concat]

/- What is left after the substitution is the name inside
   the delimiters, if no line feed is last. -/
theorem substituted_true
    (hLine : cs.getLast? ≠ some '\n') :
    substituted true cs = unwrap cs := by
  cases cs with
  | nil => rfl
  | cons c cs =>
      cases hOpening : isOpening c with
      | false =>
          have hSame :
              substituted true (c :: cs) =
                substituted false (c :: cs) := by
            simp [substituted, hOpening]
          have hLeft :
              dropFirstIf isOpening (c :: cs) = c :: cs :=
            if_neg (Bool.eq_false_iff.mp hOpening)
          rw [hSame, substituted_false hLine, unwrap, hLeft]
      | true =>
          have hInner : cs.getLast? ≠ some '\n' := by
            intro hLast
            refine hLine ?_
            rw [List.getLast?_cons, hLast]
            rfl
          have hLeft : dropFirstIf isOpening (c :: cs) = cs :=
            if_pos hOpening
          rw [unwrap, hLeft, ← substituted_false hInner]
          simp [substituted, hOpening]

/- A text is sanitised to what is left after the
   substitution, if that is a name. -/
theorem sanitize?_eq_substituted (cs : List Char) :
    sanitize? cs =
      if isIdentifier (substituted true cs) then
        some (substituted true cs)
      else none := by
  by_cases hLine : cs.getLast? = some '\n'
  · -- The line feed is kept by the one and by the other.
    have hMem : '\n' ∈ cs := List.mem_of_getLast? hLine
    have hKept := mem_substituted rfl rfl hMem true
    have hNone :
        ¬ isIdentifier (substituted true cs) = true := by
      intro hIs
      exact not_isNameChar_newline
        ((isIdentifier_iff.mp hIs).isNameChar _ hKept)
    rw [if_neg hNone]
    exact sanitize?_of_newline hMem
  · rw [substituted_true hLine]
    rfl

/- In front of a last line feed a delimiter goes, and yet
   the line feed stays. -/
example :
    substituted true "[x]\n".toList = "x\n".toList := by
  decide

------------------------------------------------------------
-- Quoting
------------------------------------------------------------

/- The segments are what the dots split a name into. -/
theorem segments_eq_splitOn (cs : List Char) :
    segments cs = cs.splitOn '.' := by
  unfold List.splitOn
  induction cs with
  | nil => rfl
  | cons c cs ih =>
      rw [segments, List.splitOnP_cons_eq_if_modifyHead, ← ih]
      split
      · rfl
      · split
        · rename_i hNone
          exact absurd hNone (segments_ne_nil cs)
        · rename_i hSegments
          rw [hSegments]
          rfl

/- The segments of a name are the name, with the dots put
   back. -/
theorem intercalate_segments (cs : List Char) :
    List.intercalate ['.'] (segments cs) = cs := by
  rw [segments_eq_splitOn]
  exact List.intercalate_splitOn '.'

/- A segment as an engine quotes it: SQL Server in brackets,
   PostgreSQL in double quotes. -/
def quotedSegment : Engine → List Char → List Char
  | .sqlServer, segment => '[' :: (segment ++ [']'])
  | .postgres, segment => '\x22' :: (segment ++ ['\x22'])

theorem delimit_eq_quotedSegment (engine : Engine) :
    delimit engine = quotedSegment engine := by
  cases engine with
  | sqlServer => rfl
  | postgres => rfl

/- A character is none of these quotes. -/
def isUnquoted : Engine → Char → Bool
  | .sqlServer, c => c != '[' && c != ']'
  | .postgres, c => c != '\x22'

theorem IsNameChar.isUnquoted_eq_true
    {c : Char}
    (hChar : IsNameChar c)
    (engine : Engine) :
    isUnquoted engine c = true := by
  rcases hChar.not_delimiter with ⟨hOpening, hClosing⟩
  simp only [isOpening, isClosing, Bool.or_eq_false_iff]
    at hOpening hClosing
  cases engine with
  | sqlServer => simp [isUnquoted, bne, hOpening, hClosing]
  | postgres => simp [isUnquoted, bne, hOpening]

/- A filter passes the separators by. -/
theorem filter_intercalate
    (p : Char → Bool)
    (sep : List Char)
    (parts : List (List Char)) :
    (List.intercalate sep parts).filter p =
      List.intercalate (sep.filter p)
        (parts.map (List.filter p)) := by
  induction parts with
  | nil => rfl
  | cons part parts ih =>
      cases parts with
      | nil => simp
      | cons next parts =>
          rw [List.intercalate_cons_cons, List.filter_append,
            List.filter_append, ih]
          simp [List.intercalate_cons_cons]

/- The quotes of a segment removed, its characters are
   left. -/
theorem filter_quotedSegment
    {segment : List Char}
    (hSegment : ∀ c ∈ segment, IsNameChar c)
    (engine : Engine) :
    (quotedSegment engine segment).filter
        (isUnquoted engine) = segment := by
  have hKept :
      segment.filter (isUnquoted engine) = segment := by
    refine List.filter_eq_self.mpr ?_
    intro c hMem
    exact (hSegment c hMem).isUnquoted_eq_true engine
  cases engine with
  | sqlServer => simpa [quotedSegment, isUnquoted] using hKept
  | postgres => simpa [quotedSegment, isUnquoted] using hKept

theorem filter_intercalate_quotedSegment
    {parts : List (List Char)}
    (hParts : ∀ part ∈ parts, ∀ c ∈ part, IsNameChar c)
    (engine : Engine) :
    (List.intercalate ['.']
        (parts.map (quotedSegment engine))).filter
        (isUnquoted engine) =
      List.intercalate ['.'] parts := by
  have hDot : ['.'].filter (isUnquoted engine) = ['.'] := by
    cases engine with
    | sqlServer => rfl
    | postgres => rfl
  have hInner :
      (parts.map (quotedSegment engine)).map
          (List.filter (isUnquoted engine)) = parts := by
    rw [List.map_map]
    refine (List.map_congr_left ?_).trans (List.map_id _)
    intro part hPart
    exact filter_quotedSegment (hParts part hPart) engine
  rw [filter_intercalate, hDot, hInner]

/-
  A text is a name as an engine quotes it: the segments of
  the name in quotes, with dots between them.  No segment
  has a dot or a delimiter in it, and the text without the
  quotes is the name.
-/
structure Quotes
    (engine : Engine)
    (name text : List Char) : Prop where
  segmented : List.intercalate ['.'] (segments name) = name
  quoted :
    text =
      List.intercalate ['.']
        ((segments name).map (quotedSegment engine))
  clean :
    ∀ segment ∈ segments name, ∀ c ∈ segment,
      c ∉ ['.', '[', ']', '\x22', '\x27']
  unquoted : text.filter (isUnquoted engine) = name

/- A delimited name is the name in quotes. -/
theorem delimited_quotes
    (hName : IsName name)
    (engine : Engine) :
    Quotes engine name (delimited engine name) := by
  have hText :
      delimited engine name =
        List.intercalate ['.']
          ((segments name).map (quotedSegment engine)) := by
    unfold delimited
    rw [delimit_eq_quotedSegment]
  have hChars : ∀ segment ∈ segments name, ∀ c ∈ segment,
      IsNameChar c := by
    intro segment hSegment c hMem
    exact hName.isNameChar c
      (mem_of_mem_segments hSegment hMem).1
  refine ⟨intercalate_segments name, hText, ?_, ?_⟩
  · intro segment hSegment c hMem
    have hNotDot := (mem_of_mem_segments hSegment hMem).2
    have hNone := (hChars segment hSegment c hMem).not_delimiter
    simp only [isOpening, isClosing, Bool.or_eq_false_iff,
      beq_eq_false_iff_ne] at hNone
    simp [hNotDot, hNone]
  · rw [hText, filter_intercalate_quotedSegment hChars,
      intercalate_segments]

------------------------------------------------------------
-- What is Accepted, and How it is Quoted
------------------------------------------------------------

theorem IsName.sanitize?_eq_self
    (hName : IsName name) :
    sanitize? name = some name := by
  have hWraps : Wraps name name :=
    ⟨[], [], List.mem_cons_self, List.mem_cons_self, by simp⟩
  exact sanitize?_eq_some_iff.mpr ⟨hName, hWraps⟩

/-
  A text is sanitised to a name if and only if it wraps the
  name, with at most one delimiter at each end; any other is
  refused as a mistake of the caller, such as one that ends
  in a line feed, one with two delimiters at an end, or one
  with a character beyond ASCII.  A name is sanitised to
  itself, and either engine quotes it.
-/
theorem sanitize_accepts_grammar (cs : List Char) :
    (∀ name : List Char,
        sanitize? cs = some name ↔
          IsName name ∧ Wraps cs name) ∧
      ((∀ name : List Char, ¬ (IsName name ∧ Wraps cs name)) →
        Refused cs) ∧
      Refused (cs ++ ['\n']) ∧
      (∀ c ∈ ['[', '\x22', '\x27'],
        ∀ d ∈ ['[', '\x22', '\x27'],
          Refused (c :: d :: cs)) ∧
      (∀ c ∈ [']', '\x22', '\x27'],
        ∀ d ∈ [']', '\x22', '\x27'],
          Refused (cs ++ [c, d])) ∧
      (∀ c ∈ cs, 128 ≤ c.toNat → Refused cs) ∧
      ∀ name : List Char, sanitize? cs = some name →
        sanitize? name = some name ∧
          ∀ engine : Engine, ∃ text : List Char,
            escape? engine cs = some text ∧
              Quotes engine name text := by
  have hOpening :
      ∀ c ∈ ['[', '\x22', '\x27'], isOpening c = true := by
    simp [isOpening]
  have hClosing :
      ∀ c ∈ [']', '\x22', '\x27'], isClosing c = true := by
    simp [isClosing]
  refine
    ⟨fun name => sanitize?_eq_some_iff, ?_, ?_, ?_, ?_, ?_, ?_⟩
  · intro hOther
    exact refused_of_sanitize?_eq_none
      (sanitize?_eq_none_iff.mpr hOther)
  · exact refused_of_sanitize?_eq_none
      (sanitize?_of_newline (by simp))
  · intro c hFirst d hSecond
    exact refused_of_sanitize?_eq_none
      (sanitize?_of_doubled_opening (hOpening c hFirst)
        (hOpening d hSecond) cs)
  · intro c hFirst d hSecond
    exact refused_of_sanitize?_eq_none
      (sanitize?_of_doubled_closing (hClosing c hFirst)
        (hClosing d hSecond) cs)
  · intro c hMem hWide
    exact refused_of_sanitize?_eq_none
      (sanitize?_of_not_ascii hMem hWide)
  · intro name hSome
    have hName := (sanitize?_eq_some_iff.mp hSome).1
    refine ⟨hName.sanitize?_eq_self, ?_⟩
    intro engine
    refine
      ⟨delimited engine name, ?_, delimited_quotes hName engine⟩
    unfold escape?
    rw [hSome, Option.map_some]

/- A name of two segments between brackets. -/
def bracketedName : List Char :=
  "[dbo.Users]".toList

/- The brackets are taken for the caller's, and each segment
   gets the quotes of the engine; with another bracket the
   name is refused. -/
theorem bracketedName_quoted :
    sanitize? bracketedName = some "dbo.Users".toList ∧
      escape? .sqlServer bracketedName =
        some "[dbo].[Users]".toList ∧
      escape? .postgres bracketedName =
        some "\x22dbo\x22.\x22Users\x22".toList ∧
      Refused ('[' :: bracketedName) := by
  have hName : IsName "dbo.Users".toList :=
    isIdentifier_iff.mp (by decide)
  have hWraps : Wraps bracketedName "dbo.Users".toList :=
    ⟨['['], [']'], by decide, by decide, rfl⟩
  rcases sanitize_accepts_grammar bracketedName with
    ⟨hGrammar, -, -, -, -, -, hQuoted⟩
  rcases sanitize_accepts_grammar "dbo.Users]".toList with
    ⟨-, -, -, hDoubled, -, -, -⟩
  have hSome := (hGrammar _).mpr ⟨hName, hWraps⟩
  rcases (hQuoted _ hSome).2 .sqlServer with
    ⟨brackets, hBrackets, hInBrackets⟩
  rcases (hQuoted _ hSome).2 .postgres with
    ⟨quotes, hQuotes, hInQuotes⟩
  rw [hInBrackets.quoted] at hBrackets
  rw [hInQuotes.quoted] at hQuotes
  exact
    ⟨hSome, hBrackets, hQuotes,
      hDoubled '[' (by decide) '[' (by decide)⟩

end Identifier

end SqlGateway
