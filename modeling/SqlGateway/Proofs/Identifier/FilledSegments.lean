import Mathlib.Data.List.Infix
import SqlGateway.Proofs.Driver.Run
import SqlGateway.Proofs.Identifier.Sanitized
import SqlGateway.Proofs.Session.ResultSet
import SqlGateway.Proofs.Session.Sending

/-
  This file shows for which names every quoted segment has a
  character in it.  A database knows no name of length zero,
  so a quoted text with an empty segment is of no use to it.

  A name has no dot first, so its first segment is never
  empty; but a dot that is last, and two dots in a row, are
  accepted, and leave an empty segment behind them.

  Key definitions include:
    * `DotsDivide`
    * `IsFilled`
    * `Session.PointsAtFilled`
    * `Session.SwitchAdds`
    * `Session.SendsFilledIff`
    * `FilledIff`

  Main declarations:
    * `nil_mem_segments_iff`
    * `isFilled_delimited_iff`
    * `Session.switchDatabase_sends_own`
    * `segments_filled_iff`
-/

namespace SqlGateway

namespace Identifier

variable {cs name : List Char}

------------------------------------------------------------
-- Empty Segments
------------------------------------------------------------

/- No dot of a name is last, and no two are side by side. -/
structure DotsDivide (name : List Char) : Prop where
  last_ne_dot : name.getLast? ≠ some '.'
  not_doubled : ¬ ['.', '.'] <:+: name

instance (name : List Char) : Decidable (DotsDivide name) :=
  decidable_of_iff
    (name.getLast? ≠ some '.' ∧ ¬ ['.', '.'] <:+: name)
    ⟨fun h => ⟨h.1, h.2⟩, fun h => ⟨h.1, h.2⟩⟩

theorem segments_dot (cs : List Char) :
    segments ('.' :: cs) = [] :: segments cs :=
  rfl

theorem segments_cons
    {c : Char}
    {first : List Char}
    {rest : List (List Char)}
    (hDot : c ≠ '.')
    (hSegments : segments cs = first :: rest) :
    segments (c :: cs) = (c :: first) :: rest := by
  rw [segments, if_neg (by simpa using hDot), hSegments]

/- The first segment is empty if the text is, or begins with
   a dot. -/
theorem head?_segments_eq_nil_iff :
    (segments cs).head? = some [] ↔
      cs = [] ∨ cs.head? = some '.' := by
  cases cs with
  | nil => simp [segments]
  | cons c cs =>
      by_cases hDot : c = '.'
      · simp [hDot, segments_dot]
      · rcases List.exists_cons_of_ne_nil
            (segments_ne_nil cs) with
          ⟨first, rest, hSegments⟩
        simp [segments_cons hDot hSegments, hDot]

/- Two dots are side by side in a text if it begins so, or
   they are further on. -/
theorem doubled_cons_iff
    {c : Char} :
    ['.', '.'] <:+: c :: cs ↔
      (c = '.' ∧ cs.head? = some '.') ∨
        ['.', '.'] <:+: cs := by
  rw [List.infix_cons_iff, List.cons_prefix_cons]
  cases cs with
  | nil => simp
  | cons d cs => simp [eq_comm]

/- One of the later segments is empty if a dot is last, or
   two are side by side. -/
theorem nil_mem_tail_segments_iff :
    [] ∈ (segments cs).tail ↔
      cs.getLast? = some '.' ∨ ['.', '.'] <:+: cs := by
  induction cs with
  | nil => simp [segments]
  | cons c cs ih =>
      rcases List.exists_cons_of_ne_nil
          (segments_ne_nil cs) with
        ⟨first, rest, hSegments⟩
      rw [doubled_cons_iff]
      rw [hSegments, List.tail_cons] at ih
      by_cases hDot : c = '.'
      · -- Behind a dot, the old first segment is a later one.
        subst hDot
        have hFirst :
            [] = first ↔ cs = [] ∨ cs.head? = some '.' := by
          rw [← head?_segments_eq_nil_iff, hSegments,
            List.head?_cons, Option.some.injEq, eq_comm]
        have hLast :
            ('.' :: cs).getLast? = some '.' ↔
              cs = [] ∨ cs.getLast? = some '.' := by
          cases cs with
          | nil => simp
          | cons d cs => simp
        rw [segments_dot, List.tail_cons, hSegments,
          List.mem_cons, hFirst, ih, hLast, eq_self, true_and]
        exact or_or_or_comm
      · have hLast :
            (c :: cs).getLast? = some '.' ↔
              cs.getLast? = some '.' := by
          cases cs with
          | nil => simp [hDot]
          | cons d cs => simp
        rw [segments_cons hDot hSegments, List.tail_cons, ih,
          hLast]
        simp [hDot]

/- A name has an empty segment if its dots do not divide
   it. -/
theorem nil_mem_segments_iff
    (hName : IsName name) :
    [] ∈ segments name ↔ ¬ DotsDivide name := by
  have hFirst : (segments name).head? ≠ some [] := by
    intro hNone
    rcases head?_segments_eq_nil_iff.mp hNone with
      hEmpty | hDot
    · exact hName.ne_nil hEmpty
    · exact hName.head_ne_dot hDot
  have hDivide :
      ¬ DotsDivide name ↔
        name.getLast? = some '.' ∨ ['.', '.'] <:+: name := by
    constructor
    · intro hNot
      by_contra hNone
      rw [not_or] at hNone
      exact hNot ⟨hNone.1, hNone.2⟩
    · rintro (hLast | hDoubled) hDivide
      · exact hDivide.last_ne_dot hLast
      · exact hDivide.not_doubled hDoubled
  rw [hDivide, ← nil_mem_tail_segments_iff]
  rcases List.exists_cons_of_ne_nil (segments_ne_nil name)
    with ⟨first, rest, hSegments⟩
  rw [hSegments] at hFirst ⊢
  rw [List.tail_cons, List.mem_cons]
  refine or_iff_right ?_
  rintro rfl
  exact hFirst rfl

------------------------------------------------------------
-- Filled Segments
------------------------------------------------------------

/-
  A text consists of one or more segments in the quotes of an
  engine, with dots between them; each has a character in it,
  and none but letters, digits and underscores.
-/
def IsFilled
    (engine : Engine)
    (text : List Char) : Prop :=
  ∃ parts : List (List Char),
    parts ≠ [] ∧
      (∀ part ∈ parts,
        part ≠ [] ∧ ∀ c ∈ part, isSegmentChar c = true) ∧
      text =
        List.intercalate ['.']
          (parts.map (quotedSegment engine))

/- A quoted name is of this kind if its dots divide it. -/
theorem isFilled_delimited_iff
    (hName : IsName name)
    (engine : Engine) :
    IsFilled engine (delimited engine name) ↔
      DotsDivide name := by
  rw [← not_iff_not, ← nil_mem_segments_iff hName,
    not_iff_comm]
  constructor
  · intro hFilled
    refine
      ⟨segments name, segments_ne_nil name, ?_,
        (delimited_quotes hName engine).quoted⟩
    intro segment hSegment
    constructor
    · rintro rfl
      exact hFilled hSegment
    · intro c hMem
      exact isSegmentChar_of_mem_segments
        (isIdentifier_iff.mpr hName) hSegment hMem
  · rintro ⟨parts, hSome, hParts, hText⟩ hNone
    -- Without the quotes, both are the name again.
    have hNames : ∀ part ∈ parts, ∀ c ∈ part,
        IsNameChar c := by
      intro part hPart c hMem
      exact isNameChar_iff.mpr
        (.inl ((hParts part hPart).2 c hMem))
    have hSame :
        name = List.intercalate ['.'] parts := by
      rw [← filter_intercalate_quotedSegment hNames engine,
        ← hText, (delimited_quotes hName engine).unquoted]
    have hUndotted : ∀ part ∈ parts, '.' ∉ part := by
      intro part hPart hMem
      have hChar := (hParts part hPart).2 '.' hMem
      cases hChar
    have hSegments : segments name = parts := by
      rw [segments_eq_splitOn, hSame]
      exact List.splitOn_intercalate '.' hUndotted hSome
    rw [hSegments] at hNone
    exact (hParts [] hNone).1 rfl

/- A text that wraps a name is quoted as the name is. -/
theorem escape?_of_wraps
    (hName : IsName name)
    (hWraps : Wraps cs name)
    (engine : Engine) :
    escape? engine cs = some (delimited engine name) := by
  unfold escape?
  rw [sanitize?_eq_some_iff.mpr ⟨hName, hWraps⟩,
    Option.map_some]

end Identifier

------------------------------------------------------------
-- Switching
------------------------------------------------------------

namespace Session

open Act (Keeps)
open Identifier (IsName Wraps DotsDivide IsFilled)

variable {cs name : List Char}

/- A statement that points a connection at a database names
   it with a character in each segment. -/
def PointsAtFilled (statement : String) : Prop :=
  ∃ text : List Char,
    IsFilled .sqlServer text ∧
      statement = "USE " ++ String.ofList text

/- The statement for a text around a name quotes the name. -/
theorem useStatement_of_wraps
    (hName : IsName name)
    (hWraps : Wraps cs name) :
    useStatement (String.ofList cs) =
      .ok ("USE " ++ String.ofList
        (Identifier.delimited .sqlServer name)) := by
  unfold useStatement
  rw [String.toList_ofList,
    Identifier.escape?_of_wraps hName hWraps]

theorem pointsAtFilled_iff
    (hName : IsName name) :
    PointsAtFilled
        ("USE " ++ String.ofList
          (Identifier.delimited .sqlServer name)) ↔
      DotsDivide name := by
  rw [← Identifier.isFilled_delimited_iff hName .sqlServer]
  constructor
  · rintro ⟨text, hFilled, hStatement⟩
    have hText := congrArg String.toList hStatement
    simp only [String.toList_append, String.toList_ofList,
      List.append_cancel_left_eq] at hText
    rw [hText]
    exact hFilled
  · intro hFilled
    exact ⟨_, hFilled, rfl⟩

/- What switching a session adds to the calls of drivers. -/
def SwitchAdds
    (s : Session)
    (w : World)
    (database : String)
    (events : List Event) : Prop :=
  ((switchDatabase database).run s w).world.events =
    w.events ++ events

/- Switching a session with SQL Server sends the statement
   for the name it is given, if anything. -/
theorem switchDatabase_sends_own (database : String) :
    Keeps (fun s => s.engine = .sqlServer)
      (Progress.sending fun statement _ =>
        useStatement database = .ok statement)
      (switchDatabase database) := by
  unfold switchDatabase
  refine .bind requireConnected_keeps fun _ => ?_
  refine .state_bind fun session hEngine => ?_
  simp only [hEngine]
  unfold switchInPlace sendOnly
  refine .state_bind fun session _ => ?_
  refine .ofExcept_bind fun statement hStatement => ?_
  refine .bind (.wrapping ?_) fun _ => ?_
  · refine .bind poolNumber_keeps fun pool => ?_
    refine .bind (Driver.acquire_keeps ?_) fun _ => ?_
    · exact Progress.sending_admits (by simp)
    · refine .discard (Driver.execute_keeps ?_)
      apply Progress.sending_admits
      rintro _ _ ⟨⟩
      exact hStatement
  · exact .bind (.update fun _ hEngine => hEngine)
      fun _ => .log _ _

/- A connection that is taken is sent the statement, whatever
   the reply. -/
theorem events_sendOnly
    {s : Session}
    {pool : Nat}
    {w : World}
    (engine : Engine)
    (hPool : s.pool = some pool)
    (hAcquire : w.script.acquireError pool = none)
    (statement : String) :
    ((sendOnly engine statement).run s w).world.events =
      w.events ++
        [.acquire engine pool,
          .execute statement (some [])] := by
  have hTaken :
      (Driver.acquire engine pool).run s w =
        ⟨.ok (), s, w.emitted (.acquire engine pool)⟩ := by
    rw [Driver.run_acquire, hAcquire]
  unfold sendOnly
  rw [run_poolNumber_bind hPool,
    Act.run_bind_of_ok (by rw [hTaken]), hTaken,
    Act.run_discard, Driver.run_execute]
  split
  · simp [World.executed, World.emitted]
  · simp [World.executed, World.emitted, World.raising]

/- An open session sends it on a connection, if it is given
   one. -/
theorem switchAdds_of_connected
    {s : Session}
    {pool : Nat}
    {w : World}
    {database statement : String}
    (hEngine : s.engine = .sqlServer)
    (hConnected : s.connected = true)
    (hPool : s.pool = some pool)
    (hAcquire : w.script.acquireError pool = none)
    (hStatement : useStatement database = .ok statement) :
    s.SwitchAdds w database
      [.acquire .sqlServer pool,
        .execute statement (some [])] := by
  have hSent :=
    events_sendOnly .sqlServer hPool hAcquire statement
  unfold SwitchAdds
  rw [run_switchDatabase database hConnected w]
  simp only [hEngine]
  unfold switchInPlace
  rw [Act.run_state_bind, hStatement,
    Act.run_ofExcept_ok_bind, hEngine]
  cases hResult :
      ((sendOnly .sqlServer statement).run s w).result with
  | ok a =>
      rw [Act.run_wrapping_bind_of_ok hResult]
      exact hSent
  | error e =>
      rw [Act.run_wrapping_bind_of_error hResult]
      exact hSent

/- A switch to a text sends SQL Server nothing. -/
def SendsNothing (cs : List Char) : Prop :=
  ∀ (s : Session) (w : World), s.engine = .sqlServer →
    ∃ events : List Event,
      s.SwitchAdds w (String.ofList cs) events ∧
        ∀ statement parameters,
          .execute statement parameters ∉ events

/-
  Whatever statement is among the calls of a switch, it
  names the database with a character in each segment if and
  only if the dots of the name divide it; and there is one
  if the session is open and is given a connection.
-/
structure SendsFilledIff
    (s : Session)
    (w : World)
    (name : List Char)
    (events : List Event) : Prop where
  filled :
    ∀ statement parameters,
      .execute statement parameters ∈ events →
        (PointsAtFilled statement ↔ DotsDivide name)
  sent :
    ∀ pool : Nat, s.connected = true → s.pool = some pool →
      w.script.acquireError pool = none →
        ∃ statement, .execute statement (some []) ∈ events

/- For a text that is refused there is no statement. -/
theorem sendsNothing_of_refused
    (hRefused : Identifier.Refused cs) :
    SendsNothing cs := by
  intro s w hEngine
  rcases (switchDatabase_sends_own _ s w hEngine).2 with
    ⟨events, hEvents, hOwn⟩
  refine ⟨events, hEvents, ?_⟩
  intro statement parameters hMem
  have hStatement := hOwn statement parameters hMem
  rw [hRefused.unstated] at hStatement
  cases hStatement

/- For a text around a name it is the one that quotes the
   name. -/
theorem exists_sendsFilledIff
    {s : Session}
    (hName : IsName name)
    (hWraps : Wraps cs name)
    (hEngine : s.engine = .sqlServer)
    (w : World) :
    ∃ events : List Event,
      s.SwitchAdds w (String.ofList cs) events ∧
        s.SendsFilledIff w name events := by
  have hUse := useStatement_of_wraps hName hWraps
  rcases (switchDatabase_sends_own _ s w hEngine).2 with
    ⟨events, hEvents, hOwn⟩
  refine ⟨events, hEvents, ?_, ?_⟩
  · intro statement parameters hMem
    have hStatement := hOwn statement parameters hMem
    rw [hUse] at hStatement
    rw [← Except.ok.inj hStatement]
    exact pointsAtFilled_iff hName
  · intro pool hConnected hPool hAcquire
    have hSent :=
      switchAdds_of_connected hEngine hConnected hPool
        hAcquire hUse
    have hSame :=
      List.append_cancel_left (hEvents.symm.trans hSent)
    rw [hSame]
    exact ⟨_, .tail _ (.head _)⟩

end Session

------------------------------------------------------------
-- When Segments are Filled
------------------------------------------------------------

namespace Identifier

/- Each segment has a character if and only if the dots of
   the name divide it, where either engine quotes the text
   and where a switch sends SQL Server a statement. -/
structure FilledIff (cs name : List Char) : Prop where
  quoted :
    ∀ engine : Engine, ∃ text : List Char,
      escape? engine cs = some text ∧
        (IsFilled engine text ↔ DotsDivide name)
  switched :
    ∀ (s : Session) (w : World), s.engine = .sqlServer →
      ∃ events : List Event,
        s.SwitchAdds w (String.ofList cs) events ∧
          s.SendsFilledIff w name events

/-
  A text that wraps no name is refused as a mistake of the
  caller, and a switch to it sends nothing.  For a text that
  wraps a name, no segment of what is quoted or sent is
  empty if and only if no dot of the name is last, and no
  two are side by side.
-/
theorem segments_filled_iff (cs : List Char) :
    ((∀ name : List Char, ¬ (IsName name ∧ Wraps cs name)) →
        Refused cs ∧ Session.SendsNothing cs) ∧
      ∀ name : List Char, IsName name → Wraps cs name →
        FilledIff cs name := by
  constructor
  · intro hOther
    have hRefused :=
      refused_of_sanitize?_eq_none
        (sanitize?_eq_none_iff.mpr hOther)
    exact ⟨hRefused, Session.sendsNothing_of_refused hRefused⟩
  · intro name hName hWraps
    constructor
    · intro engine
      exact
        ⟨delimited engine name,
          escape?_of_wraps hName hWraps engine,
          isFilled_delimited_iff hName engine⟩
    · intro s w hEngine
      exact
        Session.exists_sendsFilledIff hName hWraps hEngine w

/- A name of two segments between brackets, as a caller may
   give it, is quoted with a character in each segment, and
   so is it in the statement of a switch; one that begins
   with a dot is refused. -/
theorem bracketedPath_segments_filled :
    (IsName "app.db".toList ∧
        Wraps "[app.db]".toList "app.db".toList) ∧
      DotsDivide "app.db".toList ∧
      (∃ text : List Char,
        escape? .postgres "[app.db]".toList = some text ∧
          IsFilled .postgres text) ∧
      (∃ events,
        Session.openOnPool.SwitchAdds {} "[app.db]" events ∧
          ∃ statement,
            .execute statement (some []) ∈ events ∧
              Session.PointsAtFilled statement) ∧
      escape? .postgres ".app".toList = none := by
  have hName : IsName "app.db".toList :=
    isIdentifier_iff.mp (by decide)
  have hWraps : Wraps "[app.db]".toList "app.db".toList :=
    ⟨['['], [']'], by decide, by decide, rfl⟩
  have hDivide : DotsDivide "app.db".toList := by
    decide +kernel
  have hOther : ∀ name : List Char,
      ¬ (IsName name ∧ Wraps ".app".toList name) :=
    sanitize?_eq_none_iff.mp (by decide)
  have hFilledIff :=
    (segments_filled_iff "[app.db]".toList).2 _ hName hWraps
  rcases hFilledIff.quoted .postgres with
    ⟨text, hText, hFilled⟩
  rcases hFilledIff.switched Session.openOnPool {} rfl with
    ⟨events, hEvents, hSends⟩
  rcases hSends.sent 1 rfl rfl rfl with ⟨statement, hMem⟩
  rw [String.ofList_toList] at hEvents
  exact
    ⟨⟨hName, hWraps⟩, hDivide,
      ⟨text, hText, hFilled.mpr hDivide⟩,
      ⟨events, hEvents, statement, hMem,
        (hSends.filled _ _ hMem).mpr hDivide⟩,
      ((segments_filled_iff ".app".toList).1
        hOther).1.unquoted _⟩

/- A dot that is last leaves a segment empty, which is quoted
   like the others, and sent. -/
theorem trailingDot_leaves_segment_empty :
    escape? .sqlServer "users.".toList =
        some "[users].[]".toList ∧
      ¬ IsFilled .sqlServer "[users].[]".toList ∧
      escape? .postgres "users.".toList =
        some "\x22users\x22.\x22\x22".toList ∧
      ¬ IsFilled .postgres
        "\x22users\x22.\x22\x22".toList ∧
      Session.openOnPool.SwitchAdds {} "users."
        [.acquire .sqlServer 1,
          .execute "USE [users].[]" (some [])] := by
  have hName : IsName "users.".toList :=
    isIdentifier_iff.mp (by decide)
  have hNot : ¬ DotsDivide "users.".toList := by decide
  refine ⟨by decide, ?_, by decide, ?_, rfl⟩
  · intro hFilled
    exact hNot
      ((isFilled_delimited_iff hName .sqlServer).mp hFilled)
  · intro hFilled
    exact hNot
      ((isFilled_delimited_iff hName .postgres).mp hFilled)

end Identifier

end SqlGateway
