import SqlGateway.Proofs.Session.Statements

/-
  This file shows what a statement looks like that points a
  connection at a database: nothing of the name that was
  given stands outside the brackets, and within them stand
  letters, digits and underscores only.

  Key definitions include:
    * `Session.PointsAt`

  Main declarations:
    * `Identifier.isSegmentChar_of_mem_segments`
    * `Session.pointsAt_of_isUse`
-/

namespace SqlGateway

------------------------------------------------------------
-- Segments
------------------------------------------------------------

namespace Identifier

/- A name has a segment, if an empty one. -/
theorem segments_ne_nil (cs : List Char) :
    segments cs ≠ [] := by
  cases cs with
  | nil => simp [segments]
  | cons c cs =>
      unfold segments
      split
      · simp
      · split
        · simp
        · simp

/- The characters of the segments are those of the name,
   without the dots. -/
theorem mem_of_mem_segments
    {cs s : List Char}
    {c : Char}
    (hSegment : s ∈ segments cs)
    (hMem : c ∈ s) :
    c ∈ cs ∧ c ≠ '.' := by
  induction cs generalizing s with
  | nil =>
      have hNil : s = [] := List.mem_singleton.mp hSegment
      rw [hNil] at hMem
      cases hMem
  | cons d cs ih =>
      unfold segments at hSegment
      split at hSegment
      · rcases List.mem_cons.mp hSegment with rfl | hLater
        · cases hMem
        · have hOld := ih hLater hMem
          exact ⟨List.mem_cons_of_mem d hOld.1, hOld.2⟩
      · rename_i hDot
        have hNotDot : d ≠ '.' := by simpa using hDot
        split at hSegment
        · rename_i hNone
          exact absurd hNone (segments_ne_nil cs)
        · rename_i first rest hSegments
          rw [hSegments] at ih
          rcases List.mem_cons.mp hSegment with rfl | hLater
          · rcases List.mem_cons.mp hMem with rfl | hInner
            · exact ⟨List.mem_cons_self, hNotDot⟩
            · have hOld := ih List.mem_cons_self hInner
              exact ⟨List.mem_cons_of_mem d hOld.1, hOld.2⟩
          · have hOld :=
              ih (List.mem_cons_of_mem first hLater) hMem
            exact ⟨List.mem_cons_of_mem d hOld.1, hOld.2⟩

/- Letters, digits, underscores and dots make a name. -/
theorem isSegmentChar_or_dot
    {cs : List Char}
    {c : Char}
    (hName : isIdentifier cs = true)
    (hMem : c ∈ cs) :
    isSegmentChar c = true ∨ c = '.' := by
  cases cs with
  | nil => cases hMem
  | cons first cs =>
      rcases Bool.and_eq_true_iff.mp hName with
        ⟨hFirst, hRest⟩
      rcases List.mem_cons.mp hMem with rfl | hLater
      · exact .inl hFirst
      · have hChar := List.all_eq_true.mp hRest c hLater
        rcases Bool.or_eq_true_iff.mp hChar with
          hSegment | hDot
        · exact .inl hSegment
        · exact .inr (by simpa using hDot)

/- A segment of a name consists of letters, digits and
   underscores. -/
theorem isSegmentChar_of_mem_segments
    {cs s : List Char}
    {c : Char}
    (hName : isIdentifier cs = true)
    (hSegment : s ∈ segments cs)
    (hMem : c ∈ s) :
    isSegmentChar c = true := by
  rcases mem_of_mem_segments hSegment hMem with
    ⟨hIn, hNotDot⟩
  exact (isSegmentChar_or_dot hName hIn).resolve_right
    hNotDot

theorem isIdentifier_of_sanitize?
    {cs name : List Char}
    (hName : sanitize? cs = some name) :
    isIdentifier name = true := by
  simp only [sanitize?, Option.ite_none_right_eq_some,
    Option.some.injEq] at hName
  rcases hName with ⟨hIs, rfl⟩
  exact hIs

end Identifier

------------------------------------------------------------
-- Pointing a Connection at a Database
------------------------------------------------------------

namespace Session

/-
  A statement consists of USE and of segments between
  brackets, with dots between them; each segment consists of
  ASCII letters, digits and underscores.
-/
def PointsAt (statement : String) : Prop :=
  ∃ segments : List (List Char),
    segments ≠ [] ∧
      (∀ s ∈ segments, ∀ c ∈ s,
        Identifier.isSegmentChar c = true) ∧
      statement =
        "USE " ++ String.ofList (List.intercalate ['.']
          (segments.map fun s => '[' :: (s ++ [']'])))

/- Whatever name was given, the statement for it is of that
   form. -/
theorem pointsAt_of_isUse
    {statement : String}
    (hUse : IsUse statement) :
    PointsAt statement := by
  rcases hUse with ⟨database, hStatement⟩
  unfold useStatement Identifier.escape? at hStatement
  cases hName : Identifier.sanitize? database.toList with
  | none =>
      rw [hName] at hStatement
      cases hStatement
  | some name =>
      rw [hName] at hStatement
      have hText := (Except.ok.inj hStatement).symm
      have hIs := Identifier.isIdentifier_of_sanitize? hName
      refine ⟨Identifier.segments name, ?_, ?_, hText⟩
      · exact Identifier.segments_ne_nil name
      · intro s hSegment c hMem
        exact Identifier.isSegmentChar_of_mem_segments hIs
          hSegment hMem

end Session

end SqlGateway
