import Mathlib.Data.List.TakeWhile
import SqlGateway.Text.Blank

/-
  This file shows what trimming takes from a text, and what
  it leaves.

  Main declarations:
    * `exists_trimRight_append`
    * `not_of_getLast?_trimRight`
    * `trimRight_append`
    * `trimRight_append_of_all`
    * `trimLeft_trim`
    * `exists_trim_append`
    * `all_of_trim_eq_nil`
-/

namespace SqlGateway

namespace Text

variable {p : Char → Bool}

/- A text does not change if its first character stays. -/
theorem trimLeft_eq_self
    {cs : List Char}
    (hHead : ∀ c, cs.head? = some c → p c = false) :
    trimLeft p cs = cs := by
  cases cs with
  | nil => rfl
  | cons c cs =>
      have hFirst : p c = false := hHead c rfl
      simp [trimLeft, hFirst]

/- The first character of a trimmed text is one that
   stays. -/
theorem not_of_head?_trimLeft
    {cs : List Char}
    {c : Char}
    (hHead : (trimLeft p cs).head? = some c) :
    p c = false := by
  have hNot := List.head?_dropWhile_not p cs
  unfold trimLeft at hHead
  rw [hHead] at hNot
  exact hNot

/- What trimming takes from the right end is made of the
   characters to be taken. -/
theorem exists_trimRight_append
    (p : Char → Bool)
    (cs : List Char) :
    ∃ tail : List Char,
      cs = trimRight p cs ++ tail ∧ ∀ c ∈ tail, p c := by
  refine ⟨(cs.reverse.takeWhile p).reverse, ?_, ?_⟩
  · have hSplit :
        cs.reverse.takeWhile p ++ cs.reverse.dropWhile p =
          cs.reverse :=
      List.takeWhile_append_dropWhile
    have hReverse := congrArg List.reverse hSplit
    rw [List.reverse_append, List.reverse_reverse] at hReverse
    exact hReverse.symm
  · intro c hMem
    exact List.mem_takeWhile_imp (List.mem_reverse.mp hMem)

/- The last character of a trimmed text is one that
   stays. -/
theorem not_of_getLast?_trimRight
    {cs : List Char}
    {c : Char}
    (hLast : (trimRight p cs).getLast? = some c) :
    p c = false := by
  unfold trimRight at hLast
  rw [List.getLast?_reverse] at hLast
  exact not_of_head?_trimLeft hLast

/- Characters to be taken at the end are all taken. -/
theorem trimRight_append_of_all
    {ys : List Char}
    (hTaken : ∀ c ∈ ys, p c = true)
    (xs : List Char) :
    trimRight p (xs ++ ys) = trimRight p xs := by
  unfold trimRight
  rw [List.reverse_append, List.dropWhile_append_of_pos]
  exact fun c hMem => hTaken c (List.mem_reverse.mp hMem)

/- A last character that stays keeps all before it. -/
theorem trimRight_append
    {xs : List Char}
    (hLast : ∃ c ∈ xs.getLast?, p c = false)
    (ys : List Char) :
    trimRight p (xs ++ ys) = xs ++ trimRight p ys := by
  unfold trimRight
  rw [List.reverse_append, List.dropWhile_append]
  split
  · rename_i hAll
    have hDropped : xs.reverse.dropWhile p = xs.reverse := by
      apply trimLeft_eq_self
      intro c hHead
      rcases hLast with ⟨last, hMem, hStays⟩
      rw [List.head?_reverse] at hHead
      rw [hHead] at hMem
      cases hMem
      exact hStays
    rw [hDropped, List.isEmpty_iff.mp hAll]
    simp
  · rw [List.reverse_append, List.reverse_reverse]

theorem trimRight_eq_self
    {cs : List Char}
    (hLast : ∃ c ∈ cs.getLast?, p c = false) :
    trimRight p cs = cs := by
  have hAll := trimRight_append hLast []
  rw [List.append_nil] at hAll
  rw [hAll]
  exact List.append_nil cs

/- A text trimmed on the left is what trimming at both ends
   leaves, with characters that are taken behind it. -/
theorem exists_trim_append
    (p : Char → Bool)
    (cs : List Char) :
    ∃ tail : List Char,
      trimLeft p cs = trim p cs ++ tail :=
  (exists_trimRight_append p (trimLeft p cs)).imp
    fun _ hTail => hTail.1

/- Where trimming leaves nothing, all is taken. -/
theorem all_of_trim_eq_nil
    {cs : List Char}
    (hNone : trim p cs = []) :
    ∀ c ∈ cs, p c = true := by
  intro c hMem
  rcases exists_trimRight_append p (trimLeft p cs) with
    ⟨tail, hTail, hTaken⟩
  have hSplit :
      cs.takeWhile p ++ trimLeft p cs = cs :=
    List.takeWhile_append_dropWhile
  unfold trim at hNone
  rw [hNone, List.nil_append] at hTail
  rw [← hSplit, hTail] at hMem
  rcases List.mem_append.mp hMem with hFront | hBack
  · exact List.mem_takeWhile_imp hFront
  · exact hTaken c hBack

/- A text that is trimmed at both ends is trimmed on the
   left. -/
theorem trimLeft_trim
    (p : Char → Bool)
    (cs : List Char) :
    trimLeft p (trim p cs) = trim p cs := by
  apply trimLeft_eq_self
  intro c hHead
  rcases exists_trim_append p cs with ⟨tail, hTail⟩
  have hFirst : (trimLeft p cs).head? = some c := by
    rw [hTail, List.head?_append, hHead]
    rfl
  exact not_of_head?_trimLeft hFirst

end Text

end SqlGateway
