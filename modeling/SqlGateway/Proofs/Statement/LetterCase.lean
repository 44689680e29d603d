import SqlGateway.Proofs.Statement.LeadingWord
import SqlGateway.Proofs.Text.LowerCase

/-
  This file shows that the case of ASCII letters does not
  matter to how a statement opens: a keyword is split off,
  and a list of names ends, at the same place.

  Key definitions include:
    * `SameButCase`
    * `IgnoresCase`

  Main declarations:
    * `letterOf_toLower`
    * `splitWord?_map_toLower`
    * `opensCommonTable_map_toLower`
    * `Opening.opens_map_toLower`
-/

namespace SqlGateway

namespace Statement

open Text

variable {p : Char → Bool}

------------------------------------------------------------
-- Characters
------------------------------------------------------------

/- Two texts differ in the case of ASCII letters only. -/
def SameButCase (cs other : List Char) : Prop :=
  cs.map Char.toLower = other.map Char.toLower

instance (cs other : List Char) :
    Decidable (SameButCase cs other) :=
  inferInstanceAs
    (Decidable (cs.map Char.toLower = other.map Char.toLower))

/- The capital letters of ASCII. -/
def capitals : List Char :=
  (List.range' 0x41 26).map Char.ofNat

theorem mem_capitals_or_toLower_eq (c : Char) :
    c ∈ capitals ∨ c.toLower = c := by
  by_cases hCapital : 0x41 ≤ c.toNat ∧ c.toNat ≤ 0x5A
  · left
    refine List.mem_map.mpr ⟨c.toNat, ?_, Char.ofNat_toNat c⟩
    rw [List.mem_range'_1]
    omega
  · exact .inr (toLower_of_not_capital hCapital)

/- A set of characters holds a letter in both cases or in
   neither. -/
def IgnoresCase (p : Char → Bool) : Prop :=
  ∀ c : Char, p c.toLower = p c

theorem ignoresCase_of_capitals
    (hCapitals :
      capitals.all (fun c => p c.toLower == p c) = true) :
    IgnoresCase p := by
  intro c
  rcases mem_capitals_or_toLower_eq c with hCapital | hSame
  · simpa using List.all_eq_true.mp hCapitals c hCapital
  · rw [hSame]

theorem ignoresCase_isBlank : IgnoresCase isBlank :=
  ignoresCase_of_capitals (by decide)

theorem ignoresCase_isNameListChar :
    IgnoresCase isNameListChar :=
  ignoresCase_of_capitals (by decide)

/- A letter counts as the same in either case. -/
theorem letterOf_toLower (c : Char) :
    letterOf c.toLower = letterOf c := by
  rcases mem_capitals_or_toLower_eq c with hCapital | hSame
  · have hAll :
        capitals.all
            (fun c => letterOf c.toLower == letterOf c) =
          true := by
      decide
    simpa using List.all_eq_true.mp hAll c hCapital
  · rw [hSame]

------------------------------------------------------------
-- Texts in Lower Case
------------------------------------------------------------

/- A text in lower case begins with the same set. -/
theorem IgnoresCase.startsWith_map
    (hCase : IgnoresCase p)
    (cs : List Char) :
    startsWith p (cs.map Char.toLower) = startsWith p cs := by
  cases cs with
  | nil => rfl
  | cons c cs => exact hCase c

/- The run at its front is that of the text, in lower
   case. -/
theorem IgnoresCase.takeWhile_map
    (hCase : IgnoresCase p)
    (cs : List Char) :
    (cs.map Char.toLower).takeWhile p =
      (cs.takeWhile p).map Char.toLower := by
  have hSame : p ∘ Char.toLower = p := funext hCase
  rw [List.takeWhile_map, hSame]

theorem IgnoresCase.dropWhile_map
    (hCase : IgnoresCase p)
    (cs : List Char) :
    (cs.map Char.toLower).dropWhile p =
      (cs.dropWhile p).map Char.toLower := by
  have hSame : p ∘ Char.toLower = p := funext hCase
  rw [List.dropWhile_map, hSame]

/- A word is split off it where it is split off the text. -/
theorem splitWord?_map_toLower
    (ls cs : List Char) :
    splitWord? ls (cs.map Char.toLower) =
      (splitWord? ls cs).map fun parts =>
        (parts.1.map Char.toLower,
          parts.2.map Char.toLower) := by
  induction ls generalizing cs with
  | nil => rfl
  | cons l ls ih =>
      cases cs with
      | nil => rfl
      | cons c cs =>
          simp only [List.map_cons, splitWord?,
            letterOf_toLower]
          split
          · rw [ih cs]
            simp only [Option.map_map]
            rfl
          · rfl

------------------------------------------------------------
-- Openings
------------------------------------------------------------

theorem startsWithSpaced_map_toLower
    (k : Keyword)
    (cs : List Char) :
    startsWithSpaced k (cs.map Char.toLower) =
      startsWithSpaced k cs := by
  unfold startsWithSpaced splitKeyword?
  rw [splitWord?_map_toLower]
  cases splitWord? k.letters cs with
  | none => rfl
  | some parts =>
      exact ignoresCase_isBlank.startsWith_map parts.2

theorem closesWithAs_map_toLower
    (names : List Char) :
    closesWithAs (names.map Char.toLower) =
      closesWithAs names := by
  unfold closesWithAs
  rw [ignoresCase_isBlank.dropWhile_map,
    splitWord?_map_toLower]
  cases splitWord? Keyword.as.letters.reverse
      (names.dropWhile isBlank) with
  | none => rfl
  | some parts =>
      simp only [Option.map_some, List.length_map,
        ← List.map_reverse,
        ignoresCase_isBlank.startsWith_map]

theorem opensCommonTable_map_toLower
    (cs : List Char) :
    opensCommonTable (cs.map Char.toLower) =
      opensCommonTable cs := by
  have hParenthesis : IgnoresCase (· == '(') :=
    ignoresCase_of_capitals (by decide)
  unfold opensCommonTable splitKeyword?
  rw [splitWord?_map_toLower]
  cases splitWord? Keyword.with.letters cs with
  | none => rfl
  | some parts =>
      simp only [Option.map_some,
        ignoresCase_isNameListChar.dropWhile_map,
        ignoresCase_isNameListChar.takeWhile_map,
        hParenthesis.startsWith_map, ← List.map_reverse,
        closesWithAs_map_toLower]

theorem Opening.opens_map_toLower
    (o : Opening)
    (cs : List Char) :
    o.opens (cs.map Char.toLower) = o.opens cs := by
  cases o with
  | keyword k => exact startsWithSpaced_map_toLower k cs
  | commonTable => exact opensCommonTable_map_toLower cs

end Statement

end SqlGateway
