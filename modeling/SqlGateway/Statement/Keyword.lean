import SqlGateway.Text.Blank
import SqlGateway.Text.WordChar

/-
  This file defines the keywords that statements are known
  by, and how a keyword is found in a text.

  Letters are compared without regard to case.  Beyond the
  case of ASCII, the dotted and the dotless i count as an i,
  the long s as an s and the Kelvin sign as a k.

  Key definitions include:
    * `Keyword`
    * `letterOf`
    * `splitWord?`
    * `splitKeyword?`
    * `startsWithSpaced`
    * `hasKeyword`
-/

namespace SqlGateway

namespace Statement

open Text

------------------------------------------------------------
-- Keywords
------------------------------------------------------------

/- The keywords that the gateway looks for. -/
inductive Keyword where
  | select
  | with
  | explain
  | show
  | describe
  | desc
  | insert
  | update
  | delete
  | merge
  | create
  | alter
  | drop
  | truncate
  | grant
  | revoke
  | exec
  | execute
  | as
  | distinct
  | all
  | top
  | offset
  | limit
deriving Repr, DecidableEq

namespace Keyword

/- The letters of a keyword, in lower case. -/
def letters : Keyword → List Char
  | select => ['s', 'e', 'l', 'e', 'c', 't']
  | .with => ['w', 'i', 't', 'h']
  | explain => ['e', 'x', 'p', 'l', 'a', 'i', 'n']
  | .show => ['s', 'h', 'o', 'w']
  | describe => ['d', 'e', 's', 'c', 'r', 'i', 'b', 'e']
  | desc => ['d', 'e', 's', 'c']
  | insert => ['i', 'n', 's', 'e', 'r', 't']
  | update => ['u', 'p', 'd', 'a', 't', 'e']
  | delete => ['d', 'e', 'l', 'e', 't', 'e']
  | merge => ['m', 'e', 'r', 'g', 'e']
  | create => ['c', 'r', 'e', 'a', 't', 'e']
  | alter => ['a', 'l', 't', 'e', 'r']
  | drop => ['d', 'r', 'o', 'p']
  | truncate => ['t', 'r', 'u', 'n', 'c', 'a', 't', 'e']
  | grant => ['g', 'r', 'a', 'n', 't']
  | revoke => ['r', 'e', 'v', 'o', 'k', 'e']
  | exec => ['e', 'x', 'e', 'c']
  | execute => ['e', 'x', 'e', 'c', 'u', 't', 'e']
  | .as => ['a', 's']
  | distinct => ['d', 'i', 's', 't', 'i', 'n', 'c', 't']
  | all => ['a', 'l', 'l']
  | top => ['t', 'o', 'p']
  | offset => ['o', 'f', 'f', 's', 'e', 't']
  | limit => ['l', 'i', 'm', 'i', 't']

end Keyword

------------------------------------------------------------
-- Comparison
------------------------------------------------------------

/- The lower-case letter that a character counts as. -/
def letterOf (c : Char) : Char :=
  if c == '\u0130' || c == '\u0131' then
    'i'
  else if c == '\u017F' then
    's'
  else if c == '\u212A' then
    'k'
  else
    c.toLower

/-
  Split a word, given by its lower-case letters, off the
  front of a text: the characters taken and the rest.
-/
def splitWord? :
    List Char → List Char → Option (List Char × List Char)
  | [], cs => some ([], cs)
  | _ :: _, [] => none
  | l :: ls, c :: cs =>
      if letterOf c = l then
        (splitWord? ls cs).map fun parts =>
          (c :: parts.1, parts.2)
      else
        none

/- Split a keyword off the front of a text. -/
def splitKeyword?
    (k : Keyword)
    (cs : List Char) : Option (List Char × List Char) :=
  splitWord? k.letters cs

/- A text begins with a character of a set. -/
def startsWith
    (p : Char → Bool) : List Char → Bool
  | [] => false
  | c :: _ => p c

/- A text begins with a keyword and a blank behind it. -/
def startsWithSpaced
    (k : Keyword)
    (cs : List Char) : Bool :=
  match splitKeyword? k cs with
  | some (_, rest) => startsWith isBlank rest
  | none => false

/- A text begins with a keyword that ends as a word. -/
def startsWithKeyword
    (k : Keyword)
    (cs : List Char) : Bool :=
  match splitKeyword? k cs with
  | some (_, rest) => !startsWith isWordChar rest
  | none => false

/-
  A keyword stands in a text as a word of its own; `inWord`
  tells that the character before the text belongs to a
  word.
-/
def hasKeywordFrom
    (k : Keyword)
    (inWord : Bool) : List Char → Bool
  | [] => false
  | c :: cs =>
      (!inWord && startsWithKeyword k (c :: cs)) ||
        hasKeywordFrom k (isWordChar c) cs

/- A keyword stands in a text as a word of its own. -/
def hasKeyword
    (k : Keyword)
    (cs : List Char) : Bool :=
  hasKeywordFrom k false cs

end Statement

end SqlGateway
