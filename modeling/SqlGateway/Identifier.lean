import SqlGateway.Engine

/-
  This file defines the names that may stand in generated
  statements, and how each engine delimits them.

  Key definitions include:
    * `unwrap`
    * `isIdentifier`
    * `sanitize?`
    * `segments`
    * `delimited`
-/

namespace SqlGateway

namespace Identifier

/- The delimiters that may stand before a name. -/
def isOpening (c : Char) : Bool :=
  c == '[' || c == '\x22' || c == '\x27'

/- The delimiters that may stand behind a name. -/
def isClosing (c : Char) : Bool :=
  c == ']' || c == '\x22' || c == '\x27'

/- A text without its first character, if in a set. -/
def dropFirstIf
    (p : Char → Bool) : List Char → List Char
  | [] => []
  | c :: cs => if p c then cs else c :: cs

/- A text without one delimiter at each end. -/
def unwrap (cs : List Char) : List Char :=
  (dropFirstIf isClosing
    (dropFirstIf isOpening cs).reverse).reverse

/- The characters of a segment: ASCII letters, digits, `_`. -/
def isSegmentChar (c : Char) : Bool :=
  c.isAlphanum || c == '_'

/- Segment characters and dots, a segment character first. -/
def isIdentifier : List Char → Bool
  | [] => false
  | c :: cs =>
      isSegmentChar c &&
        cs.all fun d => isSegmentChar d || d == '.'

/- The name inside its delimiters, if it is one. -/
def sanitize? (cs : List Char) : Option (List Char) :=
  let name := unwrap cs
  if isIdentifier name then some name else none

/- The segments of a name, between its dots. -/
def segments : List Char → List (List Char)
  | [] => [[]]
  | c :: cs =>
      if c == '.' then
        [] :: segments cs
      else
        match segments cs with
        | [] => [[c]]
        | s :: ss => (c :: s) :: ss

/- The delimiters of an engine. -/
def delimiters : Engine → Char × Char
  | .sqlServer => ('[', ']')
  | .postgres => ('\x22', '\x22')

/- A segment between the delimiters of an engine. -/
def delimit
    (engine : Engine)
    (segment : List Char) : List Char :=
  (delimiters engine).1 ::
    (segment ++ [(delimiters engine).2])

/- A name with every segment between delimiters. -/
def delimited
    (engine : Engine)
    (name : List Char) : List Char :=
  List.intercalate ['.']
    ((segments name).map (delimit engine))

/- A text as a delimited name, if it is one. -/
def escape?
    (engine : Engine)
    (cs : List Char) : Option (List Char) :=
  (sanitize? cs).map (delimited engine)

end Identifier

end SqlGateway
