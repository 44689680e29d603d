import SqlGateway.Failure.Basic

/-
  This file defines the failures of the system: the kind
  that the number of one tells, and the wording of those
  that are worded in a way of their own.

  Key definitions include:
    * `Failure.ofSystem`
    * `Failure.detailsText`
    * `Failure.numberedText`
    * `Failure.sourceText`
    * `Failure.encodingText`
    * `Failure.systemText`
-/

namespace SqlGateway

open Text

namespace Failure

------------------------------------------------------------
-- Numbers
------------------------------------------------------------

/- The kinds of system failure that carry a number. -/
def numberedKinds : List String :=
  ["OSError", "BlockingIOError", "ChildProcessError",
   "ConnectionError", "BrokenPipeError",
   "ConnectionAbortedError", "ConnectionRefusedError",
   "ConnectionResetError", "FileExistsError",
   "FileNotFoundError", "InterruptedError",
   "IsADirectoryError", "NotADirectoryError",
   "PermissionError", "ProcessLookupError", "TimeoutError"]

/- The kinds that the numbers of system failures tell. -/
def kindsByNumber : List (Int × String) :=
  [(1, "PermissionError"), (2, "FileNotFoundError"),
   (3, "ProcessLookupError"), (4, "InterruptedError"),
   (10, "ChildProcessError"), (11, "BlockingIOError"),
   (13, "PermissionError"), (17, "FileExistsError"),
   (20, "NotADirectoryError"), (21, "IsADirectoryError"),
   (32, "BrokenPipeError"),
   (103, "ConnectionAbortedError"),
   (104, "ConnectionResetError"), (108, "BrokenPipeError"),
   (110, "TimeoutError"), (111, "ConnectionRefusedError"),
   (114, "BlockingIOError"), (115, "BlockingIOError")]

/- Other names of the plain kind of system failure. -/
def plainNames : List String :=
  ["IOError", "EnvironmentError"]

/- The whole number that a detail equals. -/
def wholeDetail? : Value → Option Int
  | .int i => some i
  | .bool b => some (if b then 1 else 0)
  | .float x =>
      if x.isSpecial || !x.isWhole then
        none
      else
        some x.truncate
  | _ => none

/- The kind that a system failure's number tells. -/
def kindOfNumber? (number : Value) : Option String := do
  let n ← wholeDetail? number
  let entry ← kindsByNumber.find? (·.1 == n)
  return entry.2

/- The most details of a system failure with a number. -/
def maxNumberedDetails : Nat := 5

/- A failure is made of a number, a text, and maybe files. -/
def isNumbered
    (kind : String)
    (details : List Value) : Bool :=
  numberedKinds.contains kind && 2 ≤ details.length &&
    details.length ≤ maxNumberedDetails

/-
  A failure of the system.  A plain one that is made of a
  number and a text takes the kind that its number tells.
-/
def ofSystem
    (name : String)
    (details : List Value) : Failure :=
  let kind :=
    if plainNames.contains name then "OSError" else name
  if kind == "OSError" && isNumbered kind details then
    let number := details.headD .null
    foreign .system ((kindOfNumber? number).getD kind)
      details
  else
    foreign .system kind details

------------------------------------------------------------
-- Wording
------------------------------------------------------------

/- The wording of details: the only one, or all of them as a
   tuple. -/
def detailsText : List Value → List Char
  | [] => []
  | [detail] => detail.display
  | details => (Value.tuple details).literal

/- The wording of a missing key, which is a literal. -/
def keyText : List Value → List Char
  | [key] => key.literal
  | details => detailsText details

/- A file that a failure tells of, after a mark. -/
def fileText
    (mark : String) : Value → List Char
  | .null => []
  | file => mark.toList ++ file.literal

/-
  What stands in the place of the first file is a count: how
  much was written before the system would have waited.
-/
def isCount (kind : String) : Value → Bool
  | .int _ => kind == "BlockingIOError"
  | .bool _ => kind == "BlockingIOError"
  | _ => false

/- The files behind number and text; a count leaves none. -/
def filesBehind
    (kind : String)
    (behind : List Value) : List Value :=
  if behind.head?.any (isCount kind) then [] else behind

/-
  The files that a failure tells of, the second one last;
  what stands between the two is not shown.
-/
def filesText : List Value → List Char
  | [] => []
  | .null :: _ => []
  | file :: rest =>
      fileText ": " file ++
        fileText " -> " ((rest.drop 1).headD .null)

/- The wording of a failure with a number. -/
def numberedText
    (kind : String) : List Value → List Char
  | number :: text :: files =>
      "[Errno ".toList ++ number.display ++ ']' :: ' ' ::
        (text.display ++ filesText (filesBehind kind files))
  | details => detailsText details

/- The kinds of failure that tell of a place in a source. -/
def sourceKinds : List String :=
  ["SyntaxError", "IndentationError", "TabError"]

/- The last part of the path of a file. -/
def fileName (path : List Char) : List Char :=
  (path.reverse.takeWhile (· != '/')).reverse

/- The place in a source: its file, its line, or both. -/
def placeText : List Value → List Char
  | .text path :: .int line :: _ =>
      " (".toList ++ fileName path.toList ++
        ", line ".toList ++ signed line ++ [')']
  | .text path :: _ =>
      " (".toList ++ fileName path.toList ++ [')']
  | _ :: .int line :: _ =>
      " (line ".toList ++ signed line ++ [')']
  | _ => []

/- The wording of a failure that tells of a source; what is
   wrong comes first, and then the place. -/
def sourceText : List Value → List Char
  | [] => Value.null.display
  | [wrong, .list place] =>
      wrong.display ++ placeText place
  | [wrong, .tuple place] =>
      wrong.display ++ placeText place
  | wrong :: _ => wrong.display

/-
  What cannot be converted, and where it stands: one unit
  that is shown, or several from `start` until `stop`.
-/
def spanText
    (unit : String)
    (shown : Option (List Char))
    (start stop : Int) : List Char :=
  match shown, decide (stop = start + 1) with
  | some one, true =>
      unit.toList ++ ' ' :: one ++ " in position ".toList ++
        signed start
  | _, _ =>
      unit.toList ++ "s in position ".toList ++
        signed start ++ '-' :: signed (stop - 1)

/- A character of a text, as it is shown. -/
def shownCode
    (text : Value)
    (start : Int) : Option (List Char) :=
  text.codes[start.toNat]?.map fun code =>
    '\x27' :: (numericEscape code.number ++ ['\x27'])

/- A byte of a byte string, as it is shown. -/
def shownByte
    (bs : List UInt8)
    (start : Int) : Option (List Char) :=
  bs[start.toNat]?.map fun b =>
    '0' :: 'x' :: hexadecimal 2 b.toNat

/-
  The wording of a failure to convert between characters and
  bytes: the encoding, the object, the span, and the reason.
-/
def encodingText
    (kind : String)
    (details : List Value) : List Char :=
  match kind, details with
  | "UnicodeEncodeError",
    [encoding, text, .int start, .int stop, reason] =>
      '\x27' :: encoding.display ++
        "' codec can't encode ".toList ++
        spanText "character" (shownCode text start)
          start stop ++
        ':' :: ' ' :: reason.display
  | "UnicodeDecodeError",
    [encoding, .bytes bs, .int start, .int stop, reason] =>
      '\x27' :: encoding.display ++
        "' codec can't decode ".toList ++
        spanText "byte" (shownByte bs start) start stop ++
        ':' :: ' ' :: reason.display
  | _, details => detailsText details

/- The wording of a failure of the system. -/
def systemText
    (kind : String)
    (details : List Value) : List Char :=
  if kind == "KeyError" then
    keyText details
  else if isNumbered kind details then
    numberedText kind details
  else if sourceKinds.contains kind then
    sourceText details
  else
    encodingText kind details

end Failure

end SqlGateway
