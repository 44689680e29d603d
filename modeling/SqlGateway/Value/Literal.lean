import SqlGateway.Text.Quoted
import SqlGateway.Value.Basic

/-
  This file defines the text forms of values: the literal,
  which tells the type of a value, and the display form,
  which is what a table cell shows.

  Key definitions include:
    * `Value.literal`
    * `Value.display`
    * `Value.codes`
-/

namespace SqlGateway

open Text

namespace Value

/- The names of the numbers that are not finite. -/
def cellNames : Double.SpecialNames where
  nan := ['n', 'a', 'n']
  infinity := ['i', 'n', 'f']

/- A truth value, as in cells. -/
def boolLiteral (b : Bool) : List Char :=
  if b then "True".toList else "False".toList

/- The five groups of an identifier of 128 bits. -/
def writeUuid (n : Nat) : List Char :=
  let ds := hexadecimal 32 n
  List.intercalate ['-']
    [ds.take 8, (ds.drop 8).take 4, (ds.drop 12).take 4,
     (ds.drop 16).take 4, ds.drop 20]

/- A tuple of one item keeps a comma. -/
def tupleForm : List (List Char) → List Char
  | [item] => '(' :: (item ++ [',', ')'])
  | items =>
      '(' :: (List.intercalate [',', ' '] items ++ [')'])

mutual

/- The literal of a value. -/
def literal : Value → List Char
  | null => "None".toList
  | bool b => boolLiteral b
  | int i => signed i
  | float x => x.write cellNames
  | text s => quoted s.toList
  | raw codes => quotedCodes codes
  | bytes bs => quotedBytes bs
  | decimal d =>
      callForm "Decimal" [quoted d.write]
  | date d => d.literal
  | time t => t.literal
  | dateTime t => t.literal
  | duration d => d.literal
  | uuid n => callForm "UUID" [quoted (writeUuid n)]
  | list vs =>
      '[' :: (List.intercalate [',', ' '] (literals vs) ++
        [']'])
  | tuple vs => tupleForm (literals vs)
  | object fields =>
      '\x7b' ::
        (List.intercalate [',', ' ']
            (fieldLiterals fields) ++
          ['\x7d'])

/- The literals of several values. -/
def literals : List Value → List (List Char)
  | [] => []
  | v :: vs => literal v :: literals vs

/- The literals of several named values. -/
def fieldLiterals :
    List (String × Value) → List (List Char)
  | [] => []
  | (name, v) :: rest =>
      (quoted name.toList ++ ':' :: ' ' :: literal v) ::
        fieldLiterals rest

end

/- What a table cell shows of a value. -/
def display : Value → List Char
  | text s => s.toList
  | raw codes => codes.map Code.shown
  | decimal d => d.write
  | date d => d.write
  | time t => t.write
  | dateTime t => t.write
  | duration d => d.write
  | uuid n => writeUuid n
  | v => literal v

/- The display form as a text. -/
def displayText (v : Value) : String :=
  String.ofList v.display

/- The codes of the display form. -/
def codes : Value → List Code
  | raw codes => codes
  | v => Code.ofChars v.display

end Value

end SqlGateway
