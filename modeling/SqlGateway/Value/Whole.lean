import SqlGateway.Text.Integer
import SqlGateway.Value.Literal

/-
  This file defines the whole number that a value gives when
  a row limit is made of it: fractions are cut off and texts
  are read.

  Key definitions include:
    * `WholeFault`
    * `Value.whole`
-/

namespace SqlGateway

open Text

/- The reasons for which a value gives no whole number. -/
inductive WholeFault where
  | notRead (fault : NumberFault)
  | notANumber (source : String)
  | notFinite (source : String)
  | tooLong
  | notNumeric (typeName : String)
deriving Repr, DecidableEq

namespace WholeFault

/- The kind of a fault, as shown to clients. -/
def kindName : WholeFault → String
  | notFinite _ => "OverflowError"
  | notNumeric _ => "TypeError"
  | _ => "ValueError"

/- The wording of a fault. -/
def message : WholeFault → String
  | notRead fault => fault.message
  | notANumber source =>
      "cannot convert " ++ source ++ " to integer"
  | notFinite source =>
      "cannot convert " ++ source ++ " to integer"
  | tooLong =>
      "Exceeds the limit (" ++ toString maxDigits ++
        " digits) for integer string conversion; use " ++
        "sys.set_int_max_str_digits() to increase the limit"
  | notNumeric typeName =>
      "int() argument must be a string, a bytes-like " ++
        "object or a real number, not '" ++ typeName ++ "'"

end WholeFault

namespace Value

/- A byte as a character; a byte beyond ASCII is junk. -/
def byteChar (b : UInt8) : Char :=
  if b.toNat < 0x80 then Char.ofNat b.toNat else '?'

/- The name of a type whose values give no number. -/
def typeName : Value → String
  | null => "NoneType"
  | date _ => "datetime.date"
  | time _ => "datetime.time"
  | dateTime _ => "datetime.datetime"
  | duration _ => "datetime.timedelta"
  | tuple _ => "tuple"
  | object _ => "dict"
  | _ => "list"

/- The integer part of a double. -/
def wholeOfDouble (x : Double) : Except WholeFault Int :=
  if x.isNaN then
    .error (.notANumber "float NaN")
  else if x.isInfinite then
    .error (.notFinite "float infinity")
  else
    .ok x.truncate

/- The integer part of a decimal, unless it is too long. -/
def wholeOfDecimal : Decimal → Except WholeFault Int
  | .finite negative coefficient power =>
      let count : Int :=
        (Text.decimal coefficient).length + power
      if coefficient != 0 && maxDigits < count then
        .error .tooLong
      else
        .ok (Decimal.truncate negative coefficient power)
  | .infinite _ => .error (.notFinite "Infinity")
  | .nan _ _ _ => .error (.notANumber "NaN")

/- A number read from a text. -/
def wholeOfText
    (result : Except NumberFault Int) :
    Except WholeFault Int :=
  result.mapError .notRead

/- The whole number that a value gives. -/
def whole : Value → Except WholeFault Int
  | int i => .ok i
  | bool b => .ok (if b then 1 else 0)
  | uuid n => .ok n
  | float x => wholeOfDouble x
  | .decimal d => wholeOfDecimal d
  | text s => wholeOfText (readInteger s.toList)
  | raw codes =>
      .error (.notRead (.unreadable (quotedCodes codes)))
  | bytes bs =>
      wholeOfText
        (readIntegerAs (quotedBytes bs) (bs.map byteChar))
  | v => .error (.notNumeric v.typeName)

end Value

end SqlGateway
