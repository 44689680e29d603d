import SqlGateway.Failure.System

/-
  This file defines how failures are worded, which kind and
  code they are shown under, and what they were made of.

  Key definitions include:
    * `Failure.category?`
    * `Failure.kindName`
    * `Failure.message`
    * `Failure.shown`
    * `Failure.details`
    * `Failure.cause?`
-/

namespace SqlGateway

namespace Failure

------------------------------------------------------------
-- Kinds
------------------------------------------------------------

/- The category of one of the gateway's own failures. -/
def category? : Failure → Option Category
  | refused refusal =>
      if refusal.isMalformed then
        some .validation
      else
        some .permission
  | invalidIdentifier _ => some .validation
  | notConnected => some .notConnected
  | unsupportedEngine _ => some .unsupportedEngine
  | noStoredConfig => some .connection
  | openingFailed _ _ => some .connection
  | closingFailed _ _ => some .connection
  | disconnectFailed _ => some .connection
  | operationFailed _ _ => some .query
  | reported category _ _ => some category
  | _ => none

/- A failure ends the opening or closing of a session. -/
def isConnection (f : Failure) : Bool :=
  f.category? == some .connection

/- The kind of a failure outside all categories. -/
def plainKindName : Failure → String
  | foreign _ kind _ => kind
  | unusableLimit fault => fault.kindName
  | missingColumn _ => "KeyError"
  | noColumns => "TypeError"
  | unusableLogLevel _ => "TypeError"
  | noPool => "AttributeError"
  | _ => "ValueError"

/- The kind under which a failure is shown. -/
def kindName (f : Failure) : String :=
  match f.category? with
  | some category => category.kindName
  | none => f.plainKindName

/- The stable code of one of the gateway's own failures. -/
def code? (f : Failure) : Option String :=
  f.category?.map Category.code

------------------------------------------------------------
-- Wording
------------------------------------------------------------

/- The literal of a text. -/
def quotedText (text : String) : String :=
  String.ofList (Text.quoted text.toList)

/- The wording of a failure. -/
def message : Failure → String
  | refused refusal => refusal.message
  | invalidIdentifier text => "Invalid identifier: " ++ text
  | notConnected =>
      "Not connected to database. " ++
        "Use connect-database first."
  | unsupportedEngine engine =>
      "Unsupported database engine: " ++ engine
  | noStoredConfig =>
      "No connection configuration available"
  | openingFailed engine cause =>
      "Failed to connect to " ++ engine.title ++
        " server: " ++ cause.message
  | closingFailed engine cause =>
      "Failed to close " ++ engine.title ++ " pool: " ++
        cause.message
  | disconnectFailed cause =>
      "Failed to disconnect: " ++ cause.message
  | operationFailed operation cause =>
      operation.failureText ++ ": " ++ cause.message
  | reported _ content _ => content.displayText
  | foreign origin kind details =>
      if origin = .system then
        String.ofList (systemText kind details)
      else
        String.ofList (detailsText details)
  | unreadableNumber fault => fault.message
  | unusableLimit fault => fault.message
  | unknownChoice choice given =>
      String.ofList given.literal ++ " is not a valid " ++
        choice.name
  | missingColumn name => quotedText name
  | noColumns => "'NoneType' object is not iterable"
  | noPool =>
      "'NoneType' object has no attribute 'acquire'"
  | poolTooSmall =>
      "max_size must be greater or equal than min_size"
  | unknownTransport name => "Unknown transport: " ++ name
  | unknownLogLevel shown => "Unknown level: " ++ shown
  | unusableLogLevel shown =>
      "Level not an integer or a valid string: " ++ shown

/- What is shown of a failure: its wording, or the value that
   was handed in for it. -/
def shown : Failure → Value
  | reported _ content _ => content
  | f => .text f.message

/- What a failure was made of. -/
def details : Failure → List Value
  | foreign _ _ details => details
  | reported _ content _ => [content]
  | missingColumn name => [.text name]
  | f => [.text f.message]

/- The failure that ended one of the gateway's operations. -/
def cause? : Failure → Option Failure
  | openingFailed _ cause => some cause
  | closingFailed _ cause => some cause
  | disconnectFailed cause => some cause
  | operationFailed _ cause => some cause
  | reported _ _ cause => cause
  | _ => none

end Failure

end SqlGateway
