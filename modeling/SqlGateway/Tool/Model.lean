import SqlGateway.Tool.Kind

/-
  This file defines models: the named fields that the
  parameters of a call consist of, each of a kind and with
  or without a default.

  Key definitions include:
    * `Field`
    * `Field.read`
    * `Model`
    * `Model.check`
-/

namespace SqlGateway

/- A default: the value, and how a description shows it. -/
structure Default (α : Type) where
  value : α
  shown : Value

/- A named field of a model. -/
structure Field (α : Type) where
  name : String
  kind : Kind α
  description : Option String := none
  default : Option (Default α) := none

namespace Field

variable {α : Type}

/- A word that begins with a capital. -/
def capitalised : List Char → List Char
  | [] => []
  | c :: cs => c.toUpper :: cs

/- The title of a field: its words, with capitals. -/
def title (field : Field α) : String :=
  let words := field.name.splitOn "_"
  " ".intercalate (words.map fun word =>
    String.ofList (capitalised word.toList))

/-
  The description of the kind of a field, with a title
  unless it only refers to a definition.
-/
def kindFields (field : Field α) : Fields :=
  let titled := [("title", Value.text field.title)]
  match field.kind.alternatives with
  | [only] =>
      if (Fields.get? only "$ref").isSome then
        only
      else
        only ++ titled
  | several =>
      ("anyOf", .list (several.map .object)) :: titled

/- The description of a field. -/
def describe (field : Field α) : String × Value :=
  let description :=
    match field.description with
    | some text => [("description", Value.text text)]
    | none => []
  let default :=
    match field.default with
    | some d => [("default", d.shown)]
    | none => []
  (field.name,
    .object (field.kindFields ++ description ++ default))

/- The value of a field among those that are given. -/
def read
    (field : Field α)
    (given : Fields) : Checked α :=
  Checked.under field.name
    (match Fields.get? given field.name, field.default with
      | some v, _ => field.kind.check v
      | none, some d => .accepted d.value
      | none, none => .issue .missing (.object given))

end Field

/-
  A model: its name, the descriptions of its fields, the
  names of those that must be given, the definitions it
  refers to, and the reading of its fields.
-/
structure Model (α : Type) where
  name : String
  fields : List (String × Value)
  required : List String
  definitions : Fields := []
  read : Fields → Checked α

namespace Model

variable {α : Type}

/- Check a value against a model. -/
def check
    (model : Model α) : Value → Checked α
  | .object given => model.read given
  | v => .issue (.notModel model.name) v

/- The names that must be given, if there are any. -/
def requiredField (names : List String) : Fields :=
  if names.isEmpty then
    []
  else
    [("required", .ofTexts names)]

/- The description of a model. -/
def describe (model : Model α) : Value :=
  .object
    ([("type", .text "object"),
      ("title", .text model.name),
      ("properties", .object model.fields)] ++
        requiredField model.required)

/- The definitions of a model, its own among them. -/
def allDefinitions (model : Model α) : Fields :=
  model.definitions ++ [(model.name, model.describe)]

end Model

/- The definition of a list of names. -/
def describeChoice
    (title : String)
    (names : List String) : Fields :=
  [("type", .text "string"),
   ("title", .text title),
   ("enum", .ofTexts names)]

end SqlGateway
