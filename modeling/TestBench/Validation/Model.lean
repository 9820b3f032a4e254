import TestBench.Validation

/-!
Models of settings, and what reads them. A model declares fields, each with a kind and a default. A
`Validator` is a library that reads JSON text and gives the values of the declared fields, or all
the problems that it finds.
-/
namespace TestBench
set_option autoImplicit false

/-- The kind of a declared field: a text, or a sequence of texts. -/
inductive FieldKind where
  | text
  | texts
deriving DecidableEq, Repr

@[reducible] def FieldKind.Value : FieldKind → Type
  | text => String
  | texts => List String

/-- A declared field, with its value where none is given. -/
structure Field where
  name : String
  kind : FieldKind
  default : kind.Value

/-- A value for each of some fields. -/
@[reducible] def Values : List Field → Type
  | [] => Unit
  | field :: rest => field.kind.Value × Values rest

/-- Whether a model accepts fields that it does not declare. -/
inductive Extra where
  | ignored
  | forbidden
deriving DecidableEq, Repr

/-- A declared model of settings. Problems are reported under its name. -/
structure Model where
  name : String
  fields : List Field
  extra : Extra

/-- A library that reads settings: the value that a text denotes if it is well-formed JSON, what a
JSON value comes to as a field of some kind, and the values of the fields of a model in a source,
which is a text unless there is none. -/
structure Validator where
  parse : String → Option Json
  check : (kind : FieldKind) → Json → Checked kind.Value
  validate : (model : Model) → Option String → Checked (Values model.fields)

end TestBench
