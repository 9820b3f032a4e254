import TestBench.Json.Reader
import TestBench.Validation.Model

/-!
The validator that the program uses. It reads JSON with a bounded nesting, and goes on after a
problem until it has seen all fields.
-/
namespace TestBench
set_option autoImplicit false

namespace Validation

/-- The deepest nesting that settings may have. -/
def depth : Nat := 200

def check : (kind : FieldKind) → Json → Checked kind.Value
  | .text => text
  | .texts => texts

/-- The values of declared fields in an object. -/
def declared (given : List (String × Json)) : (fields : List Field) → Checked (Values fields)
  | [] => .ok ()
  | declaration :: rest =>
    match field given declaration.name (some declaration.default) (check declaration.kind),
      declared given rest with
    | .ok value, .ok values => .ok (value, values)
    | first, others => .error (problems first ++ problems others)

/-- The problems with fields that are not declared. -/
def extras (model : Model) (given : List (String × Json)) : List Problem :=
  match model.extra with
  | .ignored => []
  | .forbidden => undeclared (model.fields.map Field.name) given

/-- The values of the fields of a model in an object. -/
def object (model : Model) (given : List (String × Json)) : Checked (Values model.fields) :=
  match declared given model.fields, extras model given with
  | .ok values, [] => .ok values
  | found, unknown => .error (problems found ++ unknown)

/-- The values of the fields of a model in a source. -/
def source (model : Model) : Option String → Checked (Values model.fields)
  | none => refuse .notJsonText
  | some text =>
    match Json.read? Text.digitLimit depth text with
    | none => refuse .malformedJson
    | some (.object given) => object model given
    | some _ => refuse .notAnObject

end Validation

def Validator.standard : Validator where
  parse := Json.read? Text.digitLimit Validation.depth
  check := Validation.check
  validate := Validation.source

end TestBench
