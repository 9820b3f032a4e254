/-!
JSON values. The fields of an object keep their order, and no two of them share a name when they
were put there by `putField`.
-/
namespace TestBench
set_option autoImplicit false

/-- A JSON value. A number written with a point or an exponent is `scaled`: its value is
`mantissa * 10 ^ exponent`. Numbers beyond all others and numbers without a value have forms too. -/
inductive Json where
  | null
  | bool (value : Bool)
  | whole (value : Int)
  | scaled (mantissa exponent : Int)
  | infinite (negative : Bool)
  | notANumber
  | text (value : String)
  | array (items : List Json)
  | object (fields : List (String × Json))
deriving Inhabited, Repr, BEq

namespace Json

/-- The value of the last field with the name. -/
def lookup? {α : Type} (name : String) (fields : List (String × α)) : Option α :=
  (fields.reverse.find? fun field => field.1 == name).map Prod.snd

/-- Sets a field: a name that is already there keeps its place and gets the new value. -/
def putField {α : Type} (fields : List (String × α)) (name : String) (value : α) :
    List (String × α) :=
  if fields.any fun field => field.1 == name then
    fields.map fun field => if field.1 == name then (name, value) else field
  else fields ++ [(name, value)]

def putFields {α : Type} (fields : List (String × α)) (more : List (String × α)) :
    List (String × α) :=
  more.foldl (fun all field => putField all field.1 field.2) fields

/-- A field of an object; other values have no fields. -/
def field? (value : Json) (name : String) : Option Json :=
  match value with
  | object fields => lookup? name fields
  | _ => none

def texts (items : List String) : Json :=
  array (items.map text)

/-- The value, or null where there is none. -/
def orNull {α : Type} (encode : α → Json) : Option α → Json
  | none => null
  | some value => encode value

end Json
end TestBench
