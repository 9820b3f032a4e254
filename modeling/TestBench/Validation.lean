import TestBench.Json.Value

/-!
Validation of settings that come as JSON objects. A check gives a value or all the problems that it
finds, each with its place. The problems of an object are those of its declared fields, in the order
of declaration, and then one for each field that is not declared, in the order of the object.
-/
namespace TestBench
set_option autoImplicit false

/-- A step on the way to a value. -/
inductive Place where
  | field (name : String)
  | item (index : Nat)
deriving DecidableEq, Repr

inductive Defect where
  | malformedJson
  | notJsonText
  | notAnObject
  | missing
  | undeclared
  | frozen
  | notText
  | notAList
  | notASequence
  | textAsSequence
  | notAPath
  | notAnInteger
  | unreadableInteger
  | oversizedInteger
  | fractional
  | notFinite
  | notPositive
  | notABoolean
  | unreadableBoolean
deriving DecidableEq, Repr

def Defect.label : Defect → String
  | malformedJson => "json_invalid"
  | notJsonText => "json_type"
  | notAnObject => "model_type"
  | missing => "missing"
  | undeclared => "extra_forbidden"
  | frozen => "frozen_instance"
  | notText => "string_type"
  | notAList => "list_type"
  | notASequence => "is_instance_of"
  | textAsSequence => "sequence_str"
  | notAPath => "path_type"
  | notAnInteger => "int_type"
  | unreadableInteger => "int_parsing"
  | oversizedInteger => "int_parsing_size"
  | fractional => "int_from_float"
  | notFinite => "finite_number"
  | notPositive => "greater_than"
  | notABoolean => "bool_type"
  | unreadableBoolean => "bool_parsing"

structure Problem where
  place : List Place
  defect : Defect
deriving DecidableEq, Repr

/-- A value, or what is wrong with it. -/
abbrev Checked (α : Type) := Except (List Problem) α

namespace Validation

/-- Fails with one defect at the value itself. -/
def refuse {α : Type} (defect : Defect) : Checked α :=
  .error [⟨[], defect⟩]

def problems {α : Type} : Checked α → List Problem
  | .ok _ => []
  | .error found => found

/-- The same check one step deeper. -/
def within {α : Type} (step : Place) : Checked α → Checked α
  | .ok value => .ok value
  | .error found => .error (found.map fun problem => { problem with place := step :: problem.place })

/-- Checks a field. Without a default it must be there. -/
def field {α : Type} (fields : List (String × Json)) (name : String) (default : Option α)
    (check : Json → Checked α) : Checked α :=
  within (.field name) (match Json.lookup? name fields, default with
    | some value, _ => check value
    | none, some value => .ok value
    | none, none => refuse .missing)

/-- Checks items, each at its index, from a first index on. -/
def itemsFrom {α : Type} (check : Json → Checked α) : Nat → List Json → Checked (List α)
  | _, [] => .ok []
  | index, item :: rest =>
    match within (.item index) (check item), itemsFrom check (index + 1) rest with
    | .ok value, .ok values => .ok (value :: values)
    | first, others => .error (problems first ++ problems others)

def items {α : Type} (check : Json → Checked α) (values : List Json) : Checked (List α) :=
  itemsFrom check 0 values

def undeclared (declared : List String) (fields : List (String × Json)) : List Problem :=
  (fields.filter fun field => !declared.contains field.1).map fun field =>
    ⟨[.field field.1], .undeclared⟩

def text : Json → Checked String
  | .text value => .ok value
  | _ => refuse .notText

def texts : Json → Checked (List String)
  | .array values => items text values
  | _ => refuse .notAList

end Validation
end TestBench
