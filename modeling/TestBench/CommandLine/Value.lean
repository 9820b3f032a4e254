import TestBench.CommandLine.PathList

/-!
Values of options. A value is a text, or it is empty: the separator stands for no value at all when
it is attached to an option.
-/
namespace TestBench.CommandLine
set_option autoImplicit false

/-- The word that separates options from operands. -/
def separator : String := "--"

inductive Value where
  | text (value : String)
  | emptyList
deriving DecidableEq, Repr

namespace Value

def ofAttached (attached : String) : Value :=
  if attached = separator then .emptyList else .text attached

def text? : Value → Option String
  | text value => some value
  | emptyList => none

/-- A value where any text will do. -/
def shown : Value → String
  | text value => value
  | emptyList => "[]"

def path? (value : Value) : Option Path :=
  value.text?.map Path.parse

def paths : Value → List Path
  | text value => parsePathList value
  | emptyList => []

end Value
end TestBench.CommandLine
