import TestBench.Text.Blank
import TestBench.Text.Digit

/-!
Whole numbers as people write them: white space around, a sign in front, digits of any script, and
single underscores between digits.
-/
namespace TestBench.Text
set_option autoImplicit false

/-- The values of digits that follow each other or stand around single underscores. -/
def digitValues? (digit? : Char → Option Nat) : List Char → Option (List Nat)
  | [] => none
  | [c] => (digit? c).map fun value => [value]
  | c :: '_' :: rest => do
    let value ← digit? c
    let values ← digitValues? digit? rest
    return value :: values
  | c :: rest => do
    let value ← digit? c
    let values ← digitValues? digit? rest
    return value :: values

def ofDigits (values : List Nat) : Nat :=
  values.foldl (fun total value => total * 10 + value) 0

/-- Numerals with more digits than this are refused. -/
def digitLimit : Nat := 4300

/-- The whole number that a text denotes, if it denotes one. -/
def readInteger? (text : String) : Option Int := do
  let body := trim isSpace text.toList
  let (negative, digits) := match body with
    | '-' :: rest => (true, rest)
    | '+' :: rest => (false, rest)
    | rest => (false, rest)
  let values ← digitValues? digitValue? digits
  if digitLimit < values.length then none
  else
    let magnitude : Int := ofDigits values
    return if negative then -magnitude else magnitude

end TestBench.Text
