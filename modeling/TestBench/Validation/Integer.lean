import TestBench.Number.Binary
import TestBench.Text.Blank
import TestBench.Text.Lines
import TestBench.Text.Numeral
import TestBench.Validation

/-!
Whole numbers in settings. A text is read as a plain numeral first. If it is none, its tidy form is
tried: without white space around, a plus sign, zeros in front, zero decimals and underscores. Only
the first reading can find that a number is too large.
-/
namespace TestBench.Validation
set_option autoImplicit false

/-! ## Plain numerals -/

def splitMinus : List Char → Bool × List Char
  | '-' :: rest => (true, rest)
  | rest => (false, rest)

/-- The whole number that a numeral denotes: decimal digits, perhaps with a minus sign. No zero stands
before another digit. Too many digits are noticed before anything that follows them. -/
def plainInteger (chars : List Char) : Except Defect Int :=
  let (negative, unsigned) := splitMinus chars
  let digits := unsigned.takeWhile Char.isDigit
  if digits.isEmpty then .error .unreadableInteger
  else if digits.head? = some '0' ∧ digits.length ≠ 1 then .error .unreadableInteger
  else if Text.digitLimit < digits.length then .error .oversizedInteger
  else if digits.length ≠ unsigned.length then .error .unreadableInteger
  else
    let size : Int := Text.ofDigits (digits.map fun c => c.toNat - '0'.toNat)
    .ok (if negative then -size else size)

/-! ## Tidy numerals -/

/-- Drops zeros and underscores in front of a digit or a minus sign. One character stays of zeros
alone, and the last one before a point. -/
def dropZeros (before : Char) : List Char → Option (List Char)
  | [] => some [before]
  | c :: rest =>
    if c = '0' ∨ c = '_' then dropZeros c rest
    else if c.isDigit ∨ c = '-' then some (c :: rest)
    else if c = '.' then some (before :: c :: rest)
    else none

/-- A numeral without zeros in front; it begins with a digit. -/
def dropLeadingZeros : List Char → Option (List Char)
  | [] => none
  | c :: rest =>
    if c = '0' then dropZeros c rest
    else if c.isDigit then some (c :: rest)
    else none

/-- A numeral without a point that only zeros follow. -/
def dropZeroDecimals (chars : List Char) : List Char :=
  match chars.dropWhile (· != '.') with
  | _ :: zero :: zeros =>
    if (zero :: zeros).all (· == '0') then chars.takeWhile (· != '.') else chars
  | _ => chars

/-- A numeral without its underscores, each of which stands between two other characters. -/
def dropUnderscores (chars : List Char) : List Char :=
  let pieces := Text.splitOn '_' chars
  if pieces.any List.isEmpty then chars else pieces.flatten

/-- A numeral without its plus sign. A minus sign must not follow. -/
def dropPlus? : List Char → Option (List Char)
  | '+' :: '-' :: _ => none
  | '+' :: rest => some rest
  | rest => some rest

def tidyNumeral? (chars : List Char) : Option (List Char) := do
  let signed ← dropPlus? (Text.trim Text.isSpace chars)
  let (negative, unsigned) := splitMinus signed
  let digits ← dropLeadingZeros unsigned
  let tidy := dropUnderscores (dropZeroDecimals digits)
  return if negative then '-' :: tidy else tidy

def integerOfText (value : String) : Checked Int :=
  match plainInteger value.toList with
  | .ok number => .ok number
  | .error .oversizedInteger => refuse .oversizedInteger
  | .error _ =>
    match (tidyNumeral? value.toList).map plainInteger with
    | some (.ok number) => .ok number
    | _ => refuse .unreadableInteger

/-! ## Values -/

/-- Machine integers lie below this number, and not below its negative. -/
def machineLimit : Int := 9223372036854775808

def isMachineInteger (value : Int) : Bool :=
  -machineLimit ≤ value && value < machineLimit

/-- A whole number from a number with a point or an exponent. The least machine integer is refused
as well. -/
def integerOfScaled (mantissa exponent : Int) : Checked Int :=
  match Number.nearest mantissa exponent with
  | .infinite => refuse .notFinite
  | .finite significand power =>
    match Number.wholePart? significand power with
    | none => refuse .fractional
    | some number =>
      if -machineLimit < number ∧ number < machineLimit then .ok number
      else refuse .oversizedInteger

def integer : Json → Checked Int
  | .whole value => .ok value
  | .bool value => .ok (if value then 1 else 0)
  | .text value => integerOfText value
  | .scaled mantissa exponent => integerOfScaled mantissa exponent
  | .infinite _ => refuse .notFinite
  | .notANumber => refuse .notFinite
  | _ => refuse .notAnInteger

/-- A number above zero, of a whole number. -/
def aboveZero (number : Int) : Checked { number : Nat // 0 < number } :=
  if h : 0 < number.toNat then .ok ⟨number.toNat, h⟩ else refuse .notPositive

def positive (value : Json) : Checked { number : Nat // 0 < number } :=
  match integer value with
  | .error found => .error found
  | .ok number => aboveZero number

end TestBench.Validation
