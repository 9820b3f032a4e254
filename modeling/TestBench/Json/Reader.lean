import TestBench.Json.Value
import TestBench.Text.Hex
import TestBench.Text.Numeral

/-!
Reading JSON text. `tokens?` takes the text apart into marks, quoted texts and atoms, and `read?`
builds the value. A number may have at most so many digits in its whole part, and a container that
holds something may lie at most so many containers deep, as the caller allows. A name that an object
repeats keeps its first place and its last value.
-/
namespace TestBench.Json
set_option autoImplicit false
open TestBench.Text

inductive Token where
  | beginArray
  | endArray
  | beginObject
  | endObject
  | colon
  | comma
  | quoted (value : String)
  | atom (value : Json)
deriving Repr

/-! ## Numbers and names -/

/-- A decimal digit of the ASCII range. -/
def asciiDigit? (c : Char) : Option Nat :=
  if '0' ≤ c ∧ c ≤ '9' then some (c.toNat - '0'.toNat) else none

def takeDigits : List Char → List Nat × List Char
  | [] => ([], [])
  | c :: rest =>
    match asciiDigit? c with
    | none => ([], c :: rest)
    | some digit =>
      let (digits, tail) := takeDigits rest
      (digit :: digits, tail)

/-- The part after a point, which needs a digit. -/
def takeFraction : List Char → Option (List Nat × List Char)
  | '.' :: rest =>
    match takeDigits rest with
    | ([], _) => none
    | (digits, tail) => some (digits, tail)
  | rest => some ([], rest)

/-- The exponent at the end of a number, which needs a digit if it is there. -/
def exponent? (chars : List Char) : Option Int :=
  let signed (negative : Bool) (rest : List Char) : Option Int :=
    match takeDigits rest with
    | (digit :: digits, []) =>
      let size : Int := ofDigits (digit :: digits)
      some (if negative then -size else size)
    | _ => none
  match chars with
  | [] => some 0
  | mark :: '-' :: rest => if mark = 'e' ∨ mark = 'E' then signed true rest else none
  | mark :: '+' :: rest => if mark = 'e' ∨ mark = 'E' then signed false rest else none
  | mark :: rest => if mark = 'e' ∨ mark = 'E' then signed false rest else none

/-- An unsigned number: no zero stands before another digit of its whole part, which has at most
`limit` digits. -/
def number? (limit : Nat) (negative : Bool) (chars : List Char) : Option Json := do
  let (digits, rest) := takeDigits chars
  let sign : Int := if negative then -1 else 1
  if digits.isEmpty || (digits.head? == some 0 && digits.length != 1) then none
  else if limit < digits.length then none
  else if rest.isEmpty then return whole (sign * (ofDigits digits : Int))
  else
    let (decimals, tail) ← takeFraction rest
    let exponent ← exponent? tail
    return scaled (sign * (ofDigits (digits ++ decimals) : Int)) (exponent - decimals.length)

def atom? (limit : Nat) (chars : List Char) : Option Json :=
  match String.ofList chars with
  | "null" => some null
  | "true" => some (bool true)
  | "false" => some (bool false)
  | "NaN" => some notANumber
  | "Infinity" => some (infinite false)
  | "-Infinity" => some (infinite true)
  | _ =>
    match chars with
    | '-' :: rest => number? limit true rest
    | rest => number? limit false rest

/-! ## Quoted text -/

/-- The units of a quoted text up to its closing mark, and what follows the mark. A unit is a code
point or half of one. Controls must be escaped. -/
def takeUnits : List Char → Option (List Nat × List Char)
  | [] => none
  | '"' :: rest => some ([], rest)
  | '\\' :: 'u' :: a :: b :: c :: d :: rest => do
    let high ← hexValue? a
    let upper ← hexValue? b
    let lower ← hexValue? c
    let low ← hexValue? d
    let (units, tail) ← takeUnits rest
    return ((((high * 16 + upper) * 16 + lower) * 16 + low) :: units, tail)
  | '\\' :: c :: rest => do
    let unit ← match c with
      | '"' => some 0x22
      | '\\' => some 0x5c
      | '/' => some 0x2f
      | 'b' => some 8
      | 'f' => some 0xc
      | 'n' => some 0xa
      | 'r' => some 0xd
      | 't' => some 9
      | _ => none
    let (units, tail) ← takeUnits rest
    return (unit :: units, tail)
  | c :: rest =>
    if c.toNat < 0x20 then none
    else do
      let (units, tail) ← takeUnits rest
      return (c.toNat :: units, tail)

/-- The first half of a code point beyond U+FFFF. -/
def isHighHalf (unit : Nat) : Bool :=
  0xD800 ≤ unit && unit < 0xDC00

/-- The second half of a code point beyond U+FFFF. -/
def isLowHalf (unit : Nat) : Bool :=
  0xDC00 ≤ unit && unit < 0xE000

/-- The characters of a list of units; a half without its other half has none. -/
def joinUnits : List Nat → Option (List Char)
  | [] => some []
  | high :: low :: rest =>
    if isHighHalf high then
      if isLowHalf low then do
        let chars ← joinUnits rest
        return Char.ofNat (0x10000 + (high - 0xD800) * 0x400 + (low - 0xDC00)) :: chars
      else none
    else if isLowHalf high then none
    else do
      let chars ← joinUnits (low :: rest)
      return Char.ofNat high :: chars
  | [unit] => if isHighHalf unit || isLowHalf unit then none else some [Char.ofNat unit]

/-! ## Tokens -/

/-- The characters that may stand between tokens. -/
def isGap (c : Char) : Bool :=
  c ∈ [' ', '\t', '\n', '\r']

def isAtomChar (c : Char) : Bool :=
  c.isAlphanum || c == '+' || c == '-' || c == '.'

def mark? (c : Char) : Option Token :=
  match c with
  | '[' => some .beginArray
  | ']' => some .endArray
  | '\x7b' => some .beginObject
  | '\x7d' => some .endObject
  | ':' => some .colon
  | ',' => some .comma
  | _ => none

/-- The first token and what follows it. -/
def firstToken? (limit : Nat) (c : Char) (rest : List Char) : Option (Token × List Char) :=
  match mark? c with
  | some mark => some (mark, rest)
  | none =>
    if c = '"' then do
      let (units, tail) ← takeUnits rest
      let chars ← joinUnits units
      return (.quoted (String.ofList chars), tail)
    else if isAtomChar c then do
      let value ← atom? limit (c :: rest.takeWhile isAtomChar)
      return (.atom value, rest.dropWhile isAtomChar)
    else none

/-- The tokens of a text, of which at most `count` are read. -/
def tokensUpTo (limit : Nat) : Nat → List Char → Option (List Token)
  | 0, _ => none
  | count + 1, chars =>
    match chars.dropWhile isGap with
    | [] => some []
    | c :: rest => do
      let (token, tail) ← firstToken? limit c rest
      let others ← tokensUpTo limit count tail
      return token :: others

/-- The tokens of a text. Each takes a character at least, so their number is bounded. -/
def tokens? (limit : Nat) (text : String) : Option (List Token) :=
  tokensUpTo limit (text.toList.length + 1) text.toList

/-! ## Values -/

mutual

/-- A value at the front of the tokens, and the tokens after it. -/
def takeValue : Nat → Nat → List Token → Option (Json × List Token)
  | 0, _, _ => none
  | steps + 1, depth, tokens =>
    match tokens, depth with
    | .atom value :: rest, _ => some (value, rest)
    | .quoted value :: rest, _ => some (text value, rest)
    | .beginArray :: .endArray :: rest, _ => some (array [], rest)
    | .beginObject :: .endObject :: rest, _ => some (object [], rest)
    | .beginArray :: rest, depth + 1 => do
      let (items, tail) ← takeItems steps depth rest
      return (array items, tail)
    | .beginObject :: rest, depth + 1 => do
      let (fields, tail) ← takeFields steps depth [] rest
      return (object fields, tail)
    | _, _ => none

/-- The items of an array up to its end. -/
def takeItems : Nat → Nat → List Token → Option (List Json × List Token)
  | 0, _, _ => none
  | steps + 1, depth, tokens => do
    let (item, rest) ← takeValue steps depth tokens
    match rest with
    | .endArray :: tail => return ([item], tail)
    | .comma :: tail =>
      let (items, after) ← takeItems steps depth tail
      return (item :: items, after)
    | _ => none

/-- The fields of an object up to its end, set after those before them. -/
def takeFields : Nat → Nat → List (String × Json) → List Token →
    Option (List (String × Json) × List Token)
  | 0, _, _, _ => none
  | steps + 1, depth, before, tokens =>
    match tokens with
    | .quoted name :: .colon :: rest => do
      let (value, tail) ← takeValue steps depth rest
      let fields := putField before name value
      match tail with
      | .endObject :: after => return (fields, after)
      | .comma :: after => takeFields steps depth fields after
      | _ => none
    | _ => none

end

/-- The value that a text denotes, if it is one JSON value whose numbers have at most `limit` digits
and whose containers lie at most `depth` deep. -/
def read? (limit depth : Nat) (text : String) : Option Json := do
  let tokens ← tokens? limit text
  match ← takeValue (2 * tokens.length + 2) depth tokens with
  | (value, []) => return value
  | _ => none

end TestBench.Json
