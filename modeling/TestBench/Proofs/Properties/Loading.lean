import TestBench.Json.Reader
import TestBench.Properties

/-!
How the program under test reads a properties file: the load grammar of `java.util.Properties`. The
octets are Latin-1, a text is a list of UTF-16 units, and reading goes in three stages:

- `naturalLines` takes the text apart at line ends,
- `logicalLines` drops blank lines and comments and joins a line with the next one at a backslash,
- `readLine?` takes a logical line apart at the end of its key and undoes the escapes of both parts.
-/
namespace TestBench.Properties
set_option autoImplicit false
open TestBench.Text

/-! ## Lines -/

def isGap (c : Char) : Bool :=
  c ∈ [' ', '\t', '\x0c']

def naturalLines (content : List Char) : List (List Char) :=
  splitOn '\n' (unifyLineEnds content)

/-- Blank lines and comments. -/
def isIgnored : List Char → Bool
  | [] => true
  | c :: _ => c ∈ ['#', '!']

/-- Whether a line ends in a backslash that no backslash before it escapes. -/
def endsOpen : List Char → Bool
  | [] => false
  | '\\' :: rest =>
    match rest with
    | [] => true
    | _ :: others => endsOpen others
  | _ :: rest => endsOpen rest

/-- The logical lines; `begun` is what a line has already that goes on in the next one. -/
def logicalLines (begun : Option (List Char)) : List (List Char) → List (List Char)
  | [] => begun.toList
  | line :: rest =>
    let body := line.dropWhile isGap
    if begun.isNone && isIgnored body then logicalLines none rest
    else
      let joined := begun.getD [] ++ body
      if endsOpen joined then logicalLines (some joined.dropLast) rest
      else joined :: logicalLines none rest

/-! ## Entries -/

/-- What ends a key unless a backslash escapes it. -/
def endsKey (c : Char) : Bool :=
  c ∈ ['=', ':'] || isGap c

/-- A line up to the end of its key, and from there. -/
def splitKey : List Char → List Char × List Char
  | [] => ([], [])
  | '\\' :: rest =>
    match rest with
    | [] => (['\\'], [])
    | c :: others =>
      let (key, tail) := splitKey others
      ('\\' :: c :: key, tail)
  | c :: rest =>
    if endsKey c then ([], c :: rest)
    else
      let (key, tail) := splitKey rest
      (c :: key, tail)

/-- Drops the gap after a key, with at most one separator in it. -/
def dropSeparator (tail : List Char) : List Char :=
  match tail.dropWhile isGap with
  | [] => []
  | c :: rest => if c ∈ ['=', ':'] then rest.dropWhile isGap else c :: rest

/-- The number that hexadecimal digits write. -/
def hexNumber? (digits : List Char) : Option Nat :=
  digits.foldlM (fun number digit => (hexValue? digit).map (number * 16 + ·)) 0

/-- The unit that a letter after a backslash means; other characters mean themselves. -/
def escapedUnit (c : Char) : Nat :=
  match c with
  | 't' => 9
  | 'n' => 10
  | 'f' => 12
  | 'r' => 13
  | _ => c.toNat

/-- The units of a part of a line; nothing if `\u` is not followed by four digits. -/
def unescape : List Char → Option (List Nat)
  | [] => some []
  | '\\' :: 'u' :: a :: b :: c :: d :: rest => do
    let unit ← hexNumber? [a, b, c, d]
    let units ← unescape rest
    return unit :: units
  | '\\' :: 'u' :: _ => none
  | '\\' :: c :: rest => (unescape rest).map (escapedUnit c :: ·)
  | c :: rest => (unescape rest).map (c.toNat :: ·)

def readLine? (line : List Char) : Option (List Nat × List Nat) := do
  let (key, tail) := splitKey line
  let keyUnits ← unescape key
  let valueUnits ← unescape (dropSeparator tail)
  return (keyUnits, valueUnits)

/-- The entries of a properties file in the order of its lines. -/
def load (octets : List UInt8) : Option (List (List Nat × List Nat)) :=
  ((logicalLines none (naturalLines (decode octets).toList)).filter (· ≠ [])).mapM readLine?

/-- A text as its reader holds it. -/
def utf16 (text : String) : List Nat :=
  text.toList.flatMap utf16Units

/-- The text that a reader holds, if every unit belongs to a character. -/
def textOf? (units : List Nat) : Option String :=
  (Json.joinUnits units).map String.ofList

end TestBench.Properties
