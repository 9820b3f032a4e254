import TestBench.Json.Value
import TestBench.Text.Hex

/-!
Printing JSON. The text is ASCII: every other character is escaped by its UTF-16 units. `inline`
writes a value on one line, `indented` puts each item on a line of its own.
-/
namespace TestBench.Json
set_option autoImplicit false
open TestBench.Text

/-- One character between quotes. -/
def escapeChar (c : Char) : List Char :=
  match c with
  | '"' => ['\\', '"']
  | '\\' => ['\\', '\\']
  | '\n' => ['\\', 'n']
  | '\r' => ['\\', 'r']
  | '\t' => ['\\', 't']
  | '\x0c' => ['\\', 'f']
  | '\x08' => ['\\', 'b']
  | c =>
    if ' ' ≤ c ∧ c ≤ '~' then [c]
    else (utf16Units c).flatMap fun unit => '\\' :: 'u' :: hexDigits 'a' 4 unit

def quoteText (text : String) : String :=
  String.ofList ('"' :: text.toList.flatMap escapeChar ++ ['"'])

/-- A number with a point or an exponent. -/
def scaledText (mantissa exponent : Int) : String :=
  toString mantissa ++ "e" ++ toString exponent

mutual

def inline : Json → String
  | null => "null"
  | bool true => "true"
  | bool false => "false"
  | whole value => toString value
  | scaled mantissa exponent => scaledText mantissa exponent
  | infinite false => "Infinity"
  | infinite true => "-Infinity"
  | notANumber => "NaN"
  | text value => quoteText value
  | array items => "[" ++ ", ".intercalate (inlineItems items) ++ "]"
  | object fields => "\x7b" ++ ", ".intercalate (inlineFields fields) ++ "\x7d"

def inlineItems : List Json → List String
  | [] => []
  | item :: items => inline item :: inlineItems items

def inlineFields : List (String × Json) → List String
  | [] => []
  | (name, value) :: fields => (quoteText name ++ ": " ++ inline value) :: inlineFields fields

end

/-- Lines between an opening and a closing mark, indented by two blanks more than the marks. -/
def block (level : Nat) (first last : String) (lines : List String) : String :=
  if lines.isEmpty then first ++ last
  else
    let margin (count : Nat) : String := String.ofList ('\n' :: List.replicate (2 * count) ' ')
    first ++ margin (level + 1) ++ ("," ++ margin (level + 1)).intercalate lines
      ++ margin level ++ last

mutual

/-- A value over several lines that stands at a level of indentation. -/
def indentedAt (level : Nat) : Json → String
  | array items => block level "[" "]" (indentedItems (level + 1) items)
  | object fields => block level "\x7b" "\x7d" (indentedFields (level + 1) fields)
  | value => inline value

def indentedItems (level : Nat) : List Json → List String
  | [] => []
  | item :: items => indentedAt level item :: indentedItems level items

def indentedFields (level : Nat) : List (String × Json) → List String
  | [] => []
  | (name, value) :: fields =>
    (quoteText name ++ ": " ++ indentedAt level value) :: indentedFields level fields

end

/-- A value over several lines, indented by two blanks a level. -/
def indented (value : Json) : String :=
  indentedAt 0 value

end TestBench.Json
