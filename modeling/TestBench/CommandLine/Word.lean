import TestBench.CommandLine.Flag
import TestBench.CommandLine.Value
import TestBench.Text.Digit
import TestBench.Text.Lines

/-!
The words of a command line. `classify?` says what a word is on its own; `classifyAll` goes through
all words, and after the first separator every word is an operand.
-/
namespace TestBench.CommandLine
set_option autoImplicit false

/-- What a word of the command line is. `short` says that an option is spelled with one dash, and
`attached` is the text that follows the spelling within the word. -/
inductive Word where
  | operand
  | separator
  | option (flag : Flag) (short : Bool) (attached : Option String)
  | unknown
deriving DecidableEq, Repr

namespace Word

/-- The text before the first equals sign, and the text after it if there is one. -/
def cutAtEquals (text : List Char) : List Char × Option (List Char) :=
  (text.takeWhile (· != '='), (text.dropWhile (· != '=')).tail?)

/-- A text that looks like a negative number. One line feed may follow. -/
def isNegativeNumber (text : List Char) : Bool :=
  match Text.dropFinal '\n' text with
  | '-' :: rest =>
    match rest.dropWhile Text.isDigit with
    | [] => !rest.isEmpty
    | '.' :: decimals => !decimals.isEmpty && decimals.all Text.isDigit
    | _ => false
  | _ => false

/-- The options that an abbreviation may stand for, with their spellings. Only the part before an
equals sign counts, and only long spellings can be abbreviated. To a short one its value may be
attached directly. -/
def candidates (text : List Char) : List (String × Word) :=
  match text with
  | '-' :: '-' :: _ =>
    let (spelled, value) := cutAtEquals text
    (spellings.filter fun entry => spelled.isPrefixOf entry.1.toList).map fun entry =>
      (entry.1, .option entry.2 false (value.map String.ofList))
  | dash :: letter :: rest =>
    (spellings.filter fun entry => entry.1.toList = [dash, letter]).map fun entry =>
      (entry.1, .option entry.2 true (some (String.ofList rest)))
  | _ => []

/-- What a word that is spelled out means: an option, perhaps with a value after an equals sign. -/
def spelledOut? (text : List Char) : Option Word :=
  let short := !(['-', '-'].isPrefixOf text)
  match Flag.ofSpelling? (String.ofList text) with
  | some flag => some (.option flag short none)
  | none =>
    match cutAtEquals text with
    | (_, none) => none
    | (spelled, some value) =>
      (Flag.ofSpelling? (String.ofList spelled)).map fun flag =>
        .option flag short (some (String.ofList value))

/-- The message about an abbreviation that may stand for several options. -/
def ambiguity (text : String) (found : List (String × Word)) : String :=
  "ambiguous option: " ++ text ++ " could match " ++ ", ".intercalate (found.map Prod.fst)

/-- What a word is. A word that begins with a dash and is no option is an operand if it looks like a
negative number or holds a blank. -/
def classify (text : String) : Except String Word :=
  let chars := text.toList
  match chars with
  | [] => .ok .operand
  | ['-'] => .ok .operand
  | first :: _ =>
    if first ≠ '-' then .ok .operand
    else match spelledOut? chars with
      | some word => .ok word
      | none =>
        match candidates chars with
        | [(_, word)] => .ok word
        | [] => .ok (if isNegativeNumber chars || chars.contains ' ' then .operand else .unknown)
        | found => .error (ambiguity text found)

def classifyAll : List String → Except String (List (String × Word))
  | [] => .ok []
  | text :: rest =>
    if text = CommandLine.separator then .ok ((text, .separator) :: rest.map fun operand => (operand, .operand))
    else match classify text with
      | .error message => .error message
      | .ok word =>
        match classifyAll rest with
        | .error message => .error message
        | .ok words => .ok ((text, word) :: words)

end Word
end TestBench.CommandLine
