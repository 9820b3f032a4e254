import TestBench.Text.Hex
import TestBench.Text.Printable

/-!
Quoted text, as messages show names and arguments. The text stands between single quotes, or
between double quotes when it holds a single quote and no double quote. What cannot be printed is
escaped by its code point.
-/
namespace TestBench.Text
set_option autoImplicit false

def quoteMark (text : List Char) : Char :=
  if text.contains '\'' && !text.contains '"' then '"' else '\''

def escapeQuoted (mark c : Char) : List Char :=
  if c = '\\' || c = mark then ['\\', c]
  else if c = '\n' then ['\\', 'n']
  else if c = '\r' then ['\\', 'r']
  else if c = '\t' then ['\\', 't']
  else if isPrintable c then [c]
  else if c.toNat < 0x100 then '\\' :: 'x' :: hexDigits 'a' 2 c.toNat
  else if c.toNat < 0x10000 then '\\' :: 'u' :: hexDigits 'a' 4 c.toNat
  else '\\' :: 'U' :: hexDigits 'a' 8 c.toNat

def quote (text : String) : String :=
  let mark := quoteMark text.toList
  String.ofList (mark :: text.toList.flatMap (escapeQuoted mark) ++ [mark])

/-- Quoted texts between square brackets. -/
def quoteList (texts : List String) : String :=
  "[" ++ ", ".intercalate (texts.map quote) ++ "]"

end TestBench.Text
