import TestBench.Fault
import TestBench.Path
import TestBench.Text.Blank
import TestBench.Text.Word

/-!
Package declarations. `declared?` finds the first line of a source that begins with a declaration,
and `root` finds the directory above the directories of a package.
-/
namespace TestBench.Package
set_option autoImplicit false

/-- Drops a text at the front. -/
def dropWord? (word : List Char) (text : List Char) : Option (List Char) :=
  if word.isPrefixOf text then some (text.drop word.length) else none

def isNameChar (c : Char) : Bool :=
  Text.isWordChar c || c == '.'

/-- The package that is declared at the front of a text: the word, a blank, a name, and a semicolon,
with blanks between them. -/
def declaredHere? (text : List Char) : Option String := do
  let rest ← dropWord? "package".toList (text.dropWhile Text.isBlank)
  let afterGap := rest.dropWhile Text.isBlank
  let name := afterGap.takeWhile isNameChar
  if rest.length = afterGap.length ∨ name.isEmpty then none
  else
    match (afterGap.dropWhile isNameChar).dropWhile Text.isBlank with
    | ';' :: _ => some (String.ofList name)
    | _ => none

/-- The first package that is declared at the start of a line. `fresh` says that the text begins
with a line. -/
def declaredFrom? : Bool → List Char → Option String
  | fresh, [] => if fresh then declaredHere? [] else none
  | fresh, c :: rest =>
    match if fresh then declaredHere? (c :: rest) else none with
    | some name => some name
    | none => declaredFrom? (c == '\n') rest

def declared? (text : List Char) : Option String :=
  declaredFrom? true text

def parts (package : String) : List String :=
  (Text.splitOn '.' package.toList).map String.ofList

/-- The source root of a file that belongs to a package: the directory above the directories of the
package if the file lies in them, and otherwise the directory of the file. -/
def root (source : Path) (package : Option String) : Except Fault Path :=
  let directory := source.parent
  match package with
  | none => .ok directory
  | some "" => .ok directory
  | some name =>
    let wanted := parts name
    if !wanted.isSuffixOf directory.parts then .ok directory
    else if wanted.length ≤ directory.names.length then .ok (directory.dropLast wanted.length)
    else .error (.other "IndexError" (.plain (toString (wanted.length - 1))))

end TestBench.Package
