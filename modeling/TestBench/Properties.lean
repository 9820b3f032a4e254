import TestBench.Host
import TestBench.Json.Value
import TestBench.Text.Hex
import TestBench.Timestamp

/-!
Properties files, which the program under test reads when it starts. A file begins with two comment
lines, the second of which is the date; each entry is one line `key=value`. The text is Latin-1, and
the entries are escaped down to printable ASCII, so only a comment can fail to be written.
-/
namespace TestBench.Properties
set_option autoImplicit false
open TestBench.Text

def fileName : String := "test.properties"

def testClassKey : String := "testClass"

def qualifiedNameKey : String := "qualifiedName"

/-- What a test prints last when it has passed. -/
def sentinel : String := "All tests passed!"

/-! ## Escaping -/

/-- One character of an entry. `bare` says that a blank needs no escape here. -/
def escapeChar (bare : Bool) (c : Char) : List Char :=
  if c = '\\' then ['\\', '\\']
  else if c = '\n' then ['\\', 'n']
  else if c = '\r' then ['\\', 'r']
  else if c = '\t' then ['\\', 't']
  else if c = '\x0c' then ['\\', 'f']
  else if c ∈ ['=', ':', '#', '!'] then ['\\', c]
  else if c = ' ' then if bare then [c] else ['\\', c]
  else if ' ' ≤ c ∧ c ≤ '~' then [c]
  else (utf16Units c).flatMap fun unit => '\\' :: 'u' :: hexDigits 'A' 4 unit

/-- A key: every blank is escaped. -/
def escapeKey (key : List Char) : List Char :=
  key.flatMap (escapeChar false)

/-- A value: only a blank in front is escaped. -/
def escapeValue : List Char → List Char
  | [] => []
  | c :: rest => escapeChar false c ++ rest.flatMap (escapeChar true)

def entryLine (entry : String × String) : List Char :=
  escapeKey entry.1.toList ++ '=' :: escapeValue entry.2.toList

/-! ## Files -/

def text (comment : String) (moment : Int) (entries : List (String × String)) : List Char :=
  (('#' :: comment.toList) :: ('#' :: (Timestamp.text moment).toList) :: entries.map entryLine).flatMap
    fun line => line ++ ['\n']

/-- A character that has an octet of its own in Latin-1. -/
def isLatin1 (c : Char) : Bool :=
  c.toNat < 256

/-- How a message shows a character that cannot be written. -/
def shownChar (c : Char) : String :=
  if c.toNat < 0x10000 then String.ofList ('\\' :: 'u' :: hexDigits 'a' 4 c.toNat)
  else String.ofList ('\\' :: 'U' :: hexDigits 'a' 8 c.toNat)

/-- The fault of a text that is not Latin-1: it names the first characters that are not. -/
def unencodable (content : List Char) : Fault :=
  let position := (content.takeWhile isLatin1).length
  let run := (content.dropWhile isLatin1).takeWhile fun c => !isLatin1 c
  let place := match run with
    | [c] => "character '" ++ shownChar c ++ "' in position " ++ toString position
    | _ => "characters in position " ++ toString position ++ "-"
      ++ toString (position + run.length - 1)
  .other "UnicodeEncodeError"
    (.plain ("'latin-1' codec can't encode " ++ place ++ ": ordinal not in range(256)"))

def encode (content : List Char) : Except Fault (List UInt8) :=
  if content.all isLatin1 then .ok (content.map fun c => UInt8.ofNat c.toNat)
  else .error (unencodable content)

def decode (octets : List UInt8) : String :=
  String.ofList (octets.map fun octet => Char.ofNat octet.toNat)

/-- Entries of which each key keeps its first place and its last value. -/
def unify (entries : List (String × String)) : List (String × String) :=
  Json.putFields [] entries

/-- Writes a properties file into a directory. The file is emptied before its text is encoded. -/
def write (directory : Path) (entries : List (String × String)) (comment : String) (host : Host) :
    Except Fault Path × Host :=
  let path := directory.child fileName
  match host.disk.write path [] with
  | .error obstacle => (.error (obstacle.fault path), host)
  | .ok emptied =>
    match encode (text comment host.epoch entries) with
    | .error fault => (.error fault, { host with disk := emptied })
    | .ok octets =>
      match emptied.write path octets with
      | .error obstacle => (.error (obstacle.fault path), { host with disk := emptied })
      | .ok written => (.ok path, { host with disk := written })

end TestBench.Properties
