import TestBench.Text.Utf8

/-!
Lines. Two rules are in use:

- `outputLines` takes a program's raw output apart at line feeds, each line losing one terminator,
- `textLines` takes a text apart at every line boundary of Unicode.
-/
namespace TestBench.Text
set_option autoImplicit false

/-! ## Pieces between separators -/

/-- The pieces between separators; there is one more piece than there are separators. -/
def splitOn {α : Type} [DecidableEq α] (separator : α) : List α → List (List α)
  | [] => [[]]
  | x :: rest =>
    if x = separator then [] :: splitOn separator rest
    else match splitOn separator rest with
      | [] => [[x]]
      | piece :: pieces => (x :: piece) :: pieces

/-- The pieces with separators between them again. -/
def joinWith {α : Type} (separator : α) : List (List α) → List α
  | [] => []
  | [piece] => piece
  | piece :: pieces => piece ++ separator :: joinWith separator pieces

/-- Takes off one `x` at the end, if there is one. -/
def dropFinal {α : Type} [DecidableEq α] (x : α) (items : List α) : List α :=
  if items.getLast? = some x then items.dropLast else items

theorem splitOn_ne_nil {α : Type} [DecidableEq α] (separator : α) (items : List α) :
    splitOn separator items ≠ [] := by
  cases items with
  | nil => simp [splitOn]
  | cons x rest =>
    rw [splitOn]
    split
    · simp
    · split <;> simp

theorem joinWith_splitOn {α : Type} [DecidableEq α] (separator : α) (items : List α) :
    joinWith separator (splitOn separator items) = items := by
  induction items with
  | nil => rfl
  | cons x rest ih =>
    have h := splitOn_ne_nil separator rest
    rw [splitOn]
    split
    · subst x
      cases e : splitOn separator rest with
      | nil => exact absurd e h
      | cons piece pieces => rw [e] at ih; simp [joinWith, ih]
    · cases e : splitOn separator rest with
      | nil => exact absurd e h
      | cons piece pieces =>
        rw [e] at ih
        cases pieces with
        | nil => simpa [joinWith] using ih
        | cons next others => simpa [joinWith] using ih

/-! ## Raw output -/

/-- The lines of raw output before decoding: each loses its line feed and one carriage return
before it. What follows the last line feed is a line of its own unless it is empty. -/
def rawLines (octets : List UInt8) : List (List UInt8) :=
  let pieces := splitOn 10 octets
  let last := pieces.getLast?.getD []
  pieces.dropLast.map (dropFinal 13) ++ (if last.isEmpty then [] else [last])

def outputLines (octets : List UInt8) : List String :=
  (rawLines octets).map fun line => String.ofList (Utf8.decode line)

/-! ## Unicode lines -/

def isLineEnd (c : Char) : Bool :=
  c ∈ ['\n', '\x0b', '\x0c', '\r', '\x1c', '\x1d', '\x1e', '\u0085', '\u2028', '\u2029']

/-- The lines of a text at every line boundary. A carriage return and a line feed after it are one
boundary, and no empty line follows the last boundary. -/
def textLines : List Char → List (List Char)
  | [] => []
  | '\r' :: '\n' :: rest => [] :: textLines rest
  | c :: rest =>
    if isLineEnd c then [] :: textLines rest
    else match textLines rest with
      | [] => [[c]]
      | line :: lines => (c :: line) :: lines

/-- Line ends written `\r\n` or `\r` become `\n`. -/
def unifyLineEnds : List Char → List Char
  | [] => []
  | '\r' :: '\n' :: rest => '\n' :: unifyLineEnds rest
  | c :: rest => (if c = '\r' then '\n' else c) :: unifyLineEnds rest

end TestBench.Text
