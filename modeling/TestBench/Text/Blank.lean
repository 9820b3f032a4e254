import TestBench.Text.CharSet

/-!
Blank characters. `isSpace` is the Unicode property White_Space. `isBlank` adds the four
information separators, which also count as blank when text is stripped or scanned for words.
-/
namespace TestBench.Text
set_option autoImplicit false

/-- The code points of the Unicode property White_Space. -/
def spaceRanges : List (Nat × Nat) :=
  [(0x9, 0xd), (0x20, 0x20), (0x85, 0x85), (0xa0, 0xa0), (0x1680, 0x1680), (0x2000, 0x200a),
    (0x2028, 0x2029), (0x202f, 0x202f), (0x205f, 0x205f), (0x3000, 0x3000)]

def isSpace (c : Char) : Bool :=
  inRanges spaceRanges c

/-- White space or one of the separators U+001C to U+001F. -/
def isBlank (c : Char) : Bool :=
  isSpace c || inRanges [(0x1c, 0x1f)] c

/-- Drops what satisfies `p` from both ends. -/
def trim (p : Char → Bool) (text : List Char) : List Char :=
  ((text.dropWhile p).reverse.dropWhile p).reverse

/-- Drops blank characters from both ends. -/
def strip (text : List Char) : List Char :=
  trim isBlank text

theorem isBlank_of_isSpace {c : Char} (h : isSpace c = true) : isBlank c = true := by
  simp [isBlank, h]

end TestBench.Text
