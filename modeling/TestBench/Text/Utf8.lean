/-!
UTF-8, read forgivingly. Octets that belong to no character are shown as U+FFFD, one for each
longest piece that could still have become a character:

- `Pending` is a character that has begun and still waits for octets,
- `step` takes one octet and gives the characters that are now complete,
- `decode` runs `step` over all octets.
-/
namespace TestBench.Text.Utf8
set_option autoImplicit false

/-- The character that stands for an undecodable piece. -/
def replacement : Char := '\uFFFD'

/-- A character that has begun: `owed` more octets follow, the next one between `low` and `high`;
`bits` holds what has been read. -/
structure Pending where
  owed : Nat
  bits : Nat
  low : Nat
  high : Nat
deriving DecidableEq, Repr

/-- What a leading octet announces. The bounds on the next octet shut out overlong forms,
surrogates and code points above U+10FFFF. -/
def lead? (octet : Nat) : Option Pending :=
  if 0xC2 ≤ octet ∧ octet ≤ 0xDF then some ⟨1, octet - 0xC0, 0x80, 0xBF⟩
  else if octet = 0xE0 then some ⟨2, 0, 0xA0, 0xBF⟩
  else if octet = 0xED then some ⟨2, 0xD, 0x80, 0x9F⟩
  else if 0xE1 ≤ octet ∧ octet ≤ 0xEF then some ⟨2, octet - 0xE0, 0x80, 0xBF⟩
  else if octet = 0xF0 then some ⟨3, 0, 0x90, 0xBF⟩
  else if 0xF1 ≤ octet ∧ octet ≤ 0xF3 then some ⟨3, octet - 0xF0, 0x80, 0xBF⟩
  else if octet = 0xF4 then some ⟨3, 4, 0x80, 0x8F⟩
  else none

/-- An octet at the start of a character. -/
def start (octet : UInt8) : List Char × Option Pending :=
  if octet.toNat < 0x80 then ([Char.ofNat octet.toNat], none)
  else match lead? octet.toNat with
    | some pending => ([], some pending)
    | none => ([replacement], none)

/-- An octet inside a character: it continues the character, or cuts it short and starts anew. -/
def resume (pending : Pending) (octet : UInt8) : List Char × Option Pending :=
  if pending.low ≤ octet.toNat ∧ octet.toNat ≤ pending.high then
    let bits := pending.bits * 64 + (octet.toNat - 0x80)
    if pending.owed ≤ 1 then ([Char.ofNat bits], none)
    else ([], some ⟨pending.owed - 1, bits, 0x80, 0xBF⟩)
  else
    let (fresh, state) := start octet
    (replacement :: fresh, state)

/-- One octet: the characters it completes and the state after it. -/
def step (state : Option Pending) (octet : UInt8) : List Char × Option Pending :=
  match state with
  | none => start octet
  | some pending => resume pending octet

/-- What is left at the end: a character cut short is one replacement. -/
def finish : Option Pending → List Char
  | none => []
  | some _ => [replacement]

def decodeFrom (state : Option Pending) : List UInt8 → List Char
  | [] => finish state
  | octet :: rest =>
    let (complete, next) := step state octet
    complete ++ decodeFrom next rest

/-- The characters of an octet string, with replacements for what is not UTF-8. -/
def decode (octets : List UInt8) : List Char :=
  decodeFrom none octets

def encode (text : List Char) : List UInt8 :=
  text.flatMap String.utf8EncodeChar

def length (text : List Char) : Nat :=
  (encode text).length

end TestBench.Text.Utf8
