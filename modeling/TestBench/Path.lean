import TestBench.Text.Lines

/-!
Paths. `Path.parse` reads a location the way it is written and drops what has no meaning: repeated
separators, single dots and a separator at the end. Two dots stay, since they mean something only
on a disk. So two paths are equal exactly when they are written from the same names and the same
anchor, and `Path.toString` writes each path in one way.
-/
namespace TestBench
set_option autoImplicit false

/-- Where a path starts: in the working directory, or at the root. Two separators in front, and no
third, are a root of their own. -/
inductive Anchor where
  | relative
  | root
  | doubleRoot
deriving DecidableEq, Repr

/-- The separators that an anchor is written with. -/
def Anchor.text : Anchor → String
  | .relative => ""
  | .root => "/"
  | .doubleRoot => "//"

/-- A name of one path component: not empty, not a single dot, and without a separator. -/
def IsName (name : String) : Prop :=
  name ≠ "" ∧ name ≠ "." ∧ '/' ∉ name.toList

instance (name : String) : Decidable (IsName name) :=
  inferInstanceAs (Decidable (_ ∧ _ ∧ _))

/-- A path: an anchor and the names below it. -/
structure Path where
  anchor : Anchor
  names : List String
  isName : ∀ name ∈ names, IsName name
deriving DecidableEq, Repr

namespace Path

/-- The path below an anchor with those of the names that are names. -/
def ofNames (anchor : Anchor) (names : List String) : Path where
  anchor := anchor
  names := names.filter fun name => IsName name
  isName := by simp

def anchorOf (text : List Char) : Anchor :=
  match (text.takeWhile (· == '/')).length with
  | 0 => .relative
  | 2 => .doubleRoot
  | _ => .root

def parse (text : String) : Path :=
  ofNames (anchorOf text.toList) ((Text.splitOn '/' text.toList).map String.ofList)

def here : Path :=
  ofNames .relative []

/-- The components: the anchor, if it is written, and the names. -/
def parts (path : Path) : List String :=
  if path.anchor = .relative then path.names else path.anchor.text :: path.names

protected def toString (path : Path) : String :=
  if path.parts = [] then "." else path.anchor.text ++ "/".intercalate path.names

instance : ToString Path where
  toString := Path.toString

/-- Whether a path starts at a root. -/
def isAbsolute (path : Path) : Bool :=
  path.anchor ≠ .relative

/-- A path that starts from another one; one that starts at a root stays as it is. -/
def join (base path : Path) : Path :=
  if path.isAbsolute then path
  else ⟨base.anchor, base.names ++ path.names, by
    intro name member
    rcases List.mem_append.mp member with h | h
    · exact base.isName name h
    · exact path.isName name h⟩

/-- What a written path means below another one. -/
def child (base : Path) (text : String) : Path :=
  base.join (parse text)

/-- The path without its last names; an anchor has nothing to drop. -/
def dropLast (path : Path) (count : Nat) : Path where
  anchor := path.anchor
  names := path.names.take (path.names.length - count)
  isName := fun name member => path.isName name (List.mem_of_mem_take member)

def parent (path : Path) : Path :=
  path.dropLast 1

/-- The last name; an anchor alone has none. -/
def name (path : Path) : String :=
  path.names.getLast?.getD ""

/-- The position of the last dot in a name, if something stands before it and after it. -/
def extensionAt? (name : List Char) : Option Nat :=
  let after := (name.reverse.takeWhile (· != '.')).length
  if 0 < after ∧ after + 1 < name.length then some (name.length - after - 1) else none

/-- The last name up to its extension. -/
def stem (path : Path) : String :=
  match extensionAt? path.name.toList with
  | none => path.name
  | some position => String.ofList (path.name.toList.take position)

/-- The extension of the last name with its dot, or nothing. -/
def extension (path : Path) : String :=
  match extensionAt? path.name.toList with
  | none => ""
  | some position => String.ofList (path.name.toList.drop position)

/-- Lists of components are ordered by the first components that differ. -/
def partsLe : List String → List String → Bool
  | [], _ => true
  | _ :: _, [] => false
  | a :: as, b :: bs => if a = b then partsLe as bs else decide (a ≤ b)

/-- Paths are ordered component by component, by code points. -/
def le (a b : Path) : Bool :=
  partsLe a.parts b.parts

def sort (paths : List Path) : List Path :=
  paths.mergeSort le

/-! ## Rules -/

theorem ext_names {a b : Path} (anchor : a.anchor = b.anchor) (names : a.names = b.names) :
    a = b := by
  cases a
  cases b
  simp_all

theorem ofNames_eq_self (path : Path) : ofNames path.anchor path.names = path := by
  apply ext_names
  · rfl
  · simpa [ofNames] using fun name member => path.isName name member

theorem join_absolute {base path : Path} (h : path.isAbsolute = true) : base.join path = path := by
  simp [join, h]

theorem dropLast_zero (path : Path) : path.dropLast 0 = path := by
  apply ext_names <;> simp [dropLast]

end Path
end TestBench
