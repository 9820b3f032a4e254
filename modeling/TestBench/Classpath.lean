import TestBench.Distinct
import TestBench.Path

/-!
Classpaths: locations of compiled code in the order in which they are searched, none of them twice.
Adding a classpath to another keeps the first occurrence of each location, so an entry never moves
and none is lost.
-/
namespace TestBench
set_option autoImplicit false

/-- Locations in search order. -/
structure Classpath where
  entries : List Path
  nodup : entries.Nodup
deriving DecidableEq

namespace Classpath

def of (locations : List Path) : Classpath where
  entries := distinct locations
  nodup := nodup_distinct locations

def empty : Classpath :=
  of []

/-- The entries of the first classpath, and those of the second that the first one lacks. -/
def add (first second : Classpath) : Classpath :=
  of (first.entries ++ second.entries)

instance : Add Classpath where
  add := add

/-- A classpath as one argument. -/
protected def toString (classpath : Classpath) : String :=
  ":".intercalate (classpath.entries.map Path.toString)

instance : ToString Classpath where
  toString := Classpath.toString

/-! ## Entries -/

theorem ext_entries {a b : Classpath} (h : a.entries = b.entries) : a = b := by
  cases a
  cases b
  simp_all

@[simp] theorem entries_of (locations : List Path) : (of locations).entries = distinct locations :=
  rfl

theorem entries_add (first second : Classpath) :
    (first + second).entries =
      first.entries ++ second.entries.filter (· ∉ first.entries) := by
  change distinct (first.entries ++ second.entries) = _
  rw [distinct_append, distinct_eq_self first.nodup, distinct_eq_self second.nodup]

theorem mem_add {first second : Classpath} {entry : Path} :
    entry ∈ (first + second).entries ↔ entry ∈ first.entries ∨ entry ∈ second.entries := by
  change entry ∈ distinct (first.entries ++ second.entries) ↔ _
  rw [mem_distinct, List.mem_append]

end Classpath
end TestBench
