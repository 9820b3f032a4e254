import TestBench.Discovery.Package
import TestBench.Proofs.Path
import TestBench.Proofs.Text.Lines

/-!
The source root of a file. The directories of a package are taken off the directory of a file only if
it ends with all of them, so putting them back always leads to the file again.

- `descend_names`: names put below a path,
- `suffix_names`: a package that the components of a path end with is made of names,
- `root_descend`: the root of every file.
-/
namespace TestBench
set_option autoImplicit false

namespace Path

/-- Goes down one directory after the other. -/
def descend (base : Path) (names : List String) : Path :=
  names.foldl child base

theorem descend_names (base : Path) {names : List String} (h : ∀ name ∈ names, IsName name) :
    (base.descend names).anchor = base.anchor ∧
      (base.descend names).names = base.names ++ names := by
  induction names generalizing base with
  | nil => exact ⟨rfl, (List.append_nil _).symm⟩
  | cons name rest ih =>
    rw [List.forall_mem_cons] at h
    obtain ⟨anchor, below⟩ := ih (base.child name) h.2
    rw [anchor_child h.1] at anchor
    rw [names_child h.1, List.append_assoc] at below
    exact ⟨anchor, below⟩

/-- Components without a separator that a path ends with are names of it: the anchor is written with
separators. -/
theorem suffix_names {path : Path} {wanted : List String}
    (single : ∀ part ∈ wanted, '/' ∉ part.toList) (h : wanted <:+ path.parts) :
    wanted <:+ path.names := by
  unfold parts at h
  split at h
  · exact h
  · next absolute =>
    rcases List.suffix_cons_iff.mp h with whole | inside
    · exact absurd (Anchor.separator_mem absolute) (single _ (whole ▸ List.mem_cons_self))
    · exact inside

theorem child_name {path : Path} (named : path.names ≠ []) :
    path.parent.child path.name = path := by
  have isName : IsName path.name :=
    path.isName _ (List.mem_of_getLast? (getLast?_names named))
  apply ext_names
  · exact anchor_child isName
  · rw [names_child isName]
    exact (names_eq_parent named).symm

end Path

namespace Package

theorem parts_empty : parts "" = [""] := by
  decide

theorem parts_ne_nil (name : String) : parts name ≠ [] := by
  rw [parts, ne_eq, List.map_eq_nil_iff]
  exact Text.splitOn_ne_nil '.' name.toList

theorem root_of_suffix {source : Path} {name : String}
    (single : ∀ part ∈ parts name, '/' ∉ part.toList)
    (h : parts name <:+ source.parent.parts) :
    ∃ top, root source (some name) = .ok top ∧ top.descend (parts name) = source.parent := by
  have inside := Path.suffix_names single h
  have isName : ∀ part ∈ parts name, IsName part := fun part member =>
    source.parent.isName part (inside.subset member)
  have something : name ≠ "" := by
    rintro rfl
    rw [parts_empty, List.forall_mem_singleton] at isName
    exact isName.1 rfl
  refine ⟨source.parent.dropLast (parts name).length, ?_, ?_⟩
  · simp [root, List.isSuffixOf_iff_suffix.mpr h, inside.length_le]
  · obtain ⟨front, names⟩ := inside
    obtain ⟨anchor, below⟩ :=
      Path.descend_names (source.parent.dropLast (parts name).length) isName
    refine Path.ext_names (anchor.trans rfl) ?_
    rw [below]
    simp [Path.dropLast, ← names]

theorem root_of_not_suffix {source : Path} {name : String}
    (h : ¬parts name <:+ source.parent.parts) : root source (some name) = .ok source.parent := by
  by_cases nothing : name = ""
  · rw [nothing]
    rfl
  · have other : (parts name).isSuffixOf source.parent.parts = false := by
      rw [Bool.eq_false_iff, ne_eq, List.isSuffixOf_iff_suffix]
      exact h
    simp [root, other]

theorem parts_single {name : String} (single : '/' ∉ name.toList) :
    ∀ part ∈ parts name, '/' ∉ part.toList := by
  intro part member inside
  obtain ⟨piece, found, rfl⟩ := List.mem_map.mp member
  rw [String.toList_ofList] at inside
  exact single (Text.mem_of_mem_splitOn found inside)

/-- A package without a separator of paths never refuses a root. -/
theorem root_total (source : Path) {package : Option String}
    (single : ∀ name, package = some name → '/' ∉ name.toList) :
    ∃ top, root source package = .ok top := by
  cases package with
  | none => exact ⟨source.parent, rfl⟩
  | some name =>
    by_cases ends : parts name <:+ source.parent.parts
    · obtain ⟨top, found, -⟩ := root_of_suffix (parts_single (single name rfl)) ends
      exact ⟨top, found⟩
    · exact ⟨source.parent, root_of_not_suffix ends⟩

/-- Every file has a source root, and joining it with the parts of the package gives the directory of
the file if the components of this directory end with them. In every other case the root is the
directory itself, so also if there is no package, if a part of it is empty and if it has more parts
than the directory has names. -/
theorem root_descend {source : Path} {package : Option String}
    (single : ∀ name, package = some name → ∀ part ∈ parts name, '/' ∉ part.toList) :
    ∃ top, root source package = .ok top ∧
      (∀ name, package = some name → parts name <:+ source.parent.parts →
        top.descend (parts name) = source.parent ∧
          (top.descend (parts name)).child source.name = source) ∧
      ((∀ name, package = some name → ¬parts name <:+ source.parent.parts) →
        top = source.parent) ∧
      ∀ name, package = some name →
        "" ∈ parts name ∨ source.parent.names.length < (parts name).length →
          top = source.parent := by
  cases package with
  | none => exact ⟨source.parent, rfl, nofun, fun _ => rfl, nofun⟩
  | some name =>
    have single := single name rfl
    by_cases ends : parts name <:+ source.parent.parts
    · obtain ⟨top, found, back⟩ := root_of_suffix single ends
      have inside := Path.suffix_names single ends
      refine ⟨top, found, ?_, fun other => absurd ends (other name rfl), ?_⟩
      · rintro _ ⟨⟩ -
        have named : source.names ≠ [] := by
          intro nothing
          have above : source.parent.names = [] := by simp [Path.parent, Path.dropLast, nothing]
          rw [above, List.suffix_nil] at inside
          exact parts_ne_nil name inside
        rw [back]
        exact ⟨rfl, Path.child_name named⟩
      · rintro _ ⟨⟩ (empty | longer)
        · exact absurd rfl (source.parent.isName "" (inside.subset empty)).1
        · exact absurd inside.length_le (Nat.not_le.mpr longer)
    · refine ⟨source.parent, root_of_not_suffix ends, ?_, fun _ => rfl, fun _ _ _ => rfl⟩
      rintro _ ⟨⟩ inside
      exact absurd inside ends

/-- A package that uses up the whole path of a file leaves the working directory as its root. -/
theorem root_descend_sample :
    ∃ top, root (.parse "com/example/FooTest.java") (some "com.example") = .ok top ∧
      top = Path.here ∧ top.descend ["com", "example"] = .parse "com/example" ∧
      (top.descend ["com", "example"]).child "FooTest.java" = .parse "com/example/FooTest.java" := by
  have single : ∀ name, some "com.example" = some name → ∀ part ∈ parts name, '/' ∉ part.toList := by
    rintro _ ⟨⟩
    decide +kernel
  obtain ⟨top, found, back, -, -⟩ :=
    @root_descend (.parse "com/example/FooTest.java") (some "com.example") single
  have told : (root (.parse "com/example/FooTest.java") (some "com.example")).toOption =
      some Path.here := by
    decide +kernel
  have parted : parts "com.example" = ["com", "example"] := by decide +kernel
  obtain ⟨directory, file⟩ := back "com.example" rfl (by decide +kernel)
  rw [found] at told
  rw [parted] at directory file
  exact ⟨top, found, Option.some.inj told, directory.trans (by decide +kernel), file⟩

end Package
end TestBench
