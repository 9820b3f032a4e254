import TestBench.Path
import TestBench.Proofs.Text.Lines

/-!
Paths and their names.

- `names_eq_parent`: a path is its parent and its last name,
- `parse_name` and `names_child`: one name below a path,
- `parse_toString`: a path is what its text is read as.
-/
namespace TestBench
set_option autoImplicit false

namespace Anchor

theorem separator_mem {anchor : Anchor} (written : anchor ≠ .relative) : '/' ∈ anchor.text.toList := by
  cases anchor <;> revert written <;> decide

theorem text_injective {a b : Anchor} (h : a.text = b.text) : a = b := by
  cases a <;> cases b <;> revert h <;> decide

end Anchor

namespace Path

theorem names_eq_parent {path : Path} (named : path.names ≠ []) :
    path.names = path.parent.names ++ [path.name] := by
  have last := List.getLast?_eq_some_getLast named
  have names : path.parent.names = path.names.dropLast := (List.dropLast_eq_take ..).symm
  rw [Path.name, last, Option.getD_some, names]
  exact (List.dropLast_concat_getLast named).symm

theorem getLast?_names {path : Path} (named : path.names ≠ []) :
    path.names.getLast? = some path.name := by
  rw [name, List.getLast?_eq_some_getLast named]
  rfl

theorem length_parent (path : Path) : path.parent.names.length = path.names.length - 1 := by
  simp [parent, dropLast]

theorem take_parent (path : Path) {count : Nat} (within : count ≤ path.names.length - 1) :
    path.parent.names.take count = path.names.take count := by
  simp [parent, dropLast, List.take_take, Nat.min_eq_left within]

theorem dropLast_parent (path : Path) {count : Nat} (h : count + 1 ≤ path.names.length) :
    path.parent.dropLast (path.parent.names.length - count) =
      path.dropLast (path.names.length - count) := by
  apply ext_names
  · rfl
  · simp only [dropLast, parent, List.take_take, List.length_take]
    congr 1
    omega

theorem anchorOf_of_not_mem {text : List Char} (h : '/' ∉ text) : anchorOf text = .relative := by
  cases text with
  | nil => rfl
  | cons c rest =>
    have other : ¬(c == '/') = true := by
      intro same
      exact h (by simp [beq_iff_eq.mp same])
    simp [anchorOf, other]

theorem parse_name {name : String} (h : IsName name) :
    (parse name).anchor = .relative ∧ (parse name).names = [name] := by
  obtain ⟨-, -, single⟩ := id h
  refine ⟨anchorOf_of_not_mem single, ?_⟩
  rw [parse, Text.splitOn_of_not_mem single, List.map_singleton, String.ofList_toList]
  simp [ofNames, h]

theorem anchor_child {base : Path} {name : String} (h : IsName name) :
    (base.child name).anchor = base.anchor := by
  simp [child, join, isAbsolute, (parse_name h).1]

theorem names_child {base : Path} {name : String} (h : IsName name) :
    (base.child name).names = base.names ++ [name] := by
  simp [child, join, isAbsolute, parse_name h]

theorem parent_child {base : Path} {name : String} (h : IsName name) :
    (base.child name).parent = base := by
  apply ext_names
  · exact anchor_child h
  · simp [parent, dropLast, names_child h]

theorem names_child_ne_nil {base : Path} {name : String} (h : IsName name) :
    (base.child name).names ≠ [] := by
  simp [names_child h]

theorem name_child {base : Path} {name : String} (h : IsName name) :
    (base.child name).name = name := by
  simp [Path.name, names_child h]

theorem parts_ne_nil {path : Path} (named : path.names ≠ []) : path.parts ≠ [] := by
  unfold parts
  split
  · exact named
  · exact List.cons_ne_nil _ _

/-! ## Texts -/

/-- The names of a path as they are written. -/
def namesText (names : List String) : List Char :=
  ['/'].intercalate (names.map String.toList)

theorem namesText_prefix (front rest : List String) :
    namesText front <+: namesText (front ++ rest) := by
  induction front with
  | nil => exact List.nil_prefix
  | cons first others ih =>
    cases others with
    | nil =>
      cases rest with
      | nil => exact List.prefix_rfl
      | cons next more =>
        simp only [namesText, List.map_cons, List.map_nil, List.cons_append, List.nil_append,
          List.intercalate_cons_cons, List.intercalate_singleton, List.append_assoc]
        exact List.prefix_append _ _
    | cons next more =>
      simp only [namesText, List.map_cons, List.cons_append, List.intercalate_cons_cons] at ih ⊢
      exact (List.prefix_append_right_inj _).mpr ih

theorem toList_toString {path : Path} (written : path.parts ≠ []) :
    path.toString.toList = path.anchor.text.toList ++ namesText path.names := by
  rw [Path.toString, if_neg written, String.toList_append, String.toList_intercalate]
  rfl

/-- What is written for names reads as these names. -/
theorem splitOn_namesText {names : List String} (h : ∀ name ∈ names, IsName name) :
    ((Text.splitOn '/' (namesText names)).map String.ofList).filter (fun name => IsName name) =
      names := by
  cases names with
  | nil => rfl
  | cons first rest =>
    have whole : ∀ piece ∈ (first :: rest).map String.toList, '/' ∉ piece := by
      rw [List.forall_mem_map]
      exact fun name member => (h name member).2.2
    rw [namesText, Text.splitOn_intercalate (by simp) whole, List.map_map]
    simpa [Function.comp_def] using h

theorem takeWhile_namesText {names : List String} (h : ∀ name ∈ names, IsName name) :
    (namesText names).takeWhile (· == '/') = [] := by
  cases names with
  | nil => rfl
  | cons first rest =>
    obtain ⟨filled, -, single⟩ := h first List.mem_cons_self
    obtain ⟨tail, text⟩ : ∃ tail, namesText (first :: rest) = first.toList ++ tail := by
      cases rest with
      | nil => exact ⟨[], by simp [namesText]⟩
      | cons next others => exact ⟨_, by simp [namesText, List.intercalate_cons_cons]; rfl⟩
    rw [text]
    cases letters : first.toList with
    | nil => exact absurd (String.toList_inj.mp letters) filled
    | cons c others =>
      have other : c ≠ '/' := by
        rintro rfl
        simp [letters] at single
      simp [other]

/-- A path is written in one way, and read as itself. -/
theorem parse_toString (path : Path) : parse path.toString = path := by
  have names := splitOn_namesText path.isName
  have front := takeWhile_namesText path.isName
  by_cases written : path.parts = []
  · have relative : path.anchor = .relative ∧ path.names = [] := by
      unfold parts at written
      split at written
      next anchor => exact ⟨anchor, written⟩
      · cases written
    rw [Path.toString, if_pos written]
    exact ext_names relative.1.symm relative.2.symm
  · have text := toList_toString written
    cases anchor : path.anchor with
    | relative =>
      have text : path.toString.toList = namesText path.names := by
        simp [text, anchor, Anchor.text]
      apply ext_names
      · simp [parse, ofNames, anchorOf, text, front, anchor]
      · simpa [parse, ofNames, text] using names
    | root =>
      have text : path.toString.toList = '/' :: namesText path.names := by
        simp [text, anchor, Anchor.text]
      apply ext_names
      · simp [parse, ofNames, anchorOf, text, front, anchor]
      · simpa [parse, ofNames, text, Text.splitOn, IsName] using names
    | doubleRoot =>
      have text : path.toString.toList = '/' :: '/' :: namesText path.names := by
        simp [text, anchor, Anchor.text]
      apply ext_names
      · simp [parse, ofNames, anchorOf, text, front, anchor]
      · simpa [parse, ofNames, text, Text.splitOn, IsName] using names

theorem toString_ne_empty (path : Path) : path.toString.toList ≠ [] := by
  intro none
  have empty : path.toString = "" := String.toList_eq_nil_iff.mp none
  have same := parse_toString path
  rw [empty] at same
  rw [← same] at empty
  exact absurd empty (by decide +kernel)

end Path
end TestBench
