import TestBench.Text.Lines

/-!
The lines of raw output.

- `linesBy` and `linesBy_append`: a line feed keeps what comes before it apart from what comes after,
- `exists_lastLine`: output that is not empty is whole lines and one last line with its terminator,
- `rawLines_whole` and `outputLines_lastLine`: the lines of such output.
-/
namespace TestBench.Text
set_option autoImplicit false

/-! ## Pieces -/

section Pieces
variable {α : Type} [DecidableEq α] {separator : α}

theorem splitOn_append (before after : List α) :
    splitOn separator (before ++ separator :: after) =
      splitOn separator before ++ splitOn separator after := by
  induction before with
  | nil => simp [splitOn]
  | cons x rest ih =>
    rw [List.cons_append, splitOn, splitOn, ih]
    by_cases same : x = separator
    · rw [if_pos same, if_pos same, List.cons_append]
    · rw [if_neg same, if_neg same]
      cases found : splitOn separator rest with
      | nil => exact absurd found (splitOn_ne_nil separator rest)
      | cons piece pieces => rfl

theorem mem_of_mem_splitOn {x : α} {items piece : List α} (h : piece ∈ splitOn separator items)
    (inside : x ∈ piece) : x ∈ items := by
  induction items generalizing piece with
  | nil =>
    rw [splitOn, List.mem_singleton] at h
    rwa [h] at inside
  | cons y rest ih =>
    rw [splitOn] at h
    split at h
    · rcases List.mem_cons.mp h with rfl | later
      · cases inside
      · exact List.mem_cons_of_mem y (ih later inside)
    · cases found : splitOn separator rest with
      | nil => exact absurd found (splitOn_ne_nil separator rest)
      | cons first others =>
        rw [found] at h ih
        rcases List.mem_cons.mp h with rfl | later
        · rcases List.mem_cons.mp inside with rfl | inside
          · exact List.mem_cons_self
          · exact List.mem_cons_of_mem y (ih List.mem_cons_self inside)
        · exact List.mem_cons_of_mem y (ih (List.mem_cons_of_mem first later) inside)

theorem splitOn_of_not_mem {piece : List α} (h : separator ∉ piece) :
    splitOn separator piece = [piece] := by
  induction piece with
  | nil => rfl
  | cons x rest ih =>
    have other : ¬x = separator := fun same => h (same ▸ List.mem_cons_self)
    rw [splitOn, if_neg other, ih fun member => h (List.mem_cons_of_mem x member)]

theorem splitOn_intercalate {pieces : List (List α)} (some : pieces ≠ [])
    (h : ∀ piece ∈ pieces, separator ∉ piece) :
    splitOn separator ([separator].intercalate pieces) = pieces := by
  induction pieces with
  | nil => exact absurd rfl some
  | cons piece rest ih =>
    rw [List.forall_mem_cons] at h
    cases rest with
    | nil => simpa using splitOn_of_not_mem h.1
    | cons next others =>
      rw [List.intercalate_cons_cons, List.append_assoc, List.singleton_append, splitOn_append,
        splitOn_of_not_mem h.1, ih (by simp) h.2]
      rfl

omit [DecidableEq α] in
theorem mem_intercalate {x : α} {pieces : List (List α)}
    (h : x ∈ [separator].intercalate pieces) : x = separator ∨ ∃ piece ∈ pieces, x ∈ piece := by
  induction pieces with
  | nil => cases h
  | cons piece rest ih =>
    cases rest with
    | nil => exact .inr ⟨piece, List.mem_cons_self, by simpa using h⟩
    | cons next others =>
      rw [List.intercalate_cons_cons, List.append_assoc, List.singleton_append, List.mem_append,
        List.mem_cons] at h
      rcases h with front | same | later
      · exact .inr ⟨piece, List.mem_cons_self, front⟩
      · exact .inl same
      · refine (ih later).imp_right ?_
        rintro ⟨piece, member, inside⟩
        exact ⟨piece, List.mem_cons_of_mem _ member, inside⟩

theorem dropFinal_concat (x : α) (items : List α) : dropFinal x (items ++ [x]) = items := by
  rw [dropFinal, List.getLast?_concat, if_pos rfl, List.dropLast_concat]

theorem dropFinal_of_ne {x : α} {items : List α} (h : items.getLast? ≠ some x) :
    dropFinal x items = items :=
  if_neg h

/-- What remains was there before, with one `x` after it or with none. -/
theorem dropFinal_cases (x : α) (items : List α) :
    items = dropFinal x items ∨ items = dropFinal x items ++ [x] := by
  by_cases h : items.getLast? = some x
  · right
    obtain ⟨front, rfl⟩ := List.getLast?_eq_some_iff.mp h
    rw [dropFinal_concat]
  · left
    rw [dropFinal_of_ne h]

/-! ## Lines -/

/-- The lines of a text between its line feeds. Each loses its feed and one carriage return before
it. What follows the last feed is a line of its own unless it is empty. -/
def linesBy (feed carriage : α) (items : List α) : List (List α) :=
  let pieces := splitOn feed items
  let last := pieces.getLast?.getD []
  pieces.dropLast.map (dropFinal carriage) ++ (if last.isEmpty then [] else [last])

theorem linesBy_append {feed carriage : α} (before after : List α) :
    linesBy feed carriage (before ++ feed :: after) =
      (splitOn feed before).map (dropFinal carriage) ++ linesBy feed carriage after := by
  have some := splitOn_ne_nil feed after
  have last : (splitOn feed before ++ splitOn feed after).getLast? =
      (splitOn feed after).getLast? := by
    rw [List.getLast?_append, List.getLast?_eq_some_getLast some, Option.some_or]
  simp only [linesBy]
  rw [splitOn_append, List.dropLast_append_of_ne_nil some, last, List.map_append,
    List.append_assoc]

theorem linesBy_of_not_mem {feed : α} {line : List α} (h : feed ∉ line) (carriage : α) :
    linesBy feed carriage line = if line.isEmpty then [] else [line] := by
  simp only [linesBy]
  rw [splitOn_of_not_mem h]
  rfl

end Pieces

theorem rawLines_append (before after : List UInt8) :
    rawLines (before ++ 10 :: after) =
      (splitOn 10 before).map (dropFinal 13) ++ rawLines after :=
  linesBy_append before after

theorem rawLines_of_not_mem {line : List UInt8} (h : 10 ∉ line) :
    rawLines line = if line.isEmpty then [] else [line] :=
  linesBy_of_not_mem h 13

/-- Output that ends where a line ends: there is none, or it ends in a line feed. -/
def IsWhole (octets : List UInt8) : Prop :=
  octets = [] ∨ ∃ before, octets = before ++ [10]

/-- Whole lines and what follows them are taken apart separately. -/
theorem rawLines_whole {whole : List UInt8} (h : IsWhole whole) (after : List UInt8) :
    rawLines (whole ++ after) = rawLines whole ++ rawLines after := by
  rcases h with rfl | ⟨before, rfl⟩
  · rfl
  · rw [List.append_assoc, List.singleton_append, rawLines_append, rawLines_append,
      List.append_assoc]
    rfl

/-- Octets that are one line with its terminator, and the line as it is read. -/
inductive IsLine : List UInt8 → List UInt8 → Prop where
  | terminated {written : List UInt8} (inner : 10 ∉ written) :
    IsLine (written ++ [10]) (dropFinal 13 written)
  | unterminated {line : List UInt8} (inner : 10 ∉ line) (something : line ≠ []) : IsLine line line

theorem IsLine.rawLines {octets line : List UInt8} (h : IsLine octets line) :
    rawLines octets = [line] := by
  cases h with
  | terminated inner =>
    rw [rawLines_append, splitOn_of_not_mem inner]
    rfl
  | unterminated inner something =>
    rw [rawLines_of_not_mem inner, if_neg (by simpa using something)]

theorem exists_whole (octets : List UInt8) :
    ∃ whole line, octets = whole ++ line ∧ IsWhole whole ∧ 10 ∉ line := by
  induction octets with
  | nil => exact ⟨[], [], rfl, .inl rfl, List.not_mem_nil⟩
  | cons x rest ih =>
    obtain ⟨whole, line, rfl, rfl | ⟨before, rfl⟩, inner⟩ := ih
    -- The rest has no whole line yet, so it depends on `x` whether there is one now.
    · by_cases feed : x = 10
      · exact ⟨[x], line, rfl, .inr ⟨[], by rw [feed]; rfl⟩, inner⟩
      · refine ⟨[], x :: line, rfl, .inl rfl, ?_⟩
        rw [List.mem_cons, not_or]
        exact ⟨fun same => feed same.symm, inner⟩
    · exact ⟨x :: (before ++ [10]), line, rfl, .inr ⟨x :: before, rfl⟩, inner⟩

/-- Output that is not empty is whole lines and one last line. -/
theorem exists_lastLine {octets : List UInt8} (something : octets ≠ []) :
    ∃ whole tail line, octets = whole ++ tail ∧ IsWhole whole ∧ IsLine tail line := by
  obtain ⟨front, last, rfl⟩ := (List.eq_nil_or_concat octets).resolve_left something
  by_cases feed : last = 10
  · obtain ⟨whole, line, rfl, ends, inner⟩ := exists_whole front
    refine ⟨whole, line ++ [10], _, ?_, ends, .terminated inner⟩
    rw [feed, List.concat_eq_append, List.append_assoc]
  · obtain ⟨whole, line, split, ends, inner⟩ := exists_whole (front.concat last)
    refine ⟨whole, line, line, split, ends, .unterminated inner ?_⟩
    rintro rfl
    rw [List.append_nil, List.concat_eq_append] at split
    rcases ends with rfl | ⟨before, rfl⟩
    · exact absurd split (by simp)
    · exact feed (List.cons.inj (List.append_inj_right' split rfl)).1

/-- The lines of whole lines and one more line. -/
theorem outputLines_lastLine {whole tail line : List UInt8} (ends : IsWhole whole)
    (h : IsLine tail line) :
    outputLines (whole ++ tail) = outputLines whole ++ [String.ofList (Utf8.decode line)] := by
  rw [outputLines, rawLines_whole ends, h.rawLines, List.map_append]
  rfl

end TestBench.Text
