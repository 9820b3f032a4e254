import Mathlib.Data.List.TakeWhile
import TestBench.Classpath
import TestBench.CommandLine.PathList
import TestBench.Proofs.Path

/-!
Writing and reading lists of paths. Whatever separators and blanks a list is written with, it is
read as the paths that were written.

- `Piece` and `Written`: a list of paths as it may be written,
- `parsePathList_append`: a separator keeps what comes before it apart from what comes after,
- `Piece.read`: a piece between separators is read as its path, or as nothing if it is blank,
- `parsePathList_written`: the whole list, and a classpath as one argument.
-/
namespace TestBench
set_option autoImplicit false

/-! ## Trimming -/

namespace Text
variable {p : Char → Bool} {before text after : List Char}

theorem dropWhile_of_head (first : ∀ c ∈ text.head?, p c = false) :
    text.dropWhile p = text := by
  cases text with
  | nil => rfl
  | cons c rest => exact List.dropWhile_cons_of_neg (by simp [first c rfl])

theorem trim_eq_nil (all : ∀ c ∈ text, p c = true) : trim p text = [] := by
  rw [trim, List.dropWhile_eq_nil_iff.mpr all]
  rfl

/-- What is put around a text is trimmed, and no more of it. -/
theorem trim_padded (all : ∀ c ∈ before, p c = true) (all' : ∀ c ∈ after, p c = true)
    (something : text ≠ []) (first : ∀ c ∈ text.head?, p c = false)
    (last : ∀ c ∈ text.getLast?, p c = false) :
    trim p (before ++ text ++ after) = text := by
  have front : (before ++ text ++ after).dropWhile p = text ++ after := by
    rw [List.append_assoc, List.dropWhile_append_of_pos all]
    cases text with
    | nil => exact absurd rfl something
    | cons c rest => exact dropWhile_of_head first
  have back : (text ++ after).reverse.dropWhile p = text.reverse := by
    rw [List.reverse_append, List.dropWhile_append_of_pos (by simpa using all')]
    exact dropWhile_of_head (by rwa [List.head?_reverse])
  rw [trim, front, back, List.reverse_reverse]

end Text

namespace CommandLine
open Text (isBlank)

/-! ## Lists as they are written -/

/-- A character that stands between the paths of a list. -/
def IsSeparator (c : Char) : Prop :=
  c = ':' ∨ c = ','

instance (c : Char) : Decidable (IsSeparator c) :=
  inferInstanceAs (Decidable (_ ∨ _))

/-- A path that a list can hold: its text has no separator, and neither begins nor ends with a
blank. -/
def IsListable (path : Path) : Prop :=
  (∀ c ∈ path.toString.toList, ¬IsSeparator c) ∧
    (∀ c ∈ path.toString.toList.head?, isBlank c = false) ∧
    ∀ c ∈ path.toString.toList.getLast?, isBlank c = false

instance (path : Path) : Decidable (IsListable path) :=
  decidable_of_iff ((path.toString.toList.all fun c => !decide (IsSeparator c)) ∧
      (path.toString.toList.head?.all fun c => !isBlank c) ∧
      path.toString.toList.getLast?.all fun c => !isBlank c)
    (by simp [IsListable, Option.all_eq_true])

/-- What stands between two separators: a path with blanks around it, or blanks alone. -/
inductive Piece : List Path → List Char → Prop where
  | blank {gap : List Char} (blank : ∀ c ∈ gap, isBlank c = true) : Piece [] gap
  | path {before after : List Char} (path : Path) (blank : ∀ c ∈ before, isBlank c = true)
      (blank' : ∀ c ∈ after, isBlank c = true) :
      Piece [path] (before ++ path.toString.toList ++ after)

/-- The texts that a list of paths is written as: pieces, each separated from the next one. -/
inductive Written : List Path → List Char → Prop where
  | last {paths : List Path} {text : List Char} (piece : Piece paths text) : Written paths text
  | next {paths others : List Path} {text rest : List Char} {separator : Char}
      (piece : Piece paths text) (separates : IsSeparator separator)
      (later : Written others rest) : Written (paths ++ others) (text ++ separator :: rest)

theorem not_isSeparator_of_isBlank {c : Char} (blank : isBlank c = true) : ¬IsSeparator c := by
  rintro (rfl | rfl)
  · revert blank
    decide
  · revert blank
    decide

/-! ## Reading -/

theorem parsePathList_append {separator : Char} (separates : IsSeparator separator)
    (before after : List Char) :
    parsePathList (String.ofList (before ++ separator :: after)) =
      parsePathList (String.ofList before) ++ parsePathList (String.ofList after) := by
  have unified : (if separator = ',' then ':' else separator) = ':' := by
    rcases separates with rfl | rfl <;> rfl
  simp only [parsePathList, String.toList_ofList, List.map_append, List.map_cons, unified,
    Text.splitOn_append, List.filter_append]

theorem parsePathList_single {text : List Char} (single : ∀ c ∈ text, ¬IsSeparator c) :
    parsePathList (String.ofList text) =
      if Text.strip text = [] then [] else [.parse (String.ofList (Text.strip text))] := by
  have unified : text.map (fun c => if c = ',' then ':' else c) = text := by
    rw [List.map_congr_left (g := id) fun c member => ?_, List.map_id]
    exact if_neg fun same => single c member (.inr same)
  have whole : ':' ∉ text := fun member => single ':' member (.inl rfl)
  simp only [parsePathList, String.toList_ofList, unified, Text.splitOn_of_not_mem whole]
  by_cases none : Text.strip text = [] <;> simp [none]

theorem Piece.read {paths : List Path} {text : List Char} (h : Piece paths text)
    (listable : ∀ path ∈ paths, IsListable path) :
    parsePathList (String.ofList text) = paths := by
  cases h with
  | blank blank =>
    rw [parsePathList_single fun c member => not_isSeparator_of_isBlank (blank c member),
      Text.strip, Text.trim_eq_nil blank, if_pos rfl]
  | @path before after path blank blank' =>
    obtain ⟨single, first, last⟩ := listable path List.mem_cons_self
    have single : ∀ c ∈ before ++ path.toString.toList ++ after, ¬IsSeparator c := by
      intro c member
      rcases List.mem_append.mp member with member | member
      · rcases List.mem_append.mp member with member | member
        · exact not_isSeparator_of_isBlank (blank c member)
        · exact single c member
      · exact not_isSeparator_of_isBlank (blank' c member)
    have something := path.toString_ne_empty
    rw [parsePathList_single single, Text.strip, Text.trim_padded blank blank' something first last,
      if_neg something, String.ofList_toList, Path.parse_toString]

theorem Written.read {paths : List Path} {text : List Char} (h : Written paths text)
    (listable : ∀ path ∈ paths, IsListable path) :
    parsePathList (String.ofList text) = paths := by
  induction h with
  | last piece => exact piece.read listable
  | next piece separates later ih =>
    rw [List.forall_mem_append] at listable
    rw [parsePathList_append separates, piece.read listable.1, ih listable.2]

/-! ## Classpaths -/

theorem Piece.bare (path : Path) : Piece [path] path.toString.toList := by
  have none : ∀ c ∈ ([] : List Char), isBlank c = true := by simp
  simpa using Piece.path path none none

theorem written_intercalate (paths : List Path) :
    Written paths ([':'].intercalate (paths.map fun path => path.toString.toList)) := by
  induction paths with
  | nil => exact .last (.blank nofun)
  | cons path rest ih =>
    cases rest with
    | nil => simpa using Written.last (Piece.bare path)
    | cons next others =>
      rw [List.map_cons, List.map_cons, List.intercalate_cons_cons]
      simpa using Written.next (Piece.bare path) (.inl rfl) ih

theorem written_toString (classpath : Classpath) :
    Written classpath.entries classpath.toString.toList := by
  rw [Classpath.toString, String.toList_intercalate, List.map_map]
  exact written_intercalate classpath.entries

/-- Paths are read from whatever they are written as, and a classpath is written as its entries. -/
theorem parsePathList_written {paths : List Path} (listable : ∀ path ∈ paths, IsListable path) :
    (∀ text : String, Written paths text.toList → parsePathList text = paths) ∧
      ∀ classpath : Classpath, classpath.entries = paths →
        parsePathList classpath.toString = paths := by
  have read {text : String} (written : Written paths text.toList) : parsePathList text = paths := by
    simpa using written.read listable
  refine ⟨fun text => read, ?_⟩
  rintro classpath rfl
  exact read (written_toString classpath)

/-- Both separators, blanks inside and around a path, a blank entry and an empty one. -/
theorem parsePathList_written_sample :
    (∀ path ∈ [Path.parse "/a.jar", .parse "lib/b c"], IsListable path) ∧
      Written [.parse "/a.jar", .parse "lib/b c"] " , /a.jar\t:,lib/b c".toList ∧
      parsePathList " , /a.jar\t:,lib/b c" = [.parse "/a.jar", .parse "lib/b c"] ∧
      parsePathList (Classpath.of [.parse "/a.jar", .parse "lib/b c"]).toString =
        [.parse "/a.jar", .parse "lib/b c"] := by
  have listable : ∀ path ∈ [Path.parse "/a.jar", .parse "lib/b c"], IsListable path := by
    decide +kernel
  have text : " , /a.jar\t:,lib/b c".toList =
      [' '] ++ ',' :: ([' '] ++ (Path.parse "/a.jar").toString.toList ++ ['\t'] ++
        ':' :: ([] ++ ',' :: (Path.parse "lib/b c").toString.toList)) := by
    decide +kernel
  have written : Written [.parse "/a.jar", .parse "lib/b c"] " , /a.jar\t:,lib/b c".toList := by
    rw [text]
    have space : ∀ c ∈ [' '], isBlank c = true := List.forall_mem_singleton.mpr (by decide)
    have tab : ∀ c ∈ ['\t'], isBlank c = true := List.forall_mem_singleton.mpr (by decide)
    exact .next (.blank space) (.inr rfl) (.next (.path _ space tab) (.inl rfl)
      (.next (.blank (List.forall_mem_nil _)) (.inr rfl) (.last (.bare _))))
  obtain ⟨texts, classpaths⟩ := parsePathList_written listable
  exact ⟨listable, written, texts _ written, classpaths _ (by decide +kernel)⟩

end CommandLine
end TestBench
