import TestBench.Proofs.Discovery
import TestBench.Proofs.Package.Root
import TestBench.Proofs.Package.Source

/-!
The package of a source that can be read. The search looks at the beginning of each line and knows
nothing of comments and literals, so it takes a line of a comment for a declaration and misses a
declaration that stands behind a comment on its line.

- `describe_of_readPackage`: a source is described whenever its package is read,
- `declaredIn?_heading`: what is found in a source that begins with comments and a declaration,
- `describe_package`: the package of a source and the name of its test,
- `readPackage_comments`: comments that hide a declaration, and that make one.
-/
namespace TestBench.Discovery
set_option autoImplicit false
open Package (Declares declaredIn? freshAfter)
open Java (HoldsDeclaration IsHeading outside stray?)

/-! ## Sources and their tests -/

theorem readPackage_of_read {source : Path} {host : Host} {octets : List UInt8}
    (java : source.extension = extension) (readable : host.disk.read source = .ok octets) :
    readPackage source host = (.ok (declaredIn? true (Text.Utf8.decode octets)), host) := by
  unfold readPackage
  rw [if_neg (not_not.mpr java), readable, ← Package.declaredFrom?_unify]
  rfl

/-- A source is described whenever its package is read: no package refuses a root. -/
theorem describe_of_readPackage {source : Path} {host after : Host} {package : Option String}
    (h : readPackage source host = (.ok package, after)) :
    ∃ top, Package.root (absolute after source) package = .ok top ∧ describe source host =
      (.ok (.fresh (qualify package source.stem) source.stem (absolute after source) (some top)),
        after) := by
  have single : ∀ name, package = some name → '/' ∉ name.toList := by
    rintro name rfl
    exact (readPackage_some h).2.2
  obtain ⟨top, found⟩ := Package.root_total (absolute after source) single
  exact ⟨top, found, by rw [describe, h]; dsimp only; rw [found]⟩

/-! ## The package of a source -/

/-- What is found in a source that begins with comments and a declaration: a line of a comment that
begins with a declaration; or else the declaration, if no comment stands in front of it on its line;
or else what is found behind it. -/
theorem declaredIn?_heading {front here name rest : List Char} (heading : IsHeading front)
    (h : Declares here name rest) :
    declaredIn? true (front ++ here) = (stray? front).or
      (if freshAfter true front then some (String.ofList name) else declaredIn? false rest) := by
  rw [Package.declaredIn?_append h, stray?, ← heading.isSilent.declaredIn?, Java.marked_text]

/-- A source that declares no package outside comments and literals has one only if a line in them, or
one with a malformed name, begins like a declaration. -/
theorem declaredIn?_outside {text : List Char} (h : ¬HoldsDeclaration (outside text)) :
    declaredIn? true text = stray? text := by
  rw [stray?, ← (Java.isSilent_of_outside h).declaredIn?, Java.marked_text]

/-- A source that can be read has a package or none, and its test is named after it. Where blanks,
comments and a declaration stand at its front, the package is the declared one unless a line of the
comments begins with a declaration, or a comment stands in front of the declared one on its line. Where
no package is declared outside comments and literals, there is none unless a line in them begins with
a declaration. -/
theorem describe_package {source : Path} {host : Host} {octets : List UInt8}
    (java : source.extension = extension) (readable : host.disk.read source = .ok octets) :
    ∃ package test, readPackage source host = (.ok package, host) ∧
      describe source host = (.ok test, host) ∧
      test.qualifiedName = qualify package source.stem ∧
      (∀ front here name rest, Text.Utf8.decode octets = front ++ here → IsHeading front →
        Declares here name rest →
          package = (stray? front).or
            (if freshAfter true front then some (String.ofList name)
              else declaredIn? false rest)) ∧
      (¬HoldsDeclaration (outside (Text.Utf8.decode octets)) →
        package = stray? (Text.Utf8.decode octets)) := by
  have read := readPackage_of_read java readable
  obtain ⟨top, -, described⟩ := describe_of_readPackage read
  refine ⟨_, _, read, described, rfl, ?_, declaredIn?_outside⟩
  intro front here name rest whole heading declares
  rw [whole, declaredIn?_heading heading declares]

/-! ## Samples -/

/-- A host with one source. -/
def sampleDesk (text : String) : Host :=
  .fresh ⟨[(["Foo.java"], .file (Text.Utf8.encode text.toList))], some []⟩ 0 []

/-- The package and the name of the test that the source gives. -/
def sampleNames (text : String) : Option (Option String × String) :=
  match readPackage (.parse "/Foo.java") (sampleDesk text),
    describe (.parse "/Foo.java") (sampleDesk text) with
  | (.ok package, _), (.ok test, _) => some (package, test.qualifiedName)
  | _, _ => none

theorem describe_package_sample :
    ∃ test, describe (.parse "/Foo.java") (sampleDesk "/* // */ \n// */\r package a.b\n;") =
        (.ok test, sampleDesk "/* // */ \n// */\r package a.b\n;") ∧
      test.qualifiedName = "a.b.Foo" := by
  have java : (Path.parse "/Foo.java").extension = extension := by decide +kernel
  have readable : (sampleDesk "/* // */ \n// */\r package a.b\n;").disk.read (.parse "/Foo.java") =
      .ok (Text.Utf8.encode "/* // */ \n// */\r package a.b\n;".toList) := by
    decide +kernel
  obtain ⟨package, test, -, described, named, front, -⟩ := describe_package java readable
  have inside : ∀ c ∈ " */".toList, Package.endsLine c = false := by
    simp only [← Bool.not_eq_true', ← List.all_eq_true]
    decide +kernel
  have heading : IsHeading
      ('/' :: '*' :: (" // ".toList ++ '*' :: '/' :: ' ' :: '\n' ::
        '/' :: '/' :: (" */".toList ++ '\r' :: [' ']))) :=
    .blockComment (by decide +kernel) (.blank (by decide) (.blank (by decide)
      (.lineComment inside (by decide) (.blank (by decide) .nil))))
  have declares : Declares "package a.b\n;".toList "a.b".toList [] :=
    ⟨" a.b\n;".toList, by decide +kernel, [' '], ['\n'], by decide +kernel, by decide,
      List.forall_mem_singleton.mpr (by decide), by decide, List.all_eq_true.mp (by decide +kernel),
      List.forall_mem_singleton.mpr (by decide)⟩
  have found := front _ _ _ _ (by decide +kernel) heading declares
  rw [show stray? _ = none by decide +kernel, Option.none_or, if_pos (by decide +kernel)] at found
  exact ⟨test, described, by rw [named, found]; decide +kernel⟩

/-- A comment in front of a declaration hides it, and a comment with a declaration on a line of its own
makes one. -/
theorem readPackage_comments :
    (IsHeading "/* Licence */ ".toList ∧ Declares "package p;".toList "p".toList [] ∧
      sampleNames "/* Licence */ package p;" = some (none, "Foo")) ∧
    (¬HoldsDeclaration (outside "/*\npackage q;\n*/\nclass Foo {}".toList) ∧
      sampleNames "/*\npackage q;\n*/\nclass Foo {}" = some (some "q", "q.Foo")) := by
  refine ⟨⟨?_, ?_, ?_⟩, ?_, ?_⟩
  · have written : "/* Licence */ ".toList =
        '/' :: '*' :: (" Licence ".toList ++ '*' :: '/' :: [' ']) := by
      decide +kernel
    rw [written]
    exact .blockComment (by decide +kernel) (.blank (by decide) .nil)
  · exact ⟨" p;".toList, by decide +kernel, [' '], [], by decide +kernel, by decide,
      List.forall_mem_singleton.mpr (by decide), by decide, List.all_eq_true.mp (by decide +kernel),
      List.forall_mem_nil _⟩
  · decide +kernel
  · intro holds
    exact absurd holds.keyword (by decide +kernel)
  · decide +kernel

end TestBench.Discovery
