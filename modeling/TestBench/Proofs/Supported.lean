import TestBench.Proofs.Building
import TestBench.Proofs.Search

/-!
The sources that are compiled, among the tests that were found. A source is compiled if its name is of
word characters and has the extension. A line feed may follow it, and then the package of the source
was not asked for, since the extension is another one.

- `isSourceName_iff` and `isSupported_iff`: the names of sources that are compiled,
- `build_supports`: which of the tests that were found are unsupported, and what the names of the
  others rest on,
- `build_unasked`: a source that is compiled and whose package was not asked for.
-/
namespace TestBench
set_option autoImplicit false
open Text (isWordChar)

/-- A name is one word, with an ending. -/
def IsWordWith (ending name : String) : Prop :=
  ∃ word : List Char, word ≠ [] ∧ (∀ c ∈ word, isWordChar c = true) ∧
    name.toList = word ++ ending.toList

/-! ## Names -/

namespace Path

/-- The extension of a name is what begins with its last dot, if something stands before it and after
it. -/
theorem extension_of_name {path : Path} {word after : List Char} (something : word ≠ [])
    (ending : after ≠ []) (single : '.' ∉ after) (name : path.name.toList = word ++ '.' :: after) :
    path.extension = String.ofList ('.' :: after) := by
  have last : (path.name.toList.reverse.takeWhile (· != '.')).length = after.length := by
    have undotted : ∀ c ∈ after.reverse, (c != '.') = true := by
      intro c member
      rw [bne_iff_ne]
      rintro rfl
      exact single (List.mem_reverse.mp member)
    rw [name, List.reverse_append, List.reverse_cons, List.append_assoc,
      List.takeWhile_append_of_pos undotted]
    simp
  have long : 0 < word.length ∧ 0 < after.length :=
    ⟨List.length_pos_iff.mpr something, List.length_pos_iff.mpr ending⟩
  have found : extensionAt? path.name.toList = some word.length := by
    rw [extensionAt?, last, name]
    simp only [List.length_append, List.length_cons]
    rw [if_pos (by omega)]
    congr 1
    omega
  rw [extension, found, name]
  simp

theorem extension_of_word {path : Path} {ending : String} (after : List Char)
    (dotted : ending.toList = '.' :: after) (something : after ≠ []) (single : '.' ∉ after)
    (h : IsWordWith ending path.name) : path.extension = ending := by
  obtain ⟨word, filled, -, name⟩ := h
  rw [dotted] at name
  rw [extension_of_name filled something single name, ← dotted, String.ofList_toList]

theorem extension_bare {path : Path} (h : IsWordWith ".java" path.name) :
    path.extension = ".java" :=
  extension_of_word "java".toList (by decide +kernel) (by decide +kernel)
    (by decide +kernel) h

theorem extension_fed {path : Path} (h : IsWordWith ".java\n" path.name) :
    path.extension = ".java\n" :=
  extension_of_word "java\n".toList (by decide +kernel) (by decide +kernel)
    (by decide +kernel) h

end Path

namespace Harness

/-- A word and the extension, and nothing else. -/
def isBareName (name : List Char) : Bool :=
  let stem := name.take (name.length - sourceExtension.length)
  sourceExtension.toList.isSuffixOf name && !stem.isEmpty && stem.all isWordChar

theorem isBareName_iff (name : List Char) :
    isBareName name = true ↔ ∃ word : List Char, word ≠ [] ∧ (∀ c ∈ word, isWordChar c = true) ∧
      name = word ++ sourceExtension.toList := by
  have cut (word : List Char) : (word ++ sourceExtension.toList).take
      ((word ++ sourceExtension.toList).length - sourceExtension.length) = word := by
    rw [List.length_append, String.length_toList, Nat.add_sub_cancel, List.take_left]
  simp only [isBareName, Bool.and_eq_true, List.isSuffixOf_iff_suffix, Bool.not_eq_true',
    List.isEmpty_eq_false_iff, List.all_eq_true]
  constructor
  · rintro ⟨⟨⟨word, rfl⟩, something⟩, whole⟩
    rw [cut] at something whole
    exact ⟨word, something, whole, rfl⟩
  · rintro ⟨word, something, whole, rfl⟩
    rw [cut]
    exact ⟨⟨List.suffix_append word _, something⟩, whole⟩

theorem isSourceName_iff (name : String) :
    isSourceName name.toList = true ↔ IsWordWith ".java" name ∨ IsWordWith ".java\n" name := by
  have ending : ".java\n".toList = sourceExtension.toList ++ ['\n'] := by decide +kernel
  change isBareName (Text.dropFinal '\n' name.toList) = true ↔ _
  rw [isBareName_iff]
  constructor
  · rintro ⟨word, something, whole, bare⟩
    rcases Text.dropFinal_cases '\n' name.toList with kept | dropped
    · exact .inl ⟨word, something, whole, kept.trans bare⟩
    · refine .inr ⟨word, something, whole, ?_⟩
      rw [dropped, bare, ending, List.append_assoc]
  · rintro (⟨word, something, whole, text⟩ | ⟨word, something, whole, text⟩)
    · refine ⟨word, something, whole, ?_⟩
      rw [text, Text.dropFinal_of_ne]
      · rfl
      · rw [List.getLast?_append_of_ne_nil _ (by decide +kernel)]
        decide +kernel
    · refine ⟨word, something, whole, ?_⟩
      rw [text, ending, ← List.append_assoc, Text.dropFinal_concat]

/-- The pieces of an absolute path as it is written: its names, with something in front. -/
theorem splitOn_toString {path : Path} (absolute : path.isAbsolute = true) (named : path.names ≠ []) :
    ∃ front, front ≠ [] ∧
      Text.splitOn '/' path.toString.toList = front ++ path.names.map String.toList := by
  have single : ∀ piece ∈ path.names.map String.toList, '/' ∉ piece := by
    rw [List.forall_mem_map]
    exact fun name member => (path.isName name member).2.2
  have names : Text.splitOn '/' (Path.namesText path.names) = path.names.map String.toList :=
    Text.splitOn_intercalate (by simpa using named) single
  rw [Path.toList_toString (Path.parts_ne_nil named)]
  cases anchor : path.anchor with
  | relative => simp [Path.isAbsolute, anchor] at absolute
  | root => exact ⟨[[]], by simp, by rw [← names]; rfl⟩
  | doubleRoot => exact ⟨[[], []], by simp, by rw [← names]; rfl⟩

theorem isSupported_iff {source : Path} (absolute : source.isAbsolute = true)
    (named : source.names ≠ []) :
    isSupported source = true ↔
      IsWordWith ".java" source.name ∨ IsWordWith ".java\n" source.name := by
  obtain ⟨front, something, pieces⟩ := splitOn_toString absolute named
  have several : 1 < (Text.splitOn '/' source.toString.toList).length := by
    have front := List.length_pos_iff.mpr something
    have names := List.length_pos_iff.mpr named
    rw [pieces, List.length_append, List.length_map]
    omega
  have last : (Text.splitOn '/' source.toString.toList).getLast?.getD [] = source.name.toList := by
    rw [pieces, List.getLast?_append_of_ne_nil _ (by simpa using named), List.getLast?_map,
      Path.getLast?_names named]
    rfl
  rw [← isSourceName_iff]
  simp [isSupported, several, last]

end Harness

namespace Discovery

theorem isAbsolute_absolute (host : Host) (path : Path) : (absolute host path).isAbsolute = true := by
  unfold absolute Path.join
  split
  · assumption
  · rfl

theorem names_absolute (host : Host) (path : Path) :
    ∃ front, (absolute host path).names = front ++ path.names := by
  unfold absolute Path.join
  split
  · exact ⟨[], rfl⟩
  · exact ⟨_, rfl⟩

theorem absolute_named {host : Host} {path : Path} (named : path.names ≠ []) :
    (absolute host path).names ≠ [] := by
  obtain ⟨front, names⟩ := names_absolute host path
  simp [names, named]

theorem name_absolute {host : Host} {path : Path} (named : path.names ≠ []) :
    (absolute host path).name = path.name := by
  obtain ⟨front, names⟩ := names_absolute host path
  rw [Path.name, names, List.getLast?_append_of_ne_nil _ named, Path.name]

end Discovery

namespace Harness

theorem recordInstall_ne_unsupported {test done : TestRun} {installed : Except Fault Classpath}
    (unset : test.result = none) (h : recordInstall test installed = .ok done) :
    done.result ≠ some .unsupported := by
  unfold recordInstall at h
  split at h
  · cases h
    simp [TestRun.withClasspath, unset]
  · simp [TestRun.setResult_recorded h]
  · cases h
  · simp [TestRun.setResult_recorded h]

/-- A test without a result is unsupported exactly if its source is. -/
theorem build_unsupported_iff {harness : Harness} {test : TestRun} (opened : harness.closed = false)
    (unset : test.result = none) (runner : Runner) (host : Host) :
    (∃ done, (harness.build test runner host).1 = .ok done ∧ done.result = some .unsupported) ↔
      isSupported test.source = false := by
  cases supported : isSupported test.source with
  | false =>
    rw [build_unsupported opened supported, TestRun.setResult_of_none unset]
    exact ⟨fun _ => rfl, fun _ => ⟨_, rfl, rfl⟩⟩
  | true =>
    rw [build_supported opened supported]
    refine ⟨?_, nofun⟩
    rintro ⟨done, recorded, unsupported⟩
    exact absurd unsupported (recordInstall_ne_unsupported unset recorded)

/-- Of the tests that were found, those are unsupported whose source has another name than a word with
the extension, or a word with the extension and a line feed. A test whose source has the extension is
named after the package that the source declares, and one with a line feed behind it after its stem
alone, whatever the source declares. -/
theorem build_supports {paths : List Path} {found : List TestRun} {host after now : Host}
    {test : TestRun} {harness : Harness} (proper : host.disk.IsProper)
    (finds : Discovery.findTests paths host = (.ok found, after)) (member : test ∈ found)
    (opened : harness.closed = false) (runner : Runner) :
    ((∃ done, (harness.build test runner now).1 = .ok done ∧ done.result = some .unsupported) ↔
      ¬IsWordWith ".java" test.source.name ∧ ¬IsWordWith ".java\n" test.source.name) ∧
    ∃ origin package, test.source = Discovery.absolute host origin ∧
      (Discovery.readPackage origin host).1 = .ok package ∧
      test.qualifiedName = Discovery.qualify package origin.stem ∧
      (IsWordWith ".java" test.source.name → test.source.extension = Discovery.extension ∧
        ∀ octets, host.disk.read origin = .ok octets →
          package = Package.declared? (Text.unifyLineEnds (Text.Utf8.decode octets))) ∧
      (IsWordWith ".java\n" test.source.name → test.source.extension = ".java\n" ∧
        package = none) := by
  obtain ⟨origin, named, package, top, read, -, rfl⟩ :=
    Discovery.findTests_describes proper finds member
  have named' : (Discovery.absolute host origin).names ≠ [] := Discovery.absolute_named named
  have name : (Discovery.absolute host origin).name = origin.name := Discovery.name_absolute named
  refine ⟨?_, origin, package, rfl, read, rfl, fun bare => ⟨Path.extension_bare bare, ?_⟩,
    fun fed => ⟨Path.extension_fed fed, ?_⟩⟩
  · rw [build_unsupported_iff opened rfl, ← not_or, ← Bool.not_eq_true, not_iff_not]
    exact isSupported_iff (Discovery.isAbsolute_absolute host origin) named'
  · intro octets readable
    have java : origin.extension = Discovery.extension := Path.extension_bare (name ▸ bare)
    rw [Discovery.readPackage, if_neg (not_not.mpr java), readable] at read
    exact (Except.ok.inj read).symm
  · have other : origin.extension ≠ Discovery.extension := by
      rw [Path.extension_fed (name ▸ fed)]
      decide
    rw [Discovery.readPackage, if_pos other] at read
    exact (Except.ok.inj read).symm

/-! ## Samples -/

/-- A host with a source whose name ends in a line feed. -/
def sampleFed : Host :=
  { Suite.sampleHost with
    disk := ⟨[(["Foo.java"], .file (Text.Utf8.encode "package p;".toList)),
      (["Foo.java\n"], .file (Text.Utf8.encode "package p;".toList))], some []⟩ }

def sampleSupported : TestRun :=
  .fresh "p.Foo" "Foo" (.parse "/Foo.java") (some (.parse "/"))

theorem build_supports_sample :
    ∃ origin package, sampleSupported.source = Discovery.absolute sampleFed origin ∧
      (Discovery.readPackage origin sampleFed).1 = .ok package ∧
      sampleSupported.qualifiedName = Discovery.qualify package origin.stem ∧
      ¬∃ done, (Suite.sampleHarness.build sampleSupported (Suite.sampleHarness.runnerOf [] [])
        sampleFed).1 = .ok done ∧ done.result = some .unsupported := by
  have finds : Discovery.findTests [.parse "/Foo.java"] sampleFed =
      (.ok [sampleSupported], (Discovery.findTests [.parse "/Foo.java"] sampleFed).2) :=
    Prod.ext (by decide +kernel) rfl
  obtain ⟨unsupported, origin, package, place, read, named, -, -⟩ :=
    @build_supports _ _ _ _ sampleFed _ Suite.sampleHarness (by decide +kernel) finds
      List.mem_cons_self rfl (Suite.sampleHarness.runnerOf [] [])
  have bare : IsWordWith ".java" sampleSupported.source.name :=
    ⟨"Foo".toList, by decide +kernel, List.all_eq_true.mp (by decide +kernel), by decide +kernel⟩
  exact ⟨origin, package, place, read, named, fun done => (unsupported.mp done).1 bare⟩

/-- A source with a line feed behind its extension is compiled, and the package that it declares is not
in the name of its test. -/
theorem build_unasked :
    sampleFed.disk.read (.parse "/Foo.java\n") = .ok (Text.Utf8.encode "package p;".toList) ∧
      Package.declared? "package p;".toList = some "p" ∧
      (Discovery.findTests [.parse "/Foo.java\n"] sampleFed).1 =
        .ok [.fresh "Foo" "Foo" (.parse "/Foo.java\n") (some (.parse "/"))] ∧
      (Suite.sampleHarness.build (.fresh "Foo" "Foo" (.parse "/Foo.java\n") (some (.parse "/")))
          (Suite.sampleHarness.runnerOf [] []) sampleFed).1 =
        .ok ((TestRun.fresh "Foo" "Foo" (.parse "/Foo.java\n") (some (.parse "/"))).withClasspath
          (.of [.parse "/work/Foo/classes"])) := by
  decide +kernel

end Harness
end TestBench
