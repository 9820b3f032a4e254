import Mathlib.Data.List.Forall2
import Mathlib.Data.List.Nodup
import TestBench.Proofs.Package.Reading
import TestBench.Proofs.PathOrder
import TestBench.Proofs.Refusals
import TestBench.Proofs.Tree

/-!
The tests that are found. Each path stands for sources: a directory for all below it whose names end
like those of sources, in the order of paths, and any other path for itself. The name is all that is
asked of what stands below a directory, so a directory is taken for a source too.

- `search_finds`: everything below a directory with a certain ending, once and in order,
- `describeAll_describes`: sources are described one by one,
- `findTests_sources`: the tests of all paths, or the first refusal,
- `findTests_directory`: a directory that is taken for a source.
-/
namespace TestBench
set_option autoImplicit false

/-! ## Searching -/

namespace Disk

/-- A disk as it is kept by a system: each entry has a location of its own, and the names on the way
there are names that a system can be given. -/
structure IsProper (disk : Disk) : Prop where
  distinct : (disk.entries.map Prod.fst).Nodup
  named : ∀ item ∈ disk.entries, ∀ name ∈ item.1, IsName name ∧ ¬HoldsNull name

instance (text : String) : Decidable (HoldsNull text) :=
  inferInstanceAs (Decidable ('\x00' ∈ text.toList))

instance (disk : Disk) : Decidable disk.IsProper :=
  decidable_of_iff ((disk.entries.map Prod.fst).Nodup ∧
      ∀ item ∈ disk.entries, ∀ name ∈ item.1, IsName name ∧ ¬HoldsNull name)
    ⟨fun h => ⟨h.1, h.2⟩, fun h => ⟨h.distinct, h.named⟩⟩

/-- A path leads to an entry below a directory, and its last name ends in a text. -/
def StandsBelow (disk : Disk) (directory : Path) (ending : String) (path : Path) : Prop :=
  ∃ location below, disk.locate directory = .ok location ∧ below ≠ [] ∧
    (disk.entry? (location ++ below)).isSome = true ∧ ending.toList <:+ path.name.toList ∧
    path.anchor = directory.anchor ∧ path.names = directory.names ++ below

variable {disk : Disk} {directory : Path} {ending : String}

theorem isBelow_iff {above location : Location} :
    isBelow above location = true ↔ ∃ below, below ≠ [] ∧ location = above ++ below := by
  simp only [isBelow, Bool.and_eq_true, List.isPrefixOf_iff_prefix, decide_eq_true_eq]
  constructor
  · rintro ⟨⟨below, rfl⟩, longer⟩
    exact ⟨below, by rintro rfl; simp at longer, rfl⟩
  · rintro ⟨below, something, rfl⟩
    have more := List.length_pos_iff.mpr something
    exact ⟨List.prefix_append above below, by rw [List.length_append]; omega⟩

theorem entry?_isSome {location : Location} (inside : location ≠ []) :
    (disk.entry? location).isSome = true ↔ ∃ item ∈ disk.entries, item.1 = location := by
  rw [Disk.entry?, if_neg inside, Option.isSome_map, List.find?_isSome]
  simp

theorem names_join {names : List String} (h : ∀ name ∈ names, IsName name) :
    (directory.join (.ofNames .relative names)).anchor = directory.anchor ∧
      (directory.join (.ofNames .relative names)).names = directory.names ++ names := by
  have same : names.filter (fun name => IsName name) = names := by simpa using h
  simp [Path.join, Path.isAbsolute, Path.ofNames, same]

/-- What a search makes of an entry. -/
def pathTo (directory : Path) (above : Location) (item : Location × Entry) : Path :=
  directory.join (.ofNames .relative (item.1.drop above.length))

theorem IsProper.pathTo (proper : disk.IsProper) (directory : Path) {above below : Location}
    {item : Location × Entry} (member : item ∈ disk.entries) (place : item.1 = above ++ below) :
    (pathTo directory above item).anchor = directory.anchor ∧
      (pathTo directory above item).names = directory.names ++ below := by
  have names : ∀ name ∈ below, IsName name := fun name inside =>
    (proper.named item member name (place ▸ List.mem_append_right above inside)).1
  rw [Disk.pathTo, place, List.drop_left]
  exact names_join names

theorem name_of_below {path : Path} {above below : Location} (something : below ≠ [])
    (names : path.names = directory.names ++ below) :
    (above ++ below).getLast?.getD "" = path.name := by
  rw [Path.name, names, List.getLast?_append_of_ne_nil _ something,
    List.getLast?_append_of_ne_nil _ something]

/-- Different entries below a directory are found at different paths. -/
theorem IsProper.pathTo_injective (proper : disk.IsProper) {above : Location}
    {a b : Location × Entry} (member : a ∈ disk.entries) (member' : b ∈ disk.entries)
    (below : isBelow above a.1 = true) (below' : isBelow above b.1 = true)
    (same : Disk.pathTo directory above a = Disk.pathTo directory above b) : a = b := by
  obtain ⟨rest, -, place⟩ := isBelow_iff.mp below
  obtain ⟨rest', -, place'⟩ := isBelow_iff.mp below'
  have names := congrArg Path.names same
  rw [(proper.pathTo directory member place).2, (proper.pathTo directory member' place').2] at names
  refine List.inj_on_of_nodup_map proper.distinct member member' ?_
  rw [place, place', List.append_cancel_left names]

/-- A search finds everything below a directory whose name has the ending, once and in order. -/
theorem search_finds (proper : disk.IsProper) (stands : disk.isDirectory directory = .ok true)
    (ending : String) :
    ∃ found, disk.search directory ending = .ok found ∧ Path.Ascends found ∧
      ∀ path, path ∈ found ↔ disk.StandsBelow directory ending path := by
  unfold search
  rw [stands]
  dsimp only
  cases located : disk.locate directory with
  | error obstacle =>
    refine ⟨[], rfl, .nil, fun path => ⟨nofun, ?_⟩⟩
    rintro ⟨location, below, found, -⟩
    rw [located] at found
    cases found
  | ok location =>
    refine ⟨_, rfl, Path.sort_ascends ?_, fun path => ?_⟩
    · refine List.Nodup.map_on ?_ ((List.Nodup.of_map _ proper.distinct).filter _)
      intro a member b member' same
      simp only [List.mem_filter, Bool.and_eq_true] at member member'
      exact proper.pathTo_injective member.1 member'.1 member.2.1 member'.2.1 same
    · rw [Path.mem_sort, List.mem_map]
      constructor
      · rintro ⟨item, member, rfl⟩
        simp only [List.mem_filter, Bool.and_eq_true, List.isSuffixOf_iff_suffix] at member
        obtain ⟨inside, below, ends⟩ := member
        obtain ⟨rest, something, place⟩ := isBelow_iff.mp below
        obtain ⟨anchor, names⟩ := proper.pathTo directory inside place
        rw [place, name_of_below something names] at ends
        exact ⟨location, rest, located, something,
          (Disk.entry?_isSome (by simp [something])).mpr ⟨item, inside, place⟩, ends, anchor, names⟩
      · rintro ⟨place, rest, found, something, stands, ends, anchor, names⟩
        cases located.symm.trans found
        obtain ⟨item, inside, place⟩ := (Disk.entry?_isSome (by simp [something])).mp stands
        obtain ⟨anchor', names'⟩ := proper.pathTo directory inside place
        refine ⟨item, ?_, Path.ext_names (anchor'.trans anchor.symm) (names'.trans names.symm)⟩
        simp only [List.mem_filter, Bool.and_eq_true, List.isSuffixOf_iff_suffix]
        refine ⟨inside, isBelow_iff.mpr ⟨rest, something, place⟩, ?_⟩
        rwa [place, name_of_below something names]

end Disk

/-! ## Describing sources -/

namespace Disk
variable {disk : Disk} {path : Path}

theorem badPath?_of_null (h : path.HoldsNull) : badPath? path = some .nullCharacter := by
  obtain ⟨name, member, holds⟩ := h
  rw [badPath?, if_pos]
  exact List.any_eq_true.mpr ⟨name, member, List.contains_iff_mem.mpr holds⟩

theorem locate_of_null (h : path.HoldsNull) : disk.locate path = .error .nullCharacter := by
  rw [locate, badPath?_of_null h]

theorem read_null : disk.read path = .error .nullCharacter ↔ path.HoldsNull := by
  constructor
  · intro h
    unfold read at h
    split at h
    · cases h
    · split at h
      · next found =>
        cases h
        exact locate_null found
      · split at h <;> cases h
  · intro h
    obtain ⟨name, member, -⟩ := id h
    rw [read, if_neg (List.ne_nil_of_mem member), locate_of_null h]

end Disk

instance (path : Path) : Decidable path.HoldsNull :=
  inferInstanceAs (Decidable (∃ name ∈ path.names, '\x00' ∈ name.toList))

namespace Discovery

/-- A source that cannot be asked for its package. -/
def Unreadable (source : Path) : Prop :=
  source.extension = extension ∧ source.HoldsNull

instance (source : Path) : Decidable (Unreadable source) :=
  inferInstanceAs (Decidable (_ ∧ _))

theorem readPackage_of_unreadable {source : Path} (h : Unreadable source) (host : Host) :
    readPackage source host = (.error .nullCharacter, host) := by
  rw [readPackage, if_neg (not_not.mpr h.1), Disk.read_null.mpr h.2]

theorem readPackage_of_readable {source : Path} (h : ¬Unreadable source) (host : Host) :
    ∃ package after, readPackage source host = (.ok package, after) := by
  unfold readPackage
  split
  · exact ⟨_, _, rfl⟩
  · next java =>
    split
    · exact ⟨_, _, rfl⟩
    · next null => exact absurd ⟨Decidable.not_not.mp java, Disk.read_null.mp null⟩ h
    · exact ⟨_, _, rfl⟩

/-- What is made of a source depends on the disk alone. -/
theorem readPackage_eq_of_disk {host other : Host} (same : host.disk = other.disk)
    (source : Path) : (readPackage source host).1 = (readPackage source other).1 := by
  unfold readPackage
  rw [same]
  split
  · rfl
  · split <;> rfl

/-- What becomes of a source: a test that is named after its package and its stem. -/
def Describes (host : Host) (source : Path) (test : TestRun) : Prop :=
  ∃ package top, (readPackage source host).1 = .ok package ∧
    Package.root (absolute host source) package = .ok top ∧
    test = .fresh (qualify package source.stem) source.stem (absolute host source) (some top)

theorem Describes.of_disk {host other : Host} {source : Path} {test : TestRun}
    (same : host.disk = other.disk) (h : Describes host source test) :
    Describes other source test := by
  obtain ⟨package, top, read, root, made⟩ := h
  have place : absolute host source = absolute other source := by
    rw [absolute, absolute, workingDirectory, workingDirectory, same]
  exact ⟨package, top, readPackage_eq_of_disk same source ▸ read, place ▸ root, place ▸ made⟩

theorem describe_describes {source : Path} (readable : ¬Unreadable source) (host : Host) :
    ∃ test after, describe source host = (.ok test, after) ∧ after.disk = host.disk ∧
      Describes host source test := by
  obtain ⟨package, after, read⟩ := readPackage_of_readable readable host
  obtain ⟨top, root, described⟩ := describe_of_readPackage read
  have kept : after.disk = host.disk := by
    rw [← readPackage_disk source host, read]
  refine ⟨_, after, described, kept, Describes.of_disk kept ⟨package, top, ?_, root, rfl⟩⟩
  rw [readPackage_eq_of_disk kept, read]

theorem describeAll_describes {sources : List Path}
    (readable : ∀ source ∈ sources, ¬Unreadable source) (host : Host) :
    ∃ tests after, describeAll sources host = (.ok tests, after) ∧ after.disk = host.disk ∧
      List.Forall₂ (Describes host) sources tests := by
  induction sources generalizing host with
  | nil => exact ⟨[], host, rfl, rfl, .nil⟩
  | cons source rest ih =>
    rw [List.forall_mem_cons] at readable
    obtain ⟨test, after, first, kept, describes⟩ := describe_describes readable.1 host
    obtain ⟨tests, last, others, kept', all⟩ := ih readable.2 after
    refine ⟨test :: tests, last, ?_, kept'.trans kept,
      .cons describes (all.imp fun _ _ => Describes.of_disk kept)⟩
    simp only [describeAll, first, others]

/-! ## The sources of a path -/

/-- The sources that a path stands for. -/
inductive SourcesOf (disk : Disk) (path : Path) : List Path → Prop
  | below {found : List Path} : disk.isDirectory path = .ok true → Path.Ascends found →
      (∀ source, source ∈ found ↔ disk.StandsBelow path extension source) →
      SourcesOf disk path found
  | itself : disk.isDirectory path = .ok false → SourcesOf disk path [path]

/-- Why a path cannot be asked for its sources, or its source not for a package. -/
def refusal? (disk : Disk) (path : Path) : Option Fault :=
  match disk.isDirectory path with
  | .error obstacle => some (obstacle.fault path)
  | .ok true => none
  | .ok false => if Unreadable path then some .nullCharacter else none

/-- A path to a directory has no null character, and neither has a name on a disk. -/
theorem StandsBelow.readable {disk : Disk} {path source : Path} (proper : disk.IsProper)
    (stands : disk.StandsBelow path extension source) : ¬Unreadable source := by
  rintro ⟨-, name, member, holds⟩
  obtain ⟨location, below, located, something, inside, -, -, names⟩ := stands
  rw [names, List.mem_append] at member
  rcases member with above | member
  · rw [Disk.locate_of_null ⟨name, above, holds⟩] at located
    cases located
  · obtain ⟨item, listed, place⟩ := (Disk.entry?_isSome (by simp [something])).mp inside
    exact (proper.named item listed name (place ▸ List.mem_append_right location member)).2 holds

theorem sources_of_accepted {disk : Disk} {path : Path} (proper : disk.IsProper)
    (accepted : refusal? disk path = none) :
    ∃ found, sources disk path = .ok found ∧ SourcesOf disk path found ∧
      ∀ source ∈ found, ¬Unreadable source := by
  unfold refusal? at accepted
  split at accepted
  · cases accepted
  · next directory =>
    obtain ⟨found, finds, ascends, whole⟩ := Disk.search_finds proper directory extension
    refine ⟨found, ?_, .below directory ascends whole, fun source member =>
      StandsBelow.readable proper ((whole source).mp member)⟩
    simp only [sources, directory, finds]
  · next other =>
    refine ⟨[path], by simp only [sources, other], .itself other, ?_⟩
    rw [List.forall_mem_singleton]
    intro unreadable
    rw [if_pos unreadable] at accepted
    cases accepted

/-- A refused path has no sources, or none that can be described. -/
theorem describeAll_of_refused {disk : Disk} {path : Path} {fault : Fault}
    (refused : refusal? disk path = some fault) :
    sources disk path = .error fault ∨
      sources disk path = .ok [path] ∧ ∀ host, describeAll [path] host = (.error fault, host) := by
  unfold refusal? at refused
  split at refused
  · next obstacle wrong =>
    cases refused
    exact .inl (by simp only [sources, wrong])
  · cases refused
  · next other =>
    split at refused
    · next unreadable =>
      cases refused
      refine .inr ⟨by simp only [sources, other], fun host => ?_⟩
      simp only [describeAll, describe, readPackage_of_unreadable unreadable host]
    · cases refused

/-! ## The tests of all paths -/

theorem findTests_accepted {paths : List Path} {host : Host} (proper : host.disk.IsProper)
    (accepted : ∀ path ∈ paths, refusal? host.disk path = none) :
    ∃ groups tests, (findTests paths host).1 = .ok tests ∧
      List.Forall₂ (SourcesOf host.disk) paths groups ∧
      List.Forall₂ (Describes host) groups.flatten tests := by
  induction paths generalizing host with
  | nil => exact ⟨[], [], rfl, .nil, .nil⟩
  | cons path rest ih =>
    rw [List.forall_mem_cons] at accepted
    -- Describing the sources of the first path leaves the disk alone, and nothing but the disk decides
    -- what the other paths stand for.
    obtain ⟨found, asked, group, readable⟩ := sources_of_accepted proper accepted.1
    obtain ⟨tests, after, described, kept, describes⟩ := describeAll_describes readable host
    obtain ⟨groups, others, ended, gathered, all⟩ :=
      @ih after (kept ▸ proper) (kept ▸ accepted.2)
    rw [kept] at gathered
    refine ⟨found :: groups, tests ++ others, ?_, .cons group gathered, ?_⟩
    · rcases finds : findTests rest after with ⟨result, last⟩
      rw [finds] at ended
      cases (ended : result = _)
      simp only [findTests, asked, described, finds]
    · rw [List.flatten_cons]
      exact List.rel_append describes (all.imp fun _ _ => Describes.of_disk kept)

theorem findTests_refused {paths : List Path} {host : Host} (proper : host.disk.IsProper)
    {fault : Fault} (refused : paths.findSome? (refusal? host.disk) = some fault) :
    (findTests paths host).1 = .error fault := by
  induction paths generalizing host with
  | nil => cases refused
  | cons path rest ih =>
    cases first : refusal? host.disk path with
    | some obstacle =>
      rw [List.findSome?_cons_of_isSome (by simp [first]), first] at refused
      cases refused
      rcases describeAll_of_refused first with asked | ⟨asked, described⟩
      · simp only [findTests, asked]
      · simp only [findTests, asked, described]
    | none =>
      rw [List.findSome?_cons_of_isNone (by simp [first])] at refused
      obtain ⟨found, asked, -, readable⟩ := sources_of_accepted proper first
      obtain ⟨tests, after, described, kept, -⟩ := describeAll_describes readable host
      have later := @ih after (kept ▸ proper) (kept ▸ refused)
      rcases finds : findTests rest after with ⟨result, last⟩
      rw [finds] at later
      cases (later : result = _)
      simp only [findTests, asked, described, finds]

theorem exists_of_mem_forall₂ {α β : Type} {R : α → β → Prop} {items : List α} {images : List β}
    {image : β} (h : List.Forall₂ R items images) (member : image ∈ images) :
    ∃ item ∈ items, R item image := by
  induction h with
  | nil => cases member
  | cons related _ ih =>
    rcases List.mem_cons.mp member with rfl | later
    · exact ⟨_, List.mem_cons_self, related⟩
    · obtain ⟨item, inside, related⟩ := ih later
      exact ⟨item, List.mem_cons_of_mem _ inside, related⟩

theorem SourcesOf.named {disk : Disk} {path source : Path} {found : List Path}
    (h : SourcesOf disk path found) (member : source ∈ found) : source.names ≠ [] := by
  cases h with
  | below directory ascends whole =>
    obtain ⟨location, below, -, something, -, -, -, names⟩ := (whole source).mp member
    simp [names, something]
  | itself other =>
    cases List.mem_singleton.mp member
    intro nameless
    rw [Disk.isDirectory, if_pos nameless] at other
    cases other

/-- Each test that is found is that of a source with a name. -/
theorem findTests_describes {paths : List Path} {host after : Host} {tests : List TestRun}
    {test : TestRun} (proper : host.disk.IsProper)
    (h : findTests paths host = (.ok tests, after)) (member : test ∈ tests) :
    ∃ source, source.names ≠ [] ∧ Describes host source test := by
  cases refused : paths.findSome? (refusal? host.disk) with
  | some fault =>
    have ended := findTests_refused proper refused
    rw [h] at ended
    cases ended
  | none =>
    obtain ⟨groups, others, ended, gathered, described⟩ :=
      findTests_accepted proper (List.findSome?_eq_none_iff.mp refused)
    rw [h] at ended
    cases ended
    obtain ⟨source, inside, describes⟩ := exists_of_mem_forall₂ described member
    obtain ⟨group, listed, inside⟩ := List.mem_flatten.mp inside
    obtain ⟨path, -, stands⟩ := exists_of_mem_forall₂ gathered listed
    exact ⟨source, stands.named inside, describes⟩

/-- The tests that are found are those of the sources of each path, one path after the other. The first
path that is refused keeps all tests from being found. -/
theorem findTests_sources {host : Host} (proper : host.disk.IsProper) (paths : List Path) :
    match paths.findSome? (refusal? host.disk) with
    | some fault => (findTests paths host).1 = .error fault
    | none => ∃ groups tests, (findTests paths host).1 = .ok tests ∧
        List.Forall₂ (SourcesOf host.disk) paths groups ∧
        List.Forall₂ (Describes host) groups.flatten tests := by
  split
  · next refused => exact findTests_refused proper refused
  · next accepted =>
    exact findTests_accepted proper (List.findSome?_eq_none_iff.mp accepted)

/-! ## Samples -/

/-- Sources at several depths, one of which is hidden, beside a directory that is named like one. -/
def sampleForest : Host :=
  .fresh ⟨[(["src"], .directory), (["src", "b.java"], .file []), (["src", "a"], .directory),
    (["src", "a", "c.java"], .file []), (["src", "a-b.java"], .file []), (["src", ".java"], .file []),
    (["src", "notes"], .file []), (["old"], .directory), (["old", "Old.java"], .directory)],
    some []⟩ 0 []

theorem findTests_sources_sample :
    ∃ found tests, (findTests [.parse "/src"] sampleForest).1 = .ok tests ∧
      List.Forall₂ (Describes sampleForest) found tests ∧ Path.Ascends found ∧
      .parse "/src/a/c.java" ∈ found ∧ .parse "/src/.java" ∈ found ∧
      .parse "/src/notes" ∉ found := by
  have proper : sampleForest.disk.IsProper := by decide +kernel
  have accepted : [Path.parse "/src"].findSome? (refusal? sampleForest.disk) = none := by
    decide +kernel
  have all := findTests_sources proper [.parse "/src"]
  rw [accepted] at all
  obtain ⟨groups, tests, ended, gathered, described⟩ := all
  obtain ⟨found, _, group, none, rfl⟩ := List.forall₂_cons_left_iff.mp gathered
  rw [List.forall₂_nil_left_iff.mp none, List.flatten_singleton] at described
  cases group with
  | itself other => exact absurd other (by decide +kernel)
  | below _ ascends whole =>
    refine ⟨found, tests, ended, described, ascends, (whole _).mpr ?_, (whole _).mpr ?_, ?_⟩
    · exact ⟨["src"], ["a", "c.java"], by decide +kernel, by decide, by decide +kernel,
        by decide +kernel, by decide +kernel, by decide +kernel⟩
    · exact ⟨["src"], [".java"], by decide +kernel, by decide, by decide +kernel,
        by decide +kernel, by decide +kernel, by decide +kernel⟩
    · intro member
      obtain ⟨_, _, _, _, _, ends, _⟩ := (whole _).mp member
      exact absurd ends (by decide +kernel)

/-- A directory whose name ends like that of a source is taken for one. -/
theorem findTests_directory :
    sampleForest.disk.isDirectory (.parse "/old/Old.java") = .ok true ∧
      (findTests [.parse "/old"] sampleForest).1 =
        .ok [.fresh "Old" "Old" (.parse "/old/Old.java") (some (.parse "/old"))] := by
  decide +kernel

end Discovery

end TestBench
