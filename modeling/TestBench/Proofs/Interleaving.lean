import Mathlib.Data.List.Forall2
import TestBench.Proofs.Alongside

/-!
A work area that several tests use at the same time. Whatever the others do in between, a test finds
its own directory as if it had been alone, and its uses come out in the same way.

- `AreaUse` and `WorkArea.performAll`: uses of a work area, one after the other,
- `WorkArea.Shares`: what a test can tell apart, kept by every use,
- `WorkArea.prepareUserDirectory_renews` and `WorkArea.cleanUp_clears`: a new user directory, and a
  directory that is removed,
- `WorkArea.prepareUserDirectory_long`: what a fault names when a name is too long,
- `WorkArea.performAll_alone`: uses of many tests in any order.
-/
namespace TestBench
set_option autoImplicit false

open Disk (Matches Alongside InDirectory Within)

/-! ## Uses -/

/-- A use of a work area: one of its operations, or a folder or a file that is made in the directory
of a test at a path from there. -/
inductive AreaUse where
  | prepare
  | prepareUserDirectory (name : String)
  | cleanUp (name : String)
  | makeFolder (name : String) (inner : Path)
  | writeFile (name : String) (inner : Path) (content : List UInt8)
deriving DecidableEq

namespace AreaUse

/-- The name of the directory in which a use makes its changes. -/
def owner : AreaUse → String
  | prepare => "testrunner"
  | prepareUserDirectory name => name
  | cleanUp name => name
  | makeFolder name _ => name
  | writeFile name _ _ => name

/-- Whether a use writes a file. -/
def isWrite : AreaUse → Bool
  | writeFile _ _ _ => true
  | _ => false

/-- A path that leads down from a directory. -/
def IsInner (inner : Path) : Prop :=
  inner.isAbsolute = false ∧ ".." ∉ inner.names

instance (inner : Path) : Decidable (IsInner inner) :=
  inferInstanceAs (Decidable (_ ∧ _))

/-- A use stays inside the directory of its owner. -/
def IsInside : AreaUse → Prop
  | makeFolder _ inner => IsInner inner
  | writeFile _ inner _ => IsInner inner ∧ inner.names ≠ []
  | _ => True

instance : (use : AreaUse) → Decidable use.IsInside
  | prepare => isTrue trivial
  | prepareUserDirectory _ => isTrue trivial
  | cleanUp _ => isTrue trivial
  | makeFolder _ inner => inferInstanceAs (Decidable (IsInner inner))
  | writeFile _ inner _ => inferInstanceAs (Decidable (IsInner inner ∧ inner.names ≠ []))

/-- A use for a test that is named by one component, inside the directory of that test. -/
def IsOrderly (use : AreaUse) : Prop :=
  IsStep use.owner ∧ use.IsInside

instance (use : AreaUse) : Decidable use.IsOrderly :=
  inferInstanceAs (Decidable (_ ∧ _))

end AreaUse

namespace WorkArea

def perform (area : WorkArea) : AreaUse → Host → Except Fault Unit × Host
  | .prepare, host => area.prepare host
  | .prepareUserDirectory name, host => area.prepareUserDirectory name host
  | .cleanUp name, host => (.ok (), area.cleanUp name host)
  | .makeFolder name inner, host =>
    host.makeDirectories true ((area.testDirectory name).join inner)
  | .writeFile name inner content, host =>
    let path := (area.testDirectory name).join inner
    match host.disk.write path content with
    | .error obstacle => (.error (obstacle.fault path), host)
    | .ok disk => (.ok (), { host with disk := disk })

/-- Uses one after the other, each with its outcome. -/
def performAll (area : WorkArea) : List AreaUse → Host →
    List (AreaUse × Except Fault Unit) × Host
  | [], host => ([], host)
  | use :: rest, host =>
    let (outcome, after) := area.perform use host
    let (outcomes, last) := performAll area rest after
    ((use, outcome) :: outcomes, last)

/-- The uses of one test, each with its outcome. -/
def usesOf (area : WorkArea) (name : String) (uses : List AreaUse) (host : Host) :
    List (AreaUse × Except Fault Unit) :=
  (area.performAll uses host).1.filter fun item => item.1.owner = name

/-- How the uses of one test come out. -/
def outcomes (area : WorkArea) (name : String) (uses : List AreaUse) (host : Host) :
    List (Except Fault Unit) :=
  (area.usesOf name uses host).map Prod.snd

/-- The path that a use goes to. -/
def target (area : WorkArea) : AreaUse → Path
  | .prepare => area.runnerClasses
  | .prepareUserDirectory name => area.userDirectory name
  | .cleanUp name => area.testDirectory name
  | .makeFolder name inner => (area.testDirectory name).join inner
  | .writeFile name inner _ => (area.testDirectory name).join inner

/-- The same use of a test, with its outcome when the test is alone and its outcome among others. -/
def Compares (area : WorkArea) (name : String) (alone full : AreaUse × Except Fault Unit) : Prop :=
  alone.1 = full.1 ∧ Matches area.base name full.1.isWrite (area.target full.1) alone.2 full.2

/-! ## The directory of a test -/

section Directory
variable {area : WorkArea} {name : String} {start : Location} {host after : Host}

theorem within_testDirectory (plain : ".." ∉ area.base.names) (step : IsStep name) :
    Within area.base name (area.testDirectory name) where
  anchor := Path.anchor_child step.1
  plain := by
    rw [testDirectory, Path.names_child step.1, List.mem_append, List.mem_singleton, not_or]
    exact ⟨plain, Ne.symm step.2⟩
  below := by
    have names : (area.testDirectory name).names = area.base.names ++ [name] :=
      Path.names_child step.1
    exact names ▸ List.prefix_rfl

theorem within_join {inner : Path} (plain : ".." ∉ area.base.names) (step : IsStep name)
    (isInner : AreaUse.IsInner inner) :
    Within area.base name ((area.testDirectory name).join inner) := by
  have directory := within_testDirectory plain step
  have join : (area.testDirectory name).join inner =
      ⟨(area.testDirectory name).anchor, (area.testDirectory name).names ++ inner.names, by
        exact List.forall_mem_append.mpr ⟨(area.testDirectory name).isName, inner.isName⟩⟩ := by
    simp [Path.join, isInner.1]
  rw [join]
  refine ⟨directory.anchor, ?_, directory.below.trans (List.prefix_append _ _)⟩
  rw [List.mem_append, not_or]
  exact ⟨directory.plain, isInner.2⟩

theorem length_join {inner : Path} (step : IsStep name) (isInner : AreaUse.IsInner inner)
    (below : inner.names ≠ []) :
    area.base.names.length + 1 < ((area.testDirectory name).join inner).names.length := by
  have some := List.length_pos_iff.mpr below
  have directory : (area.testDirectory name).names.length = area.base.names.length + 1 := by
    simp [testDirectory, Path.names_child step.1]
  simp only [Path.join, isInner.1, Bool.false_eq_true, if_false, List.length_append]
  omega

theorem within_userDirectory (plain : ".." ∉ area.base.names) (step : IsStep name) :
    Within area.base name (area.userDirectory name) :=
  (within_testDirectory plain step).child (by decide)

theorem testPlace_eq (plain : ".." ∉ area.base.names) (step : IsStep name) (start : Location) :
    area.testPlace start name = start ++ (area.base.names ++ [name]) := by
  rw [testPlace_plain plain step, List.append_assoc]

theorem prepareUserDirectory_eq (name : String) (host : Host)
    (unhindered : area.userDirectoryFault = none) :
    (area.prepareUserDirectory name host).1 =
        ((host.disk.remove (area.userDirectory name)).makeDirectories false
          (area.userDirectory name)).1 ∧
      (area.prepareUserDirectory name host).2.disk =
        ((host.disk.remove (area.userDirectory name)).makeDirectories false
          (area.userDirectory name)).2 := by
  simp only [prepareUserDirectory, unhindered, Host.makeDirectories, Host.remove, and_self]

theorem prepareUserDirectory_hindered {fault : Fault}
    (hindered : area.userDirectoryFault = some fault) :
    area.prepareUserDirectory name host = (.error fault, host) := by
  unfold prepareUserDirectory
  rw [hindered]

theorem prepareUserDirectory_ok (h : area.prepareUserDirectory name host = (.ok (), after)) :
    (host.disk.remove (area.userDirectory name)).makeDirectories false (area.userDirectory name) =
      (.ok (), after.disk) := by
  cases met : area.userDirectoryFault with
  | some fault =>
    rw [prepareUserDirectory_hindered met] at h
    cases h
  | none =>
    obtain ⟨result, made⟩ := prepareUserDirectory_eq name host met
    rw [h] at result made
    exact Prod.ext result.symm made.symm

end Directory

/-! ## One use -/

section Use
variable {area : WorkArea} {name : String} {start : Location} {use : AreaUse} {host : Host}

/-- What a use does to the disk: directories are made, removed or both, or a file is written, all at
paths in the directory of its owner. -/
theorem perform_disk {P : Disk → Prop} (plain : ".." ∉ area.base.names) (orderly : use.IsOrderly)
    (makes : ∀ {disk : Disk} {path : Path} (lenient : Bool), Within area.base use.owner path →
      P disk → P (disk.makeDirectories lenient path).2)
    (removes : ∀ {disk : Disk} {path : Path}, Within area.base use.owner path →
      P disk → P (disk.remove path))
    (writes : ∀ {disk written : Disk} {path : Path} {content : List UInt8},
      Within area.base use.owner path → area.base.names.length + 1 < path.names.length →
      disk.write path content = .ok written → P disk → P written)
    (kept : P host.disk) : P (area.perform use host).2.disk := by
  obtain ⟨step, inner⟩ := orderly
  cases use with
  | prepare => exact makes true (within_testDirectory plain step) kept
  | prepareUserDirectory name =>
    have within := within_userDirectory plain step
    rw [perform]
    cases met : area.userDirectoryFault with
    | some fault => rwa [prepareUserDirectory_hindered met]
    | none =>
      rw [(prepareUserDirectory_eq name _ met).2]
      exact makes false within (removes within kept)
  | cleanUp name =>
    simp only [perform, cleanUp]
    split
    · exact kept
    · exact removes (within_testDirectory plain step) kept
  | makeFolder name inner' => exact makes true (within_join plain step inner) kept
  | writeFile name inner' content =>
    simp only [perform]
    split
    · exact kept
    · next written writes' =>
      exact writes (within_join plain step inner.1) (length_join step inner.1 inner.2) writes' kept

theorem perform_tree (plain : ".." ∉ area.base.names) (orderly : use.IsOrderly)
    (tree : host.disk.IsTree) : (area.perform use host).2.disk.IsTree :=
  perform_disk plain orderly (fun lenient _ tree => tree.makeDirectories lenient _)
    (fun _ tree => tree.remove _) (fun _ _ writes tree => tree.write writes) tree

theorem perform_inDirectory (plain : ".." ∉ area.base.names) (orderly : use.IsOrderly)
    (begins : host.disk.origin? area.base = some start)
    (stands : host.disk.isDirectoryAt start = true) :
    InDirectory area.base start use.owner host.disk (area.perform use host).2.disk := by
  refine perform_disk (P := InDirectory area.base start use.owner host.disk) plain orderly ?_ ?_ ?_
    (.refl _ _ _)
  · intro disk path lenient within kept
    exact kept.trans
      (Disk.makeDirectories_inDirectory within (kept.stands_start begins stands).1 lenient)
  · intro disk path within kept
    exact kept.trans (Disk.remove_inDirectory within (kept.stands_start begins stands).1)
  · intro disk written path content within _ writes kept
    exact kept.trans (Disk.write_inDirectory within (kept.stands_start begins stands).1 writes)

theorem perform_nowhere (plain : ".." ∉ area.base.names) (orderly : use.IsOrderly)
    (nowhere : Disk.Nowhere area.base host.disk) :
    (area.perform use host).2.disk = host.disk := by
  refine perform_disk (P := (· = host.disk)) plain orderly ?_ ?_ ?_ rfl
  · rintro disk path lenient within rfl
    exact nowhere.makeDirectories within lenient
  · rintro disk path within rfl
    exact nowhere.remove within
  · rintro disk written path content within below writes rfl
    exact absurd writes (nowhere.write within below content)

/-- The outcome of a use depends on the disk alone. -/
theorem perform_congr (area : WorkArea) (use : AreaUse) {first second : Host}
    (same : first.disk = second.disk) :
    (area.perform use first).1 = (area.perform use second).1 := by
  cases use with
  | prepare => simp only [perform, prepare, Host.makeDirectories, same]
  | prepareUserDirectory name =>
    simp only [perform, prepareUserDirectory]
    split <;> simp only [Host.makeDirectories, Host.remove, same]
  | cleanUp name => rfl
  | makeFolder name inner => simp only [perform, Host.makeDirectories, same]
  | writeFile name inner content =>
    simp only [perform, same]
    split <;> rfl

/-- A use of a test comes out alike on both disks, and leaves them alongside each other. -/
theorem perform_own {alone full : Host} (plain : ".." ∉ area.base.names) (orderly : use.IsOrderly)
    (own : use.owner ≠ "testrunner")
    (h : Alongside area.base start use.owner alone.disk full.disk) :
    Alongside area.base start use.owner (area.perform use alone).2.disk
        (area.perform use full).2.disk ∧
      Matches area.base use.owner use.isWrite (area.target use) (area.perform use alone).1
        (area.perform use full).1 := by
  obtain ⟨step, inner⟩ := orderly
  cases use with
  | prepare => exact absurd rfl own
  | prepareUserDirectory name =>
    have within := within_userDirectory plain step
    rw [perform, perform]
    cases met : area.userDirectoryFault with
    | some fault =>
      rw [prepareUserDirectory_hindered met, prepareUserDirectory_hindered met]
      exact ⟨h, .same _⟩
    | none =>
      have made := (h.remove within).makeDirectories within false
      rw [(prepareUserDirectory_eq name _ met).1, (prepareUserDirectory_eq name _ met).1,
        (prepareUserDirectory_eq name _ met).2, (prepareUserDirectory_eq name _ met).2]
      exact made
  | cleanUp name =>
    simp only [perform, cleanUp]
    split
    · exact ⟨h, .same _⟩
    · exact ⟨h.remove (within_testDirectory plain step), .same _⟩
  | makeFolder name inner' => exact h.makeDirectories (within_join plain step inner) true
  | writeFile name inner' content =>
    have writes : Alongside.Writes area.base ((area.testDirectory name).join inner') start name
        (alone.disk.write ((area.testDirectory name).join inner') content)
        (full.disk.write ((area.testDirectory name).join inner') content) :=
      h.write (within_join plain step inner.1) (length_join step inner.1 inner.2) content
    simp only [perform]
    generalize alone.disk.write ((area.testDirectory name).join inner') content = first at writes ⊢
    generalize full.disk.write ((area.testDirectory name).join inner') content = second at writes ⊢
    cases writes with
    | failed matching => exact ⟨h, matching⟩
    | written alongside => exact ⟨alongside, .same _⟩

end Use

/-! ## New directories and removed ones -/

section Directories
variable {area : WorkArea} {name : String} {start : Location} {host after : Host}

/-- The place of a test's working directory. -/
def userPlace (area : WorkArea) (start : Location) (name : String) : Location :=
  area.testPlace start name ++ ["user.dir"]

/-- The working directory of a test is there and empty, and the rest of the directory of the test is
unchanged; that directory itself may have been missing. -/
structure Renewed (area : WorkArea) (start : Location) (name : String) (before after : Disk) :
    Prop where
  leads : after.locate (area.userDirectory name) = .ok (area.userPlace start name)
  stands : after.isDirectoryAt (area.userPlace start name) = true
  empty : ∀ rest, rest ≠ [] → after.entry? (area.userPlace start name ++ rest) = none
  kept : ∀ location, area.testPlace start name <+: location →
    ¬area.userPlace start name <+: location →
      after.entry? location = before.entry? location ∨
        location = area.testPlace start name ∧ before.entry? location = none ∧
          after.entry? location = some .directory

theorem prepareUserDirectory_renews (plain : ".." ∉ area.base.names) (step : IsStep name)
    (tree : host.disk.IsTree) (starts : host.disk.StartsAt area.base start)
    (h : area.prepareUserDirectory name host = (.ok (), after)) :
    area.Renewed start name host.disk after.disk := by
  have isName : IsName "user.dir" ∧ "user.dir" ≠ ".." := by decide
  have within := within_userDirectory plain step
  have names : (area.userDirectory name).names = area.base.names ++ [name] ++ ["user.dir"] := by
    rw [userDirectory, testDirectory, Path.names_child isName.1, Path.names_child step.1]
  have top := testPlace_eq plain step start
  have place : start ++ (area.userDirectory name).names = area.userPlace start name := by
    rw [names, userPlace, top, List.append_assoc start]
  obtain ⟨leads, stands, empty, kept⟩ := Disk.makeDirectories_afresh tree within.plain
    (starts.congr within.anchor) (prepareUserDirectory_ok h)
  rw [place] at leads stands empty kept
  refine ⟨leads, stands, empty, fun location below outside => ?_⟩
  rcases kept.entry location outside with same | ⟨⟨front, short, rfl⟩, missing, new⟩
  · exact .inl same
  · refine .inr ⟨?_, missing, new⟩
    -- On the way, only the directory of the test itself does not lie above it.
    rw [names, List.prefix_concat_iff] at short
    rcases short with whole | short
    · rw [whole, ← names, Disk.follow_plain within.plain, place] at outside
      exact absurd List.prefix_rfl outside
    · have plain' : ".." ∉ front := fun member =>
        within.plain (names ▸ List.mem_append_left _ (short.subset member))
      rw [Disk.follow_plain plain', top] at below ⊢
      rw [List.prefix_append_right_inj] at below
      rw [short.eq_of_length (Nat.le_antisymm short.length_le below.length_le)]

/-- Nothing is left of the directory of a test that is cleaned up. -/
theorem cleanUp_clears (plain : ".." ∉ area.base.names) (step : IsStep name)
    (starts : host.disk.StartsAt area.base start) (removes : area.keepFiles = false)
    (stands : host.disk.isDirectory (area.testDirectory name) = .ok true) (location : Location)
    (below : area.testPlace start name <+: location) :
    Disk.entry? (area.cleanUp name host).disk location = none := by
  have within := within_testDirectory plain step
  have place : start ++ (area.testDirectory name).names = area.testPlace start name := by
    rw [testPlace, Disk.follow_plain within.plain]
  rw [cleanUp, removes, if_neg (by simp)]
  exact Disk.remove_clears (starts.congr within.anchor) within.plain within.named stands
    (place ▸ below)

/-- The fault of a long name tells which path it was met in. -/
theorem nameTooLong_fault_inj {path path' : Path}
    (same : Obstacle.nameTooLong.fault path = Obstacle.nameTooLong.fault path') : path = path' := by
  have text : path.toString = path'.toString := by
    simpa [Obstacle.fault, Obstacle.fault.named] using same
  rw [← Path.parse_toString path, text, Path.parse_toString]

/-- No user directory is made if the name of a test is too long. The fault names the user directory if
the base directory is there; otherwise the directories before the long name are made first, and the
fault names the directory of the test. -/
theorem prepareUserDirectory_long {depth : Nat} (unhindered : area.userDirectoryFault = none)
    (step : IsStep name) (ways : Disk.Ways host.disk (area.userDirectory name) start depth)
    (deep : depth ≤ area.base.names.length)
    (long : Disk.shortNames (area.userDirectory name).names = area.base.names.length) :
    (area.prepareUserDirectory name host).1 =
      .error (Obstacle.nameTooLong.fault (if depth = area.base.names.length
        then area.userDirectory name else area.testDirectory name)) := by
  have isName : IsName "user.dir" := by decide
  have length : (area.userDirectory name).names.length = area.base.names.length + 2 := by
    simp [userDirectory, testDirectory, Path.names_child isName, Path.names_child step.1]
  have nothing : host.disk.remove (area.userDirectory name) = host.disk := by
    refine Disk.remove_of_missing (Disk.startsAt_of_origin? ways.begins) ?_
    have missing := ways.reaches.missing _ (by omega) (Nat.le_refl _)
    rw [List.take_length] at missing
    rw [Disk.follow_plain ways.plain, Disk.isDirectoryAt, missing]
    rfl
  obtain ⟨made, makes, -⟩ := ways.makeDirectories (by omega) false
  rw [(prepareUserDirectory_eq name host unhindered).1, nothing, makes, if_neg (by omega),
    Disk.blockedPath, long]
  by_cases there : depth = area.base.names.length
  · rw [if_pos (by omega), if_pos there]
  · have last : (area.userDirectory name).names.length - (area.base.names.length + 1) = 1 := by
      omega
    rw [if_neg (by omega), if_neg there, last]
    have parent : (area.userDirectory name).dropLast 1 = area.testDirectory name :=
      Path.parent_child isName
    rw [parent]

end Directories

/-! ## Many uses -/

section Many
variable {area : WorkArea} {name : String} {start : Location} {alone full host : Host}

/-- Two hosts that one test cannot tell apart: their disks are alongside each other, or they are the
same and nothing can be reached in the work area. -/
def Shares (area : WorkArea) (start : Location) (name : String) (alone full : Host) : Prop :=
  alone.disk = full.disk ∧ Disk.Nowhere area.base full.disk ∨
    Alongside area.base start name alone.disk full.disk

theorem shares_refl (tree : host.disk.IsTree) :
    area.Shares ((host.disk.origin? area.base).getD []) name host host := by
  cases begins : host.disk.origin? area.base with
  | none => exact .inl ⟨rfl, fun start found => by rw [begins] at found; cases found⟩
  | some start =>
    cases stands : host.disk.isDirectoryAt start with
    | true => exact .inr (.refl tree begins stands)
    | false =>
      refine .inl ⟨rfl, fun other found => ?_⟩
      rw [begins] at found
      cases found
      exact stands

theorem Shares.other {use : AreaUse} (h : area.Shares start name alone full)
    (plain : ".." ∉ area.base.names) (orderly : use.IsOrderly) (apart : use.owner ≠ name) :
    area.Shares start name alone (area.perform use full).2 := by
  rcases h with ⟨same, nowhere⟩ | h
  · have unchanged := perform_nowhere plain orderly nowhere
    exact .inl ⟨same.trans unchanged.symm, by rwa [unchanged]⟩
  · exact .inr (h.others plain orderly.1.2 apart
      (perform_inDirectory plain orderly h.begins' h.stands') (perform_tree plain orderly h.tree'))

theorem Shares.own {use : AreaUse} (h : area.Shares start name alone full)
    (plain : ".." ∉ area.base.names) (orderly : use.IsOrderly) (own : use.owner = name)
    (apart : name ≠ "testrunner") :
    area.Shares start name (area.perform use alone).2 (area.perform use full).2 ∧
      area.Compares name (use, (area.perform use alone).1) (use, (area.perform use full).1) := by
  rcases h with ⟨same, nowhere⟩ | h
  · have unchanged := perform_nowhere plain orderly nowhere
    have unchanged' : (area.perform use alone).2.disk = alone.disk :=
      perform_nowhere plain orderly (same ▸ nowhere)
    rw [perform_congr area use same]
    exact ⟨.inl ⟨by rw [unchanged, unchanged', same], by rwa [unchanged]⟩, rfl, .same _⟩
  · subst own
    obtain ⟨alongside, matching⟩ := perform_own plain orderly apart h
    exact ⟨.inr alongside, rfl, matching⟩

theorem usesOf_own {use : AreaUse} (own : use.owner = name) (rest : List AreaUse) (host : Host) :
    area.usesOf name (use :: rest) host =
      (use, (area.perform use host).1) :: area.usesOf name rest (area.perform use host).2 := by
  simp [usesOf, performAll, own]

theorem usesOf_other {use : AreaUse} (other : use.owner ≠ name) (rest : List AreaUse)
    (host : Host) :
    area.usesOf name (use :: rest) host = area.usesOf name rest (area.perform use host).2 := by
  simp [usesOf, performAll, other]

theorem outcomes_own {use : AreaUse} (own : use.owner = name) (rest : List AreaUse) (host : Host) :
    area.outcomes name (use :: rest) host =
      (area.perform use host).1 :: area.outcomes name rest (area.perform use host).2 := by
  rw [outcomes, usesOf_own own, List.map_cons, outcomes]

theorem outcomes_other {use : AreaUse} (other : use.owner ≠ name) (rest : List AreaUse)
    (host : Host) :
    area.outcomes name (use :: rest) host = area.outcomes name rest (area.perform use host).2 := by
  rw [outcomes, usesOf_other other, outcomes]

/-- Whatever others do in between, a test cannot tell the difference. -/
theorem performAll_shares {uses : List AreaUse} (plain : ".." ∉ area.base.names)
    (apart : name ≠ "testrunner") (orderly : ∀ use ∈ uses, use.IsOrderly)
    (h : area.Shares start name alone full) :
    area.Shares start name
        (area.performAll (uses.filter fun use => use.owner = name) alone).2
        (area.performAll uses full).2 ∧
      List.Forall₂ (area.Compares name)
        (area.usesOf name (uses.filter fun use => use.owner = name) alone)
        (area.usesOf name uses full) := by
  induction uses generalizing alone full with
  | nil => exact ⟨h, .nil⟩
  | cons use rest ih =>
    rw [List.forall_mem_cons] at orderly
    by_cases own : use.owner = name
    · obtain ⟨shares, matching⟩ := h.own plain orderly.1 own apart
      obtain ⟨last, others⟩ := ih orderly.2 shares
      rw [List.filter_cons_of_pos (by simpa using own), usesOf_own own, usesOf_own own]
      exact ⟨last, .cons matching others⟩
    · obtain ⟨last, others⟩ := ih orderly.2 (h.other plain orderly.1 own)
      rw [List.filter_cons_of_neg (by simpa using own), usesOf_other own]
      exact ⟨last, others⟩

/-- If no name on the way to the directory of a test is too long, its uses come out the same. -/
theorem outcomes_eq {uses own : List AreaUse}
    (short : ∀ part ∈ area.base.names ++ [name], Disk.isTooLong part = false)
    (h : List.Forall₂ (area.Compares name) (area.usesOf name own alone)
      (area.usesOf name uses full)) :
    area.outcomes name own alone = area.outcomes name uses full := by
  have same : List.Forall₂ (fun first second => first.2 = second.2) (area.usesOf name own alone)
      (area.usesOf name uses full) :=
    h.imp fun _ _ compares => compares.2.eq short
  rw [← List.forall₂_eq_eq_eq, outcomes, outcomes]
  exact List.forall₂_map_left_iff.mpr (List.forall₂_map_right_iff.mpr same)

theorem Shares.entry? (h : area.Shares start name alone full) (plain : ".." ∉ area.base.names)
    (step : IsStep name) {location : Location} (below : area.testPlace start name <+: location) :
    full.disk.entry? location = alone.disk.entry? location := by
  rcases h with ⟨same, -⟩ | h
  · rw [same]
  · obtain ⟨rest, rfl⟩ := below
    rw [testPlace_eq plain step, List.append_assoc, List.append_assoc]
    exact (h.own rest).symm

theorem Shares.renews {after : Host} (h : area.Shares start name alone full)
    (plain : ".." ∉ area.base.names) (step : IsStep name)
    (prepared : area.prepareUserDirectory name full = (.ok (), after)) :
    area.Renewed start name full.disk after.disk := by
  rcases h with ⟨-, nowhere⟩ | h
  · -- If nothing can be reached, no directory is made.
    have orderly : (AreaUse.prepareUserDirectory name).IsOrderly := ⟨step, trivial⟩
    have unchanged := perform_nowhere plain orderly nowhere
    rw [perform, prepared] at unchanged
    have within := within_userDirectory plain step
    obtain ⟨place, found, -⟩ :=
      Disk.makeUpTo_stands within.named (prepareUserDirectory_ok prepared)
    rw [unchanged] at found
    exact absurd found (nowhere.locate within.anchor within.named place)
  · exact prepareUserDirectory_renews plain step h.tree' (Disk.startsAt_of_origin? h.begins') prepared

theorem Shares.clears (h : area.Shares start name alone full) (plain : ".." ∉ area.base.names)
    (step : IsStep name) (removes : area.keepFiles = false)
    (stands : full.disk.isDirectory (area.testDirectory name) = .ok true) {location : Location}
    (below : area.testPlace start name <+: location) :
    Disk.entry? (area.cleanUp name full).disk location = none := by
  rcases h with ⟨-, nowhere⟩ | h
  · have within := within_testDirectory plain step
    obtain ⟨place, found, -⟩ := Disk.isDirectory_ok within.named stands
    exact absurd found (nowhere.locate within.anchor within.named place)
  · exact cleanUp_clears plain step (Disk.startsAt_of_origin? h.begins') removes stands location below

end Many

/-- Several tests use one work area, each in its own directory and in any order. Afterwards the
directory of a test holds what it would hold if the test had been alone, and the uses of the test have
come out in the same way; faults can differ only if a name on the way is too long. At every moment, a
user directory that is prepared with success is new, and clean-up, which never fails, leaves nothing of
the directory of the test unless files are kept. -/
theorem performAll_alone {area : WorkArea} {name : String} {host : Host} {uses : List AreaUse}
    (plain : ".." ∉ area.base.names) (tree : host.disk.IsTree) (step : IsStep name)
    (apart : name ≠ "testrunner") (orderly : ∀ use ∈ uses, use.IsOrderly) :
    let start := (host.disk.origin? area.base).getD []
    let own := uses.filter fun use => use.owner = name
    let reached := (area.performAll uses host).2
    (∀ location, area.testPlace start name <+: location →
      reached.disk.entry? location = Disk.entry? (area.performAll own host).2.disk location) ∧
    List.Forall₂ (area.Compares name) (area.usesOf name own host) (area.usesOf name uses host) ∧
    ((∀ part ∈ area.base.names ++ [name], Disk.isTooLong part = false) →
      area.outcomes name own host = area.outcomes name uses host) ∧
    (∀ after, area.perform (.prepareUserDirectory name) reached = (.ok (), after) →
      area.Renewed start name reached.disk after.disk) ∧
    (area.perform (.cleanUp name) reached).1 = .ok () ∧
    (area.keepFiles = false → reached.disk.isDirectory (area.testDirectory name) = .ok true →
      ∀ location, area.testPlace start name <+: location →
        Disk.entry? (area.perform (.cleanUp name) reached).2.disk location = none) := by
  intro start own reached
  obtain ⟨shares, matching⟩ := performAll_shares plain apart orderly (shares_refl tree)
  refine ⟨fun location => shares.entry? plain step, matching, fun short => ?_,
    fun after => shares.renews plain step, rfl, fun removes stands location =>
    shares.clears plain step removes stands⟩
  exact outcomes_eq short matching

/-! ## Samples -/

def sampleArea : WorkArea :=
  ⟨.parse "/work", false, none⟩

/-- A host without the work area. -/
def sampleBare : Host :=
  .fresh ⟨[], none⟩ 0 []

/-- Two tests side by side. -/
def sampleUses : List AreaUse :=
  [.makeFolder "B" (.parse "classes"), .prepareUserDirectory "A", .prepare,
    .writeFile "A" (.parse "user.dir/notes") [1], .writeFile "B" (.parse "classes/notes") [2],
    .cleanUp "B"]

theorem performAll_alone_sample :
    Disk.entry? (sampleArea.performAll sampleUses sampleBare).2.disk
        ["work", "A", "user.dir", "notes"] = some (.file [1]) ∧
      sampleArea.outcomes "A" sampleUses sampleBare = [.ok (), .ok ()] ∧
      Disk.entry? (sampleArea.perform (.cleanUp "A")
        (sampleArea.performAll sampleUses sampleBare).2).2.disk
        ["work", "A", "user.dir", "notes"] = none := by
  have tree : sampleBare.disk.IsTree := by decide
  have start : (sampleBare.disk.origin? sampleArea.base).getD [] = [] := by decide +kernel
  have place : sampleArea.testPlace [] "A" = ["work", "A"] := by decide +kernel
  obtain ⟨entries, -, same, -, -, clears⟩ :=
    @performAll_alone sampleArea "A" sampleBare sampleUses (by decide +kernel) tree (by decide)
      (by decide) (by decide +kernel)
  rw [start, place] at entries clears
  have below : ["work", "A"] <+: ["work", "A", "user.dir", "notes"] := by decide
  refine ⟨?_, ?_, clears rfl (by decide +kernel) _ below⟩
  · rw [entries _ below]
    decide +kernel
  · rw [← same (by decide +kernel)]
    decide +kernel

/-- A name of one octet too many. -/
def sampleLong : String :=
  String.ofList (List.replicate 256 'x')

theorem toList_sampleLong : sampleLong.toList = List.replicate 256 'x' :=
  String.toList_ofList

theorem sampleLong_isTooLong : Disk.isTooLong sampleLong = true := by
  rw [Disk.isTooLong, toList_sampleLong]
  decide +kernel

theorem sampleLong_ne {name : String} (short : Disk.isTooLong name = false) : sampleLong ≠ name := by
  rintro rfl
  rw [sampleLong_isTooLong] at short
  cases short

theorem sampleLong_isStep : IsStep sampleLong := by
  have single : '/' ∉ sampleLong.toList := by
    rw [toList_sampleLong, List.mem_replicate]
    decide
  exact ⟨⟨sampleLong_ne (by decide +kernel), sampleLong_ne (by decide +kernel), single⟩,
    sampleLong_ne (by decide +kernel)⟩

/-- What the work area of the sample holds after one user directory has been prepared. -/
def sampleShared : Disk :=
  ⟨[(["work"], .directory), (["work", "A"], .directory),
    (["work", "A", "user.dir"], .directory)], none⟩

theorem names_sampleLong :
    (sampleArea.userDirectory sampleLong).names = ["work", sampleLong, "user.dir"] := by
  have base : sampleArea.base.names = ["work"] := by decide +kernel
  rw [userDirectory, Path.names_child (by decide), testDirectory,
    Path.names_child sampleLong_isStep.1, base]
  rfl

theorem ways_sampleLong {disk : Disk} {depth : Nat}
    (reaches : Disk.Reaches disk [] ["work", sampleLong, "user.dir"] depth) :
    Disk.Ways disk (sampleArea.userDirectory sampleLong) [] depth := by
  have root : (sampleArea.userDirectory sampleLong).anchor = .root := by
    rw [userDirectory, Path.anchor_child (by decide), testDirectory,
      Path.anchor_child sampleLong_isStep.1]
    rfl
  have written : (sampleArea.userDirectory sampleLong).parts ≠ [] := by
    rw [Path.parts, root]
    exact List.cons_ne_nil _ _
  refine ⟨names_sampleLong ▸ reaches, ?_, ?_, ?_⟩
  · simp [Disk.origin?, Path.isAbsolute, root]
  · rw [names_sampleLong]
    simp [Ne.symm sampleLong_isStep.2]
  · rw [Disk.badPath?, Path.toList_toString written, names_sampleLong, root]
    simp only [Path.namesText, List.map_cons, List.map_nil, List.any_cons, List.any_nil,
      toList_sampleLong]
    decide +kernel

theorem reaches_sampleBare : Disk.Reaches sampleBare.disk [] ["work", sampleLong, "user.dir"] 0 := by
  refine ⟨by simp, fun count short => ?_, fun count beyond within => ?_⟩
  · rw [Nat.le_zero.mp short]
    rfl
  · obtain ⟨count, rfl⟩ := Nat.exists_eq_succ_of_ne_zero (Nat.ne_of_gt beyond)
    simp [Disk.entry?, sampleBare, Host.fresh]

theorem reaches_sampleShared : Disk.Reaches sampleShared [] ["work", sampleLong, "user.dir"] 1 := by
  have apart : "A" ≠ sampleLong := Ne.symm (sampleLong_ne (by decide +kernel))
  have front : Disk.Reaches sampleShared [] ["work", sampleLong] 1 := by
    refine ⟨by simp, fun count short => ?_, fun count beyond within => ?_⟩
    · obtain rfl | rfl := Nat.le_one_iff_eq_zero_or_eq_one.mp short <;> rfl
    · obtain rfl : count = 2 := Nat.le_antisymm within beyond
      simp [Disk.entry?, sampleShared, apart]
  exact front.extend (by decide) (by simp) ["user.dir"]

/-- A test whose name is too long fails to get a user directory in any case, but the path that the
fault names tells whether another test has made the base directory. -/
theorem performAll_long_differs :
    sampleBare.disk.IsTree ∧ IsStep sampleLong ∧ sampleLong ≠ "testrunner" ∧
      (∀ use ∈ [AreaUse.prepareUserDirectory "A", .prepareUserDirectory sampleLong],
        use.IsOrderly) ∧
      sampleArea.outcomes sampleLong [.prepareUserDirectory sampleLong] sampleBare =
        [.error (Obstacle.nameTooLong.fault (sampleArea.testDirectory sampleLong))] ∧
      sampleArea.outcomes sampleLong
          [.prepareUserDirectory "A", .prepareUserDirectory sampleLong] sampleBare =
        [.error (Obstacle.nameTooLong.fault (sampleArea.userDirectory sampleLong))] ∧
      Obstacle.nameTooLong.fault (sampleArea.testDirectory sampleLong) ≠
        Obstacle.nameTooLong.fault (sampleArea.userDirectory sampleLong) := by
  have apart : "A" ≠ sampleLong := Ne.symm (sampleLong_ne (by decide +kernel))
  have long : Disk.shortNames (sampleArea.userDirectory sampleLong).names = 1 := by
    have work : Disk.isTooLong "work" = false := by decide +kernel
    simp [names_sampleLong, Disk.shortNames_cons, work, sampleLong_isTooLong]
  have base : sampleArea.base.names.length = 1 := by decide +kernel
  have made : (sampleArea.perform (.prepareUserDirectory "A") sampleBare).2.disk = sampleShared := by
    decide +kernel
  refine ⟨by decide, sampleLong_isStep, sampleLong_ne (by decide +kernel), ?_, ?_, ?_, ?_⟩
  · rintro use (- | ⟨-, - | ⟨-, ⟨⟩⟩⟩)
    · decide
    · exact ⟨sampleLong_isStep, trivial⟩
  · rw [outcomes_own (by rfl), perform, prepareUserDirectory_long rfl sampleLong_isStep
      (ways_sampleLong reaches_sampleBare) (by omega) (by omega), if_neg (by omega)]
    rfl
  · rw [outcomes_other (by exact apart), outcomes_own (by rfl), perform,
      prepareUserDirectory_long rfl sampleLong_isStep
        (ways_sampleLong (made ▸ reaches_sampleShared)) (by omega) (by omega), if_pos (by omega)]
    rfl
  · intro same
    have lengths := congrArg (fun path : Path => path.names.length) (nameTooLong_fault_inj same)
    simp [userDirectory, testDirectory, Path.names_child sampleLong_isStep.1,
      Path.names_child (show IsName "user.dir" by decide)] at lengths

end WorkArea
end TestBench
