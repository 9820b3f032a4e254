import TestBench.Proofs.Order
import TestBench.Proofs.Ways

/-!
What one test sees of a disk that others use too. Beside the disk on which all uses were made stands
the one on which only the uses of that test were made. They hold the same in the directory of the
test; on the way to it, the first one may have directories that only others needed.

- `Within`: paths at or below the directory of a test,
- `Alongside`: the two disks,
- `Alongside.others`: the others make no difference,
- `Alongside.near_or_ways`: the disks look the same to the test, or the way ends early on one of them,
- `Alongside.makeDirectories`, `Alongside.remove` and `Alongside.write`: the test's own changes.
-/
namespace TestBench.Disk
set_option autoImplicit false

/-! ## Paths -/

/-- A path at the directory of a test or below it. -/
structure Within (base : Path) (name : String) (path : Path) : Prop where
  anchor : path.anchor = base.anchor
  plain : ".." ∉ path.names
  below : base.names ++ [name] <+: path.names

namespace Within
variable {base path : Path} {name : String} {start : Location} {disk : Disk}

theorem named (h : Within base name path) : path.names ≠ [] := by
  intro none
  have short := h.below.length_le
  rw [none, List.length_append, List.length_singleton] at short
  exact Nat.not_succ_le_zero _ short

theorem child {inner : String} (h : Within base name path) (step : IsStep inner) :
    Within base name (path.child inner) where
  anchor := (Path.anchor_child step.1).trans h.anchor
  plain := by
    rw [Path.names_child step.1, List.mem_append, List.mem_singleton, not_or]
    exact ⟨h.plain, Ne.symm step.2⟩
  below := by
    rw [Path.names_child step.1]
    exact h.below.trans (List.prefix_append _ _)

theorem place (h : Within base name path) (start : Location) :
    start ++ (base.names ++ [name]) <+: follow start path.names := by
  rw [follow_plain h.plain]
  exact (List.prefix_append_right_inj _).mpr h.below

theorem leads (h : Within base name path) (start : Location) :
    Leads base start (start ++ (base.names ++ [name])) path :=
  ⟨h.anchor, h.plain, .inr ((List.prefix_append_right_inj _).mpr h.below)⟩

/-- On the way to a path one meets the way to the directory of the test, and then only places below
that directory. -/
theorem onWay (h : Within base name path) (start : Location) {front : List String}
    (short : front <+: path.names) :
    start ++ (base.names ++ [name]) <+: follow start front ∨
      OnWay start (base.names ++ [name]) (follow start front) := by
  rcases List.prefix_or_prefix_of_prefix short h.below with early | late
  · exact .inr ⟨front, early, rfl⟩
  · rw [follow_plain fun member => h.plain (short.subset member)]
    exact .inl ((List.prefix_append_right_inj _).mpr late)

end Within

/-- The way to a path is the way to the directory of the test. -/
theorem Within.ways {base path : Path} {name : String} {start : Location} {disk : Disk} {depth : Nat}
    (within : Within base name path) (begins : disk.origin? base = some start)
    (fits : badPath? path = none)
    (reaches : ∀ rest, Reaches disk start (base.names ++ [name] ++ rest) depth) :
    Ways disk path start depth := by
  obtain ⟨rest, names⟩ := within.below
  exact ⟨names ▸ reaches rest, (origin?_congr within.anchor).trans begins, within.plain, fits⟩

/-- All changes lie in the directory of a test, up to directories on the way to it. -/
abbrev InDirectory (base : Path) (start : Location) (name : String) : Disk → Disk → Prop :=
  Confined (start ++ (base.names ++ [name])) (OnWay start (base.names ++ [name]))

section Changes
variable {base path : Path} {name : String} {start : Location} {disk : Disk}

theorem Within.startsAt (h : Within base name path) (begins : disk.origin? base = some start) :
    disk.StartsAt path start :=
  (startsAt_of_origin? begins).congr h.anchor

theorem makeDirectories_inDirectory (within : Within base name path)
    (begins : disk.origin? base = some start) (lenient : Bool) :
    InDirectory base start name disk (disk.makeDirectories lenient path).2 :=
  makeDirectories_confined (within.startsAt begins) (fun _ => within.onWay start) lenient

theorem remove_inDirectory (within : Within base name path)
    (begins : disk.origin? base = some start) :
    InDirectory base start name disk (disk.remove path) :=
  remove_confined (within.startsAt begins) (within.place start)

theorem write_inDirectory {content : List UInt8} {written : Disk} (within : Within base name path)
    (begins : disk.origin? base = some start) (h : disk.write path content = .ok written) :
    InDirectory base start name disk written :=
  write_confined (within.startsAt begins) (within.place start) h

/-- Where a path starts is not lost with the directory of a test. -/
theorem Confined.stands_start {changed : Disk} (kept : InDirectory base start name disk changed)
    (begins : disk.origin? base = some start) (stands : disk.isDirectoryAt start = true) :
    changed.origin? base = some start ∧ changed.isDirectoryAt start = true := by
  have outside : ¬start ++ (base.names ++ [name]) <+: start := by
    intro below
    have short := below.length_le
    simp only [List.length_append, List.length_singleton] at short
    omega
  rw [isDirectoryAt, decide_eq_true_eq] at stands ⊢
  exact ⟨kept.begins begins outside, kept.stands outside stands⟩

end Changes

/-! ## Paths that start nowhere -/

/-- A path that starts nowhere, or not in a directory. -/
def Nowhere (base : Path) (disk : Disk) : Prop :=
  ∀ start, disk.origin? base = some start → disk.isDirectoryAt start = false

section Nowhere
variable {base path : Path} {name : String} {disk made : Disk}

theorem Nowhere.locate (h : Nowhere base disk) (anchor : path.anchor = base.anchor)
    (named : path.names ≠ []) (place : Location) : disk.locate path ≠ .ok place := by
  intro found
  obtain ⟨start, -, begins, goes⟩ := locate_ok.mp found
  obtain ⟨first, rest, names⟩ := List.exists_cons_of_ne_nil named
  rw [names] at goes
  rw [origin?_congr anchor] at begins
  have standing := (walk_cons_ok.mp goes).1
  rw [h start begins] at standing
  cases standing

theorem Nowhere.makeDirectory (h : Nowhere base disk) (anchor : path.anchor = base.anchor)
    (plain : ".." ∉ path.names) : disk.makeDirectory path ≠ .ok made := by
  intro makes
  obtain ⟨above, last, -, -, rfl, found⟩ := makeDirectory_ok makes
  obtain ⟨start, -, begins, goes⟩ := locate_ok.mp found
  have place := walk_follow goes
  rw [follow_plain plain] at place
  rw [origin?_congr anchor, origin?, put_cwd] at begins
  have floor := h start begins
  cases names : path.names with
  | nil =>
    -- A path without names is not made.
    unfold Disk.makeDirectory at makes
    rw [names] at makes
    cases fits : badPath? path <;> rw [fits] at makes <;> cases makes
  | cons first rest =>
    rw [names] at goes place
    have standing := (walk_cons_ok.mp goes).1
    rw [isDirectoryAt_put_other (by simp [place]), floor] at standing
    cases standing

theorem Nowhere.makeDirectories (h : Nowhere base disk) (within : Within base name path)
    (lenient : Bool) : (disk.makeDirectories lenient path).2 = disk := by
  refine makeUpTo_keeps (P := (· = disk))
    (Q := fun other => other.anchor = path.anchor ∧ ".." ∉ other.names) ?_ ?_ _ lenient
    ⟨rfl, within.plain⟩ rfl
  · intro before made other asked same makes
    subst same
    exact absurd makes (h.makeDirectory (asked.1.trans within.anchor) asked.2)
  · intro other asked
    exact ⟨asked.1, fun member => asked.2 (List.mem_of_mem_take member)⟩

theorem Nowhere.remove (h : Nowhere base disk) (within : Within base name path) :
    disk.remove path = disk := by
  unfold Disk.remove
  split
  · rfl
  · next place found => exact absurd found (h.locate within.anchor within.named place)

theorem Nowhere.write (h : Nowhere base disk) (within : Within base name path)
    (below : base.names.length + 1 < path.names.length) (content : List UInt8) :
    disk.write path content ≠ .ok made := by
  have anchor : path.parent.anchor = base.anchor := within.anchor
  have deep : path.parent.names ≠ [] := by
    have length := path.length_parent
    exact List.ne_nil_of_length_pos (by omega)
  intro writes
  unfold Disk.write at writes
  rw [if_neg within.named] at writes
  split at writes
  · next place found => exact h.locate within.anchor within.named place found
  · split at writes
    · next above found => exact h.locate anchor deep above found
    · cases writes
  · cases writes

end Nowhere

/-! ## Two disks -/

/-- The disk on which only one test's uses were made, alongside the disk on which all were. -/
structure Alongside (base : Path) (start : Location) (name : String) (alone full : Disk) : Prop where
  tree : alone.IsTree
  tree' : full.IsTree
  begins : alone.origin? base = some start
  begins' : full.origin? base = some start
  stands : alone.isDirectoryAt start = true
  stands' : full.isDirectoryAt start = true
  way : ∀ front, front <+: base.names →
    alone.entry? (start ++ front) = full.entry? (start ++ front) ∨
      alone.entry? (start ++ front) = none ∧ full.isDirectoryAt (start ++ front) = true
  own : ∀ rest, alone.entry? (start ++ (base.names ++ name :: rest)) =
    full.entry? (start ++ (base.names ++ name :: rest))

namespace Alongside
variable {base path : Path} {start : Location} {name other : String} {disk alone full changed : Disk}

theorem refl (tree : disk.IsTree) (begins : disk.origin? base = some start)
    (stands : disk.isDirectoryAt start = true) : Alongside base start name disk disk :=
  ⟨tree, tree, begins, begins, stands, stands, fun _ _ => .inl rfl, fun _ => rfl⟩

/-- What is done in the directory of another test makes no difference. -/
theorem others (h : Alongside base start name alone full) (plain : ".." ∉ base.names)
    (step : other ≠ "..") (apart : other ≠ name)
    (kept : InDirectory base start other full changed) (tree : changed.IsTree) :
    Alongside base start name alone changed := by
  obtain ⟨begins, stands⟩ := kept.stands_start h.begins' h.stands'
  refine ⟨h.tree, tree, h.begins, begins, h.stands, stands, fun front short => ?_, fun rest => ?_⟩
  · have outside : ¬start ++ (base.names ++ [other]) <+: start ++ front := by
      intro below
      have long := below.length_le
      have within := short.length_le
      simp at long
      omega
    rcases kept.entry _ outside with same | ⟨-, missing, made⟩
    · rw [isDirectoryAt, same]
      exact h.way front short
    · rcases h.way front short with alike | ⟨-, standing⟩
      · exact .inr ⟨alike.trans missing, by rw [isDirectoryAt, made]; rfl⟩
      · rw [isDirectoryAt, missing] at standing
        cases standing
  · have outside : ¬start ++ (base.names ++ [other]) <+:
        start ++ (base.names ++ name :: rest) := by
      rw [List.prefix_append_right_inj, List.prefix_append_right_inj, List.cons_prefix_cons]
      exact fun same => apart same.1
    rcases kept.entry _ outside with same | ⟨⟨front, short, same⟩, -, -⟩
    · rw [same]
      exact h.own rest
    · -- The way to the other directory does not lead below this one.
      have down : ".." ∉ front := by
        intro member
        rcases List.mem_append.mp (short.subset member) with up | up
        · exact plain up
        · exact step (List.mem_singleton.mp up).symm
      rw [follow_plain down, List.append_cancel_left_eq] at same
      rw [← same, List.prefix_append_right_inj, List.cons_prefix_cons] at short
      exact absurd short.1.symm apart

/-- If the ways are the same, the disks hold the same near the directory of the test. -/
theorem near (h : Alongside base start name alone full)
    (same : ∀ front, front <+: base.names →
      alone.entry? (start ++ front) = full.entry? (start ++ front))
    (location : Location) (close : Near (start ++ (base.names ++ [name])) location) :
    alone.entry? location = full.entry? location := by
  have inside (rest : List String) : alone.entry? (start ++ (base.names ++ [name]) ++ rest) =
      full.entry? (start ++ (base.names ++ [name]) ++ rest) := by
    have own := h.own rest
    rwa [List.append_cons, ← List.append_assoc start] at own
  rcases close with above | ⟨rest, rfl⟩
  · rcases List.prefix_or_prefix_of_prefix above (List.prefix_append _ _) with high | ⟨front, rfl⟩
    · have directory := h.tree.isDirectoryAt_of_prefix high h.stands
      have directory' := h.tree'.isDirectoryAt_of_prefix high h.stands'
      rw [isDirectoryAt, decide_eq_true_eq] at directory directory'
      rw [directory, directory']
    · rw [List.prefix_append_right_inj, List.prefix_concat_iff] at above
      rcases above with rfl | short
      · simpa using inside []
      · exact same front short
  · exact inside rest

/-- The way to the directory of the test, place by place. -/
theorem way_take (h : Alongside base start name alone full) (count : Nat)
    (bound : count ≤ base.names.length) :
    alone.entry? (start ++ (base.names ++ [name]).take count) =
        full.entry? (start ++ (base.names ++ [name]).take count) ∨
      alone.entry? (start ++ (base.names ++ [name]).take count) = none ∧
        full.isDirectoryAt (start ++ (base.names ++ [name]).take count) = true := by
  rw [List.take_append_of_le_length bound]
  exact h.way _ (List.take_prefix _ _)

section Missing
variable {front : List String} (h : Alongside base start name alone full)
  (short : front <+: base.names) (missing : alone.entry? (start ++ front) = none)
  (standing : full.isDirectoryAt (start ++ front) = true)
include h short

include missing in
theorem alone_missing {count : Nat} (beyond : front.length ≤ count) :
    alone.entry? (start ++ (base.names ++ [name]).take count) = none := by
  obtain ⟨rest, whole⟩ : front <+: (base.names ++ [name]).take count :=
    List.prefix_take_iff.mpr ⟨short.trans (List.prefix_append _ _), beyond⟩
  rw [← whole, ← List.append_assoc]
  exact h.tree.beyond missing rest

include standing in
theorem full_stands {count : Nat} (bound : count ≤ front.length) :
    full.isDirectoryAt (start ++ (base.names ++ [name]).take count) = true := by
  refine h.tree'.isDirectoryAt_of_prefix ((List.prefix_append_right_inj _).mpr ?_) standing
  obtain ⟨rest, whole⟩ := short.trans (List.prefix_append base.names [name])
  rw [← whole, List.take_append_of_le_length bound]
  exact List.take_prefix _ _

include missing in
/-- With a directory on the way, the directory of the test is missing on both disks. -/
theorem full_missing :
    full.entry? (start ++ (base.names ++ [name]).take (base.names.length + 1)) = none := by
  have within := short.length_le
  have whole : (base.names ++ [name]).take (base.names.length + 1) = base.names ++ [name] :=
    List.take_of_length_le (by simp)
  have gone := h.alone_missing short missing (Nat.le_succ_of_le within)
  rw [whole] at gone ⊢
  rw [← gone]
  exact (h.own []).symm

include missing standing in
theorem alone_reaches :
    ∃ depth, depth < front.length ∧ Reaches alone start (base.names ++ [name]) depth := by
  have within := short.length_le
  have length : (base.names ++ [name]).length = base.names.length + 1 := by simp
  obtain ⟨depth, reaches⟩ : ∃ depth, Reaches alone start (base.names ++ [name]) depth := by
    refine h.tree.exists_reaches (fun count bound => ?_) h.stands
    by_cases beyond : front.length ≤ count
    · exact .inr (h.alone_missing short missing beyond)
    · rcases h.way_take count (by omega) with same | ⟨gone, -⟩
      · rw [isDirectoryAt, same]
        exact .inl (h.full_stands short standing (by omega))
      · exact .inr gone
  exact ⟨depth, reaches.lt_of_missing (h.alone_missing short missing (Nat.le_refl _)), reaches⟩

include missing standing in
theorem full_reaches :
    ∃ depth, front.length ≤ depth ∧ depth ≤ base.names.length ∧
      Reaches full start (base.names ++ [name]) depth := by
  have within := short.length_le
  have length : (base.names ++ [name]).length = base.names.length + 1 := by simp
  obtain ⟨depth, reaches⟩ : ∃ depth, Reaches full start (base.names ++ [name]) depth := by
    refine h.tree'.exists_reaches (fun count bound => ?_) h.stands'
    by_cases before : count ≤ front.length
    · exact .inl (h.full_stands short standing before)
    · by_cases last : count = base.names.length + 1
      · exact .inr (last ▸ h.full_missing short missing)
      · rcases h.way_take count (by omega) with same | ⟨-, there⟩
        · exact .inr (same.symm.trans (h.alone_missing short missing (by omega)))
        · exact .inl there
  exact ⟨depth, reaches.le_of_stands (by omega) (h.full_stands short standing (Nat.le_refl _)),
    Nat.le_of_lt_succ (reaches.lt_of_missing (h.full_missing short missing)), reaches⟩

end Missing

/-- Either the disks hold the same near the directory of the test, or the way to it ends early on both
of them. -/
theorem near_or_ways (h : Alongside base start name alone full) :
    (∀ location, Near (start ++ (base.names ++ [name])) location →
      alone.entry? location = full.entry? location) ∨
    ∃ depth depth', depth ≤ depth' ∧ depth' ≤ base.names.length ∧ ∀ rest,
      Reaches alone start (base.names ++ [name] ++ rest) depth ∧
        Reaches full start (base.names ++ [name] ++ rest) depth' := by
  by_cases same : ∀ front, front <+: base.names →
      alone.entry? (start ++ front) = full.entry? (start ++ front)
  · exact .inl (h.near same)
  · simp only [Classical.not_forall] at same
    obtain ⟨front, short, differ⟩ := same
    obtain ⟨missing, standing⟩ := (h.way front short).resolve_left differ
    obtain ⟨depth, before, reaches⟩ := h.alone_reaches short missing standing
    obtain ⟨depth', after, deep, reaches'⟩ := h.full_reaches short missing standing
    have length : (base.names ++ [name]).length = base.names.length + 1 := by simp
    exact .inr ⟨depth, depth', by omega, deep, fun rest =>
      ⟨reaches.extend h.tree (by omega) rest, reaches'.extend h.tree' (by omega) rest⟩⟩

end Alongside

/-! ## Changes of one kind -/

section Kinds
variable {disk first second first' second' : Disk} {location : Location} {value : Option Entry}

/-- Each place is as before, or it holds one value. -/
def Turns (value : Option Entry) (before after : Disk) : Prop :=
  ∀ location, after.entry? location = before.entry? location ∨ after.entry? location = value

theorem put_turns (disk : Disk) (place : Location) (entry : Entry) :
    Turns (some entry) disk (disk.put place entry) := by
  intro location
  by_cases here : location = place
  · by_cases root : place = []
    · exact .inl (by simp [here, root, entry?])
    · exact .inr (by rw [here, entry?_put root])
  · exact .inl (entry?_put_other here entry)

theorem makeDirectories_turns (disk : Disk) (lenient : Bool) (path : Path) :
    Turns (some .directory) disk (disk.makeDirectories lenient path).2 := by
  refine makeUpTo_keeps (P := Turns (some .directory) disk) (Q := fun _ => True) ?_ id _ lenient
    trivial fun _ => .inl rfl
  intro before made other _ turns makes location
  obtain ⟨above, name, -, -, rfl, -⟩ := makeDirectory_ok makes
  rcases put_turns before (above ++ [name]) .directory location with same | new
  · rw [same]
    exact turns location
  · exact .inr new

theorem keep_turns (disk : Disk) (condition : Location → Bool) :
    Turns none disk (disk.keep condition) := by
  intro location
  cases kept : condition location with
  | true => exact .inl (entry?_keep kept)
  | false =>
    by_cases root : location = []
    · exact .inl (by simp [root, entry?])
    · exact .inr (entry?_keep_lost root kept)

theorem remove_turns (disk : Disk) (path : Path) : Turns none disk (disk.remove path) := by
  unfold Disk.remove
  split
  · exact fun _ => .inl rfl
  · next place found =>
    split
    · have emptied := keep_turns disk fun other => !isBelow place other
      dsimp only
      split
      · intro location
        rcases keep_turns _ (fun other => decide (other ≠ place)) location with same | gone
        · rw [same]
          exact emptied location
        · exact .inr gone
      · exact emptied
    · exact fun _ => .inl rfl

/-- The path of a directory leads to it still when it is empty. -/
theorem locate_emptied {path : Path} {start : Location} (starts : disk.StartsAt path start)
    (plain : ".." ∉ path.names) (found : disk.locate path = .ok (start ++ path.names)) :
    (disk.keep fun other => !isBelow (start ++ path.names) other).locate path =
      .ok (start ++ path.names) := by
  obtain ⟨first, fits, begins, goes⟩ := locate_ok.mp found
  obtain rfl := starts first begins
  have kept {front : List String} (short : front <+: path.names) :
      (!isBelow (first ++ path.names) (first ++ front)) = true := by
    have within := short.length_le
    simp [isBelow, within]
  refine locate_ok.mpr ⟨first, fits, origin?_keep begins ?_, ?_⟩
  · simpa using kept List.nil_prefix
  · rw [← goes]
    exact walk_agree plain fun front short => sameAt_of_entry? (entry?_keep (kept short))

/-- Nothing is left of a directory that is removed, if its path does not lead up. -/
theorem remove_clears {path : Path} {start : Location} (starts : disk.StartsAt path start)
    (plain : ".." ∉ path.names) (named : path.names ≠ []) (stands : disk.isDirectory path = .ok true)
    (below : start ++ path.names <+: location) : entry? (disk.remove path) location = none := by
  obtain ⟨place, found, standing⟩ := isDirectory_ok named stands
  obtain rfl : place = start ++ path.names := by
    rw [locate_follow starts found, follow_plain plain]
  have inside : location ≠ [] := by
    rintro rfl
    exact named (List.append_eq_nil_iff.mp (List.prefix_nil.mp below)).2
  have deletable : isDeletable path = true := by
    rw [isDeletable, List.getLast?_eq_some_getLast named]
    exact decide_eq_true fun up => plain (up ▸ List.getLast_mem named)
  have leads := locate_emptied starts plain found
  unfold Disk.remove
  rw [found]
  dsimp only
  rw [standing, if_pos rfl, deletable, leads]
  dsimp only
  by_cases here : location = start ++ path.names
  · exact entry?_keep_lost inside (by simp [here])
  · rw [entry?_keep (by simp [here])]
    refine entry?_keep_lost inside ?_
    have shorter := below.length_le
    have other : (start ++ path.names).length ≠ location.length :=
      fun same => here (below.eq_of_length same).symm
    rw [Bool.not_eq_false', isBelow, Bool.and_eq_true, decide_eq_true_eq,
      List.isPrefixOf_iff_prefix]
    exact ⟨below, by omega⟩

theorem SameAt.entry?_eq (alike : SameAt first second location)
    (kind : value = none ∨ value = some .directory) (held : first.entry? location = value) :
    second.entry? location = value := by
  obtain ⟨some, directory⟩ := alike
  rcases kind with rfl | rfl
  · rw [held] at some
    exact Option.isNone_iff_eq_none.mp (by rw [← Option.not_isSome, ← some]; rfl)
  · have here : first.isDirectoryAt location = true := by rw [isDirectoryAt, held]; rfl
    rw [here] at directory
    exact of_decide_eq_true directory.symm

/-- Disks that held the same, and look the same afterwards, hold the same still if directories are all
that has been made, or if nothing has been made at all. -/
theorem Turns.entry?_eq (kind : value = none ∨ value = some .directory)
    (turns : Turns value first first') (turns' : Turns value second second')
    (same : first.entry? location = second.entry? location)
    (alike : SameAt first' second' location) : first'.entry? location = second'.entry? location := by
  rcases turns location with kept | new
  · rcases turns' location with kept' | new'
    · rw [kept, kept', same]
    · have flipped : SameAt second' first' location := ⟨alike.1.symm, alike.2.symm⟩
      rw [new', flipped.entry?_eq kind new']
  · rw [new, alike.entry?_eq kind new]

end Kinds

/-! ## Own changes -/

/-- A place on the way to a path, down to a name that is too long or beyond it. -/
def IsStop (target path : Path) : Prop :=
  (∃ count, path = target.dropLast count) ∧ ∃ part ∈ path.names, isTooLong part = true

theorem blockedPath_isStop {path : Path} (long : shortNames path.names < path.names.length)
    (depth : Nat) : IsStop path (blockedPath path depth) := by
  obtain ⟨part, member, tooLong⟩ := exists_long long
  unfold blockedPath
  split
  · exact ⟨⟨0, path.dropLast_zero.symm⟩, part, List.mem_of_mem_take member, tooLong⟩
  · refine ⟨⟨_, rfl⟩, part, ?_, tooLong⟩
    have kept : path.names.length - (path.names.length - (shortNames path.names + 1)) =
        shortNames path.names + 1 := by
      omega
    change part ∈ path.names.take _
    rwa [kept]

/-- How one use of a test comes out when nobody else uses the disk, and how it comes out among others.
The use goes to the path `target`, where it makes directories or `writes` a file. Only if a name on the
way to the directory of the test is too long, so that this directory can never be there, two faults may
differ: in the place on the way that they name, or for a file in that a directory is still missing
before the long name is met. -/
inductive Matches (base : Path) (name : String) (writes : Bool) (target : Path) :
    Except Fault Unit → Except Fault Unit → Prop where
  | same (outcome : Except Fault Unit) : Matches base name writes target outcome outcome
  | stopped (long : ∃ part ∈ base.names ++ [name], isTooLong part = true) {path path' : Path}
      (stop : IsStop target path) (stop' : IsStop target path') :
      Matches base name writes target (.error (Obstacle.nameTooLong.fault path))
        (.error (Obstacle.nameTooLong.fault path'))
  | unnoticed (long : ∃ part ∈ base.names ++ [name], isTooLong part = true)
      (writing : writes = true) :
      Matches base name writes target (.error (Obstacle.missing.fault target))
        (.error (Obstacle.nameTooLong.fault target))

theorem Matches.eq {base target : Path} {name : String} {writes : Bool}
    {outcome outcome' : Except Fault Unit}
    (short : ∀ part ∈ base.names ++ [name], isTooLong part = false)
    (h : Matches base name writes target outcome outcome') : outcome = outcome' := by
  have absent : ¬∃ part ∈ base.names ++ [name], isTooLong part = true := by
    rintro ⟨part, member, long⟩
    rw [short part member] at long
    cases long
  cases h with
  | same => rfl
  | stopped long => exact absurd long absent
  | unnoticed long => exact absurd long absent

namespace Alongside
variable {base path : Path} {start : Location} {name : String}
  {alone full alone' full' : Disk}

/-- Both disks change in the directory of the test. -/
theorem change (h : Alongside base start name alone full)
    (kept : InDirectory base start name alone alone') (kept' : InDirectory base start name full full')
    (tree : alone'.IsTree) (tree' : full'.IsTree)
    (way : ∀ front, front <+: base.names →
      alone'.entry? (start ++ front) = full'.entry? (start ++ front) ∨
        alone'.entry? (start ++ front) = none ∧ full'.isDirectoryAt (start ++ front) = true)
    (own : ∀ rest, alone'.entry? (start ++ (base.names ++ name :: rest)) =
      full'.entry? (start ++ (base.names ++ name :: rest))) :
    Alongside base start name alone' full' := by
  obtain ⟨begins, stands⟩ := kept.stands_start h.begins h.stands
  obtain ⟨begins', stands'⟩ := kept'.stands_start h.begins' h.stands'
  exact ⟨tree, tree', begins, begins', stands, stands', way, own⟩

/-- Both disks change in the directory of the test, and hold the same near it. -/
theorem change_near (h : Alongside base start name alone full)
    (kept : InDirectory base start name alone alone') (kept' : InDirectory base start name full full')
    (tree : alone'.IsTree) (tree' : full'.IsTree)
    (near : ∀ location, Near (start ++ (base.names ++ [name])) location →
      alone'.entry? location = full'.entry? location) :
    Alongside base start name alone' full' := by
  refine h.change kept kept' tree tree' (fun front short => .inl (near _ (.inl ?_)))
    fun rest => near _ (.inr ?_)
  · exact (List.prefix_append_right_inj _).mpr (short.trans (List.prefix_append _ _))
  · rw [List.append_cons base.names name rest]
    exact (List.prefix_append_right_inj _).mpr (List.prefix_append _ _)

theorem agree (h : Alongside base start name alone full)
    (near : ∀ location, Near (start ++ (base.names ++ [name])) location →
      alone.entry? location = full.entry? location) :
    Agree base start (start ++ (base.names ++ [name])) alone full :=
  ⟨h.begins, h.begins', fun location close => sameAt_of_entry? (near location close)⟩

/-- Where the way ends early, the test has nothing that could be removed. -/
theorem remove_beyond {disk : Disk} {depth : Nat} (within : Within base name path)
    (begins : disk.origin? base = some start) (deep : depth ≤ base.names.length)
    (reaches : ∀ rest, Reaches disk start (base.names ++ [name] ++ rest) depth) :
    disk.remove path = disk := by
  refine remove_of_missing (within.startsAt begins) ?_
  obtain ⟨rest, names⟩ := within.below
  have long : base.names.length < path.names.length := by
    simp [← names]
  have missing := (reaches rest).missing path.names.length (by omega) (by rw [names])
  rw [names, List.take_length] at missing
  rw [follow_plain within.plain, isDirectoryAt, missing]
  rfl

theorem remove (h : Alongside base start name alone full) (within : Within base name path) :
    Alongside base start name (alone.remove path) (full.remove path) := by
  rcases h.near_or_ways with near | ⟨depth, depth', less, deep, ways⟩
  · have agree := (h.agree near).remove (within.leads start)
    refine h.change_near (remove_inDirectory within h.begins) (remove_inDirectory within h.begins')
      (h.tree.remove path) (h.tree'.remove path) fun location close => ?_
    exact (remove_turns alone path).entry?_eq (.inl rfl) (remove_turns full path)
      (near location close) (agree.same location close)
  · rw [remove_beyond within h.begins (by omega) fun rest => (ways rest).1,
      remove_beyond within h.begins' deep fun rest => (ways rest).2]
    exact h

/-- The first name that is too long stands in front of another place. -/
theorem exists_long_front {names rest : List String} {depth : Nat}
    (long : shortNames (names ++ rest) ≤ depth) (deep : depth < names.length) :
    ∃ part ∈ names, isTooLong part = true := by
  have inside : shortNames (names ++ rest) < (names ++ rest).length := by
    rw [List.length_append]
    omega
  obtain ⟨part, member, tooLong⟩ := exists_long inside
  rw [List.take_append_of_le_length (by omega)] at member
  exact ⟨part, List.mem_of_mem_take member, tooLong⟩

/-- Two ways that end early stop the making of directories at one name, which is the same one. -/
theorem matches_blocked {depth depth' : Nat} (within : Within base name path)
    (deep : depth ≤ base.names.length) (deep' : depth' ≤ base.names.length) :
    Matches base name false path
      (if shortNames path.names = path.names.length then .ok ()
        else .error (Obstacle.nameTooLong.fault (blockedPath path depth)))
      (if shortNames path.names = path.names.length then .ok ()
        else .error (Obstacle.nameTooLong.fault (blockedPath path depth'))) := by
  split
  · exact .same _
  · next stops =>
    have long : shortNames path.names < path.names.length :=
      Nat.lt_of_le_of_ne (shortNames_le _) stops
    obtain ⟨rest, names⟩ := within.below
    by_cases early : shortNames path.names ≤ base.names.length
    · rw [← names] at early
      exact .stopped (exists_long_front early (by simp)) (blockedPath_isStop long depth)
        (blockedPath_isStop long depth')
    · -- Both come to the same long name below the directory of the test.
      rw [blockedPath, blockedPath, if_neg (by omega), if_neg (by omega)]
      exact .same _

/-- A file beyond the end of two ways: the longer one may come to the long name first. -/
theorem matches_beyond {depth depth' : Nat} (within : Within base name path) (less : depth ≤ depth')
    (deep : depth' ≤ base.names.length) :
    Matches base name true path
      (.error (Obstacle.fault path
        (if shortNames path.names ≤ depth then .nameTooLong else .missing)))
      (.error (Obstacle.fault path
        (if shortNames path.names ≤ depth' then .nameTooLong else .missing))) := by
  by_cases first : shortNames path.names ≤ depth
  · rw [if_pos first, if_pos (by omega)]
    exact .same _
  · rw [if_neg first]
    split
    · next early =>
      obtain ⟨rest, names⟩ := within.below
      rw [← names] at early
      exact .unnoticed (exists_long_front early (by simp; omega)) rfl
    · exact .same _

/-- Where the way ends early, the directories that are missing are made on both disks. -/
theorem makeDirectories_beyond {depth depth' : Nat} (h : Alongside base start name alone full)
    (within : Within base name path) (lenient : Bool) (deep : depth ≤ base.names.length)
    (deep' : depth' ≤ base.names.length)
    (reaches : ∀ rest, Reaches alone start (base.names ++ [name] ++ rest) depth)
    (reaches' : ∀ rest, Reaches full start (base.names ++ [name] ++ rest) depth') :
    Alongside base start name (alone.makeDirectories lenient path).2
        (full.makeDirectories lenient path).2 ∧
      Matches base name false path (alone.makeDirectories lenient path).1
        (full.makeDirectories lenient path).1 := by
  cases fits : badPath? path with
  | some obstacle =>
    rw [makeDirectories_bad within.named fits, makeDirectories_bad within.named fits]
    exact ⟨h, .same _⟩
  | none =>
    have kept := makeDirectories_inDirectory within h.begins lenient
    have kept' := makeDirectories_inDirectory within h.begins' lenient
    have tree := h.tree.makeDirectories lenient path
    have tree' := h.tree'.makeDirectories lenient path
    obtain ⟨rest, names⟩ := id within.below
    have long : base.names.length < path.names.length := by
      simp [← names]
    obtain ⟨made, makes, front⟩ :=
      (within.ways h.begins fits reaches).makeDirectories (by omega) lenient
    obtain ⟨made', makes', front'⟩ :=
      (within.ways h.begins' fits reaches').makeDirectories (by omega) lenient
    rw [makes] at kept tree ⊢
    rw [makes'] at kept' tree' ⊢
    refine ⟨h.change kept kept' tree tree' (fun place short => ?_) fun rest => ?_, ?_⟩
    · rcases front.same_or_kept front' (start ++ place) with same | ⟨same, same'⟩
      · exact .inl same
      · rw [isDirectoryAt, same, same']
        exact h.way place short
    · rcases front.same_or_kept front' (start ++ (base.names ++ name :: rest)) with
        same | ⟨same, same'⟩
      · exact same
      · rw [same, same']
        exact h.own rest
    · exact matches_blocked within deep deep'

theorem makeDirectories (h : Alongside base start name alone full)
    (within : Within base name path) (lenient : Bool) :
    Alongside base start name (alone.makeDirectories lenient path).2
        (full.makeDirectories lenient path).2 ∧
      Matches base name false path (alone.makeDirectories lenient path).1
        (full.makeDirectories lenient path).1 := by
  rcases h.near_or_ways with near | ⟨depth, depth', less, deep, reaches⟩
  · obtain ⟨result, agree⟩ := (h.agree near).makeDirectories (within.leads start) lenient
    refine ⟨h.change_near (makeDirectories_inDirectory within h.begins lenient)
      (makeDirectories_inDirectory within h.begins' lenient) (h.tree.makeDirectories lenient path)
      (h.tree'.makeDirectories lenient path) fun location close => ?_, result ▸ .same _⟩
    exact (makeDirectories_turns alone lenient path).entry?_eq (.inr rfl)
      (makeDirectories_turns full lenient path) (near location close) (agree.same location close)
  · exact h.makeDirectories_beyond within lenient (by omega) deep (fun rest => (reaches rest).1)
      fun rest => (reaches rest).2

/-- How a file below the directory of a test is written on both disks. -/
inductive Writes (base path : Path) (start : Location) (name : String) :
    Except Obstacle Disk → Except Obstacle Disk → Prop where
  | failed {obstacle obstacle' : Obstacle}
      (matching : Matches base name true path (.error (obstacle.fault path))
        (.error (obstacle'.fault path))) :
      Writes base path start name (.error obstacle) (.error obstacle')
  | written {alone full : Disk} (alongside : Alongside base start name alone full) :
      Writes base path start name (.ok alone) (.ok full)

/-- A file that is written is put where its path leads. -/
theorem write_place {disk written : Disk} {content : List UInt8} (within : Within base name path)
    (begins : written.origin? base = some start) (h : disk.write path content = .ok written) :
    written = disk.put (start ++ path.names) (.file content) := by
  obtain ⟨location, -, -, rfl, found⟩ := write_ok h
  rw [← (within.leads start).place begins found]

theorem write (h : Alongside base start name alone full) (within : Within base name path)
    (below : base.names.length + 1 < path.names.length) (content : List UInt8) :
    Writes base path start name (alone.write path content) (full.write path content) := by
  rcases h.near_or_ways with near | ⟨depth, depth', less, deep, reaches⟩
  · rcases (h.agree near).write (within.leads start) content content with
      ⟨obstacle, fails, fails'⟩ | ⟨written, written', writes, writes', agree⟩
    · rw [fails, fails']
      exact .failed (.same _)
    · rw [writes, writes']
      have kept := write_inDirectory within h.begins writes
      have kept' := write_inDirectory within h.begins' writes'
      have tree := h.tree.write writes
      have tree' := h.tree'.write writes'
      obtain rfl := write_place within agree.begins writes
      obtain rfl := write_place within agree.begins' writes'
      refine .written (h.change_near kept kept' tree tree' fun location close => ?_)
      by_cases here : location = start ++ path.names
      · rw [here, entry?_put (by simp [within.named]), entry?_put (by simp [within.named])]
      · rw [entry?_put_other here, entry?_put_other here]
        exact near location close
  · cases fits : badPath? path with
    | some obstacle =>
      rw [write_bad within.named fits, write_bad within.named fits]
      exact .failed (.same _)
    | none =>
      rw [(within.ways h.begins fits fun rest => (reaches rest).1).write (by omega),
        (within.ways h.begins' fits fun rest => (reaches rest).2).write (by omega)]
      exact .failed (matches_beyond within less deep)

end Alongside
end TestBench.Disk
