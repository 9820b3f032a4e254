import TestBench.Proofs.Disk
import TestBench.WorkArea

/-!
Disks as trees. Every entry stands in a directory, and the operations keep it so. Then nothing can
stand below a place where nothing stands, and a directory that has just been made is empty.

- `IsTree.put`, `IsTree.makeDirectory`, `IsTree.write`, `IsTree.remove`: the operations,
- `makeDirectories_new`: a directory that had to be new.
-/
namespace TestBench.Disk
set_option autoImplicit false

variable {disk : Disk}

def IsTree (disk : Disk) : Prop :=
  ∀ item ∈ disk.entries, disk.isDirectoryAt item.1.dropLast = true

instance (disk : Disk) : Decidable disk.IsTree :=
  List.decidableBAll (fun item : Location × Entry => disk.isDirectoryAt item.1.dropLast = true) _

theorem mem_of_stands {location : Location} {entry : Entry} (inside : location ≠ [])
    (h : disk.entry? location = some entry) : (location, entry) ∈ disk.entries := by
  simp only [Disk.entry?, if_neg inside, Option.map_eq_some_iff] at h
  obtain ⟨item, found, rfl⟩ := h
  have same : item.1 = location := by simpa using List.find?_some found
  rw [← same]
  exact List.mem_of_find?_eq_some found

/-- A place in a tree has a directory above it. -/
theorem IsTree.dropLast (tree : disk.IsTree) {location : Location}
    (h : (disk.entry? location).isSome = true) : disk.isDirectoryAt location.dropLast = true := by
  by_cases inside : location = []
  · simp [inside]
  · obtain ⟨entry, found⟩ := Option.isSome_iff_exists.mp h
    exact tree _ (mem_of_stands inside found)

theorem IsTree.entry?_below (tree : disk.IsTree) {above : Location} (name : String)
    (h : disk.isDirectoryAt above = false) : disk.entry? (above ++ [name]) = none := by
  cases found : disk.entry? (above ++ [name]) with
  | none => rfl
  | some entry =>
    have standing : disk.isDirectoryAt (above ++ [name]).dropLast = true :=
      tree.dropLast (by simp [found])
    rw [List.dropLast_concat, h] at standing
    cases standing

/-! ## Putting -/

theorem mem_put {location : Location} {entry : Entry} {item : Location × Entry}
    (h : item ∈ (disk.put location entry).entries) :
    item = (location, entry) ∨ item ∈ disk.entries := by
  unfold put at h
  split at h
  · obtain ⟨other, member, same⟩ := List.mem_map.mp h
    split at same
    · exact .inl same.symm
    · exact .inr (same ▸ member)
  · rcases List.mem_append.mp h with old | new
    · exact .inr old
    · exact .inl (List.mem_singleton.mp new)

theorem IsTree.put (tree : disk.IsTree) {location : Location} {entry : Entry}
    (harmless : entry = .directory ∨ disk.isDirectoryAt location = false)
    (standing : disk.isDirectoryAt location.dropLast = true) :
    (disk.put location entry).IsTree := by
  have grows := grows_put harmless
  intro item member
  rcases mem_put member with rfl | old
  · exact grows.directory _ standing
  · exact grows.directory _ (tree item old)

theorem IsTree.makeDirectory (tree : disk.IsTree) {path : Path} {made : Disk}
    (h : disk.makeDirectory path = .ok made) : made.IsTree := by
  obtain ⟨above, name, standing, -, rfl, -⟩ := makeDirectory_ok h
  exact tree.put (.inl rfl) (by simpa using standing)

theorem IsTree.makeDirectories (tree : disk.IsTree) (lenient : Bool) (path : Path) :
    (disk.makeDirectories lenient path).2.IsTree :=
  makeUpTo_keeps (Q := fun _ => True) (fun _ before made => before.makeDirectory made) id _ lenient
    trivial tree

/-- Where names lead, something stands. -/
theorem IsTree.walk_stands (tree : disk.IsTree) {names : List String} {start target : Location}
    (begins : (disk.entry? start).isSome = true) (h : disk.walk start names = .ok target) :
    (disk.entry? target).isSome = true := by
  induction names generalizing start with
  | nil =>
    cases h
    exact begins
  | cons name rest ih =>
    obtain ⟨standing, ⟨up, goes⟩ | ⟨down, short, there, goes⟩⟩ := walk_cons_ok.mp h
    · have above := tree.dropLast begins
      refine ih ?_ goes
      rw [isDirectoryAt, decide_eq_true_eq] at above
      simp [above]
    · exact ih there goes

theorem isSome_of_isDirectoryAt {location : Location} (h : disk.isDirectoryAt location = true) :
    (disk.entry? location).isSome = true := by
  rw [isDirectoryAt, decide_eq_true_eq] at h
  simp [h]

theorem IsTree.write (tree : disk.IsTree) {path : Path} {content : List UInt8} {written : Disk}
    (h : disk.write path content = .ok written) : written.IsTree := by
  have named : path.names ≠ [] := by
    intro rootless
    simp [Disk.write, rootless] at h
  obtain ⟨location, free, placed, rfl, -⟩ := write_ok h
  refine tree.put (.inr free) ?_
  rcases placed with found | standing
  · obtain ⟨start, -, -, goes⟩ := locate_ok.mp found
    obtain ⟨name, rest, names⟩ := List.exists_cons_of_ne_nil named
    rw [names] at goes
    have begins := isSome_of_isDirectoryAt (walk_cons_ok.mp goes).1
    exact tree.dropLast (tree.walk_stands begins goes)
  · exact standing

/-! ## Removing -/

theorem entry?_keep {condition : Location → Bool} {location : Location}
    (kept : condition location = true) :
    Disk.entry? (disk.keep condition) location = disk.entry? location := by
  have same (item : Location × Entry) :
      decide (condition item.1 = true ∧ decide (item.1 = location) = true) =
        decide (item.1 = location) := by
    by_cases here : item.1 = location <;> simp [here, kept]
  simp only [Disk.entry?, keep, List.find?_filter, same]

theorem IsTree.keep (tree : disk.IsTree) {condition : Location → Bool}
    (closed : ∀ item ∈ disk.entries, condition item.1 = true → condition item.1.dropLast = true) :
    (disk.keep condition).IsTree := by
  intro item member
  obtain ⟨old, kept⟩ := List.mem_filter.mp member
  rw [isDirectoryAt, entry?_keep (closed item old kept)]
  exact tree item old

theorem isBelow_of_dropLast {above location : Location}
    (h : above = location.dropLast ∧ location ≠ [] ∨ isBelow above location.dropLast = true) :
    isBelow above location = true := by
  simp only [isBelow, Bool.and_eq_true, decide_eq_true_eq, List.isPrefixOf_iff_prefix,
    List.length_dropLast] at h ⊢
  rcases h with ⟨rfl, inside⟩ | ⟨front, shorter⟩
  · have some := List.length_pos_iff.mpr inside
    exact ⟨List.dropLast_prefix location, by rw [List.length_dropLast]; omega⟩
  · exact ⟨front.trans (List.dropLast_prefix location), by omega⟩

/-- What lies below a directory goes first, so the tree loses whole branches. -/
theorem IsTree.remove (tree : disk.IsTree) (path : Path) : (disk.remove path).IsTree := by
  unfold Disk.remove
  split
  · exact tree
  next location found =>
    split
    · have emptied : (disk.keep fun other => !isBelow location other).IsTree := by
        refine tree.keep fun item _ kept => ?_
        rw [Bool.not_eq_true', Bool.eq_false_iff] at kept ⊢
        exact fun below => kept (isBelow_of_dropLast (.inr below))
      dsimp only
      split
      · refine emptied.keep fun item member other => ?_
        obtain ⟨-, apart⟩ := List.mem_filter.mp member
        simp only [decide_eq_true_eq, Bool.not_eq_true'] at other apart ⊢
        intro same
        have inside : item.1 ≠ [] := by
          intro root
          rw [root] at same other
          exact other same
        rw [isBelow_of_dropLast (.inl ⟨same.symm, inside⟩)] at apart
        cases apart
      · exact emptied
    · exact tree

/-- A directory that had to be new is there afterwards, and nothing stands in it. -/
theorem makeDirectories_new (tree : disk.IsTree) {path : Path} {made : Disk}
    (h : disk.makeDirectories false path = (.ok (), made)) :
    ∃ location, made.locate path = .ok location ∧ made.isDirectoryAt location = true ∧
      ∀ name, made.entry? (location ++ [name]) = none := by
  obtain ⟨before, tree, last⟩ :=
    makeUpTo_ok (Q := fun _ => True) (fun _ before made => IsTree.makeDirectory before made) id
      trivial tree h
  obtain ⟨above, name, -, nothing, rfl, leads⟩ := makeDirectory_ok last
  have free : before.isDirectoryAt (above ++ [name]) = false := by
    simp [isDirectoryAt, nothing]
  refine ⟨above ++ [name], leads, by simp [isDirectoryAt, entry?_put], fun other => ?_⟩
  rw [entry?_put_other (by simp)]
  exact tree.entry?_below other free

end TestBench.Disk
