import TestBench.Disk
import TestBench.Proofs.Path

/-!
What changes on a disk. A file or a directory that is put somewhere leaves what stood there before,
so every path that led somewhere still leads there.

- `walk_cons_ok` and `locate_ok`: where a path leads, name by name,
- `Grows`: a disk that has all that another one has,
- `makeDirectory_ok` and `write_ok`: where a directory or a file is put,
- `write_reads` and `write_again`: a file reads as written, and it can be written again,
- `makeUpTo_stands`, `makeUpTo_keeps` and `makeUpTo_ok`: many directories at once, and the last of
  them if it had to be new.
-/
namespace TestBench
set_option autoImplicit false

namespace Disk

variable {disk : Disk}

/-! ## Entries -/

theorem find?_replace {entries : List (Location × Entry)} {location : Location} {entry : Entry}
    (held : ∃ item ∈ entries, item.1 = location) :
    ((entries.map fun item => if item.1 = location then (location, entry) else item).find?
      fun item => item.1 = location) = some (location, entry) := by
  induction entries with
  | nil => simp at held
  | cons first rest ih =>
    rw [List.map_cons]
    by_cases same : first.1 = location
    · rw [if_pos same, List.find?_cons_of_pos (by simp)]
    · rw [if_neg same, List.find?_cons_of_neg (by simpa using same)]
      apply ih
      simpa [same] using held

theorem find?_replace_other {entries : List (Location × Entry)} {location other : Location}
    {entry : Entry} (h : other ≠ location) :
    ((entries.map fun item => if item.1 = location then (location, entry) else item).find?
      fun item => item.1 = other) = entries.find? fun item => item.1 = other := by
  induction entries with
  | nil => rfl
  | cons first rest ih =>
    rw [List.map_cons, List.find?_cons, List.find?_cons, ih]
    by_cases same : first.1 = location
    · simp [same, h.symm]
    · rw [if_neg same]

theorem entry?_put {location : Location} (inside : location ≠ []) (entry : Entry) :
    Disk.entry? (disk.put location entry) location = some entry := by
  unfold put
  split
  next held =>
    rw [Disk.entry?, if_neg inside, find?_replace (by simpa using held)]
    rfl
  next free =>
    have fresh : (disk.entries.find? fun item => item.1 = location) = none := by
      rw [List.find?_eq_none]
      rw [Bool.not_eq_true, List.any_eq_false] at free
      exact free
    rw [Disk.entry?, if_neg inside, List.find?_append, fresh]
    simp

theorem entry?_put_other {location other : Location} (h : other ≠ location) (entry : Entry) :
    Disk.entry? (disk.put location entry) other = disk.entry? other := by
  unfold put
  split
  next held =>
    simp only [Disk.entry?]
    rw [find?_replace_other h]
  next free =>
    simp only [Disk.entry?]
    rw [List.find?_append]
    simp [h.symm]

@[simp] theorem put_cwd (location : Location) (entry : Entry) :
    (disk.put location entry).cwd = disk.cwd := by
  unfold put
  split <;> rfl

@[simp] theorem isDirectoryAt_root : disk.isDirectoryAt [] = true := by
  simp [isDirectoryAt, entry?]

/-! ## Following names -/

theorem walk_append (start : Location) (before after : List String) :
    disk.walk start (before ++ after) =
      match disk.walk start before with
      | .ok between => disk.walk between after
      | .error obstacle => .error obstacle := by
  induction before generalizing start with
  | nil => rfl
  | cons name rest ih =>
    simp only [List.cons_append, walk]
    repeat' split
    all_goals first | rfl | simp_all

theorem walk_cons_ok {start target : Location} {name : String} {rest : List String} :
    disk.walk start (name :: rest) = .ok target ↔
      disk.isDirectoryAt start = true ∧
        (name = ".." ∧ disk.walk start.dropLast rest = .ok target ∨
          name ≠ ".." ∧ isTooLong name = false ∧ (disk.entry? (start ++ [name])).isSome = true ∧
            disk.walk (start ++ [name]) rest = .ok target) := by
  rw [walk]
  cases disk.isDirectoryAt start with
  | false => simp
  | true =>
    by_cases up : name = ".."
    · simp [up]
    · cases isTooLong name <;> cases found : disk.entry? (start ++ [name]) <;> simp [up]

theorem locate_ok {path : Path} {target : Location} :
    disk.locate path = .ok target ↔
      ∃ start, badPath? path = none ∧ disk.origin? path = some start ∧
        disk.walk start path.names = .ok target := by
  unfold locate
  cases badPath? path <;> cases disk.origin? path <;> simp

theorem walk_single_missing {above : Location} {name : String}
    (h : disk.walk above [name] = .error .missing) :
    disk.isDirectoryAt above = true ∧ name ≠ ".." ∧ isTooLong name = false ∧
      disk.entry? (above ++ [name]) = none := by
  simp only [walk] at h
  repeat' split at h
  all_goals try cases h
  simp_all

theorem badPath?_ne_missing (path : Path) : badPath? path ≠ some .missing := by
  unfold badPath?
  repeat' split
  all_goals simp

/-- A path is missing below the directory above it: what its last name would have to be. -/
theorem locate_missing {path : Path} {above : Location} (named : path.names ≠ [])
    (absent : disk.locate path = .error .missing) (found : disk.locate path.parent = .ok above) :
    badPath? path = none ∧ disk.isDirectoryAt above = true ∧ path.name ≠ ".." ∧
      isTooLong path.name = false ∧ disk.entry? (above ++ [path.name]) = none := by
  obtain ⟨start, -, begins, goes⟩ := locate_ok.mp found
  have begins : disk.origin? path = some start := begins
  have sound := badPath?_ne_missing path
  obtain ⟨fits, ends⟩ : badPath? path = none ∧ disk.walk start path.names = .error .missing := by
    cases bad : badPath? path <;> simp_all [locate]
  rw [Path.names_eq_parent named, walk_append, goes] at ends
  exact ⟨fits, walk_single_missing ends⟩

/-! ## Growing -/

/-- A disk that has all that another one has: the same working directory, the directories, and
something wherever something stood. -/
structure Grows (disk larger : Disk) : Prop where
  cwd : larger.cwd = disk.cwd
  stands : ∀ location, (disk.entry? location).isSome = true → (larger.entry? location).isSome = true
  directory : ∀ location, disk.isDirectoryAt location = true → larger.isDirectoryAt location = true

theorem entry?_put_isSome (location : Location) (entry : Entry) {other : Location}
    (there : (disk.entry? other).isSome = true) :
    (Disk.entry? (disk.put location entry) other).isSome = true := by
  by_cases same : other = location
  · subst same
    by_cases inside : other = []
    · simp [Disk.entry?, inside]
    · rw [entry?_put inside]
      rfl
  · rwa [entry?_put_other same]

theorem isDirectoryAt_put_other {location other : Location} (h : other ≠ location)
    (entry : Entry) : (disk.put location entry).isDirectoryAt other = disk.isDirectoryAt other := by
  rw [isDirectoryAt, isDirectoryAt, entry?_put_other h]

/-- Nothing is lost if no file takes the place of a directory. -/
theorem grows_put {location : Location} {entry : Entry}
    (h : entry = .directory ∨ disk.isDirectoryAt location = false) :
    disk.Grows (disk.put location entry) := by
  refine ⟨put_cwd location entry, fun other => entry?_put_isSome location entry, ?_⟩
  intro other standing
  by_cases same : other = location
  · subst same
    by_cases inside : other = []
    · simp [inside]
    · rcases h with rfl | free
      · simp [isDirectoryAt, entry?_put inside]
      · rw [standing] at free
        cases free
  · rwa [isDirectoryAt_put_other same]

theorem Grows.walk {larger : Disk} (h : disk.Grows larger) {names : List String}
    {start target : Location} (goes : disk.walk start names = .ok target) :
    larger.walk start names = .ok target := by
  induction names generalizing start with
  | nil => exact goes
  | cons name rest ih =>
    rw [walk_cons_ok] at goes ⊢
    obtain ⟨standing, ⟨up, goes⟩ | ⟨down, short, there, goes⟩⟩ := goes
    · exact ⟨h.directory start standing, .inl ⟨up, ih goes⟩⟩
    · exact ⟨h.directory start standing, .inr ⟨down, short, h.stands _ there, ih goes⟩⟩

theorem Grows.locate {larger : Disk} (h : disk.Grows larger) {path : Path} {target : Location}
    (found : disk.locate path = .ok target) : larger.locate path = .ok target := by
  obtain ⟨start, fits, begins, goes⟩ := locate_ok.mp found
  refine locate_ok.mpr ⟨start, fits, ?_, h.walk goes⟩
  rwa [origin?, h.cwd]

/-- What a path leads to once something has been put at its last name. -/
theorem locate_put_child {path : Path} {above : Location} {entry : Entry} (named : path.names ≠ [])
    (fits : badPath? path = none) (found : disk.locate path.parent = .ok above)
    (standing : disk.isDirectoryAt above = true) (down : path.name ≠ "..")
    (short : isTooLong path.name = false)
    (harmless : entry = .directory ∨ disk.isDirectoryAt (above ++ [path.name]) = false) :
    (disk.put (above ++ [path.name]) entry).locate path = .ok (above ++ [path.name]) := by
  have grows := grows_put harmless
  obtain ⟨start, -, begins, goes⟩ := locate_ok.mp (grows.locate found)
  refine locate_ok.mpr ⟨start, fits, begins, ?_⟩
  rw [Path.names_eq_parent named, walk_append, goes]
  refine walk_cons_ok.mpr ⟨grows.directory above standing, .inr ⟨down, short, ?_, rfl⟩⟩
  rw [entry?_put (by simp)]
  rfl

/-! ## Making directories -/

/-- A directory that has been made is new, and stands in a directory. -/
theorem makeDirectory_ok {path : Path} {made : Disk} (h : disk.makeDirectory path = .ok made) :
    ∃ above name, disk.isDirectoryAt above = true ∧ disk.entry? (above ++ [name]) = none ∧
      made = disk.put (above ++ [name]) .directory ∧ made.locate path = .ok (above ++ [name]) := by
  unfold makeDirectory at h
  split at h
  · cases h
  · cases h
  next name fits last =>
    split at h
    · cases h
    next above found =>
      repeat' split at h
      all_goals try cases h
      next standing down short free =>
        have named : path.names ≠ [] := by
          intro rootless
          simp [rootless] at last
        have same : path.name = name := by simp [Path.name, last]
        subst same
        simp only [Bool.not_eq_true', Bool.not_eq_false, Bool.not_eq_true,
          Option.isSome_eq_false_iff, Option.isNone_iff_eq_none] at standing short free
        exact ⟨above, path.name, standing, free, rfl,
          locate_put_child named fits found standing down short (.inl rfl)⟩

theorem isDirectory_ok {path : Path} (named : path.names ≠ [])
    (h : disk.isDirectory path = .ok true) :
    ∃ place, disk.locate path = .ok place ∧ disk.isDirectoryAt place = true := by
  unfold isDirectory at h
  rw [if_neg named] at h
  split at h
  next place found => exact ⟨place, found, Except.ok.inj h⟩
  · cases h
  · cases h

theorem tolerate_ok {lenient : Bool} {path : Path} {obstacle : Obstacle}
    (h : disk.tolerate lenient path obstacle = .ok ()) : disk.isDirectory path = .ok true := by
  unfold tolerate at h
  split at h
  · assumption
  · cases h

/-- Directories that have been made are there, whether the last one is new or not. -/
theorem makeUpTo_stands {steps : Nat} {lenient : Bool} {path : Path} {made : Disk}
    (named : path.names ≠ []) (h : makeUpTo steps lenient disk path = (.ok (), made)) :
    ∃ place, made.locate path = .ok place ∧ made.isDirectoryAt place = true := by
  have new {before : Disk} (h : before.makeDirectory path = .ok made) :
      ∃ place, made.locate path = .ok place ∧ made.isDirectoryAt place = true := by
    obtain ⟨above, name, -, -, rfl, leads⟩ := makeDirectory_ok h
    exact ⟨above ++ [name], leads, by simp [isDirectoryAt, entry?_put]⟩
  have old {before : Disk} {obstacle : Obstacle}
      (h : (before.tolerate lenient path obstacle, before) = (.ok (), made)) :
      ∃ place, made.locate path = .ok place ∧ made.isDirectoryAt place = true := by
    obtain ⟨tolerated, rfl⟩ := Prod.mk.inj h
    exact isDirectory_ok named (tolerate_ok tolerated)
  unfold makeUpTo at h
  split at h
  next first =>
    cases h
    exact new first
  next =>
    split at h
    · cases h
    next =>
      split at h
      next =>
        unfold makeLast at h
        split at h
        next last =>
          cases h
          exact new last
        · cases h
        · exact old h
      next failed => exact absurd h (failed () made)
  · exact old h

section Many
variable {P : Disk → Prop} {Q : Path → Prop}
  (step : ∀ {before made : Disk} {path : Path}, Q path → P before →
    before.makeDirectory path = .ok made → P made)
include step

theorem makeLast_keeps (lenient : Bool) {path : Path} (asked : Q path) (h : P disk) :
    P (makeLast lenient disk path).2 := by
  unfold makeLast
  split
  next made => exact step asked h made
  · exact h
  · exact h

variable (up : ∀ {path : Path}, Q path → Q path.parent)
include up

/-- What every single step keeps, making many directories keeps. -/
theorem makeUpTo_keeps (steps : Nat) (lenient : Bool) {path : Path} (asked : Q path) (h : P disk) :
    P (makeUpTo steps lenient disk path).2 := by
  induction steps generalizing lenient path with
  | zero =>
    unfold makeUpTo
    split
    next made => exact step asked h made
    · exact h
    · exact h
  | succ steps ih =>
    have kept := ih true (up asked)
    unfold makeUpTo
    split
    next made => exact step asked h made
    next =>
      dsimp only
      split
      next made =>
        rw [made] at kept
        exact makeLast_keeps step lenient asked kept
      · exact kept
    · exact h

/-- A directory that must be new is made last, on a disk that the steps before it left. -/
theorem makeUpTo_ok {steps : Nat} {path : Path} {made : Disk} (asked : Q path) (h : P disk)
    (ends : makeUpTo steps false disk path = (.ok (), made)) :
    ∃ before, P before ∧ before.makeDirectory path = .ok made := by
  -- Nothing that was there before passes for a directory that must be new.
  have strict (disk : Disk) (obstacle : Obstacle) :
      (disk.tolerate false path obstacle, disk) ≠ (.ok (), made) := by
    simp [tolerate]
  unfold makeUpTo at ends
  split at ends
  next first =>
    cases ends
    exact ⟨disk, h, first⟩
  next =>
    split at ends
    · cases ends
    next steps =>
      have kept := makeUpTo_keeps step up steps true (up asked) h
      split at ends
      next above parents =>
        rw [parents] at kept
        unfold makeLast at ends
        split at ends
        next last =>
          cases ends
          exact ⟨above, kept, last⟩
        · cases ends
        · exact absurd ends (strict _ _)
      next failed => exact absurd ends (failed () made)
  · exact absurd ends (strict _ _)

end Many

/-! ## Writing -/

/-- A file that has been written stands at one place, to which its path leads. It was there before,
or it stands in a directory. -/
theorem write_ok {path : Path} {content : List UInt8} {written : Disk}
    (h : disk.write path content = .ok written) :
    ∃ location, disk.isDirectoryAt location = false ∧
      (disk.locate path = .ok location ∨ disk.isDirectoryAt location.dropLast = true) ∧
      written = disk.put location (.file content) ∧ written.locate path = .ok location := by
  unfold write at h
  split at h
  · cases h
  next named =>
    split at h
    next location found =>
      split at h
      · cases h
      next free =>
        cases h
        have free := Bool.eq_false_iff.mpr free
        exact ⟨location, free, .inl found, rfl, (grows_put (.inr free)).locate found⟩
    next absent =>
      split at h
      next above found =>
        cases h
        obtain ⟨fits, standing, down, short, nothing⟩ := locate_missing named absent found
        have free : disk.isDirectoryAt (above ++ [path.name]) = false := by
          simp [isDirectoryAt, nothing]
        exact ⟨above ++ [path.name], free, .inr (by simpa using standing), rfl,
          locate_put_child named fits found standing down short (.inr free)⟩
      · cases h
    · cases h

/-- A file can be written into a directory that is there, at a name that is no directory yet. -/
theorem write_child {directory : Path} {above : Location} {name : String}
    (found : disk.locate directory = .ok above) (standing : disk.isDirectoryAt above = true)
    (isName : IsName name) (plain : name ≠ ".." ∧ isTooLong name = false)
    (fits : badPath? (directory.child name) = none)
    (free : disk.isDirectoryAt (above ++ [name]) = false) (content : List UInt8) :
    ∃ written, disk.write (directory.child name) content = .ok written := by
  have named : (directory.child name).names ≠ [] := by
    simp [Path.names_child isName]
  obtain ⟨start, -, begins, goes⟩ := locate_ok.mp found
  have begins : disk.origin? (directory.child name) = some start := by
    simpa [origin?, Path.isAbsolute, Path.anchor_child isName] using begins
  have leads : disk.locate (directory.child name) = disk.walk above [name] := by
    simp only [locate, fits, begins]
    rw [Path.names_child isName, walk_append, goes]
  unfold write
  rw [if_neg named, leads, Path.parent_child isName, found]
  cases there : disk.entry? (above ++ [name]) with
  | none => simp [walk, standing, plain, there]
  | some entry => simp [walk, standing, plain, there, free]

/-- A file that has been written holds what was written. -/
theorem write_reads {path : Path} {content : List UInt8} {written : Disk}
    (h : disk.write path content = .ok written) : written.read path = .ok content := by
  have named : path.names ≠ [] := by
    intro rootless
    simp [write, rootless] at h
  obtain ⟨location, free, -, rfl, found⟩ := write_ok h
  have inside : location ≠ [] := by
    rintro rfl
    simp at free
  rw [read, if_neg named, found]
  simp only [entry?_put inside]

/-- Where a file could be written, another content can follow, and it is what the file then holds. -/
theorem write_again {path : Path} {first : List UInt8} {written : Disk}
    (h : disk.write path first = .ok written) (content : List UInt8) :
    ∃ final, written.write path content = .ok final ∧ final.read path = .ok content := by
  have named : path.names ≠ [] := by
    intro rootless
    simp [write, rootless] at h
  obtain ⟨location, free, -, rfl, found⟩ := write_ok h
  have inside : location ≠ [] := by
    rintro rfl
    simp at free
  have free : (disk.put location (.file first)).isDirectoryAt location = false := by
    simp [isDirectoryAt, entry?_put inside]
  have final : (disk.put location (.file first)).write path content =
      .ok ((disk.put location (.file first)).put location (.file content)) := by
    simp [write, named, found, free]
  exact ⟨_, final, write_reads final⟩

/-- A file that can be read stands where its path leads. -/
theorem read_ok {path : Path} {content : List UInt8} :
    disk.read path = .ok content ↔ path.names ≠ [] ∧
      ∃ place, disk.locate path = .ok place ∧ disk.entry? place = some (.file content) := by
  unfold read
  by_cases named : path.names = []
  · simp [named]
  · rw [if_neg named]
    cases found : disk.locate path with
    | error obstacle => simp
    | ok place =>
      simp only [Except.ok.injEq, exists_eq_left']
      split
      next held => simp [held, named]
      next other => simpa [named] using other content

end Disk
end TestBench
