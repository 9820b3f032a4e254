import TestBench.Proofs.Tree
import TestBench.Proofs.Confined
import TestBench.Proofs.Text.Utf8

/-!
Ways that end. A path may lead through directories to a place where something is missing; then
everything beyond is missing too, and what an operation comes to can be told from where the way ends
and from the first name that is too long.

- `Reaches` and `Reaches.walk`: such a way, and how far names lead along it,
- `MakesFront` and `Ways.makeDirectories`: missing directories are made up to the first name that is
  too long,
- `Ways.write` and `remove_of_missing`: nothing can be written or removed beyond the end,
- `makeDirectories_afresh`: a directory that is removed first is made new and empty.
-/
namespace TestBench.Disk
set_option autoImplicit false

/-! ## Paths that fit -/

/-- The text of a directory is not longer than the text of what it holds, except that a directory
without a name is written with one dot. -/
theorem length_parent_le (path : Path) :
    Text.Utf8.length path.parent.toString.toList ≤
      max 1 (Text.Utf8.length path.toString.toList) := by
  by_cases unwritten : path.parent.parts = []
  · rw [Path.toString, if_pos unwritten]
    exact Nat.le_max_left _ _
  · have written : path.parts ≠ [] := by
      intro none
      refine unwritten ?_
      unfold Path.parts at none ⊢
      split at none
      · next relative =>
        rw [if_pos (show path.parent.anchor = .relative from relative)]
        simp [Path.parent, Path.dropLast, none]
      · cases none
    refine Nat.le_trans (Text.Utf8.length_le_of_prefix ?_) (Nat.le_max_right _ _)
    rw [Path.toList_toString unwritten, Path.toList_toString written]
    refine (List.prefix_append_right_inj _).mpr ?_
    by_cases named : path.names = []
    · simp [Path.parent, Path.dropLast, named]
    · rw [Path.names_eq_parent named]
      exact Path.namesText_prefix _ _

theorem badPath?_parent {path : Path} (fits : badPath? path = none) :
    badPath? path.parent = none := by
  have shorter := length_parent_le path
  have fits' : (path.names.any fun name => name.toList.contains '\x00') = false ∧
      ¬pathLimit < Text.Utf8.length path.toString.toList := by
    unfold badPath? at fits
    split at fits
    · cases fits
    · next plain =>
      split at fits
      · cases fits
      · next short => exact ⟨Bool.eq_false_iff.mpr plain, short⟩
  have plain : (path.parent.names.any fun name => name.toList.contains '\x00') = false := by
    rw [List.any_eq_false] at fits' ⊢
    exact fun name member => fits'.1 name (List.mem_of_mem_take member)
  have limit : 1 ≤ pathLimit := by decide
  unfold badPath?
  rw [plain, if_neg (by simp), if_neg (by omega)]

/-! ## Names that are too long -/

/-- How many names there are before the first one that is too long. -/
def shortNames (names : List String) : Nat :=
  (names.takeWhile fun name => !isTooLong name).length

theorem shortNames_cons (name : String) (rest : List String) :
    shortNames (name :: rest) = if isTooLong name then 0 else shortNames rest + 1 := by
  cases long : isTooLong name <;> simp [shortNames, long]

theorem shortNames_le (names : List String) : shortNames names ≤ names.length :=
  (List.takeWhile_prefix _).length_le

theorem shortNames_concat (front : List String) (name : String) :
    shortNames (front ++ [name]) =
      if shortNames front < front.length then shortNames front
      else if isTooLong name then front.length else front.length + 1 := by
  induction front with
  | nil => cases long : isTooLong name <;> simp [shortNames, long]
  | cons first rest ih =>
    rw [List.cons_append, shortNames_cons, shortNames_cons, ih, List.length_cons]
    have bound := shortNames_le rest
    repeat' split
    all_goals omega

theorem shortNames_parent {path : Path} (named : path.names ≠ []) :
    shortNames path.names =
      if shortNames path.parent.names < path.parent.names.length then shortNames path.parent.names
      else if isTooLong path.name then path.parent.names.length
      else path.parent.names.length + 1 := by
  rw [← shortNames_concat, ← Path.names_eq_parent named]

theorem exists_long {names : List String} (h : shortNames names < names.length) :
    ∃ name ∈ names.take (shortNames names + 1), isTooLong name = true := by
  induction names with
  | nil => simp at h
  | cons first rest ih =>
    rw [shortNames_cons] at h ⊢
    cases long : isTooLong first with
    | true => exact ⟨first, by simp, long⟩
    | false =>
      simp only [long, Bool.false_eq_true, if_false, List.length_cons] at h ⊢
      obtain ⟨name, member, long⟩ := ih (by omega)
      exact ⟨name, by simp [member], long⟩

/-! ## Ways -/

/-- From a place, names lead through directories down to a depth, and nothing stands beyond. -/
structure Reaches (disk : Disk) (start : Location) (names : List String) (depth : Nat) : Prop where
  within : depth ≤ names.length
  directories : ∀ count ≤ depth, disk.isDirectoryAt (start ++ names.take count) = true
  missing : ∀ count, depth < count → count ≤ names.length →
    disk.entry? (start ++ names.take count) = none

namespace Reaches
variable {disk : Disk} {start : Location} {names : List String} {depth : Nat}

theorem begin (h : Reaches disk start names depth) : disk.isDirectoryAt start = true := by
  have first := h.directories 0 (Nat.zero_le _)
  rwa [List.take_zero, List.append_nil] at first

theorem tail {name : String} (h : Reaches disk start (name :: names) (depth + 1)) :
    Reaches disk (start ++ [name]) names depth where
  within := Nat.le_of_succ_le_succ h.within
  directories := fun count deep => by
    have next := h.directories (count + 1) (Nat.succ_le_succ deep)
    rwa [List.take_succ_cons, List.append_cons] at next
  missing := fun count deep within => by
    have next := h.missing (count + 1) (Nat.succ_lt_succ deep) (Nat.succ_le_succ within)
    rwa [List.take_succ_cons, List.append_cons] at next

theorem lt_of_missing {count : Nat} (h : Reaches disk start names depth)
    (gone : disk.entry? (start ++ names.take count) = none) : depth < count := by
  refine Nat.lt_of_not_le fun within => ?_
  have standing := h.directories count within
  rw [isDirectoryAt, gone] at standing
  cases standing

theorem le_of_stands {count : Nat} (h : Reaches disk start names depth)
    (within : count ≤ names.length)
    (stands : disk.isDirectoryAt (start ++ names.take count) = true) : count ≤ depth := by
  refine Nat.le_of_not_lt fun beyond => ?_
  have gone := h.missing count beyond within
  rw [isDirectoryAt, gone] at stands
  cases stands

/-- Names lead along a way until one is too long or something is missing. -/
theorem walk (plain : ".." ∉ names) (h : Reaches disk start names depth) :
    disk.walk start names =
      if shortNames names < names.length ∧ shortNames names ≤ depth then .error .nameTooLong
      else if depth < names.length then .error .missing
      else .ok (start ++ names) := by
  induction names generalizing start depth with
  | nil => simp [Disk.walk, shortNames]
  | cons name rest ih =>
    rw [List.mem_cons, not_or] at plain
    rw [Disk.walk, h.begin, shortNames_cons, List.length_cons]
    simp only [Bool.not_true, Bool.false_eq_true, if_false, if_neg (Ne.symm plain.1)]
    cases long : isTooLong name with
    | true => simp
    | false =>
      cases depth with
      | zero =>
        have nothing := h.missing 1 Nat.one_pos (by simp)
        rw [List.take_succ_cons, List.take_zero] at nothing
        simp [nothing]
      | succ depth =>
        have below := h.tail
        have there := below.begin
        rw [isDirectoryAt, decide_eq_true_eq] at there
        simp [there, ih plain.2 below]

end Reaches

section Trees
variable {disk : Disk} {start location : Location} {names rest : List String} {depth : Nat}

/-- In a tree something can stand only below directories. -/
theorem IsTree.front (tree : disk.IsTree) (named : rest ≠ [])
    (stands : (disk.entry? (location ++ rest)).isSome = true) :
    disk.isDirectoryAt location = true := by
  have above {location : Location} {name : String}
      (stands : (disk.entry? (location ++ [name])).isSome = true) :
      disk.isDirectoryAt location = true := by
    have parent := tree.dropLast stands
    rwa [List.dropLast_concat] at parent
  induction rest generalizing location with
  | nil => exact absurd rfl named
  | cons name more ih =>
    cases more with
    | nil => exact above stands
    | cons next others =>
      rw [List.append_cons] at stands
      exact above (isSome_of_isDirectoryAt (ih (by simp) stands))

/-- Above a directory there are directories only. -/
theorem IsTree.isDirectoryAt_of_prefix (tree : disk.IsTree) {above : Location}
    (short : above <+: location) (stands : disk.isDirectoryAt location = true) :
    disk.isDirectoryAt above = true := by
  obtain ⟨rest, rfl⟩ := short
  by_cases here : rest = []
  · rwa [here, List.append_nil] at stands
  · exact tree.front here (isSome_of_isDirectoryAt stands)

theorem IsTree.beyond (tree : disk.IsTree) (missing : disk.entry? location = none)
    (rest : List String) : disk.entry? (location ++ rest) = none := by
  by_cases here : rest = []
  · rwa [here, List.append_nil]
  · cases found : disk.entry? (location ++ rest) with
    | none => rfl
    | some entry =>
      have above := tree.front here (by rw [found]; rfl)
      rw [isDirectoryAt, missing] at above
      cases above

/-- A way ends where something is missing, if no file stands in it. -/
theorem IsTree.exists_reaches (tree : disk.IsTree)
    (either : ∀ count ≤ names.length, disk.isDirectoryAt (start ++ names.take count) = true ∨
      disk.entry? (start ++ names.take count) = none)
    (begin : disk.isDirectoryAt start = true) : ∃ depth, Reaches disk start names depth := by
  suffices ends : ∀ limit ≤ names.length, ∃ depth ≤ limit,
      (∀ count ≤ depth, disk.isDirectoryAt (start ++ names.take count) = true) ∧
        ∀ count, depth < count → count ≤ limit →
          disk.entry? (start ++ names.take count) = none by
    obtain ⟨depth, within, directories, missing⟩ := ends names.length (Nat.le_refl _)
    exact ⟨depth, within, directories, missing⟩
  intro limit
  induction limit with
  | zero =>
    refine fun _ => ⟨0, Nat.le_refl _, fun count first => ?_, fun count beyond within => by omega⟩
    rwa [Nat.le_zero.mp first, List.take_zero, List.append_nil]
  | succ limit ih =>
    intro bound
    obtain ⟨depth, within, directories, missing⟩ := ih (by omega)
    have one : names.take (limit + 1) = names.take limit ++ [names[limit]] :=
      List.take_succ_eq_append_getElem (by omega)
    by_cases ended : depth < limit
    · refine ⟨depth, by omega, directories, fun count beyond short => ?_⟩
      by_cases last : count = limit + 1
      · rw [last, one, ← List.append_assoc]
        exact tree.beyond (missing limit ended (Nat.le_refl _)) _
      · exact missing count beyond (by omega)
    · have all : depth = limit := by omega
      subst all
      rcases either (depth + 1) bound with next | next
      · refine ⟨depth + 1, Nat.le_refl _, fun count short => ?_, fun count beyond short => by omega⟩
        by_cases last : count = depth + 1
        · rwa [last]
        · exact directories count (by omega)
      · refine ⟨depth, by omega, directories, fun count beyond short => ?_⟩
        rwa [show count = depth + 1 by omega]

/-- Names beyond the end of a way do not matter. -/
theorem Reaches.extend (tree : disk.IsTree) (h : Reaches disk start names depth)
    (deep : depth < names.length) (rest : List String) :
    Reaches disk start (names ++ rest) depth where
  within := by
    rw [List.length_append]
    omega
  directories := fun count short => by
    rw [List.take_append_of_le_length (by omega)]
    exact h.directories count short
  missing := fun count beyond within => by
    by_cases short : count ≤ names.length
    · rw [List.take_append_of_le_length short]
      exact h.missing count beyond short
    · rw [List.take_append, List.take_of_length_le (by omega), ← List.append_assoc]
      have ends := h.missing names.length deep (Nat.le_refl _)
      rw [List.take_length] at ends
      exact tree.beyond ends _

end Trees

section Paths
variable {disk : Disk} {path : Path} {start : Location} {depth : Nat}

theorem locate_of_fits (fits : badPath? path = none) (begins : disk.origin? path = some start) :
    disk.locate path = disk.walk start path.names := by
  simp only [locate, fits, begins]

theorem makeDirectory_of_lost {obstacle : Obstacle} (fits : badPath? path = none)
    (named : path.names ≠ []) (lost : disk.locate path.parent = .error obstacle) :
    disk.makeDirectory path = .error obstacle := by
  simp only [makeDirectory, fits, Path.getLast?_names named, lost]

theorem makeDirectory_of_above {above : Location} (fits : badPath? path = none)
    (named : path.names ≠ []) (down : path.name ≠ "..") (found : disk.locate path.parent = .ok above)
    (stands : disk.isDirectoryAt above = true) (free : disk.entry? (above ++ [path.name]) = none) :
    disk.makeDirectory path =
      if isTooLong path.name then .error .nameTooLong
      else .ok (disk.put (above ++ [path.name]) .directory) := by
  simp [makeDirectory, fits, Path.getLast?_names named, found, stands, down, free]

/-- A way to a path, which has names without two dots and is not too long. -/
structure Ways (disk : Disk) (path : Path) (start : Location) (depth : Nat) : Prop where
  reaches : Reaches disk start path.names depth
  begins : disk.origin? path = some start
  plain : ".." ∉ path.names
  fits : badPath? path = none

namespace Ways

theorem locate (h : Ways disk path start depth) :
    disk.locate path =
      if shortNames path.names < path.names.length ∧ shortNames path.names ≤ depth then
        .error .nameTooLong
      else if depth < path.names.length then .error .missing
      else .ok (start ++ path.names) := by
  rw [locate_of_fits h.fits h.begins, h.reaches.walk h.plain]

theorem parent (h : Ways disk path start depth) (deep : depth < path.names.length) :
    Ways disk path.parent start depth := by
  have length := path.length_parent
  refine ⟨⟨by omega, ?_, ?_⟩, h.begins, ?_, badPath?_parent h.fits⟩
  · intro count within
    rw [path.take_parent (by omega)]
    exact h.reaches.directories count within
  · intro count beyond within
    rw [path.take_parent (by omega)]
    exact h.reaches.missing count beyond (by omega)
  · exact fun member => h.plain (List.mem_of_mem_take member)

theorem makeDirectory (h : Ways disk path start depth) (deep : depth < path.names.length) :
    disk.makeDirectory path =
      if shortNames path.names ≤ depth then .error .nameTooLong
      else if depth + 1 < path.names.length then .error .missing
      else .ok (disk.put (start ++ path.names) .directory) := by
  have named : path.names ≠ [] := List.ne_nil_of_length_pos (by omega)
  have length := path.length_parent
  have short := shortNames_parent named
  have parent := (h.parent deep).locate
  by_cases early : shortNames path.parent.names < path.parent.names.length
  · rw [if_pos early] at short
    by_cases met : shortNames path.parent.names ≤ depth
    · -- The long name is met before anything is missing.
      rw [if_pos ⟨early, met⟩] at parent
      rw [makeDirectory_of_lost h.fits named parent, if_pos (by omega)]
    · rw [if_neg (fun both => met both.2), if_pos (by omega)] at parent
      rw [makeDirectory_of_lost h.fits named parent, if_neg (by omega), if_pos (by omega)]
  · rw [if_neg early] at short
    rw [if_neg (fun both => early both.1)] at parent
    have bound := shortNames_le path.parent.names
    by_cases ends : depth < path.parent.names.length
    · have beyond : ¬shortNames path.names ≤ depth := by
        split at short <;> omega
      rw [if_pos ends] at parent
      rw [makeDirectory_of_lost h.fits named parent, if_neg beyond, if_pos (by omega)]
    · -- The directory above the last name is there.
      have names := Path.names_eq_parent named
      have down : path.name ≠ ".." := fun up =>
        h.plain (names ▸ List.mem_append_right _ (up ▸ List.mem_cons_self))
      have place : start ++ path.names = start ++ path.parent.names ++ [path.name] := by
        rw [List.append_assoc, ← names]
      have stands := (h.parent deep).reaches.directories path.parent.names.length (by omega)
      have free := h.reaches.missing path.names.length (by omega) (Nat.le_refl _)
      rw [List.take_length] at stands free
      rw [place] at free
      rw [if_neg ends] at parent
      rw [makeDirectory_of_above h.fits named down parent stands free, ← place]
      split at short
      · next long => rw [if_pos long, if_pos (by omega)]
      · next fits => rw [if_neg fits, if_neg (by omega), if_neg (by omega)]

/-- A name that is too long is not tolerated. -/
theorem tolerate (h : Ways disk path start depth) (deep : depth < path.names.length)
    (long : shortNames path.names ≤ depth) (lenient : Bool) :
    disk.tolerate lenient path .nameTooLong = .error (Obstacle.nameTooLong.fault path) := by
  have named : path.names ≠ [] := List.ne_nil_of_length_pos (by omega)
  have asked : disk.isDirectory path = .error .nameTooLong := by
    rw [Disk.isDirectory, if_neg named, h.locate, if_pos ⟨by omega, long⟩]
  unfold Disk.tolerate
  rw [asked]
  cases lenient <;> rfl

end Ways

/-! ## Making directories -/

/-- From one disk to another directories have been made along names down to a depth, where they were
not there yet, and nothing else has changed. -/
structure MakesFront (disk : Disk) (start : Location) (names : List String) (depth : Nat)
    (made : Disk) : Prop where
  cwd : made.cwd = disk.cwd
  directories : ∀ count ≤ depth, made.isDirectoryAt (start ++ names.take count) = true
  kept : ∀ location, (∀ count ≤ depth, location ≠ start ++ names.take count) →
    made.entry? location = disk.entry? location

/-- The path that is reported when a name is too long: all of it if the name is met at once, and
otherwise the path down to that name, once the directories before it have been made. -/
def blockedPath (path : Path) (depth : Nat) : Path :=
  if shortNames path.names ≤ depth then path
  else path.dropLast (path.names.length - (shortNames path.names + 1))

/-- What has been made along the names of a parent has been made along the names of the path. -/
theorem MakesFront.of_parent {made : Disk} {count : Nat}
    (h : MakesFront disk start path.parent.names count made)
    (within : count ≤ path.names.length - 1) : MakesFront disk start path.names count made where
  cwd := h.cwd
  directories := fun other short => by
    rw [← path.take_parent (by omega)]
    exact h.directories other short
  kept := fun location apart => h.kept location fun other short => by
    rw [path.take_parent (by omega)]
    exact apart other short

/-- Where directories have been made along the same names, two disks are the same; elsewhere both are
as before. -/
theorem MakesFront.same_or_kept {other made made' : Disk} {names : List String} {count : Nat}
    (h : MakesFront disk start names count made) (h' : MakesFront other start names count made')
    (location : Location) :
    made.entry? location = made'.entry? location ∨
      made.entry? location = disk.entry? location ∧ made'.entry? location = other.entry? location := by
  by_cases new : ∃ depth ≤ count, location = start ++ names.take depth
  · obtain ⟨depth, short, rfl⟩ := new
    have there := h.directories depth short
    have there' := h'.directories depth short
    rw [isDirectoryAt, decide_eq_true_eq] at there there'
    exact .inl (there.trans there'.symm)
  · have apart : ∀ depth ≤ count, location ≠ start ++ names.take depth :=
      fun depth short same => new ⟨depth, short, same⟩
    exact .inr ⟨h.kept location apart, h'.kept location apart⟩

theorem MakesFront.put_last {made : Disk} {names : List String} (named : names ≠ [])
    (h : MakesFront disk start names (names.length - 1) made) :
    MakesFront disk start names names.length (made.put (start ++ names) .directory) where
  cwd := (put_cwd _ _).trans h.cwd
  directories := by
    intro count within
    by_cases last : count = names.length
    · rw [last, List.take_length]
      simp [isDirectoryAt, entry?_put (show start ++ names ≠ [] by simp [named])]
    · exact (grows_put (.inl rfl)).directory _ (h.directories count (by omega))
  kept := by
    intro location other
    have apart : location ≠ start ++ names := by
      have whole := other names.length (Nat.le_refl _)
      rwa [List.take_length] at whole
    rw [entry?_put_other apart]
    exact h.kept location fun count within => other count (by omega)

theorem makeUpTo_of_ok {steps : Nat} {lenient : Bool} {made : Disk}
    (h : disk.makeDirectory path = .ok made) :
    makeUpTo steps lenient disk path = (.ok (), made) := by
  unfold makeUpTo
  rw [h]

theorem makeUpTo_of_obstacle {steps : Nat} {lenient : Bool} {obstacle : Obstacle}
    (h : disk.makeDirectory path = .error obstacle) (other : obstacle ≠ .missing) :
    makeUpTo steps lenient disk path = (disk.tolerate lenient path obstacle, disk) := by
  unfold makeUpTo
  rw [h]
  cases obstacle with
  | missing => exact absurd rfl other
  | _ => rfl

theorem makeUpTo_of_missing {steps : Nat} {lenient : Bool}
    (h : disk.makeDirectory path = .error .missing) :
    makeUpTo (steps + 1) lenient disk path =
      match makeUpTo steps true disk path.parent with
      | (.ok _, above) => makeLast lenient above path
      | failed => failed := by
  rewrite [makeUpTo, h]
  rfl

namespace Ways

/-- The whole work is one step if a name on the way is too long, or if only the last directory is
missing. -/
theorem makeUpTo_once (h : Ways disk path start depth) (deep : depth < path.names.length)
    (once : shortNames path.names ≤ depth ∨ depth + 1 = path.names.length) (steps : Nat)
    (lenient : Bool) :
    ∃ made, Disk.makeUpTo steps lenient disk path =
        (if shortNames path.names = path.names.length then .ok ()
          else .error (Obstacle.nameTooLong.fault (blockedPath path depth)), made) ∧
      MakesFront disk start path.names (shortNames path.names) made := by
  have bound := shortNames_le path.names
  have makes := h.makeDirectory deep
  by_cases long : shortNames path.names ≤ depth
  · rw [if_pos long] at makes
    refine ⟨disk, ?_, rfl, ?_, fun _ _ => rfl⟩
    · rw [makeUpTo_of_obstacle makes (by simp), h.tolerate deep long, if_neg (by omega),
        blockedPath, if_pos long]
    · exact fun count within => h.reaches.directories count (by omega)
  · have last : depth + 1 = path.names.length := once.resolve_left long
    have whole : shortNames path.names = path.names.length := by omega
    rw [if_neg long, if_neg (by omega)] at makes
    rw [makeUpTo_of_ok makes, if_pos whole, whole]
    refine ⟨_, rfl, MakesFront.put_last (List.ne_nil_of_length_pos (by omega)) ?_⟩
    refine ⟨rfl, fun count within => h.reaches.directories count (by omega), fun _ _ => rfl⟩

/-- What is left to do once all directories above the last name are there. -/
theorem makeLast (h : Ways disk path start depth) (last : depth + 1 = path.names.length)
    (lenient : Bool) :
    ∃ made, Disk.makeLast lenient disk path =
        (if shortNames path.names = path.names.length then .ok ()
          else .error (Obstacle.nameTooLong.fault path), made) ∧
      (shortNames path.names = path.names.length →
        made = disk.put (start ++ path.names) .directory) ∧
      (shortNames path.names ≠ path.names.length → made = disk) := by
  have bound := shortNames_le path.names
  have makes := h.makeDirectory (by omega)
  unfold Disk.makeLast
  by_cases whole : shortNames path.names = path.names.length
  · rw [if_neg (by omega), if_neg (by omega)] at makes
    rw [makes, if_pos whole]
    exact ⟨_, rfl, fun _ => rfl, fun other => absurd whole other⟩
  · have long : shortNames path.names ≤ depth := by omega
    rw [if_pos long] at makes
    rw [makes, if_neg whole]
    exact ⟨disk, by rw [← h.tolerate (by omega) long lenient], fun same => absurd same whole,
      fun _ => rfl⟩

/-- Once the directories above a path have been made, only the last one is missing. -/
theorem above {made : Disk} (h : Ways disk path start depth) (deep : depth < path.names.length)
    (front : MakesFront disk start path.names (path.names.length - 1) made) :
    Ways made path start (path.names.length - 1) := by
  refine ⟨⟨Nat.sub_le _ _, front.directories, fun count beyond within => ?_⟩, ?_, h.plain, h.fits⟩
  · rw [front.kept _ fun other short same => ?_]
    · exact h.reaches.missing count (by omega) within
    · have lengths := congrArg List.length same
      simp only [List.length_append, List.length_take] at lengths
      omega
  · rw [origin?, front.cwd]
    exact h.begins

/-- Directories are made along a way up to the first name that is too long. -/
theorem makeUpTo {steps : Nat} (h : Ways disk path start depth) (deep : depth < path.names.length)
    (enough : path.names.length ≤ steps + depth + 1) (lenient : Bool) :
    ∃ made, Disk.makeUpTo steps lenient disk path =
        (if shortNames path.names = path.names.length then .ok ()
          else .error (Obstacle.nameTooLong.fault (blockedPath path depth)), made) ∧
      MakesFront disk start path.names (shortNames path.names) made := by
  induction steps generalizing path lenient with
  | zero => exact h.makeUpTo_once deep (.inr (by omega)) 0 lenient
  | succ steps ih =>
    by_cases once : shortNames path.names ≤ depth ∨ depth + 1 = path.names.length
    · exact h.makeUpTo_once deep once _ lenient
    · rw [not_or] at once
      have makes := h.makeDirectory deep
      rw [if_neg once.1, if_pos (by omega)] at makes
      have named : path.names ≠ [] := List.ne_nil_of_length_pos (by omega)
      have length := path.length_parent
      have short := shortNames_parent named
      have bound := shortNames_le path.parent.names
      obtain ⟨above, parents, front⟩ := ih (h.parent deep) (by omega) (by omega) true
      have front := front.of_parent (by omega)
      rw [makeUpTo_of_missing makes, parents]
      by_cases early : shortNames path.parent.names < path.parent.names.length
      · -- The work stops at a name before the last one.
        rw [if_pos early] at short
        rw [← short] at front
        refine ⟨above, ?_, front⟩
        rw [if_neg (by omega), if_neg (by omega), blockedPath, blockedPath, if_neg (by omega),
          if_neg (by omega), ← short, Path.dropLast_parent path (by omega)]
      · -- All directories above the last one have been made.
        have whole : shortNames path.parent.names = path.names.length - 1 := by omega
        rw [if_neg early] at short
        rw [whole] at front
        obtain ⟨made, makes, new, same⟩ := (h.above deep front).makeLast (by omega) lenient
        refine ⟨made, ?_, ?_⟩
        · rw [if_pos (by omega)]
          dsimp only
          rw [makes]
          split
          · rfl
          · have last : path.names.length - (shortNames path.names + 1) = 0 := by
              split at short <;> omega
            rw [blockedPath, if_neg once.1, last, Path.dropLast_zero]
        · by_cases all : shortNames path.names = path.names.length
          · rw [new all, all]
            exact front.put_last named
          · have last : shortNames path.names = path.names.length - 1 := by
              split at short <;> omega
            rw [same all, last]
            exact front

theorem makeDirectories (h : Ways disk path start depth) (deep : depth < path.names.length)
    (lenient : Bool) :
    ∃ made, disk.makeDirectories lenient path =
        (if shortNames path.names = path.names.length then .ok ()
          else .error (Obstacle.nameTooLong.fault (blockedPath path depth)), made) ∧
      MakesFront disk start path.names (shortNames path.names) made :=
  h.makeUpTo deep (by omega) lenient

end Ways

/-- A path that cannot be asked about is not made. -/
theorem makeDirectories_bad {obstacle : Obstacle} (named : path.names ≠ [])
    (bad : badPath? path = some obstacle) (lenient : Bool) :
    disk.makeDirectories lenient path = (.error (obstacle.fault path), disk) := by
  have makes : disk.makeDirectory path = .error obstacle := by
    simp only [makeDirectory, bad]
  have other : obstacle ≠ .missing := by
    rintro rfl
    exact badPath?_ne_missing path bad
  have lost : disk.isDirectory path ≠ .ok true := by
    rw [isDirectory, if_neg named, locate, bad]
    cases obstacle <;> simp
  rw [makeDirectories, makeUpTo_of_obstacle makes other]
  unfold tolerate
  split
  · next there => exact absurd there lost
  · rfl

/-! ## Writing and removing -/

theorem write_bad {obstacle : Obstacle} (named : path.names ≠ [])
    (bad : badPath? path = some obstacle) (content : List UInt8) :
    disk.write path content = .error obstacle := by
  have lost : disk.locate path = .error obstacle := by
    simp only [locate, bad]
  rw [Disk.write, if_neg named, lost]
  cases obstacle with
  | missing => exact absurd bad (badPath?_ne_missing path)
  | _ => rfl

/-- Beyond the end of a way no file can be written. -/
theorem Ways.write (h : Ways disk path start depth) (deep : depth + 1 < path.names.length)
    (content : List UInt8) :
    disk.write path content =
      .error (if shortNames path.names ≤ depth then .nameTooLong else .missing) := by
  have named : path.names ≠ [] := List.ne_nil_of_length_pos (by omega)
  have length := path.length_parent
  have short := shortNames_parent named
  unfold Disk.write
  rw [if_neg named, h.locate]
  by_cases long : shortNames path.names ≤ depth
  · rw [if_pos ⟨by omega, long⟩, if_pos long]
  · have missing : disk.locate path.parent = .error .missing := by
      rw [(h.parent (by omega)).locate, if_neg ?_, if_pos (by omega)]
      split at short <;> omega
    rw [if_neg (fun both => long both.2), if_pos (by omega), if_neg long]
    dsimp only
    rw [missing]

/-- What is no directory is not removed. -/
theorem remove_of_missing (starts : disk.StartsAt path start)
    (missing : disk.isDirectoryAt (follow start path.names) = false) : disk.remove path = disk := by
  unfold Disk.remove
  split
  · rfl
  · next location found =>
    rw [locate_follow starts found, missing]
    simp

/-- A directory that is removed and made anew is there and empty. -/
theorem makeDirectories_afresh {made : Disk} (tree : disk.IsTree) (plain : ".." ∉ path.names)
    (starts : disk.StartsAt path start)
    (h : (disk.remove path).makeDirectories false path = (.ok (), made)) :
    made.locate path = .ok (start ++ path.names) ∧
      made.isDirectoryAt (start ++ path.names) = true ∧
      (∀ rest, rest ≠ [] → made.entry? (start ++ path.names ++ rest) = none) ∧
      Confined (start ++ path.names) (OnWay start path.names) disk made := by
  have place := follow_plain plain start
  have gone : Confined (start ++ path.names) (OnWay start path.names) disk (disk.remove path) :=
    remove_confined starts (place ▸ List.prefix_rfl)
  have remade : Confined (start ++ path.names) (OnWay start path.names) (disk.remove path)
      ((disk.remove path).makeDirectories false path).2 :=
    makeDirectories_confined (gone.startsAt starts)
      (fun front short => .inr ⟨front, short, rfl⟩) false
  rw [h] at remade
  have kept := gone.trans remade
  obtain ⟨location, leads, stands, empty⟩ := makeDirectories_new (tree.remove path) h
  have tree' := (tree.remove path).makeDirectories false path
  rw [h] at tree'
  obtain rfl : location = start ++ path.names := by
    rw [locate_follow (kept.startsAt starts) leads, place]
  refine ⟨leads, stands, fun rest some => ?_, kept⟩
  obtain ⟨first, others, rfl⟩ := List.exists_cons_of_ne_nil some
  rw [List.append_cons]
  exact tree'.beyond (empty first) others

end Paths
end TestBench.Disk
