import TestBench.Proofs.Tree

/-!
Where the changes of a disk stay. A path that leads somewhere leads to one place only, which its
names tell: two dots go up and every other name goes down.

- `follow` and `locate_follow`: that place,
- `locate_front` and `locate_along`: the directories on the way to it,
- `OnWay`: the places on the way to it, where missing directories may be made,
- `Confined`: all changes lie at or below one place, up to directories on the way,
- `makeDirectories_confined`, `write_confined`, `remove_confined`: the operations,
- `Holds` and `read_beside`: a part of a disk that still has all that it had.
-/
namespace TestBench.Disk
set_option autoImplicit false

variable {disk : Disk}

/-! ## Where names lead -/

/-- The place that names lead to from a location, if they lead anywhere. -/
def follow (start : Location) (names : List String) : Location :=
  names.foldl (fun location name =>
    if name = ".." then location.dropLast else location ++ [name]) start

theorem follow_append (start : Location) (before after : List String) :
    follow start (before ++ after) = follow (follow start before) after :=
  List.foldl_append

theorem follow_down {start : Location} {name : String} (down : name ≠ "..") :
    follow start [name] = start ++ [name] :=
  if_neg down

theorem follow_up (start : Location) : follow start [".."] = start.dropLast := rfl

/-- Names without two dots go down all the way. -/
theorem follow_plain {names : List String} (plain : ".." ∉ names) (start : Location) :
    follow start names = start ++ names := by
  induction names generalizing start with
  | nil => exact (List.append_nil start).symm
  | cons name rest ih =>
    rw [List.mem_cons, not_or] at plain
    have whole := follow_append start [name] rest
    rw [follow_down (Ne.symm plain.1), ih plain.2, List.append_assoc] at whole
    exact whole

theorem walk_follow {names : List String} {start target : Location}
    (goes : disk.walk start names = .ok target) : target = follow start names := by
  induction names generalizing start with
  | nil =>
    cases goes
    rfl
  | cons name rest ih =>
    obtain ⟨-, ⟨rfl, rises⟩ | ⟨down, -, -, sinks⟩⟩ := walk_cons_ok.mp goes
    · exact ih rises
    · have whole := follow_append start [name] rest
      rw [follow_down down, ← ih sinks] at whole
      exact whole.symm

theorem origin?_congr {path other : Path} (same : other.anchor = path.anchor) :
    disk.origin? other = disk.origin? path := by
  simp [origin?, Path.isAbsolute, same]

/-- The place where a path starts, as long as there is one. A relative path starts nowhere once the
working directory is gone. -/
def StartsAt (disk : Disk) (path : Path) (start : Location) : Prop :=
  ∀ place, disk.origin? path = some place → place = start

theorem startsAt_getD (disk : Disk) (path : Path) :
    disk.StartsAt path ((disk.origin? path).getD []) := by
  intro place begins
  rw [begins]
  rfl

theorem startsAt_of_origin? {path : Path} {start : Location}
    (begins : disk.origin? path = some start) : disk.StartsAt path start := by
  intro place other
  rw [begins] at other
  exact (Option.some.inj other).symm

/-- Paths with one anchor start at one place. -/
theorem StartsAt.congr {path other : Path} {start : Location} (starts : disk.StartsAt path start)
    (same : other.anchor = path.anchor) : disk.StartsAt other start := by
  intro place begins
  refine starts place ?_
  rw [← begins, origin?_congr same]

theorem locate_follow {path : Path} {start target : Location} (starts : disk.StartsAt path start)
    (found : disk.locate path = .ok target) : target = follow start path.names := by
  obtain ⟨place, -, begins, goes⟩ := locate_ok.mp found
  rw [← starts place begins]
  exact walk_follow goes

/-- The way to a path leads through the directories above it. -/
theorem locate_front {path : Path} {start target : Location} {front rest : List String}
    {name : String} (starts : disk.StartsAt path start) (names : path.names = front ++ name :: rest)
    (found : disk.locate path = .ok target) :
    disk.origin? path = some start ∧ disk.walk start front = .ok (follow start front) ∧
      disk.isDirectoryAt (follow start front) = true := by
  obtain ⟨place, -, begins, goes⟩ := locate_ok.mp found
  obtain rfl := starts place begins
  rw [names, walk_append] at goes
  split at goes
  next above leads =>
    obtain rfl := walk_follow leads
    exact ⟨begins, leads, (walk_cons_ok.mp goes).1⟩
  · cases goes

/-- A path leads on from a place on its way. -/
theorem locate_along {path : Path} {start above target : Location} {front rest : List String}
    (fits : badPath? path = none) (begins : disk.origin? path = some start)
    (names : path.names = front ++ rest) (leads : disk.walk start front = .ok above)
    (goes : disk.walk above rest = .ok target) : disk.locate path = .ok target := by
  refine locate_ok.mpr ⟨start, fits, begins, ?_⟩
  rw [names, walk_append, leads]
  exact goes

/-! ## Changes -/

/-- The places on the way along names. -/
def OnWay (start : Location) (names : List String) (location : Location) : Prop :=
  ∃ front, front <+: names ∧ location = follow start front

/-- On the way to a name below a path one meets the way to the path, and then only that name. -/
theorem onWay_child {path : Path} {name : String} (isName : IsName name) (down : name ≠ "..")
    (start : Location) {front : List String} (h : front <+: (path.child name).names) :
    follow start path.names <+: follow start front ∨
      OnWay start path.names (follow start front) := by
  rw [Path.names_child isName, List.prefix_concat_iff] at h
  rcases h with rfl | short
  · rw [follow_append, follow_down down]
    exact .inl (List.prefix_append _ _)
  · exact .inr ⟨front, short, rfl⟩

theorem follow_child {path : Path} {name : String} (isName : IsName name) (down : name ≠ "..")
    (start : Location) :
    follow start (path.child name).names = follow start path.names ++ [name] := by
  rw [Path.names_child isName, follow_append, follow_down down]

/-- From one disk to another nothing has changed outside of a place and what lies below it, except
that directories have been made at missing places on a way. The working directory can be lost only
with that place. -/
structure Confined (top : Location) (onWay : Location → Prop) (before after : Disk) : Prop where
  cwd : after.cwd = before.cwd ∨
    after.cwd = none ∧ ∃ place, before.cwd = some place ∧ top <+: place
  entry : ∀ location, ¬top <+: location →
    after.entry? location = before.entry? location ∨
      onWay location ∧ before.entry? location = none ∧ after.entry? location = some .directory

namespace Confined
variable {top : Location} {onWay : Location → Prop} {before middle after : Disk}

theorem refl (top : Location) (onWay : Location → Prop) (disk : Disk) :
    Confined top onWay disk disk :=
  ⟨.inl rfl, fun _ _ => .inl rfl⟩

theorem trans (first : Confined top onWay before middle) (second : Confined top onWay middle after) :
    Confined top onWay before after where
  cwd := by
    rcases second.cwd with same | ⟨gone, place, held, below⟩
    · rw [same]
      exact first.cwd
    · rcases first.cwd with same | ⟨lost, -⟩
      · exact .inr ⟨gone, place, same ▸ held, below⟩
      · rw [lost] at held
        cases held
  entry := by
    intro location outside
    rcases second.entry location outside with same | ⟨way, missing, made⟩
    · rw [same]
      exact first.entry location outside
    · rcases first.entry location outside with same | ⟨-, -, made'⟩
      · exact .inr ⟨way, same ▸ missing, made⟩
      · -- What has been made once is not missing any more.
        rw [made'] at missing
        cases missing

/-- A wider place, which the way may cross. -/
theorem mono (h : Confined top onWay before after) {wider : Location} {onWay' : Location → Prop}
    (above : wider <+: top) (way : ∀ location, onWay location → wider <+: location ∨ onWay' location) :
    Confined wider onWay' before after where
  cwd := by
    rcases h.cwd with same | ⟨gone, place, held, below⟩
    · exact .inl same
    · exact .inr ⟨gone, place, held, above.trans below⟩
  entry := by
    intro location outside
    rcases h.entry location fun inside => outside (above.trans inside) with same | ⟨on, missing, made⟩
    · exact .inl same
    · exact .inr ⟨(way location on).resolve_left outside, missing, made⟩

/-- What stands outside stays as it is. -/
theorem stands (h : Confined top onWay before after) {location : Location} {entry : Entry}
    (outside : ¬top <+: location) (found : before.entry? location = some entry) :
    after.entry? location = some entry := by
  rcases h.entry location outside with same | ⟨-, missing, -⟩
  · rw [same, found]
  · rw [found] at missing
    cases missing

theorem startsAt (h : Confined top onWay before after) {path : Path} {start : Location}
    (starts : before.StartsAt path start) : after.StartsAt path start := by
  intro place begins
  refine starts place ?_
  unfold origin? at begins ⊢
  split
  next rooted =>
    rw [if_pos rooted] at begins
    exact begins
  next relative =>
    rw [if_neg relative] at begins
    rcases h.cwd with same | ⟨gone, -⟩
    · rw [← same, begins]
    · rw [gone] at begins
      cases begins

end Confined

/-! ## Operations -/

section Operations
variable {top start : Location} {onWay : Location → Prop} {path : Path}

theorem put_confined {location : Location} {entry : Entry} (inside : top <+: location) :
    Confined top onWay disk (disk.put location entry) where
  cwd := .inl (put_cwd location entry)
  entry := by
    intro other outside
    refine .inl (entry?_put_other ?_ entry)
    rintro rfl
    exact outside inside

/-- A directory is made at the place that its path means. -/
theorem makeDirectory_confined {made : Disk} (starts : disk.StartsAt path start)
    (allowed : top <+: follow start path.names ∨ onWay (follow start path.names))
    (h : disk.makeDirectory path = .ok made) : Confined top onWay disk made := by
  obtain ⟨above, name, -, missing, rfl, leads⟩ := makeDirectory_ok h
  have still : (disk.put (above ++ [name]) .directory).StartsAt path start := by
    intro place begins
    refine starts place ?_
    rwa [origin?, put_cwd] at begins
  rw [← locate_follow still leads] at allowed
  rcases allowed with inside | way
  · exact put_confined inside
  · refine ⟨.inl (put_cwd _ _), fun other _ => ?_⟩
    by_cases same : other = above ++ [name]
    · subst same
      exact .inr ⟨way, missing, entry?_put (by simp) _⟩
    · exact .inl (entry?_put_other same _)

/-- Directories are made at the place that their path means and on the way to it. -/
theorem makeDirectories_confined (starts : disk.StartsAt path start)
    (allowed : ∀ front, front <+: path.names →
      top <+: follow start front ∨ onWay (follow start front)) (lenient : Bool) :
    Confined top onWay disk (disk.makeDirectories lenient path).2 := by
  refine makeUpTo_keeps (P := Confined top onWay disk)
    (Q := fun other => other.anchor = path.anchor ∧ other.names <+: path.names)
    ?_ ?_ _ lenient ⟨rfl, List.prefix_rfl⟩ (.refl top onWay disk)
  · intro before made other asked kept h
    have begins := kept.startsAt (starts.congr asked.1)
    exact kept.trans (makeDirectory_confined begins (allowed _ asked.2) h)
  · intro other asked
    exact ⟨asked.1, (List.take_prefix _ _).trans asked.2⟩

theorem write_confined {content : List UInt8} {written : Disk} (starts : disk.StartsAt path start)
    (inside : top <+: follow start path.names) (h : disk.write path content = .ok written) :
    Confined top onWay disk written := by
  obtain ⟨location, -, -, rfl, leads⟩ := write_ok h
  have still : (disk.put location (.file content)).StartsAt path start := by
    intro place begins
    refine starts place ?_
    rwa [origin?, put_cwd] at begins
  rw [← locate_follow still leads] at inside
  exact put_confined inside

theorem keep_confined {condition : Location → Bool}
    (outside : ∀ location, ¬top <+: location → condition location = true) :
    Confined top onWay disk (disk.keep condition) where
  cwd := by
    cases held : disk.cwd with
    | none => exact .inl (by simp [keep, held])
    | some place =>
      by_cases inside : top <+: place
      · cases kept : condition place with
        | true => exact .inl (by simp [keep, held, kept])
        | false => exact .inr ⟨by simp [keep, held, kept], place, rfl, inside⟩
      · exact .inl (by simp [keep, held, outside place inside])
  entry := fun location apart => .inl (entry?_keep (outside location apart))

theorem isPrefix_of_isBelow {above location : Location} (h : isBelow above location = true) :
    above <+: location := by
  rw [isBelow, Bool.and_eq_true] at h
  exact List.isPrefixOf_iff_prefix.mp h.1

theorem remove_confined (starts : disk.StartsAt path start)
    (inside : top <+: follow start path.names) : Confined top onWay disk (disk.remove path) := by
  unfold Disk.remove
  split
  · exact .refl top onWay disk
  next location found =>
    rw [← locate_follow starts found] at inside
    split
    · have emptied : Confined top onWay disk (disk.keep fun other => !isBelow location other) := by
        refine keep_confined fun other outside => ?_
        rw [Bool.not_eq_true', Bool.eq_false_iff]
        exact fun below => outside (inside.trans (isPrefix_of_isBelow below))
      dsimp only
      split
      · refine emptied.trans (keep_confined fun other outside => ?_)
        rw [decide_eq_true_eq]
        rintro rfl
        exact outside inside
      · exact emptied
    · exact .refl top onWay disk

end Operations

/-! ## What is held -/

/-- All that stood at a place or below it stands there still. -/
def Holds (above : Location) (before after : Disk) : Prop :=
  ∀ location, above <+: location → ∀ entry, before.entry? location = some entry →
    after.entry? location = some entry

theorem Holds.refl (above : Location) (disk : Disk) : Holds above disk disk :=
  fun _ _ _ found => found

theorem Holds.trans {above : Location} {before middle after : Disk}
    (first : Holds above before middle) (second : Holds above middle after) :
    Holds above before after :=
  fun location below entry found => second location below entry (first location below entry found)

/-- Places of which neither lies below the other have nothing in common. -/
theorem Confined.holds {top above : Location} {onWay : Location → Prop} {before after : Disk}
    (h : Confined top onWay before after) (apart : ¬top <+: above) (apart' : ¬above <+: top) :
    Holds above before after := by
  intro location below entry found
  refine h.stands (fun inside => ?_) found
  rcases List.prefix_or_prefix_of_prefix inside below with short | long
  · exact apart short
  · exact apart' long

/-- A file in one directory can be read as before if all changes lie in another directory beside it,
and that one is there afterwards. -/
theorem Confined.read_beside {before after : Disk} {onWay : Location → Prop} {parent : Path}
    {inner name side : String} {start place : Location} {content : List UInt8}
    (isInner : IsName inner) (isName : IsName name) (isSide : IsName side) (down : inner ≠ "..")
    (down' : name ≠ "..") (down'' : side ≠ "..") (apart : side ≠ inner)
    (starts : before.StartsAt parent start)
    (h : Confined (follow start (parent.child side).names) onWay before after)
    (there : after.locate (parent.child side) = .ok place)
    (reads : before.read ((parent.child inner).child name) = .ok content) :
    after.read ((parent.child inner).child name) = .ok content := by
  have anchor : ((parent.child inner).child name).anchor = parent.anchor :=
    (Path.anchor_child isName).trans (Path.anchor_child isInner)
  have names : ((parent.child inner).child name).names = parent.names ++ [inner, name] := by
    rw [Path.names_child isName, Path.names_child isInner, List.append_assoc]
    rfl
  rw [follow_child isSide down''] at h
  obtain ⟨named, target, found, held⟩ := read_ok.mp reads
  obtain ⟨-, fits, -⟩ := locate_ok.mp found
  -- Before the changes: the way goes down from the parent to the directory and to the file.
  obtain ⟨first, -, begins, goes⟩ := locate_ok.mp found
  obtain rfl := starts.congr anchor first begins
  rw [names, walk_append] at goes
  split at goes
  · next above leads =>
    obtain rfl := walk_follow leads
    obtain ⟨-, ⟨up, -⟩ | ⟨-, short, -, goes⟩⟩ := walk_cons_ok.mp goes
    · exact absurd up down
    obtain ⟨standing, ⟨up, -⟩ | ⟨-, short', -, goes⟩⟩ := walk_cons_ok.mp goes
    · exact absurd up down'
    cases goes
    -- Afterwards: nothing of this has changed below the parent, and the parent is still there.
    have outside {rest : List String} : ¬follow first parent.names ++ [side] <+:
        follow first parent.names ++ inner :: rest := by
      rw [List.prefix_append_right_inj, List.cons_prefix_cons]
      exact fun same => apart same.1
    have standing : after.entry? (follow first parent.names ++ [inner]) = some .directory :=
      h.stands outside (by simpa [isDirectoryAt] using standing)
    rw [List.append_assoc] at held
    have held : after.entry? (follow first parent.names ++ [inner, name]) = some (.file content) :=
      h.stands outside held
    obtain ⟨begins, leads, above⟩ := locate_front
      ((h.startsAt starts).congr (Path.anchor_child isSide)) (Path.names_child isSide) there
    rw [origin?_congr (Path.anchor_child isSide), ← origin?_congr anchor] at begins
    refine read_ok.mpr ⟨named, _, locate_along fits begins names leads ?_, held⟩
    refine walk_cons_ok.mpr ⟨above, .inr ⟨down, short, by simp [standing], ?_⟩⟩
    refine walk_cons_ok.mpr ⟨by simp [isDirectoryAt, standing], .inr ⟨down', short', ?_, ?_⟩⟩
    · simp [held]
    · simp [walk]
  · cases goes

end TestBench.Disk
