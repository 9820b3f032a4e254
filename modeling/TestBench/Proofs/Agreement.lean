import TestBench.Proofs.Confined

/-!
Disks that agree near a place. Operations on paths that go down to that place or on from it cannot
tell such disks apart: they end in the same way, and leave disks that agree again.

- `Near` and `Leads`: the places that matter, and the paths in question,
- `Agree`: disks that look the same at these places,
- `Agree.locate`, `Agree.makeDirectories`, `Agree.write` and `Agree.remove`: the operations,
- `Confined.agree`: changes in another place do not matter.
-/
namespace TestBench.Disk
set_option autoImplicit false

/-! ## Places and paths -/

/-- The places on the way to a place, and those below it. -/
def Near (top location : Location) : Prop :=
  location <+: top ∨ top <+: location

theorem Near.up {top location front : Location} (h : Near top location) (short : front <+: location) :
    Near top front := by
  rcases h with above | below
  · exact .inl (short.trans above)
  · exact List.prefix_or_prefix_of_prefix short below

/-- A path that starts where another one does and goes down to a place near a given one. -/
structure Leads (base : Path) (start top : Location) (path : Path) : Prop where
  anchor : path.anchor = base.anchor
  plain : ".." ∉ path.names
  near : Near top (start ++ path.names)

theorem Leads.parent {base path : Path} {start top : Location} (h : Leads base start top path) :
    Leads base start top path.parent where
  anchor := h.anchor
  plain := fun member => h.plain (List.mem_of_mem_take member)
  near := h.near.up ((List.prefix_append_right_inj _).mpr (List.take_prefix _ _))

theorem Leads.child {base path : Path} {start top : Location} {name : String}
    (h : Leads base start top path) (below : top <+: start ++ path.names) (isName : IsName name)
    (down : name ≠ "..") : Leads base start top (path.child name) where
  anchor := (Path.anchor_child isName).trans h.anchor
  plain := by
    rw [Path.names_child isName, List.mem_append, List.mem_singleton, not_or]
    exact ⟨h.plain, Ne.symm down⟩
  near := by
    rw [Path.names_child isName, ← List.append_assoc]
    exact .inr (below.trans (List.prefix_append _ _))

/-! ## Disks -/

/-- The same kind of thing stands at a place: nothing, a directory or a file. -/
def SameAt (first second : Disk) (location : Location) : Prop :=
  (first.entry? location).isSome = (second.entry? location).isSome ∧
    first.isDirectoryAt location = second.isDirectoryAt location

/-- A path starts at one place on both disks, and they look the same near a given place. -/
structure Agree (base : Path) (start top : Location) (first second : Disk) : Prop where
  begins : first.origin? base = some start
  begins' : second.origin? base = some start
  same : ∀ location, Near top location → SameAt first second location

theorem SameAt.trans {first second third : Disk} {location : Location}
    (h : SameAt first second location) (h' : SameAt second third location) :
    SameAt first third location :=
  ⟨h.1.trans h'.1, h.2.trans h'.2⟩

theorem sameAt_of_entry? {first second : Disk} {location : Location}
    (h : first.entry? location = second.entry? location) : SameAt first second location := by
  simp [SameAt, isDirectoryAt, h]

theorem origin?_keep {disk : Disk} {base : Path} {start : Location} {condition : Location → Bool}
    (begins : disk.origin? base = some start) (kept : condition start = true) :
    (disk.keep condition).origin? base = some start := by
  unfold origin? at begins ⊢
  split
  next rooted => rwa [if_pos rooted] at begins
  next relative =>
    rw [if_neg relative] at begins
    simp [Disk.keep, begins, kept]

theorem entry?_keep_lost {disk : Disk} {condition : Location → Bool} {location : Location}
    (inside : location ≠ []) (lost : condition location = false) :
    Disk.entry? (disk.keep condition) location = none := by
  rw [Disk.entry?, if_neg inside, Option.map_eq_none_iff, List.find?_eq_none]
  intro item member
  obtain ⟨-, kept⟩ := List.mem_filter.mp member
  intro here
  rw [decide_eq_true_eq] at here
  rw [here, lost] at kept
  cases kept

section Agree
variable {base path : Path} {start top : Location} {first second : Disk}

theorem Leads.place (leads : Leads base start top path) {disk : Disk} {place : Location}
    (begins : disk.origin? base = some start) (found : disk.locate path = .ok place) :
    place = start ++ path.names := by
  have starts := (startsAt_of_origin? begins).congr leads.anchor
  rw [locate_follow starts found, follow_plain leads.plain]

theorem walk_agree {names : List String} (plain : ".." ∉ names)
    (same : ∀ front, front <+: names → SameAt first second (start ++ front)) :
    first.walk start names = second.walk start names := by
  induction names generalizing start with
  | nil => rfl
  | cons name rest ih =>
    rw [List.mem_cons, not_or] at plain
    have here := (same [] List.nil_prefix).2
    have next := (same [name] ⟨rest, rfl⟩).1
    rw [List.append_nil] at here
    have further : first.walk (start ++ [name]) rest = second.walk (start ++ [name]) rest := by
      refine ih plain.2 fun front short => ?_
      rw [List.append_assoc]
      exact same (name :: front) (by simpa using short)
    rw [walk, walk, here, ← Option.not_isSome, ← Option.not_isSome, next, further,
      if_neg (Ne.symm plain.1)]
    rw [if_neg (Ne.symm plain.1)]

namespace Agree

theorem refl {disk : Disk} (begins : disk.origin? base = some start) :
    Agree base start top disk disk :=
  ⟨begins, begins, fun _ _ => sameAt_of_entry? rfl⟩

theorem trans {third : Disk} (h : Agree base start top first second)
    (h' : Agree base start top second third) : Agree base start top first third :=
  ⟨h.begins, h'.begins', fun location near => (h.same location near).trans (h'.same location near)⟩

theorem locate (agree : Agree base start top first second) (leads : Leads base start top path) :
    first.locate path = second.locate path := by
  have whole : first.walk start path.names = second.walk start path.names :=
    walk_agree leads.plain fun front short =>
      agree.same _ (leads.near.up ((List.prefix_append_right_inj _).mpr short))
  simp only [Disk.locate, origin?_congr leads.anchor, agree.begins, agree.begins']
  cases badPath? path with
  | some obstacle => rfl
  | none => exact whole

theorem isDirectory (agree : Agree base start top first second)
    (leads : Leads base start top path) : first.isDirectory path = second.isDirectory path := by
  unfold Disk.isDirectory
  rw [agree.locate leads]
  cases found : second.locate path with
  | error obstacle => cases obstacle <;> rfl
  | ok place =>
    rw [leads.place agree.begins' found]
    simp only [(agree.same _ leads.near).2]

/-- The same kind of thing is put at one place. -/
theorem put (agree : Agree base start top first second) (location : Location) {entry entry' : Entry}
    (kind : entry = .directory ↔ entry' = .directory) :
    Agree base start top (first.put location entry) (second.put location entry') where
  begins := by
    rw [origin?, put_cwd]
    exact agree.begins
  begins' := by
    rw [origin?, put_cwd]
    exact agree.begins'
  same := by
    intro other near
    by_cases here : other = location
    · subst here
      by_cases inside : other = []
      · simp [SameAt, Disk.entry?, isDirectoryAt, inside]
      · simp [SameAt, isDirectoryAt, entry?_put inside, kind]
    · have kept := agree.same other near
      rwa [SameAt, isDirectoryAt_put_other here, isDirectoryAt_put_other here,
        entry?_put_other here, entry?_put_other here]

end Agree

/-! ## Operations -/

/-- Two steps that both fail in the same way, or both come to disks that agree. -/
def Together (base : Path) (start top : Location) (first second : Except Obstacle Disk) : Prop :=
  (∃ obstacle, first = .error obstacle ∧ second = .error obstacle) ∨
    ∃ made made', first = .ok made ∧ second = .ok made' ∧ Agree base start top made made'

theorem Together.failed (base : Path) (start top : Location) (obstacle : Obstacle) :
    Together base start top (.error obstacle) (.error obstacle) :=
  .inl ⟨obstacle, rfl, rfl⟩

theorem Together.passed (agree : Agree base start top first second) :
    Together base start top (.ok first) (.ok second) :=
  .inr ⟨first, second, rfl, rfl, agree⟩

namespace Agree

theorem makeDirectory (agree : Agree base start top first second)
    (leads : Leads base start top path) :
    Together base start top (first.makeDirectory path) (second.makeDirectory path) := by
  unfold Disk.makeDirectory
  cases badPath? path with
  | some obstacle => exact .failed _ _ _ _
  | none =>
    cases last : path.names.getLast? with
    | none => exact .failed _ _ _ _
    | some name =>
      dsimp only
      rw [agree.locate leads.parent]
      cases found : second.locate path.parent with
      | error obstacle => exact .failed _ _ _ _
      | ok above =>
        have named : path.names ≠ [] := by
          intro rootless
          simp [rootless] at last
        have whole : start ++ path.names = above ++ [name] := by
          rw [leads.parent.place agree.begins' found, Path.names_eq_parent named, Path.name, last,
            List.append_assoc]
          rfl
        have near : Near top (above ++ [name]) := whole ▸ leads.near
        dsimp only
        rw [(agree.same above (near.up (List.prefix_append _ _))).2, (agree.same _ near).1]
        repeat' split
        all_goals first
          | exact .failed _ _ _ _
          | exact .passed (agree.put _ Iff.rfl)

theorem tolerate (agree : Agree base start top first second) (leads : Leads base start top path)
    (lenient : Bool) (obstacle : Obstacle) :
    first.tolerate lenient path obstacle = second.tolerate lenient path obstacle := by
  unfold Disk.tolerate
  rw [agree.isDirectory leads]

theorem makeLast (agree : Agree base start top first second) (leads : Leads base start top path)
    (lenient : Bool) :
    (first.makeLast lenient path).1 = (second.makeLast lenient path).1 ∧
      Agree base start top (first.makeLast lenient path).2 (second.makeLast lenient path).2 := by
  unfold Disk.makeLast
  rcases agree.makeDirectory leads with ⟨obstacle, fails, fails'⟩ | ⟨made, made', makes, makes', also⟩
  · rw [fails, fails']
    cases obstacle with
    | missing => exact ⟨rfl, agree⟩
    | _ => exact ⟨agree.tolerate leads lenient _, agree⟩
  · rw [makes, makes']
    exact ⟨rfl, also⟩

theorem makeUpTo (agree : Agree base start top first second) (leads : Leads base start top path)
    (steps : Nat) (lenient : Bool) :
    (Disk.makeUpTo steps lenient first path).1 = (Disk.makeUpTo steps lenient second path).1 ∧
      Agree base start top (Disk.makeUpTo steps lenient first path).2
        (Disk.makeUpTo steps lenient second path).2 := by
  induction steps generalizing lenient path with
  | zero =>
    unfold Disk.makeUpTo
    rcases agree.makeDirectory leads with
      ⟨obstacle, fails, fails'⟩ | ⟨made, made', makes, makes', also⟩
    · rw [fails, fails']
      cases obstacle with
      | missing => exact ⟨rfl, agree⟩
      | _ => exact ⟨agree.tolerate leads lenient _, agree⟩
    · rw [makes, makes']
      exact ⟨rfl, also⟩
  | succ steps ih =>
    unfold Disk.makeUpTo
    rcases agree.makeDirectory leads with
      ⟨obstacle, fails, fails'⟩ | ⟨made, made', makes, makes', also⟩
    · rw [fails, fails']
      cases obstacle with
      | missing =>
        -- The parent is on the way to the place, so the disks agree there too.
        obtain ⟨result, also⟩ := ih leads.parent true
        rcases up : Disk.makeUpTo steps true first path.parent with ⟨outcome, left⟩
        rcases up' : Disk.makeUpTo steps true second path.parent with ⟨outcome', left'⟩
        rw [up, up'] at result also
        obtain rfl := result
        dsimp only
        rw [up, up']
        cases outcome with
        | ok done => exact also.makeLast leads lenient
        | error fault => exact ⟨rfl, also⟩
      | _ => exact ⟨agree.tolerate leads lenient _, agree⟩
    · rw [makes, makes']
      exact ⟨rfl, also⟩

theorem makeDirectories (agree : Agree base start top first second)
    (leads : Leads base start top path) (lenient : Bool) :
    (first.makeDirectories lenient path).1 = (second.makeDirectories lenient path).1 ∧
      Agree base start top (first.makeDirectories lenient path).2
        (second.makeDirectories lenient path).2 :=
  agree.makeUpTo leads _ lenient

/-- Files that are written, whatever they hold. -/
theorem write (agree : Agree base start top first second) (leads : Leads base start top path)
    (content content' : List UInt8) :
    Together base start top (first.write path content) (second.write path content') := by
  have files : Entry.file content = .directory ↔ Entry.file content' = .directory := by simp
  unfold Disk.write
  split
  · exact .failed _ _ _ _
  next named =>
    rw [agree.locate leads, agree.locate leads.parent]
    cases found : second.locate path with
    | ok place =>
      have near : Near top place := leads.place agree.begins' found ▸ leads.near
      dsimp only
      rw [(agree.same place near).2]
      split
      · exact .failed _ _ _ _
      · exact .passed (agree.put place files)
    | error obstacle =>
      cases obstacle with
      | missing =>
        cases second.locate path.parent with
        | ok above => exact .passed (agree.put _ files)
        | error obstacle => exact .failed _ _ _ _
      | _ => exact .failed _ _ _ _

theorem keep (agree : Agree base start top first second) {condition : Location → Bool}
    (root : condition [] = true) (origin : condition start = true) :
    Agree base start top (first.keep condition) (second.keep condition) where
  begins := origin?_keep agree.begins origin
  begins' := origin?_keep agree.begins' origin
  same := by
    intro location near
    cases kept : condition location with
    | true =>
      have same := agree.same location near
      rwa [SameAt, isDirectoryAt, isDirectoryAt, entry?_keep kept, entry?_keep kept]
    | false =>
      have inside : location ≠ [] := by
        rintro rfl
        rw [root] at kept
        cases kept
      exact sameAt_of_entry? (by rw [entry?_keep_lost inside kept, entry?_keep_lost inside kept])

theorem remove (agree : Agree base start top first second) (leads : Leads base start top path) :
    Agree base start top (first.remove path) (second.remove path) := by
  unfold Disk.remove
  rw [agree.locate leads]
  cases found : second.locate path with
  | error obstacle => exact agree
  | ok place =>
    obtain rfl := leads.place agree.begins' found
    dsimp only
    rw [(agree.same _ leads.near).2]
    split
    · have emptied : Agree base start top
          (first.keep fun other => !isBelow (start ++ path.names) other)
          (second.keep fun other => !isBelow (start ++ path.names) other) := by
        refine agree.keep ?_ ?_ <;> simp [isBelow]
      rw [emptied.locate leads]
      split
      next deletable _ =>
        have named : path.names ≠ [] := by
          intro rootless
          simp [isDeletable, rootless] at deletable
        refine emptied.keep ?_ ?_ <;> simp [named]
      · exact emptied
    · exact agree

end Agree
end Agree

/-! ## Changes elsewhere -/

/-- The place where a path starts is lost only with the place in which the changes lie. -/
theorem Confined.begins {side start : Location} {onWay : Location → Prop} {before after : Disk}
    {base : Path} (h : Confined side onWay before after) (begins : before.origin? base = some start)
    (apart : ¬side <+: start) : after.origin? base = some start := by
  unfold origin? at begins ⊢
  split
  next rooted => rwa [if_pos rooted] at begins
  next relative =>
    rw [if_neg relative] at begins
    rcases h.cwd with same | ⟨-, place, held, below⟩
    · rw [same, begins]
    · rw [begins] at held
      cases held
      exact absurd below apart

/-- Changes in one place cannot be seen near another one if all directories on the common way are
there. -/
theorem Confined.agree {side start top : Location} {onWay : Location → Prop} {before after : Disk}
    {base : Path} (h : Confined side onWay before after) (begins : before.origin? base = some start)
    (near : Near top start) (apart : ∀ location, Near top location → ¬side <+: location)
    (stands : ∀ location, Near top location → onWay location →
      (before.entry? location).isSome = true) : Agree base start top before after where
  begins := begins
  begins' := h.begins begins (apart start near)
  same := by
    intro location close
    rcases h.entry location (apart location close) with same | ⟨way, missing, -⟩
    · exact sameAt_of_entry? same.symm
    · have there := stands location close way
      rw [missing] at there
      cases there

end TestBench.Disk
