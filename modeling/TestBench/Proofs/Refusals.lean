import TestBench.Proofs.Command
import TestBench.Proofs.Properties.Roundtrip

/-!
Refusals: the faults that operations on files come to. Each is that of an obstacle on a path or on a
path above it.

- `HoldsNull`: a text, or a path, with a null character, which no operation accepts,
- `Path.Refuses`: the faults of an operation on a path,
- `makeDirectories_refuses` and `write_refuses`: there are no others.
-/
namespace TestBench
set_option autoImplicit false

/-! ## Null characters -/

/-- A text that the system cannot be given. -/
def HoldsNull (text : String) : Prop :=
  '\x00' ∈ text.toList

def Path.HoldsNull (path : Path) : Prop :=
  ∃ name ∈ path.names, TestBench.HoldsNull name

namespace Path

theorem mem_namesText {names : List String} {name : String} {c : Char} (member : name ∈ names)
    (inside : c ∈ name.toList) : c ∈ namesText names := by
  induction names with
  | nil => cases member
  | cons first rest ih =>
    have first_or_rest : c ∈ first.toList ∨ rest ≠ [] ∧ c ∈ namesText rest := by
      rcases List.mem_cons.mp member with rfl | later
      · exact .inl inside
      · exact .inr ⟨List.ne_nil_of_mem later, ih later⟩
    cases rest with
    | nil => simpa [namesText] using first_or_rest
    | cons second others =>
      have text : namesText (first :: second :: others) =
          first.toList ++ '/' :: namesText (second :: others) := by
        simp [namesText, List.intercalate]
      rw [text, List.mem_append, List.mem_cons]
      exact first_or_rest.imp_right fun later => .inr later.2

theorem HoldsNull.toString {path : Path} (h : path.HoldsNull) :
    TestBench.HoldsNull path.toString := by
  obtain ⟨name, member, holds⟩ := h
  rw [TestBench.HoldsNull, toList_toString (parts_ne_nil (List.ne_nil_of_mem member))]
  exact List.mem_append_right _ (mem_namesText member holds)

theorem HoldsNull.of_parent {path : Path} (h : path.parent.HoldsNull) : path.HoldsNull := by
  obtain ⟨name, member, holds⟩ := h
  exact ⟨name, List.mem_of_mem_take member, holds⟩

theorem HoldsNull.child {base : Path} {name : String} (isName : IsName name)
    (h : base.HoldsNull) : (base.child name).HoldsNull := by
  obtain ⟨other, member, holds⟩ := h
  exact ⟨other, by rw [names_child isName]; exact List.mem_append_left _ member, holds⟩

theorem HoldsNull.of_child {base : Path} {name : String} (isName : IsName name)
    (clean : ¬TestBench.HoldsNull name) (h : (base.child name).HoldsNull) : base.HoldsNull := by
  obtain ⟨other, member, holds⟩ := h
  rw [names_child isName, List.mem_append, List.mem_singleton] at member
  rcases member with inside | rfl
  · exact ⟨other, inside, holds⟩
  · exact absurd holds clean

end Path

/-! ## Faults of the disk -/

/-- A fault of an operation on a path: that of an obstacle, on this path or on one above it. -/
def Path.Refuses (path : Path) (fault : Fault) : Prop :=
  ∃ obstacle other, fault = Obstacle.fault other obstacle ∧
    (obstacle = .nullCharacter → path.HoldsNull)

theorem Obstacle.refuses {path : Path} {obstacle : Obstacle}
    (h : obstacle = .nullCharacter → path.HoldsNull) : path.Refuses (obstacle.fault path) :=
  ⟨obstacle, path, rfl, h⟩

theorem Obstacle.fault_ordinary (path : Path) (obstacle : Obstacle) :
    (obstacle.fault path).IsOrdinary := by
  cases obstacle with
  | nullCharacter => exact Fault.isOrdinary_other _ _
  | _ => exact Fault.isOrdinary_system (by decide) _

namespace Path.Refuses
variable {path other : Path} {fault : Fault}

theorem imp (h : path.Refuses fault) (null : path.HoldsNull → other.HoldsNull) :
    other.Refuses fault := by
  obtain ⟨obstacle, place, same, holds⟩ := h
  exact ⟨obstacle, place, same, fun bad => null (holds bad)⟩

theorem ordinary (h : path.Refuses fault) : fault.IsOrdinary := by
  obtain ⟨obstacle, place, rfl, -⟩ := h
  exact obstacle.fault_ordinary place

theorem system_or_null (h : path.Refuses fault) :
    (∃ refusal detail, fault = .system refusal detail) ∨
      fault = .nullCharacter ∧ path.HoldsNull := by
  obtain ⟨obstacle, place, rfl, holds⟩ := h
  cases obstacle with
  | nullCharacter => exact .inr ⟨rfl, holds rfl⟩
  | _ => exact .inl ⟨_, _, rfl⟩

end Path.Refuses

namespace Disk
variable {disk : Disk} {path : Path}

theorem badPath?_null (h : badPath? path = some .nullCharacter) : path.HoldsNull := by
  unfold badPath? at h
  split at h
  · next found =>
    obtain ⟨name, member, holds⟩ := List.any_eq_true.mp found
    exact ⟨name, member, List.contains_iff_mem.mp holds⟩
  · split at h <;> cases h

theorem walk_ne_null (location : Location) (names : List String) :
    disk.walk location names ≠ .error .nullCharacter := by
  induction names generalizing location with
  | nil => simp [walk]
  | cons name rest ih =>
    unfold walk
    split
    · simp
    · split
      · exact ih _
      · split
        · simp
        · split
          · simp
          · exact ih _

theorem locate_null (h : disk.locate path = .error .nullCharacter) : path.HoldsNull := by
  unfold locate at h
  split at h
  · next bad =>
    cases h
    exact badPath?_null bad
  · cases h
  · exact absurd h (disk.walk_ne_null _ _)

theorem makeDirectory_null (h : disk.makeDirectory path = .error .nullCharacter) :
    path.HoldsNull := by
  unfold makeDirectory at h
  split at h
  · next bad =>
    cases h
    exact badPath?_null bad
  · cases h
  · split at h
    · next above =>
      cases h
      exact (locate_null above).of_parent
    · repeat' split at h
      all_goals cases h

theorem write_null {content : List UInt8} (h : disk.write path content = .error .nullCharacter) :
    path.HoldsNull := by
  unfold write at h
  split at h
  · cases h
  · split at h
    · split at h <;> cases h
    · split at h
      · cases h
      · next above =>
        cases h
        exact (locate_null above).of_parent
    · next found =>
      cases h
      exact locate_null found

theorem tolerate_refuses {lenient : Bool} {obstacle : Obstacle} {fault : Fault}
    (clean : obstacle = .nullCharacter → path.HoldsNull)
    (h : disk.tolerate lenient path obstacle = .error fault) : path.Refuses fault := by
  unfold tolerate at h
  split at h <;> cases h
  exact Obstacle.refuses clean

theorem makeLast_refuses {lenient : Bool} {left : Disk} {fault : Fault}
    (h : disk.makeLast lenient path = (.error fault, left)) : path.Refuses fault := by
  unfold makeLast at h
  split at h
  · cases h
  · cases h
    exact Obstacle.refuses (by simp)
  · next made =>
    exact tolerate_refuses (fun null => makeDirectory_null (null ▸ made)) (Prod.mk.inj h).1

theorem makeUpTo_refuses {steps : Nat} {lenient : Bool} {left : Disk} {fault : Fault}
    (h : makeUpTo steps lenient disk path = (.error fault, left)) : path.Refuses fault := by
  induction steps generalizing lenient path left with
  | zero =>
    unfold makeUpTo at h
    split at h
    · cases h
    · cases h
      exact Obstacle.refuses (by simp)
    · next made =>
      exact tolerate_refuses (fun null => makeDirectory_null (null ▸ made)) (Prod.mk.inj h).1
  | succ steps ih =>
    unfold makeUpTo at h
    split at h
    · cases h
    · dsimp only at h
      split at h
      · exact makeLast_refuses h
      · exact (ih h).imp .of_parent
    · next made =>
      exact tolerate_refuses (fun null => makeDirectory_null (null ▸ made)) (Prod.mk.inj h).1

end Disk

theorem Host.makeDirectories_refuses {host after : Host} {lenient : Bool} {path : Path}
    {fault : Fault} (h : host.makeDirectories lenient path = (.error fault, after)) :
    path.Refuses fault := by
  simp only [makeDirectories, Disk.makeDirectories] at h
  exact Disk.makeUpTo_refuses (Prod.ext (Prod.mk.inj h).1 rfl)

/-- A comment that can be written leaves the disk as the only source of faults. -/
theorem Properties.write_refuses {directory : Path} {entries : List (String × String)}
    {comment : String} {host after : Host} {fault : Fault} (writable : IsWritable comment.toList)
    (h : write directory entries comment host = (.error fault, after)) :
    directory.Refuses fault := by
  have file : (directory.child fileName).Refuses fault := by
    obtain ⟨octets, encoded, -⟩ := load_text writable host.epoch entries
    simp only [write, encoded] at h
    split at h
    · next began =>
      cases h
      exact Obstacle.refuses fun null => Disk.write_null (null ▸ began)
    · split at h
      · next ended =>
        cases h
        exact Obstacle.refuses fun null => Disk.write_null (null ▸ ended)
      · cases h
  exact file.imp (.of_child (by decide) (by unfold HoldsNull; decide))

end TestBench
