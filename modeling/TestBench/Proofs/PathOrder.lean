import TestBench.Proofs.Path

/-!
The order of paths. Components are compared one after the other, so two paths stand in both orders
only if they have the same components, and then they are the same path.

- `partsLe_total`, `partsLe_trans` and `partsLe_antisymm`: lists of components,
- `parts_injective`: a path is its components,
- `sort_ascends`: different paths that have been sorted stand in the one order there is.
-/
namespace TestBench.Path
set_option autoImplicit false

/-! ## Lists of components -/

theorem partsLe_cons {a b : String} {as bs : List String} :
    partsLe (a :: as) (b :: bs) = true ↔ a = b ∧ partsLe as bs = true ∨ a ≠ b ∧ a ≤ b := by
  by_cases same : a = b <;> simp [partsLe, same]

theorem partsLe_total (as bs : List String) : partsLe as bs = true ∨ partsLe bs as = true := by
  induction as generalizing bs with
  | nil => exact .inl (by cases bs <;> rfl)
  | cons a as ih =>
    cases bs with
    | nil => exact .inr rfl
    | cons b bs =>
      rw [partsLe_cons, partsLe_cons]
      by_cases same : a = b
      · exact (ih bs).imp (fun le => .inl ⟨same, le⟩) fun le => .inl ⟨same.symm, le⟩
      · exact (String.le_total a b).imp (fun le => .inr ⟨same, le⟩) fun le =>
          .inr ⟨fun other => same other.symm, le⟩

theorem partsLe_trans {as bs cs : List String} (first : partsLe as bs = true)
    (second : partsLe bs cs = true) : partsLe as cs = true := by
  induction as generalizing bs cs with
  | nil => cases cs <;> rfl
  | cons a as ih =>
    cases bs with
    | nil => cases first
    | cons b bs =>
      cases cs with
      | nil => cases second
      | cons c cs =>
        rw [partsLe_cons] at first second ⊢
        rcases first with ⟨rfl, first⟩ | ⟨other, le⟩ <;>
          rcases second with ⟨rfl, second⟩ | ⟨other', le'⟩
        · exact .inl ⟨rfl, ih first second⟩
        · exact .inr ⟨other', le'⟩
        · exact .inr ⟨other, le⟩
        · refine .inr ⟨?_, String.le_trans le le'⟩
          rintro rfl
          exact other (String.le_antisymm le le')

theorem partsLe_antisymm {as bs : List String} (le : partsLe as bs = true)
    (ge : partsLe bs as = true) : as = bs := by
  induction as generalizing bs with
  | nil =>
    cases bs with
    | nil => rfl
    | cons b bs => cases ge
  | cons a as ih =>
    cases bs with
    | nil => cases le
    | cons b bs =>
      rw [partsLe_cons] at le ge
      rcases le with ⟨rfl, le⟩ | ⟨other, le⟩ <;> rcases ge with ⟨same, ge⟩ | ⟨other', ge⟩
      · rw [ih le ge]
      · exact absurd rfl other'
      · exact absurd same.symm other
      · exact absurd (String.le_antisymm le ge) other

/-! ## Paths -/

/-- A path is its components: an anchor that is written is no name. -/
theorem parts_injective {a b : Path} (h : a.parts = b.parts) : a = b := by
  have apart {path other : Path} (written : other.anchor ≠ .relative)
      (same : path.names = other.anchor.text :: other.names) : False :=
    (path.isName _ (same ▸ List.mem_cons_self)).2.2 (Anchor.separator_mem written)
  unfold parts at h
  split at h <;> split at h
  · next relative relative' => exact ext_names (relative.trans relative'.symm) h
  · next written => exact (apart written h).elim
  · next written _ => exact (apart written h.symm).elim
  · obtain ⟨text, names⟩ := List.cons.inj h
    exact ext_names (Anchor.text_injective text) names

theorem le_total (a b : Path) : (a.le b || b.le a) = true := by
  rw [Bool.or_eq_true]
  exact partsLe_total a.parts b.parts

theorem le_trans (a b c : Path) (first : a.le b = true) (second : b.le c = true) :
    a.le c = true :=
  partsLe_trans first second

theorem le_antisymm {a b : Path} (le : a.le b = true) (ge : b.le a = true) : a = b :=
  parts_injective (partsLe_antisymm le ge)

/-! ## Sorted lists -/

/-- The paths of a list are different, and each comes before those that are greater. -/
def Ascends (paths : List Path) : Prop :=
  paths.Pairwise fun a b => a.le b = true ∧ a ≠ b

instance (paths : List Path) : Decidable (Ascends paths) :=
  inferInstanceAs (Decidable (List.Pairwise _ paths))

theorem mem_sort {path : Path} {paths : List Path} : path ∈ sort paths ↔ path ∈ paths :=
  (List.mergeSort_perm paths le).mem_iff

theorem sort_ascends {paths : List Path} (different : paths.Nodup) : Ascends (sort paths) :=
  (List.pairwise_mergeSort le_trans le_total paths).and
    ((List.mergeSort_perm paths le).nodup_iff.mpr different)

end TestBench.Path
