/-!
Lists without repetitions. `distinct` keeps the first occurrence of each item:

- `nodup_distinct` and `mem_distinct`: nothing is repeated and nothing is lost,
- `distinct_append`: a second list adds what the first one lacks, in its own order.
-/
namespace TestBench
set_option autoImplicit false
variable {α : Type} [DecidableEq α]

/-- Keeps the first occurrence of each item. -/
def distinct : List α → List α
  | [] => []
  | x :: rest => x :: (distinct rest).filter (· ≠ x)

@[simp] theorem mem_distinct {x : α} {items : List α} : x ∈ distinct items ↔ x ∈ items := by
  induction items with
  | nil => simp [distinct]
  | cons y rest ih =>
    by_cases h : x = y
    · simp [distinct, h]
    · simp [distinct, h, ih]

theorem nodup_distinct (items : List α) : (distinct items).Nodup := by
  induction items with
  | nil => simp [distinct]
  | cons x rest ih =>
    rw [distinct, List.nodup_cons]
    exact ⟨by simp, ih.filter _⟩

theorem distinct_eq_self {items : List α} (h : items.Nodup) : distinct items = items := by
  induction items with
  | nil => rfl
  | cons x rest ih =>
    rw [List.nodup_cons] at h
    rw [distinct, ih h.2, List.filter_eq_self.mpr]
    intro y member
    have : y ≠ x := fun e => h.1 (e ▸ member)
    simp [this]

theorem distinct_append (first second : List α) :
    distinct (first ++ second) = distinct first ++ (distinct second).filter (· ∉ first) := by
  induction first with
  | nil => exact (List.filter_eq_self.mpr (by simp)).symm
  | cons x rest ih =>
    rw [List.cons_append, distinct, ih, distinct, List.filter_append, List.cons_append,
      List.filter_filter]
    congr 2
    apply List.filter_congr
    intro y _
    by_cases h : y = x <;> simp [h]

end TestBench
