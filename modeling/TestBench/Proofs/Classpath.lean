import TestBench.Classpath
import TestBench.Proofs.Path

/-!
The order of classpaths. A classpath holds its locations in the order in which they are first given.
Adding two classpaths is giving the locations of the second after those of the first, so the laws of
addition are laws of lists.

- `FirstsOf`: the items of a list, each once, in the order in which they first occur; no two lists
  are that for one list,
- `of_append` and `of_entries`: every classpath is made of a list, and addition appends the lists,
- `add_eq_self`: nothing changes when all that is added is there already,
- `of_laws`: entries and addition of all classpaths.
-/
namespace TestBench
set_option autoImplicit false

/-! ## First occurrences -/

/-- A list has the items of another one, each once, in the order in which they first occur there. -/
structure FirstsOf {α : Type} [DecidableEq α] (items kept : List α) : Prop where
  mem_iff : ∀ x, x ∈ kept ↔ x ∈ items
  ordered : kept.Pairwise fun x y => items.idxOf x < items.idxOf y

namespace FirstsOf
variable {α : Type} [DecidableEq α] {items kept other : List α}

theorem nodup (h : FirstsOf items kept) : kept.Nodup := by
  refine h.ordered.imp fun {x y} before same => ?_
  rw [same] at before
  exact Nat.lt_irrefl _ before

theorem unique (h : FirstsOf items kept) (h' : FirstsOf items other) : kept = other := by
  have same : kept.Perm other := by
    rw [List.perm_ext_iff_of_nodup h.nodup h'.nodup]
    exact fun x => (h.mem_iff x).trans (h'.mem_iff x).symm
  refine same.eq_of_pairwise ?_ h.ordered h'.ordered
  intro x y _ _ before after
  exact absurd before (Nat.lt_asymm after)

end FirstsOf

section Distinct
variable {α : Type} [DecidableEq α]

theorem idxOf_cons_of_ne {x y : α} (items : List α) (other : y ≠ x) :
    (x :: items).idxOf y = items.idxOf y + 1 := by
  have apart : (x == y) = false := beq_false_of_ne other.symm
  rw [List.idxOf_cons, apart, cond_false]

theorem firstsOf_distinct (items : List α) : FirstsOf items (distinct items) where
  mem_iff _ := mem_distinct
  ordered := by
    induction items with
    | nil => exact .nil
    | cons x rest ih =>
      have later {y : α} (member : y ∈ (distinct rest).filter (· ≠ x)) :
          (x :: rest).idxOf y = rest.idxOf y + 1 :=
        idxOf_cons_of_ne rest (by simpa using (List.mem_filter.mp member).2)
      rw [distinct, List.pairwise_cons]
      constructor
      · intro y member
        rw [List.idxOf_cons_self, later member]
        exact Nat.succ_pos _
      · refine List.Pairwise.imp_of_mem ?_ (ih.filter _)
        intro y z member member' before
        rw [later member, later member']
        exact Nat.succ_lt_succ before

theorem FirstsOf.distinct_eq {items kept : List α} (h : FirstsOf items kept) :
    distinct items = kept :=
  (firstsOf_distinct items).unique h

/-- What was dropped from parts of a list would be dropped from the whole list anyway. -/
theorem distinct_append_distinct (first second : List α) :
    distinct (distinct first ++ distinct second) = distinct (first ++ second) := by
  rw [distinct_append, distinct_append, distinct_eq_self (nodup_distinct first),
    distinct_eq_self (nodup_distinct second)]
  simp only [mem_distinct]

end Distinct

/-! ## Addition -/

namespace Classpath

theorem of_append (first second : List Path) : of first + of second = of (first ++ second) :=
  ext_entries (distinct_append_distinct first second)

theorem of_entries (classpath : Classpath) : of classpath.entries = classpath :=
  ext_entries (distinct_eq_self classpath.nodup)

theorem of_firsts {locations kept : List Path} (firsts : FirstsOf locations kept) :
    of locations = of kept := by
  apply ext_entries
  rw [entries_of, entries_of, firsts.distinct_eq, distinct_eq_self firsts.nodup]

theorem add_eq_of (a b : Classpath) : a + b = of (a.entries ++ b.entries) := rfl

theorem add_eq_self {a b : Classpath} (known : ∀ entry ∈ b.entries, entry ∈ a.entries) :
    a + b = a := by
  have nothing : b.entries.filter (· ∉ a.entries) = [] := by
    rw [List.filter_eq_nil_iff]
    exact fun entry member => by simpa using known entry member
  apply ext_entries
  rw [entries_add, nothing, List.append_nil]

protected theorem add_assoc (a b c : Classpath) : a + b + c = a + (b + c) := by
  rw [add_eq_of a b, add_eq_of b c, ← of_entries a, ← of_entries c, of_append, of_append,
    of_entries a, of_entries c, List.append_assoc]

/-- Locations become entries as they are read, each at its first place, and a classpath to which
others are added grows at its end by what it lacks. -/
theorem of_laws :
    (∀ first second : List String,
      of (first.map .parse) + of (second.map .parse) = of ((first ++ second).map .parse)) ∧
    (∀ texts : List String, FirstsOf (texts.map .parse) (of (texts.map .parse)).entries) ∧
    (∀ a : Classpath, a.entries.Nodup ∧ ∀ entry ∈ a.entries, .parse entry.toString = entry) ∧
    (∀ a b c : Classpath, a + b + c = a + (b + c)) ∧
    (∀ a : Classpath, empty + a = a ∧ a + empty = a ∧ a + a = a) ∧
    ∀ a b : Classpath, a.entries <+: (a + b).entries ∧ a + b + a = a + b := by
  refine ⟨?_, ?_, ?_, Classpath.add_assoc, ?_, ?_⟩
  · intro first second
    rw [of_append, List.map_append]
  · exact fun texts => firstsOf_distinct _
  · exact fun a => ⟨a.nodup, fun entry _ => Path.parse_toString entry⟩
  · intro a
    have before : empty + a = a := of_entries a
    exact ⟨before, add_eq_self (by simp [empty, distinct]), add_eq_self fun _ member => member⟩
  · intro a b
    constructor
    · rw [entries_add]
      exact List.prefix_append _ _
    · exact add_eq_self fun entry member => mem_add.mpr (.inl member)

/-- A location in two spellings, and one that is found again in what is added. -/
example : (of [.parse "/a", .parse "b//c/.", .parse "b/c"] + of [.parse "d", .parse "/a/"]).toString =
    "/a:b/c:d" := by
  decide +kernel

end Classpath
end TestBench
