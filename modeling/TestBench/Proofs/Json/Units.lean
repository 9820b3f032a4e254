import TestBench.Json.Reader

/-!
The UTF-16 units of characters. A character beyond U+FFFF has two, which belong together.

- `utf16Units_lt` and `utf16Units_cons`: how large they are, and that there is one,
- `joinUnits_flatMap`: the units of a text are taken together again.
-/
namespace TestBench
set_option autoImplicit false

namespace Text

/-- The code points of characters. -/
theorem toNat_scalar (c : Char) : c.toNat < 0xD800 ∨ 0xDFFF < c.toNat ∧ c.toNat < 0x110000 :=
  c.valid

theorem utf16Units_lt {c : Char} {unit : Nat} (h : unit ∈ utf16Units c) : unit < 0x10000 := by
  have scalar := toNat_scalar c
  simp only [utf16Units] at h
  split at h
  all_goals
    simp at h
    omega

theorem utf16Units_cons (c : Char) : ∃ unit others, utf16Units c = unit :: others := by
  simp only [utf16Units]
  split
  · exact ⟨_, _, rfl⟩
  · exact ⟨_, _, rfl⟩

end Text

namespace Json
open Text

/-- The units of a character are taken together again. -/
theorem joinUnits_append (c : Char) (rest : List Nat) :
    joinUnits (utf16Units c ++ rest) = (joinUnits rest).map (c :: ·) := by
  have scalar := toNat_scalar c
  simp only [utf16Units]
  split
  next small =>
    have whole : isHighHalf c.toNat = false ∧ isLowHalf c.toNat = false := by
      simp only [isHighHalf, isLowHalf, Bool.and_eq_false_iff, decide_eq_false_iff_not]
      omega
    cases rest with
    | nil => simp [joinUnits, whole]
    | cons low rest =>
      simp only [List.singleton_append, joinUnits, whole, Char.ofNat_toNat]
      cases joinUnits (low :: rest) <;> rfl
  next large =>
    have high : isHighHalf (0xD800 + (c.toNat - 0x10000) / 0x400) = true := by
      simp only [isHighHalf, Bool.and_eq_true, decide_eq_true_eq]
      omega
    have low : isLowHalf (0xDC00 + (c.toNat - 0x10000) % 0x400) = true := by
      simp only [isLowHalf, Bool.and_eq_true, decide_eq_true_eq]
      omega
    have code : 0x10000 + (0xD800 + (c.toNat - 0x10000) / 0x400 - 0xD800) * 0x400 +
        (0xDC00 + (c.toNat - 0x10000) % 0x400 - 0xDC00) = c.toNat := by
      omega
    simp only [List.cons_append, List.nil_append, joinUnits, high, low, if_true, code,
      Char.ofNat_toNat]
    cases joinUnits rest <;> rfl

theorem joinUnits_flatMap (chars : List Char) : joinUnits (chars.flatMap utf16Units) = some chars := by
  induction chars with
  | nil => rfl
  | cons c rest ih => rw [List.flatMap_cons, joinUnits_append, ih, Option.map_some]

end Json
end TestBench
