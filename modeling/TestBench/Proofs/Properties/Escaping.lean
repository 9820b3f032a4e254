import TestBench.Proofs.Json.Units
import TestBench.Proofs.Properties.Loading

/-!
Escapes, undone character by character.

- `textOf?_utf16` and `utf16_injective`: a text is known by its units,
- `Closed`: text in which every backslash escapes something and no stop stands without one,
- `IsEscape`: the three ways to write a character, and what a reader makes of each,
- `unescape_flatMap` and `unescape_escapeValue`: the units of keys and of values.
-/
namespace TestBench.Properties
set_option autoImplicit false
open TestBench.Text

/-! ## Characters -/

/-- The characters that a file shows as they are. -/
def IsGraphic (c : Char) : Prop :=
  ' ' ≤ c ∧ c ≤ '~'

instance (c : Char) : Decidable (IsGraphic c) :=
  inferInstanceAs (Decidable (_ ∧ _))

theorem hexDigit_upper {value : Nat} (h : value < 16) :
    hexValue? (hexDigit 'A' value) = some value ∧ IsGraphic (hexDigit 'A' value) ∧
      hexDigit 'A' value ≠ '\\' ∧ endsKey (hexDigit 'A' value) = false := by
  decide +revert

theorem hexNumber?_hexDigits {value : Nat} (h : value < 0x10000) :
    hexNumber? (hexDigits 'A' 4 value) = some value := by
  have digit (number : Nat) :
      hexValue? (hexDigit 'A' (number % 16)) = some (number % 16) :=
    (hexDigit_upper (Nat.mod_lt number (by decide))).1
  simp [hexNumber?, hexDigits, digit]
  omega

theorem mem_hexDigits {count value : Nat} {c : Char} (h : c ∈ hexDigits 'A' count value) :
    ∃ digit < 16, c = hexDigit 'A' digit := by
  induction count generalizing value with
  | zero => cases h
  | succ count ih =>
    rw [hexDigits, List.mem_append, List.mem_singleton] at h
    rcases h with front | rfl
    · exact ih front
    · exact ⟨value % 16, Nat.mod_lt value (by decide), rfl⟩

theorem textOf?_utf16 (text : String) : textOf? (utf16 text) = some text := by
  rw [textOf?, utf16, Json.joinUnits_flatMap, Option.map_some, String.ofList_toList]

/-- Texts that are read alike are the same. -/
theorem utf16_injective {a b : String} (h : utf16 a = utf16 b) : a = b := by
  have same := textOf?_utf16 a
  rw [h, textOf?_utf16] at same
  exact (Option.some.inj same).symm

/-! ## Escapes -/

/-- Text in which every backslash escapes the character after it, and none of the characters that
are to stop a reader stands there without one. -/
inductive Closed (stops : Char → Bool) : List Char → Prop where
  | nil : Closed stops []
  | plain {c : Char} {rest : List Char} (other : c ≠ '\\') (goes : stops c = false)
    (closed : Closed stops rest) : Closed stops (c :: rest)
  | escaped {c : Char} {rest : List Char} (closed : Closed stops rest) :
    Closed stops ('\\' :: c :: rest)

namespace Closed
variable {stops : Char → Bool} {before after : List Char}

theorem append (h : Closed stops before) (rest : Closed stops after) :
    Closed stops (before ++ after) := by
  induction h with
  | nil => exact rest
  | plain other goes _ ih => exact .plain other goes ih
  | escaped _ ih => exact .escaped ih

theorem of_forall (h : ∀ c ∈ before, c ≠ '\\' ∧ stops c = false) : Closed stops before := by
  induction before with
  | nil => exact .nil
  | cons c rest ih =>
    rw [List.forall_mem_cons] at h
    exact .plain h.1.1 h.1.2 (ih h.2)

theorem flatMap {α : Type} {items : List α} {piece : α → List Char}
    (h : ∀ item ∈ items, Closed stops (piece item)) : Closed stops (items.flatMap piece) := by
  induction items with
  | nil => exact .nil
  | cons item rest ih =>
    rw [List.forall_mem_cons] at h
    exact (h.1).append (ih h.2)

theorem endsOpen_append (h : Closed stops before) : endsOpen (before ++ after) = endsOpen after := by
  induction h with
  | nil => rfl
  | plain other goes _ ih => simpa [endsOpen, other] using ih
  | escaped _ ih => simpa [endsOpen] using ih

theorem splitKey_append (h : Closed endsKey before) :
    splitKey (before ++ after) = (before ++ (splitKey after).1, (splitKey after).2) := by
  induction h with
  | nil => rfl
  | plain other goes _ ih => simp [splitKey, goes, ih]
  | escaped _ ih => simp [splitKey, ih]

end Closed

/-- The ways to write a character: as it is, with a backslash, or by its units. -/
inductive IsEscape (bare : Bool) (c : Char) : List Char → Prop where
  | itself (graphic : IsGraphic c) (other : c ∉ ['\\', '=', ':', '#', '!'])
    (blank : c = ' ' → bare = true) : IsEscape bare c [c]
  | quoted {letter : Char} (graphic : IsGraphic letter) (other : letter ≠ 'u')
    (means : utf16Units c = [escapedUnit letter]) : IsEscape bare c ['\\', letter]
  | units :
    IsEscape bare c ((utf16Units c).flatMap fun unit => '\\' :: 'u' :: hexDigits 'A' 4 unit)

theorem isEscape_escapeChar (bare : Bool) (c : Char) : IsEscape bare c (escapeChar bare c) := by
  unfold escapeChar
  split
  next same => exact .quoted (by decide) (by decide) (by rw [same]; rfl)
  split
  next same => exact .quoted (by decide) (by decide) (by rw [same]; rfl)
  split
  next same => exact .quoted (by decide) (by decide) (by rw [same]; rfl)
  split
  next same => exact .quoted (by decide) (by decide) (by rw [same]; rfl)
  split
  next same => exact .quoted (by decide) (by decide) (by rw [same]; rfl)
  split
  next mark =>
    simp only [List.mem_cons, List.not_mem_nil, or_false] at mark
    rcases mark with rfl | rfl | rfl | rfl <;> exact .quoted (by decide) (by decide) rfl
  next mark =>
    split
    next blank =>
      subst blank
      cases bare with
      | true => exact .itself (by decide) (by decide) (by decide)
      | false => exact .quoted (by decide) (by decide) rfl
    split
    next graphic => exact .itself graphic (by simp_all) (by intro blank; contradiction)
    next => exact .units

/-- Of the characters that end a key, only the blank can be written as it is. -/
theorem IsGraphic.blank_of_endsKey {c : Char} (graphic : IsGraphic c)
    (other : c ∉ ['\\', '=', ':', '#', '!']) (stop : endsKey c = true) : c = ' ' := by
  simp only [endsKey, isGap, Bool.or_eq_true, decide_eq_true_eq, List.mem_cons,
    List.not_mem_nil, or_false] at stop
  rcases stop with (rfl | rfl) | rfl | rfl | rfl
  · exact absurd other (by decide)
  · exact absurd other (by decide)
  · rfl
  · exact absurd graphic (by decide)
  · exact absurd graphic (by decide)

namespace IsEscape
variable {bare : Bool} {c : Char} {text : List Char}

theorem graphic (h : IsEscape bare c text) : ∀ d ∈ text, IsGraphic d := by
  intro d member
  cases h with
  | itself graphic => rwa [List.mem_singleton.mp member]
  | quoted graphic =>
    rcases List.mem_cons.mp member with rfl | last
    · decide
    · rwa [List.mem_singleton.mp last]
  | units =>
    obtain ⟨unit, -, inside⟩ := List.mem_flatMap.mp member
    simp only [List.mem_cons] at inside
    rcases inside with rfl | rfl | digit
    · decide
    · decide
    · obtain ⟨value, bound, rfl⟩ := mem_hexDigits digit
      exact (hexDigit_upper bound).2.1

/-- The escape of a character holds nothing that ends a key, apart from a blank that may stay. -/
theorem closed (h : IsEscape bare c text) {stops : Char → Bool}
    (ends : ∀ d, stops d = true → endsKey d = true ∧ (bare = true → d ≠ ' ')) :
    Closed stops text := by
  cases h with
  -- Graphic characters hold no tabs or form feeds, so only a blank is left that could stop a reader.
  | itself graphic other blank =>
    refine .plain (fun same => other (by simp [same])) ?_ .nil
    rw [Bool.eq_false_iff]
    intro stop
    have same := graphic.blank_of_endsKey other (ends c stop).1
    exact (ends c stop).2 (blank same) same
  | quoted => exact .escaped .nil
  | units =>
    apply Closed.flatMap
    intro unit _
    refine .escaped (.of_forall fun d digit => ?_)
    obtain ⟨value, bound, rfl⟩ := mem_hexDigits digit
    obtain ⟨-, -, other, goes⟩ := hexDigit_upper bound
    refine ⟨other, ?_⟩
    rw [Bool.eq_false_iff]
    intro stop
    rw [(ends _ stop).1] at goes
    cases goes

/-- The escape of units reads as these units. -/
theorem unescape_units {units : List Nat} (bound : ∀ unit ∈ units, unit < 0x10000)
    (rest : List Char) :
    unescape ((units.flatMap fun unit => '\\' :: 'u' :: hexDigits 'A' 4 unit) ++ rest) =
      (unescape rest).map (units ++ ·) := by
  induction units with
  | nil => simp
  | cons unit others ih =>
    rw [List.forall_mem_cons] at bound
    have number := hexNumber?_hexDigits bound.1
    have digits : ∃ a b c d, hexDigits 'A' 4 unit = [a, b, c, d] := ⟨_, _, _, _, rfl⟩
    obtain ⟨a, b, c, d, digits⟩ := digits
    rw [digits] at number
    rw [List.flatMap_cons, digits]
    simp only [List.cons_append, List.nil_append, unescape, number, ih bound.2]
    cases unescape rest <;> rfl

theorem unescape_append (h : IsEscape bare c text) (rest : List Char) :
    unescape (text ++ rest) = (unescape rest).map (utf16Units c ++ ·) := by
  cases h with
  | itself graphic other =>
    have small : c.toNat ≤ 126 := graphic.2
    have alone : utf16Units c = [c.toNat] := by
      simp only [utf16Units]
      rw [if_pos (by omega)]
    rw [alone]
    simp only [List.mem_cons, not_or] at other
    simp [unescape, other.1]
  | quoted graphic other means =>
    rw [means]
    simp [unescape, other]
  | units => exact unescape_units (fun unit => utf16Units_lt) rest

/-- An escape is not empty, and neither a blank nor the mark of a comment comes first in it unless a
blank may stay. -/
theorem starts (h : IsEscape false c text) :
    ∃ first rest, text = first :: rest ∧ isGap first = false ∧ first ∉ ['#', '!'] := by
  cases h with
  | itself graphic other blank =>
    refine ⟨c, [], rfl, ?_, by simp_all⟩
    rw [Bool.eq_false_iff]
    intro gap
    have stop : endsKey c = true := by simp [endsKey, gap]
    exact absurd (blank (graphic.blank_of_endsKey other stop)) (by decide)
  | quoted => exact ⟨_, _, rfl, by decide⟩
  | units =>
    obtain ⟨unit, others, units⟩ := utf16Units_cons c
    rw [units]
    exact ⟨_, _, rfl, by decide⟩

end IsEscape

/-! ## Keys and values -/

theorem escapeKey_closed (key : List Char) : Closed endsKey (escapeKey key) := by
  apply Closed.flatMap
  intro c _
  exact (isEscape_escapeChar false c).closed fun d stop => ⟨stop, by simp⟩

theorem escapeValue_closed (value : List Char) : Closed (fun _ => false) (escapeValue value) := by
  have each (bare : Bool) (c : Char) : Closed (fun _ => false) (escapeChar bare c) :=
    (isEscape_escapeChar bare c).closed (by simp)
  cases value with
  | nil => exact .nil
  | cons c rest => exact (each false c).append (.flatMap fun d _ => each true d)

theorem unescape_flatMap (bare : Bool) (text : List Char) :
    unescape (text.flatMap (escapeChar bare)) = some (text.flatMap utf16Units) := by
  induction text with
  | nil => rfl
  | cons c rest ih =>
    rw [List.flatMap_cons, (isEscape_escapeChar bare c).unescape_append, ih]
    rfl

theorem unescape_escapeValue (value : List Char) :
    unescape (escapeValue value) = some (value.flatMap utf16Units) := by
  cases value with
  | nil => rfl
  | cons c rest =>
    rw [escapeValue, (isEscape_escapeChar false c).unescape_append, unescape_flatMap]
    rfl

/-- Nothing in front of a value is dropped. -/
theorem dropGap_escapeValue (value : List Char) :
    (escapeValue value).dropWhile isGap = escapeValue value := by
  cases value with
  | nil => rfl
  | cons c rest =>
    obtain ⟨first, others, text, solid, -⟩ := (isEscape_escapeChar false c).starts
    rw [escapeValue, text, List.cons_append, List.dropWhile_cons_of_neg (by simp [solid])]

end TestBench.Properties
