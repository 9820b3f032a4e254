import TestBench.Proofs.Text.Utf8

/-!
Characters in octets. A character outside ASCII is a leading octet and the octets that complete it;
its front is what the machine takes before it knows the character.

- `Completes`: the octets that complete a character which has begun,
- `encodeChar_of_completes` and `encodeChar_cases`: these are the octets of UTF-8,
- `IsFront`: octets that may still become a character,
- `Takes`: the front of a character, and what is pending after it,
- `Takes.isFront_next` and `Takes.admits`: which octets may come next.
-/
namespace TestBench.Text.Utf8
set_option autoImplicit false

/-! ## The forms of a character -/

theorem ofNat_eq {octet : UInt8} {code : Nat} (h : octet.toNat = code) :
    UInt8.ofNat code = octet := by
  rw [← h, UInt8.ofNat_toNat]

section Forms
variable {code : Nat} {lead second third fourth : UInt8}

theorem encodeChar_two (least : 0x80 ≤ code) (most : code ≤ 0x7FF)
    (first : lead.toNat = code / 64 + 0xC0) (next : second.toNat = code % 64 + 0x80) :
    String.utf8EncodeChar (Char.ofNat code) = [lead, second] := by
  have value : (Char.ofNat code).val.toNat = code := toNat_ofNat_scalar (by omega)
  have first : lead.toNat = code / 64 % 32 + 0xC0 := by omega
  simp only [String.utf8EncodeChar, value]
  rw [if_neg (by omega), if_pos most, ofNat_eq first, ofNat_eq next]

theorem encodeChar_three (least : 0x800 ≤ code) (most : code ≤ 0xFFFF)
    (scalar : code < 0xD800 ∨ 0xE000 ≤ code)
    (first : lead.toNat = code / 4096 + 0xE0) (next : second.toNat = code / 64 % 64 + 0x80)
    (last : third.toNat = code % 64 + 0x80) :
    String.utf8EncodeChar (Char.ofNat code) = [lead, second, third] := by
  have value : (Char.ofNat code).val.toNat = code := toNat_ofNat_scalar (by omega)
  have first : lead.toNat = code / 4096 % 16 + 0xE0 := by omega
  simp only [String.utf8EncodeChar, value]
  rw [if_neg (by omega), if_neg (by omega), if_pos most, ofNat_eq first, ofNat_eq next,
    ofNat_eq last]

theorem encodeChar_four (least : 0x10000 ≤ code) (most : code < 0x110000)
    (first : lead.toNat = code / 262144 + 0xF0) (next : second.toNat = code / 4096 % 64 + 0x80)
    (middle : third.toNat = code / 64 % 64 + 0x80) (last : fourth.toNat = code % 64 + 0x80) :
    String.utf8EncodeChar (Char.ofNat code) = [lead, second, third, fourth] := by
  have value : (Char.ofNat code).val.toNat = code := toNat_ofNat_scalar (by omega)
  have first : lead.toNat = code / 262144 % 8 + 0xF0 := by omega
  simp only [String.utf8EncodeChar, value]
  rw [if_neg (by omega), if_neg (by omega), if_neg (by omega), ofNat_eq first, ofNat_eq next,
    ofNat_eq middle, ofNat_eq last]

end Forms

theorem encodeChar_small {c : Char} (small : c.toNat < 0x80) :
    String.utf8EncodeChar c = [UInt8.ofNat c.toNat] :=
  if_pos (Nat.le_of_lt_succ small)

theorem encodeChar_ascii {octet : UInt8} (plain : octet.toNat < 0x80) :
    String.utf8EncodeChar (Char.ofNat octet.toNat) = [octet] := by
  have value : (Char.ofNat octet.toNat).val.toNat = octet.toNat := toNat_ofNat_scalar (by omega)
  simp only [String.utf8EncodeChar, value]
  rw [if_pos (by omega), UInt8.ofNat_toNat]

/-! ## Completions -/

/-- A character that has begun, after one more octet. -/
def Pending.next (pending : Pending) (octet : Nat) : Pending :=
  ⟨pending.owed - 1, pending.bits * 64 + (octet - 0x80), 0x80, 0xBF⟩

/-- An octet may come next. -/
def Pending.Admits (pending : Pending) (octet : UInt8) : Prop :=
  pending.low ≤ octet.toNat ∧ octet.toNat ≤ pending.high

/-- The octets that complete a character which has begun, and its code point. -/
inductive Completes : Pending → List UInt8 → Nat → Prop where
  | last {pending : Pending} {octet : UInt8} (inside : pending.Admits octet)
      (owed : pending.owed ≤ 1) :
      Completes pending [octet] (pending.bits * 64 + (octet.toNat - 0x80))
  | more {pending : Pending} {octet : UInt8} {tail : List UInt8} {code : Nat}
      (inside : pending.Admits octet) (owed : 1 < pending.owed)
      (rest : Completes (pending.next octet.toNat) tail code) :
      Completes pending (octet :: tail) code

theorem Completes.lastly {pending : Pending} {octet : UInt8} {code : Nat}
    (inside : pending.Admits octet) (owed : pending.owed ≤ 1)
    (value : code = pending.bits * 64 + (octet.toNat - 0x80)) : Completes pending [octet] code :=
  value ▸ .last inside owed

section Inversion
variable {bits low high code : Nat} {tail : List UInt8}

theorem Completes.ne_nil {pending : Pending} (h : Completes pending tail code) : tail ≠ [] := by
  cases h <;> simp

theorem Completes.rest {pending : Pending} {octet : UInt8}
    (h : Completes pending (octet :: tail) code) (owed : 1 < pending.owed) :
    Completes (pending.next octet.toNat) tail code := by
  cases h with
  | last inside ended => exact absurd owed (Nat.not_lt.mpr ended)
  | more inside owed rest => exact rest

theorem Completes.admits {pending : Pending} {octet : UInt8}
    (h : Completes pending (octet :: tail) code) : pending.Admits octet := by
  cases h with
  | last inside owed => exact inside
  | more inside owed rest => exact inside

theorem Completes.owed {pending : Pending} {octet : UInt8}
    (h : Completes pending (octet :: tail) code) (short : tail ≠ []) : 1 < pending.owed := by
  cases h with
  | last inside ended => exact absurd rfl short
  | more inside owed rest => exact owed

theorem completes_one (h : Completes ⟨1, bits, low, high⟩ tail code) :
    ∃ second, tail = [second] ∧ low ≤ second.toNat ∧ second.toNat ≤ high ∧
      code = bits * 64 + (second.toNat - 0x80) := by
  cases h with
  | last inside owed => exact ⟨_, rfl, inside.1, inside.2, rfl⟩
  | more inside owed rest => exact absurd owed (Nat.lt_irrefl 1)

theorem completes_two (h : Completes ⟨2, bits, low, high⟩ tail code) :
    ∃ second third, tail = [second, third] ∧ low ≤ second.toNat ∧ second.toNat ≤ high ∧
      0x80 ≤ third.toNat ∧ third.toNat ≤ 0xBF ∧
      code = (bits * 64 + (second.toNat - 0x80)) * 64 + (third.toNat - 0x80) := by
  cases h with
  | last inside owed => exact absurd owed (by simp)
  | more inside owed rest =>
    obtain ⟨third, rfl, least, most, value⟩ := completes_one rest
    exact ⟨_, third, rfl, inside.1, inside.2, least, most, value⟩

theorem completes_three (h : Completes ⟨3, bits, low, high⟩ tail code) :
    ∃ second third fourth, tail = [second, third, fourth] ∧ low ≤ second.toNat ∧
      second.toNat ≤ high ∧ 0x80 ≤ third.toNat ∧ third.toNat ≤ 0xBF ∧ 0x80 ≤ fourth.toNat ∧
      fourth.toNat ≤ 0xBF ∧ code = ((bits * 64 + (second.toNat - 0x80)) * 64 +
        (third.toNat - 0x80)) * 64 + (fourth.toNat - 0x80) := by
  cases h with
  | last inside owed => exact absurd owed (by simp)
  | more inside owed rest =>
    obtain ⟨third, fourth, rfl, least, most, least', most', value⟩ := completes_two rest
    exact ⟨_, third, fourth, rfl, inside.1, inside.2, least, most, least', most', value⟩

end Inversion

/-- A leading octet and what completes it are the octets of the character. -/
theorem encodeChar_of_completes {lead : UInt8} {pending : Pending} {tail : List UInt8} {code : Nat}
    (begins : lead? lead.toNat = some pending) (h : Completes pending tail code) :
    String.utf8EncodeChar (Char.ofNat code) = lead :: tail := by
  unfold lead? at begins
  repeat' split at begins
  all_goals cases begins
  · obtain ⟨second, rfl, low, high, value⟩ := completes_one h
    apply encodeChar_two <;> omega
  -- The leads of three octets, then those of four.
  iterate 3
    · obtain ⟨second, third, rfl, low, high, low', high', value⟩ := completes_two h
      apply encodeChar_three <;> omega
  all_goals
    obtain ⟨second, third, fourth, rfl, low, high, low', high', low'', high'', value⟩ :=
      completes_three h
    apply encodeChar_four <;> omega

section Leads
variable {code : Nat} {lead second third fourth : UInt8}

theorem leads_two (least : 0x80 ≤ code) (most : code ≤ 0x7FF)
    (first : lead.toNat = code / 64 + 0xC0) (next : second.toNat = code % 64 + 0x80) :
    ∃ pending, lead? lead.toNat = some pending ∧ Completes pending [second] code := by
  refine ⟨_, if_pos (by omega), .lastly ⟨?_, ?_⟩ (Nat.le_refl 1) ?_⟩ <;> dsimp only <;> omega

theorem leads_three (least : 0x800 ≤ code) (most : code ≤ 0xFFFF)
    (scalar : code < 0xD800 ∨ 0xE000 ≤ code)
    (first : lead.toNat = code / 4096 + 0xE0) (next : second.toNat = code / 64 % 64 + 0x80)
    (last : third.toNat = code % 64 + 0x80) :
    ∃ pending, lead? lead.toNat = some pending ∧ Completes pending [second, third] code := by
  have goes {pending : Pending} (owed : pending.owed = 2) (bits : pending.bits = code / 4096)
      (low : pending.low ≤ second.toNat) (high : second.toNat ≤ pending.high) :
      Completes pending [second, third] code := by
    refine .more ⟨low, high⟩ (by omega) (.lastly ⟨?_, ?_⟩ ?_ ?_) <;>
      simp only [Pending.next] <;> omega
  have wide : ¬(0xC2 ≤ lead.toNat ∧ lead.toNat ≤ 0xDF) := by omega
  rw [lead?, if_neg wide]
  by_cases overlong : lead.toNat = 0xE0
  · rw [if_pos overlong]
    refine ⟨_, rfl, goes rfl ?_ ?_ ?_⟩ <;> dsimp only <;> omega
  rw [if_neg overlong]
  by_cases surrogate : lead.toNat = 0xED
  · rw [if_pos surrogate]
    refine ⟨_, rfl, goes rfl ?_ ?_ ?_⟩ <;> dsimp only <;> omega
  rw [if_neg surrogate, if_pos (by omega)]
  refine ⟨_, rfl, goes rfl ?_ ?_ ?_⟩ <;> dsimp only <;> omega

theorem leads_four (least : 0x10000 ≤ code) (most : code < 0x110000)
    (first : lead.toNat = code / 262144 + 0xF0) (next : second.toNat = code / 4096 % 64 + 0x80)
    (middle : third.toNat = code / 64 % 64 + 0x80) (last : fourth.toNat = code % 64 + 0x80) :
    ∃ pending, lead? lead.toNat = some pending ∧
      Completes pending [second, third, fourth] code := by
  have goes {pending : Pending} (owed : pending.owed = 3) (bits : pending.bits = code / 262144)
      (low : pending.low ≤ second.toNat) (high : second.toNat ≤ pending.high) :
      Completes pending [second, third, fourth] code := by
    refine .more ⟨low, high⟩ (by omega) (.more ⟨?_, ?_⟩ ?_ (.lastly ⟨?_, ?_⟩ ?_ ?_)) <;>
      simp only [Pending.next] <;> omega
  have wide : ¬(0xC2 ≤ lead.toNat ∧ lead.toNat ≤ 0xDF) ∧ ¬lead.toNat = 0xE0 ∧
      ¬lead.toNat = 0xED ∧ ¬(0xE1 ≤ lead.toNat ∧ lead.toNat ≤ 0xEF) := by omega
  rw [lead?, if_neg wide.1, if_neg wide.2.1, if_neg wide.2.2.1, if_neg wide.2.2.2]
  by_cases overlong : lead.toNat = 0xF0
  · rw [if_pos overlong]
    refine ⟨_, rfl, goes rfl ?_ ?_ ?_⟩ <;> dsimp only <;> omega
  rw [if_neg overlong]
  by_cases topmost : lead.toNat = 0xF4
  · rw [if_neg (by omega), if_pos topmost]
    refine ⟨_, rfl, goes rfl ?_ ?_ ?_⟩ <;> dsimp only <;> omega
  rw [if_pos (by omega)]
  refine ⟨_, rfl, goes rfl ?_ ?_ ?_⟩ <;> dsimp only <;> omega

end Leads

theorem valid_toNat (c : Char) : c.toNat < 0xD800 ∨ 0xE000 ≤ c.toNat ∧ c.toNat < 0x110000 := by
  rcases c.valid with low | ⟨low, high⟩
  · exact .inl low
  · exact .inr ⟨low, high⟩

/-- Every character outside ASCII is a leading octet and octets that complete it. -/
theorem exists_completes {c : Char} (outside : 0x80 ≤ c.toNat) :
    ∃ lead tail pending, String.utf8EncodeChar c = lead :: tail ∧
      lead? lead.toNat = some pending ∧ Completes pending tail c.toNat := by
  have valid := valid_toNat c
  have octet (code : Nat) (small : code < 256) : ∃ octet : UInt8, octet.toNat = code := by
    refine ⟨UInt8.ofNat code, ?_⟩
    rw [UInt8.toNat_ofNat']
    exact Nat.mod_eq_of_lt small
  have same := Char.ofNat_toNat c
  obtain ⟨last, ends⟩ := octet (c.toNat % 64 + 0x80) (by omega)
  by_cases two : c.toNat ≤ 0x7FF
  · obtain ⟨lead, first⟩ := octet (c.toNat / 64 + 0xC0) (by omega)
    obtain ⟨pending, begins, completes⟩ := leads_two outside two first ends
    exact ⟨lead, _, pending, same ▸ encodeChar_two outside two first ends, begins, completes⟩
  obtain ⟨middle, goes⟩ := octet (c.toNat / 64 % 64 + 0x80) (by omega)
  by_cases three : c.toNat ≤ 0xFFFF
  · obtain ⟨lead, first⟩ := octet (c.toNat / 4096 + 0xE0) (by omega)
    have least : 0x800 ≤ c.toNat := by omega
    have scalar : c.toNat < 0xD800 ∨ 0xE000 ≤ c.toNat := by omega
    obtain ⟨pending, begins, completes⟩ := leads_three least three scalar first goes ends
    exact ⟨lead, _, pending, same ▸ encodeChar_three least three scalar first goes ends, begins,
      completes⟩
  obtain ⟨lead, first⟩ := octet (c.toNat / 262144 + 0xF0) (by omega)
  obtain ⟨second, next⟩ := octet (c.toNat / 4096 % 64 + 0x80) (by omega)
  have least : 0x10000 ≤ c.toNat := by omega
  have most : c.toNat < 0x110000 := by omega
  obtain ⟨pending, begins, completes⟩ := leads_four least most first next goes ends
  exact ⟨lead, _, pending, same ▸ encodeChar_four least most first next goes ends, begins,
    completes⟩

/-- The octets of a character: one in ASCII, or a leading octet and what completes it. -/
theorem encodeChar_cases {c : Char} {octet : UInt8} {tail : List UInt8}
    (encoded : String.utf8EncodeChar c = octet :: tail) :
    octet.toNat < 0x80 ∧ tail = [] ∨
      ∃ pending, lead? octet.toNat = some pending ∧ Completes pending tail c.toNat := by
  by_cases small : c.toNat < 0x80
  · rw [encodeChar_small small] at encoded
    obtain ⟨rfl, rfl⟩ := List.cons.inj encoded
    exact .inl ⟨by rwa [toNat_ofNat_ascii small], rfl⟩
  · obtain ⟨lead, rest, pending, spelled, begins, completes⟩ :=
      exists_completes (Nat.le_of_not_lt small)
    rw [spelled] at encoded
    obtain ⟨rfl, rfl⟩ := List.cons.inj encoded
    exact .inr ⟨pending, begins, completes⟩

/-! ## Fronts of characters -/

/-- Octets that are the front of a character. -/
def IsFront (part : List UInt8) : Prop :=
  ∃ c, part <+: String.utf8EncodeChar c

/-- The front of a character outside ASCII, and what is pending after it. -/
inductive Takes : List UInt8 → Pending → Prop where
  | lead {octet : UInt8} {pending : Pending} (begins : lead? octet.toNat = some pending) :
      Takes [octet] pending
  | next {part : List UInt8} {pending : Pending} {octet : UInt8} (earlier : Takes part pending)
      (inside : pending.Admits octet) (owed : 1 < pending.owed) :
      Takes (part ++ [octet]) (pending.next octet.toNat)

theorem lead?_bounds {octet : Nat} {pending : Pending} (h : lead? octet = some pending) :
    0x80 ≤ octet ∧ 0x80 ≤ pending.low ∧ pending.low ≤ pending.high ∧ pending.high ≤ 0xBF := by
  unfold lead? at h
  repeat' split at h
  all_goals cases h
  all_goals dsimp only; omega

theorem exists_admits {pending : Pending} (some : pending.low ≤ pending.high)
    (most : pending.high ≤ 0xBF) : ∃ octet, pending.Admits octet := by
  refine ⟨UInt8.ofNat pending.low, ?_, ?_⟩ <;>
    rw [UInt8.toNat_ofNat'] <;> omega

theorem exists_completion {pending : Pending} (some : pending.low ≤ pending.high)
    (most : pending.high ≤ 0xBF) : ∃ tail code, Completes pending tail code := by
  generalize count : pending.owed = owed
  induction owed generalizing pending with
  | zero =>
    obtain ⟨octet, inside⟩ := exists_admits some most
    exact ⟨_, _, .last inside (by omega)⟩
  | succ owed ih =>
    obtain ⟨octet, inside⟩ := exists_admits some most
    by_cases final : owed = 0
    · exact ⟨_, _, .last inside (by omega)⟩
    · obtain ⟨tail, code, rest⟩ := @ih (pending.next octet.toNat) (by simp [Pending.next])
        (by simp [Pending.next]) (by simp [Pending.next, count])
      exact ⟨_, code, .more inside (by omega) rest⟩

namespace Takes
variable {part tail : List UInt8} {pending : Pending} {octet : UInt8}

theorem bounds (h : Takes part pending) :
    0x80 ≤ pending.low ∧ pending.low ≤ pending.high ∧ pending.high ≤ 0xBF := by
  cases h with
  | lead begins => exact (lead?_bounds begins).2
  | next earlier inside owed => exact ⟨Nat.le_refl _, by simp [Pending.next], Nat.le_refl _⟩

theorem encodeChar {code : Nat} (h : Takes part pending) (completes : Completes pending tail code) :
    String.utf8EncodeChar (Char.ofNat code) = part ++ tail := by
  induction h generalizing tail with
  | lead begins => exact encodeChar_of_completes begins completes
  | next earlier inside owed ih =>
    rw [ih (.more inside owed completes), List.append_assoc]
    rfl

theorem isFront (h : Takes part pending) : IsFront part := by
  obtain ⟨tail, code, completes⟩ := exists_completion h.bounds.2.1 h.bounds.2.2
  exact ⟨_, tail, (h.encodeChar completes).symm⟩

/-- An octet that may come next makes the front longer or completes the character. -/
theorem isFront_next (h : Takes part pending) (inside : pending.Admits octet) :
    IsFront (part ++ [octet]) := by
  by_cases owed : pending.owed ≤ 1
  · exact ⟨_, [], by rw [List.append_nil, h.encodeChar (.last inside owed)]⟩
  · exact (Takes.next h inside (by omega)).isFront

theorem completes {c : Char} (h : Takes part pending)
    (encoded : String.utf8EncodeChar c = part ++ tail) : Completes pending tail c.toNat := by
  induction h generalizing tail with
  | lead begins =>
    rcases encodeChar_cases encoded with ⟨plain, -⟩ | ⟨other, begins', completes⟩
    · exact absurd plain (Nat.not_lt.mpr (lead?_bounds begins).1)
    · rw [begins] at begins'
      cases begins'
      exact completes
  | next earlier inside owed ih =>
    rw [List.append_assoc] at encoded
    exact (ih encoded).rest owed

theorem ne_nil (h : Takes part pending) : part ≠ [] := by
  cases h <;> simp

theorem unfinished (h : Takes part pending) (c : Char) : String.utf8EncodeChar c ≠ part := by
  intro whole
  have completes : Completes pending [] c.toNat := h.completes (by rw [whole, List.append_nil])
  exact completes.ne_nil rfl

end Takes

/-- An octet with which no character goes on cannot come next. -/
theorem Takes.admits {part : List UInt8} {pending : Pending} {octet : UInt8}
    (h : Takes part pending) (longer : IsFront (part ++ [octet])) : pending.Admits octet := by
  obtain ⟨c, tail, spelled⟩ := longer
  rw [List.append_assoc] at spelled
  exact (h.completes spelled.symm).admits

theorem not_isFront {octet : UInt8} (several : ¬octet.toNat < 0x80)
    (strange : lead? octet.toNat = none) : ¬IsFront [octet] := by
  rintro ⟨c, tail, spelled⟩
  rcases encodeChar_cases spelled.symm with ⟨plain, -⟩ | ⟨pending, begins, -⟩
  · exact several plain
  · rw [strange] at begins
    cases begins

/-- The machine has not stopped before the last octet of a character. -/
theorem Takes.extend {front more tail : List UInt8} {pending : Pending} {code : Nat}
    (h : Takes front pending) (completes : Completes pending (more ++ tail) code)
    (short : tail ≠ []) : ∃ final, Takes (front ++ more) final := by
  induction more generalizing front pending with
  | nil => exact ⟨pending, by rwa [List.append_nil]⟩
  | cons octet more ih =>
    have owed := completes.owed (by simp [short])
    obtain ⟨final, takes⟩ := ih (h.next completes.admits owed) (completes.rest owed)
    exact ⟨final, by rwa [List.append_assoc] at takes⟩

/-- The front of a character that goes on is what the machine takes for one. -/
theorem exists_takes {c : Char} {part tail : List UInt8} (begun : part ≠ []) (short : tail ≠ [])
    (encoded : String.utf8EncodeChar c = part ++ tail) : ∃ pending, Takes part pending := by
  obtain ⟨octet, more, rfl⟩ := List.exists_cons_of_ne_nil begun
  rcases encodeChar_cases encoded with ⟨-, none⟩ | ⟨pending, begins, completes⟩
  · exact absurd (List.append_eq_nil_iff.mp none).2 short
  · exact (Takes.lead begins).extend completes short

end TestBench.Text.Utf8
