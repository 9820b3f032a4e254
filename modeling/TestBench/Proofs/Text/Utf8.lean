import TestBench.Text.Utf8

/-!
Decoding and ASCII. An octet string decodes to a text in ASCII only if it is that text, octet for
octet: overlong, truncated and invalid forms all show up as characters outside ASCII.

- `Pending.Sound`: which code points a character that has begun may still become,
- `decodeFrom_pending`: once a character of several octets has begun, a character outside ASCII
  follows,
- `decode_eq_ascii`: the statement above.
-/
namespace TestBench.Text.Utf8
set_option autoImplicit false

/-! ## Characters that have begun -/

namespace Pending

/-- How many code points so many octets tell apart. -/
def width : Nat → Nat
  | 0 => 1
  | count + 1 => 64 * width count

/-- The least code point that may still follow. -/
def least (pending : Pending) : Nat :=
  (pending.bits * 64 + (pending.low - 0x80)) * width (pending.owed - 1)

/-- The code points that may still follow are below this one. -/
def bound (pending : Pending) : Nat :=
  (pending.bits * 64 + (pending.high - 0x80) + 1) * width (pending.owed - 1)

/-- Every code point that may still follow is a character outside ASCII. -/
structure Sound (pending : Pending) : Prop where
  low : 0x80 ≤ pending.low
  high : pending.high ≤ 0xBF
  least : 0x80 ≤ pending.least
  scalar : pending.bound ≤ 0xD800 ∨ 0xE000 ≤ pending.least ∧ pending.bound ≤ 0x110000

end Pending

theorem lead?_sound {octet : Nat} {pending : Pending} (h : lead? octet = some pending) :
    pending.Sound := by
  unfold lead? at h
  repeat' split at h
  all_goals cases h
  all_goals
    constructor <;>
      simp only [Pending.least, Pending.bound, Pending.width, Nat.reduceSub] <;>
      omega

/-- One more octet narrows the code points that may follow. -/
theorem resume_sound {pending : Pending} {octet : Nat} (sound : pending.Sound)
    (inside : pending.low ≤ octet ∧ octet ≤ pending.high) (more : 1 < pending.owed) :
    Pending.Sound ⟨pending.owed - 1, pending.bits * 64 + (octet - 0x80), 0x80, 0xBF⟩ := by
  have low := sound.low
  have high := sound.high
  obtain ⟨count, owed⟩ : ∃ count, pending.owed = count + 2 := ⟨pending.owed - 2, by omega⟩
  have wide : Pending.width (pending.owed - 1) = 64 * Pending.width count := by
    rw [owed]
    rfl
  have least : pending.least ≤ (pending.bits * 64 + (octet - 0x80)) * 64 * Pending.width count := by
    rw [Pending.least, wide, ← Nat.mul_assoc]
    exact Nat.mul_le_mul_right _ (by omega)
  have bound :
      (pending.bits * 64 + (octet - 0x80) + 1) * 64 * Pending.width count ≤ pending.bound := by
    rw [Pending.bound, wide, ← Nat.mul_assoc]
    exact Nat.mul_le_mul_right _ (by omega)
  have steps : pending.owed - 1 - 1 = count := by omega
  have first : ∀ read, read * 64 + (0x80 - 0x80) = read * 64 := fun read => by omega
  have past : ∀ read, read * 64 + (0xBF - 0x80) + 1 = (read + 1) * 64 := fun read => by omega
  have outside := sound.least
  have scalar := sound.scalar
  constructor <;> simp only [Pending.least, Pending.bound, steps, first, past] <;> omega

theorem toNat_ofNat_scalar {code : Nat} (h : code < 0xD800 ∨ 0xE000 ≤ code ∧ code < 0x110000) :
    (Char.ofNat code).toNat = code := by
  have valid : code.isValidChar := by
    rcases h with low | high
    · exact .inl low
    · exact .inr ⟨by omega, high.2⟩
  rw [Char.ofNat, dif_pos valid]
  rfl

/-- The last octet gives a character outside ASCII. -/
theorem resume_last {pending : Pending} {octet : Nat} (sound : pending.Sound)
    (inside : pending.low ≤ octet ∧ octet ≤ pending.high) (last : pending.owed ≤ 1) :
    0x80 ≤ (Char.ofNat (pending.bits * 64 + (octet - 0x80))).toNat := by
  have low := sound.low
  have outside := sound.least
  have scalar := sound.scalar
  have done : pending.owed - 1 = 0 := by omega
  simp only [Pending.least, Pending.bound, done, Pending.width, Nat.mul_one] at outside scalar
  rw [toNat_ofNat_scalar (by omega)]
  omega

theorem decodeFrom_pending {pending : Pending} (sound : pending.Sound) (octets : List UInt8) :
    ∃ c rest, decodeFrom (some pending) octets = c :: rest ∧ 0x80 ≤ c.toNat := by
  induction octets generalizing pending with
  | nil => exact ⟨replacement, [], rfl, by decide⟩
  | cons octet rest ih =>
    by_cases inside : pending.low ≤ octet.toNat ∧ octet.toNat ≤ pending.high
    -- Within its range an octet ends the sequence or narrows it; outside, it cuts the sequence off.
    · by_cases last : pending.owed ≤ 1
      · refine ⟨_, decodeFrom none rest, ?_, resume_last sound inside last⟩
        simp [decodeFrom, step, resume, inside, last]
      · obtain ⟨c, others, decoded, outside⟩ := ih (resume_sound sound inside (by omega))
        refine ⟨c, others, ?_, outside⟩
        simp [decodeFrom, step, resume, inside, last, decoded]
    · refine ⟨replacement, (start octet).1 ++ decodeFrom (start octet).2 rest, ?_, by decide⟩
      simp [decodeFrom, step, resume, inside]

theorem decodeFrom_outside {octet : UInt8} (h : 0x80 ≤ octet.toNat) (rest : List UInt8) :
    ∃ c others, decodeFrom none (octet :: rest) = c :: others ∧ 0x80 ≤ c.toNat := by
  have several : ¬octet.toNat < 0x80 := Nat.not_lt.mpr h
  cases found : lead? octet.toNat with
  | none =>
    refine ⟨replacement, decodeFrom none rest, ?_, by decide⟩
    simp [decodeFrom, step, start, several, found]
  | some pending =>
    obtain ⟨c, others, decoded, outside⟩ := decodeFrom_pending (lead?_sound found) rest
    refine ⟨c, others, ?_, outside⟩
    simp [decodeFrom, step, start, several, found, decoded]

/-! ## ASCII -/

/-- A text in ASCII. -/
def IsAscii (text : List Char) : Prop :=
  ∀ c ∈ text, c.toNat < 0x80

instance (text : List Char) : Decidable (IsAscii text) :=
  List.decidableBAll (fun c : Char => c.toNat < 0x80) text

theorem IsAscii.cons {c : Char} {rest : List Char} (h : IsAscii (c :: rest)) :
    c.toNat < 0x80 ∧ IsAscii rest :=
  ⟨h c List.mem_cons_self, fun other member => h other (List.mem_cons_of_mem _ member)⟩

/-- In ASCII a character is one octet. -/
theorem encode_cons {c : Char} (ascii : c.toNat < 0x80) (rest : List Char) :
    encode (c :: rest) = UInt8.ofNat c.toNat :: encode rest := by
  have short : c.val.toNat ≤ 0x7f := Nat.le_of_lt_succ ascii
  have alone : String.utf8EncodeChar c = [UInt8.ofNat c.toNat] := if_pos short
  exact congrArg (· ++ encode rest) alone

theorem toNat_ofNat_ascii {c : Char} (ascii : c.toNat < 0x80) :
    (UInt8.ofNat c.toNat).toNat = c.toNat := by
  rw [UInt8.toNat_ofNat']
  omega

theorem decode_eq_ascii {text : List Char} (ascii : IsAscii text) (octets : List UInt8) :
    decode octets = text ↔ octets = encode text := by
  unfold decode
  induction octets generalizing text with
  | nil =>
    cases text with
    | nil => exact ⟨fun _ => rfl, fun _ => rfl⟩
    | cons c rest =>
      rw [encode_cons ascii.cons.1]
      constructor <;> intro same <;> cases same
  | cons octet others ih =>
    by_cases plain : octet.toNat < 0x80
    · have decoded : decodeFrom none (octet :: others) =
          Char.ofNat octet.toNat :: decodeFrom none others := by
        simp [decodeFrom, step, start, plain]
      rw [decoded]
      cases text with
      | nil => constructor <;> intro same <;> cases same
      | cons c rest =>
        obtain ⟨small, ascii⟩ := ascii.cons
        rw [encode_cons small, List.cons.injEq, List.cons.injEq, ih ascii]
        have same : Char.ofNat octet.toNat = c ↔ octet = UInt8.ofNat c.toNat := by
          constructor
          · intro same
            rw [← same, toNat_ofNat_scalar (by omega), UInt8.ofNat_toNat]
          · intro same
            rw [same, toNat_ofNat_ascii small, Char.ofNat_toNat]
        rw [same]
    · obtain ⟨c, rest, decoded, outside⟩ := decodeFrom_outside (Nat.le_of_not_lt plain) others
      rw [decoded]
      cases text with
      | nil => constructor <;> intro same <;> cases same
      | cons c' rest' =>
        obtain ⟨small, -⟩ := ascii.cons
        rw [encode_cons small]
        constructor
        · intro same
          rw [(List.cons.inj same).1] at outside
          omega
        · intro same
          rw [(List.cons.inj same).1, toNat_ofNat_ascii small] at plain
          exact absurd small plain

theorem length_le_of_prefix {front text : List Char} (h : front <+: text) :
    length front ≤ length text := by
  obtain ⟨rest, rfl⟩ := h
  simp [length, encode]

end TestBench.Text.Utf8
