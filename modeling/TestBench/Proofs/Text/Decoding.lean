import TestBench.Proofs.Text.Characters

/-!
What octets are read as. A text is read back from its octets, and what belongs to no character is
shown as one U+FFFD for each longest piece that could still have become a character.

- `Reads` and `reads_iff`: what octets are read as, said without the machine,
- `decode_append_ascii`, `Reads.mem` and `Reads.getLast?`: a character in ASCII stands apart, and is
  read only where its octet stands,
- `decode_encode`: a text is read back.
-/
namespace TestBench.Text.Utf8
set_option autoImplicit false

/-! ## Steps of the machine -/

theorem decodeFrom_ascii {octet : UInt8} (plain : octet.toNat < 0x80) (rest : List UInt8) :
    decodeFrom none (octet :: rest) = Char.ofNat octet.toNat :: decodeFrom none rest := by
  simp [decodeFrom, step, start, plain]

theorem decodeFrom_lead {octet : UInt8} {pending : Pending}
    (begins : lead? octet.toNat = some pending) (rest : List UInt8) :
    decodeFrom none (octet :: rest) = decodeFrom (some pending) rest := by
  have several : ¬octet.toNat < 0x80 := Nat.not_lt.mpr (lead?_bounds begins).1
  simp [decodeFrom, step, start, several, begins]

theorem decodeFrom_stray {octet : UInt8} (several : ¬octet.toNat < 0x80)
    (strange : lead? octet.toNat = none) (rest : List UInt8) :
    decodeFrom none (octet :: rest) = replacement :: decodeFrom none rest := by
  simp [decodeFrom, step, start, several, strange]

theorem decodeFrom_last {pending : Pending} {octet : UInt8} (inside : pending.Admits octet)
    (owed : pending.owed ≤ 1) (rest : List UInt8) :
    decodeFrom (some pending) (octet :: rest) =
      Char.ofNat (pending.bits * 64 + (octet.toNat - 0x80)) :: decodeFrom none rest := by
  simp [decodeFrom, step, resume, inside.1, inside.2, owed]

theorem decodeFrom_more {pending : Pending} {octet : UInt8} (inside : pending.Admits octet)
    (owed : 1 < pending.owed) (rest : List UInt8) :
    decodeFrom (some pending) (octet :: rest) =
      decodeFrom (some (pending.next octet.toNat)) rest := by
  have several : ¬pending.owed ≤ 1 := Nat.not_le.mpr owed
  simp [decodeFrom, step, resume, inside.1, inside.2, several, Pending.next]

/-- An octet that cannot come next starts anew. -/
theorem decodeFrom_cut {pending : Pending} {octet : UInt8} (outside : ¬pending.Admits octet)
    (rest : List UInt8) :
    decodeFrom (some pending) (octet :: rest) =
      replacement :: decodeFrom none (octet :: rest) := by
  have outside : ¬(pending.low ≤ octet.toNat ∧ octet.toNat ≤ pending.high) := outside
  simp only [decodeFrom, step, resume]
  rw [if_neg outside]
  rfl

theorem Takes.decodeFrom {part : List UInt8} {pending : Pending} (h : Takes part pending)
    (rest : List UInt8) : decodeFrom none (part ++ rest) = decodeFrom (some pending) rest := by
  induction h generalizing rest with
  | lead begins => exact decodeFrom_lead begins rest
  | next earlier inside owed ih =>
    rw [List.append_assoc, ih]
    exact decodeFrom_more inside owed rest

theorem Completes.decodeFrom {pending : Pending} {tail : List UInt8} {code : Nat}
    (h : Completes pending tail code) (rest : List UInt8) :
    decodeFrom (some pending) (tail ++ rest) = Char.ofNat code :: decodeFrom none rest := by
  induction h with
  | last inside owed => exact decodeFrom_last inside owed rest
  | more inside owed later ih =>
    rw [List.cons_append, decodeFrom_more inside owed, ih]

theorem decodeFrom_character (c : Char) (rest : List UInt8) :
    decodeFrom none (String.utf8EncodeChar c ++ rest) = c :: decodeFrom none rest := by
  by_cases small : c.toNat < 0x80
  · rw [encodeChar_small small, List.singleton_append,
      decodeFrom_ascii (by rwa [toNat_ofNat_ascii small]), toNat_ofNat_ascii small, Char.ofNat_toNat]
  · obtain ⟨lead, tail, pending, spelled, begins, completes⟩ :=
      exists_completes (Nat.le_of_not_lt small)
    rw [spelled, List.cons_append, decodeFrom_lead begins, completes.decodeFrom, Char.ofNat_toNat]

/-! ## What octets are read as -/

/-- What octets are read as: characters, and one replacement for each piece that belongs to none. Such
a piece is the front of a character that does not go on, taken as far as it goes, or one octet with
which no character begins. -/
inductive Reads : List UInt8 → List Char → Prop where
  | done : Reads [] []
  | character {rest : List UInt8} {text : List Char} (c : Char) (later : Reads rest text) :
      Reads (String.utf8EncodeChar c ++ rest) (c :: text)
  | broken {part rest : List UInt8} {text : List Char} (begun : part ≠ []) (front : IsFront part)
      (unfinished : ∀ c, String.utf8EncodeChar c ≠ part)
      (longest : ∀ octet ∈ rest.head?, ¬IsFront (part ++ [octet])) (later : Reads rest text) :
      Reads (part ++ rest) (replacement :: text)
  | stray {octet : UInt8} {rest : List UInt8} {text : List Char} (never : ¬IsFront [octet])
      (later : Reads rest text) : Reads (octet :: rest) (replacement :: text)

theorem reads_decodeFrom (octets : List UInt8) :
    Reads octets (decodeFrom none octets) ∧ ∀ part pending, Takes part pending →
      Reads (part ++ octets) (decodeFrom (some pending) octets) := by
  induction octets with
  | nil =>
    refine ⟨.done, fun part pending takes => ?_⟩
    exact .broken takes.ne_nil takes.isFront takes.unfinished (by simp) .done
  | cons octet rest ih =>
    have anew : Reads (octet :: rest) (decodeFrom none (octet :: rest)) := by
      by_cases plain : octet.toNat < 0x80
      · have reads := Reads.character (Char.ofNat octet.toNat) ih.1
        rw [encodeChar_ascii plain] at reads
        rw [decodeFrom_ascii plain]
        exact reads
      · cases begins : lead? octet.toNat with
        | some pending =>
          rw [decodeFrom_lead begins]
          exact ih.2 [octet] pending (.lead begins)
        | none =>
          rw [decodeFrom_stray plain begins]
          exact .stray (not_isFront plain begins) ih.1
    refine ⟨anew, fun part pending takes => ?_⟩
    by_cases inside : pending.Admits octet
    · by_cases owed : pending.owed ≤ 1
      · have reads := Reads.character (Char.ofNat (pending.bits * 64 + (octet.toNat - 0x80))) ih.1
        rw [takes.encodeChar (.last inside owed), List.append_assoc] at reads
        rw [decodeFrom_last inside owed]
        exact reads
      · have more : 1 < pending.owed := Nat.lt_of_not_le owed
        rw [decodeFrom_more inside more, ← List.singleton_append, ← List.append_assoc]
        exact ih.2 _ _ (.next takes inside more)
    · -- The character is cut short here, and the octet starts another one.
      rw [decodeFrom_cut inside]
      refine .broken takes.ne_nil takes.isFront takes.unfinished ?_ anew
      intro other same longer
      cases same
      exact inside (takes.admits longer)

/-- There is one way only to read octets. -/
theorem Reads.decodeFrom {octets : List UInt8} {text : List Char} (h : Reads octets text) :
    decodeFrom none octets = text := by
  induction h with
  | done => rfl
  | character c later ih => rw [decodeFrom_character, ih]
  | @broken part rest text begun front unfinished longest later ih =>
    obtain ⟨c, tail, spelled⟩ := front
    have short : tail ≠ [] := by
      rintro rfl
      exact unfinished c (by rw [← spelled, List.append_nil])
    obtain ⟨pending, takes⟩ := exists_takes begun short spelled.symm
    rw [takes.decodeFrom]
    cases rest with
    | nil =>
      rw [← ih]
      rfl
    | cons octet rest =>
      have outside : ¬pending.Admits octet := fun inside =>
        longest octet rfl (takes.isFront_next inside)
      rw [decodeFrom_cut outside, ih]
  | @stray octet rest text never later ih =>
    have several : ¬octet.toNat < 0x80 := by
      intro plain
      exact never ⟨_, [], by rw [encodeChar_ascii plain]; rfl⟩
    have strange : lead? octet.toNat = none := by
      cases begins : lead? octet.toNat with
      | none => rfl
      | some pending => exact absurd (Takes.lead begins).isFront never
    rw [decodeFrom_stray several strange, ih]

/-- The machine reads what there is to be read. -/
theorem reads_iff {octets : List UInt8} {text : List Char} :
    Reads octets text ↔ decode octets = text :=
  ⟨Reads.decodeFrom, fun same => same ▸ (reads_decodeFrom octets).1⟩

/-! ## ASCII inside other octets -/

/-- A character in ASCII stands apart from what comes before it and after it. -/
theorem Reads.ascii {before after : List UInt8} {text text' : List Char} {octet : UInt8}
    (h : Reads before text) (plain : octet.toNat < 0x80) (later : Reads after text') :
    Reads (before ++ octet :: after) (text ++ Char.ofNat octet.toNat :: text') := by
  induction h with
  | done =>
    have reads := Reads.character (Char.ofNat octet.toNat) later
    rwa [encodeChar_ascii plain] at reads
  | character c _ ih =>
    rw [List.append_assoc]
    exact .character c ih
  | @broken part rest text begun front unfinished longest _ ih =>
    rw [List.append_assoc]
    refine .broken begun front unfinished ?_ ih
    cases rest with
    | cons next rest => exact longest
    | nil =>
      intro other same longer
      cases same
      obtain ⟨c, tail, spelled⟩ := id longer
      rw [List.append_assoc] at spelled
      obtain ⟨pending, takes⟩ := exists_takes begun (by simp) spelled.symm
      have inside := (takes.admits longer).1
      have least := takes.bounds.1
      omega
  | stray never _ ih => exact .stray never ih

theorem decode_append_ascii {octet : UInt8} (plain : octet.toNat < 0x80)
    (before after : List UInt8) :
    decode (before ++ octet :: after) =
      decode before ++ Char.ofNat octet.toNat :: decode after :=
  reads_iff.mp (Reads.ascii (reads_iff.mpr rfl) plain (reads_iff.mpr rfl))

theorem not_ascii_replacement : ¬replacement.toNat < 0x80 := by
  decide

/-- A character in ASCII is read only where its octet stands. -/
theorem Reads.mem {octets : List UInt8} {text : List Char} (h : Reads octets text) {c : Char}
    (small : c.toNat < 0x80) (member : c ∈ text) : UInt8.ofNat c.toNat ∈ octets := by
  induction h with
  | done => cases member
  | character other later ih =>
    rw [List.mem_append]
    rcases List.mem_cons.mp member with rfl | member
    · exact .inl (by simp [encodeChar_small small])
    · exact .inr (ih member)
  | broken begun front unfinished longest later ih =>
    rcases List.mem_cons.mp member with rfl | member
    · exact absurd small not_ascii_replacement
    · exact List.mem_append_right _ (ih member)
  | stray never later ih =>
    rcases List.mem_cons.mp member with rfl | member
    · exact absurd small not_ascii_replacement
    · exact List.mem_cons_of_mem _ (ih member)

theorem Reads.eq_nil {octets : List UInt8} (h : Reads octets []) : octets = [] := by
  cases h
  rfl

/-- The last character is in ASCII only if it is the last octet. -/
theorem Reads.getLast? {octets : List UInt8} {text : List Char} (h : Reads octets text) {c : Char}
    (small : c.toNat < 0x80) (last : text.getLast? = some c) :
    octets.getLast? = some (UInt8.ofNat c.toNat) := by
  induction h with
  | done => cases last
  | @character rest text other later ih =>
    rw [List.getLast?_append]
    cases text with
    | nil =>
      obtain rfl : other = c := by simpa using last
      rw [later.eq_nil, encodeChar_small small]
      rfl
    | cons next more => rw [ih (by rwa [List.getLast?_cons_cons] at last), Option.some_or]
  | @broken part rest text begun front unfinished longest later ih =>
    rw [List.getLast?_append]
    cases text with
    | nil =>
      cases last
      exact absurd small not_ascii_replacement
    | cons next more => rw [ih (by rwa [List.getLast?_cons_cons] at last), Option.some_or]
  | @stray octet rest text never later ih =>
    rw [← List.singleton_append, List.getLast?_append]
    cases text with
    | nil =>
      cases last
      exact absurd small not_ascii_replacement
    | cons next more => rw [ih (by rwa [List.getLast?_cons_cons] at last), Option.some_or]

/-! ## Texts -/

/-- A text is read back from its octets. -/
theorem decode_encode (text : List Char) : decode (encode text) = text := by
  have reads : Reads (encode text) text := by
    induction text with
    | nil => exact .done
    | cons c rest ih => exact .character c ih
  exact reads_iff.mp reads

/-- A truncated character, an octet that never occurs, and an overlong form of two octets. -/
example : decode [0xE2, 0x82, 0x41, 0xFF, 0xC0, 0xAF] =
    [replacement, 'A', replacement, replacement, replacement] := by
  decide

end TestBench.Text.Utf8
