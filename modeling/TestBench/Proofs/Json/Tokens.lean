import TestBench.Json.Printer
import TestBench.Proofs.Json.Units

/-!
Tokens of printed JSON.

- `takeUnits_escaped`: a quoted text gives its units,
- `Lexes` and `Spells`: a text that is taken apart into given tokens, whatever follows it,
- `lexes_quoted` and `spells_number`: quoted texts and numbers,
- `tokensUpTo_length`: a text has as many characters as tokens, at least.
-/
namespace TestBench.Json
set_option autoImplicit false
open TestBench.Text

/-! ## Quoted texts -/

theorem hexValue?_hexDigit {value : Nat} (h : value < 16) :
    hexValue? (hexDigit 'a' value) = some value := by
  decide +revert

theorem takeUnits_unit {unit : Nat} (h : unit < 0x10000) (rest : List Char) :
    takeUnits ('\\' :: 'u' :: hexDigits 'a' 4 unit ++ rest) =
      (takeUnits rest).map fun found => (unit :: found.1, found.2) := by
  have digit (number : Nat) : hexValue? (hexDigit 'a' (number % 16)) = some (number % 16) :=
    hexValue?_hexDigit (Nat.mod_lt number (by decide))
  have value : ((unit / 16 / 16 / 16 % 16 * 16 + unit / 16 / 16 % 16) * 16 + unit / 16 % 16) * 16 +
      unit % 16 = unit := by
    omega
  simp only [hexDigits, List.nil_append, List.cons_append, takeUnits, digit, Option.bind_eq_bind,
    Option.bind_some, value]
  cases takeUnits rest <;> rfl

theorem takeUnits_units {units : List Nat} (bound : ∀ unit ∈ units, unit < 0x10000)
    (rest : List Char) :
    takeUnits ((units.flatMap fun unit => '\\' :: 'u' :: hexDigits 'a' 4 unit) ++ rest) =
      (takeUnits rest).map fun found => (units ++ found.1, found.2) := by
  induction units with
  | nil => simp
  | cons unit others ih =>
    obtain ⟨first, later⟩ := List.forall_mem_cons.mp bound
    rw [List.flatMap_cons, List.append_assoc, takeUnits_unit first, ih later, Option.map_map]
    rfl

theorem takeUnits_plain {c : Char} (h : ' ' ≤ c) (quote : c ≠ '"') (backslash : c ≠ '\\')
    (rest : List Char) :
    takeUnits (c :: rest) = (takeUnits rest).map fun found => (c.toNat :: found.1, found.2) := by
  have size : ¬c.toNat < 0x20 := Nat.not_lt.mpr h
  rw [takeUnits.eq_def]
  split
  · next same => cases same
  · next same => exact absurd (List.cons.inj same).1 quote
  · next same => exact absurd (List.cons.inj same).1 backslash
  · next same => exact absurd (List.cons.inj same).1 backslash
  · next same =>
    obtain ⟨rfl, rfl⟩ := List.cons.inj same
    rw [if_neg size]
    cases takeUnits rest <;> rfl

/-- However a character is written between quotes, its units are read. -/
theorem takeUnits_escapeChar (c : Char) (rest : List Char) :
    takeUnits (escapeChar c ++ rest) =
      (takeUnits rest).map fun found => (utf16Units c ++ found.1, found.2) := by
  unfold escapeChar
  split
  case h_8 _ quote backslash _ _ _ _ _ =>
    split
    · next graphic =>
      have last : c.toNat ≤ '~'.toNat := graphic.2
      have small : c.toNat < 0x10000 := Nat.lt_of_le_of_lt last (by decide)
      have units : utf16Units c = [c.toNat] := if_pos small
      rw [units]
      exact takeUnits_plain graphic.1 quote backslash rest
    · exact takeUnits_units (fun unit => utf16Units_lt) rest
  -- The characters that are escaped by a letter.
  all_goals
    simp only [List.cons_append, List.nil_append, takeUnits]
    cases takeUnits rest <;> rfl

theorem takeUnits_escaped (text : List Char) (rest : List Char) :
    takeUnits (text.flatMap escapeChar ++ '"' :: rest) = some (text.flatMap utf16Units, rest) := by
  induction text with
  | nil => rfl
  | cons c others ih =>
    rw [List.flatMap_cons, List.append_assoc, takeUnits_escapeChar, ih]
    rfl

/-! ## Tokens -/

/-- What follows an atom does not belong to it. -/
def Stops (rest : List Char) : Prop :=
  ∀ c tail, rest = c :: tail → isAtomChar c = false

/-- A text that is taken apart into tokens, whatever follows it. -/
def Lexes (limit : Nat) (text : List Char) (tokens : List Token) : Prop :=
  ∀ count rest, tokensUpTo limit (tokens.length + count) (text ++ rest) =
    (tokensUpTo limit count rest).map (tokens ++ ·)

/-- The same for a text that may end in an atom. -/
def Spells (limit : Nat) (text : List Char) (tokens : List Token) : Prop :=
  ∀ count rest, Stops rest → tokensUpTo limit (tokens.length + count) (text ++ rest) =
    (tokensUpTo limit count rest).map (tokens ++ ·)

section Tokens
variable {limit : Nat} {text text' : List Char} {tokens tokens' : List Token}

theorem Lexes.spells (h : Lexes limit text tokens) : Spells limit text tokens :=
  fun count rest _ => h count rest

theorem Lexes.append (h : Lexes limit text tokens) (next : Lexes limit text' tokens') :
    Lexes limit (text ++ text') (tokens ++ tokens') := by
  intro count rest
  rw [List.append_assoc, List.length_append, Nat.add_assoc, h, next, Option.map_map]
  simp [Function.comp_def]

theorem Lexes.append_spells (h : Lexes limit text tokens) (next : Spells limit text' tokens') :
    Spells limit (text ++ text') (tokens ++ tokens') := by
  intro count rest stops
  rw [List.append_assoc, List.length_append, Nat.add_assoc, h, next _ _ stops, Option.map_map]
  simp [Function.comp_def]

theorem Spells.append {c : Char} (h : Spells limit text tokens) (stops : isAtomChar c = false)
    (next : Lexes limit (c :: text') tokens') :
    Lexes limit (text ++ c :: text') (tokens ++ tokens') := by
  intro count rest
  have stop : Stops (c :: text' ++ rest) := by
    rintro d tail same
    rw [← (List.cons.inj same).1]
    exact stops
  rw [List.append_assoc, List.length_append, Nat.add_assoc, h _ _ stop, next, Option.map_map]
  simp [Function.comp_def]

theorem lexes_gap (blank : ∀ c ∈ text, isGap c = true) : Lexes limit text [] := by
  intro count rest
  cases count with
  | zero => rfl
  | succ count =>
    rw [List.length_nil, Nat.zero_add, tokensUpTo, List.dropWhile_append_of_pos blank, tokensUpTo]
    simp

theorem tokensUpTo_cons {c : Char} (solid : isGap c = false) (count : Nat) (rest : List Char) :
    tokensUpTo limit (count + 1) (c :: rest) =
      (firstToken? limit c rest).bind fun found =>
        (tokensUpTo limit count found.2).map (found.1 :: ·) := by
  have kept : (c :: rest).dropWhile isGap = c :: rest := by simp [solid]
  rw [tokensUpTo, kept]
  dsimp only
  cases firstToken? limit c rest with
  | none => rfl
  | some found =>
    simp only [Option.bind_eq_bind, Option.bind_some]
    cases tokensUpTo limit count found.2 <;> rfl

theorem lexes_mark {c : Char} {mark : Token} (solid : isGap c = false)
    (found : mark? c = some mark) :
    Lexes limit [c] [mark] := by
  intro count rest
  rw [List.length_singleton, Nat.add_comm, List.singleton_append, tokensUpTo_cons solid]
  simp [firstToken?, found]

theorem lexes_quoted (value : String) :
    Lexes limit (quoteText value).toList [.quoted value] := by
  intro count rest
  have text : (quoteText value).toList = '"' :: (value.toList.flatMap escapeChar ++ ['"']) := by
    rw [quoteText, String.toList_ofList]
    rfl
  have solid : isGap '"' = false := by decide
  have first : firstToken? limit '"' (value.toList.flatMap escapeChar ++ '"' :: rest) =
      some (.quoted value, rest) := by
    have mark : mark? '"' = none := rfl
    simp [firstToken?, mark, takeUnits_escaped, joinUnits_flatMap]
  rw [List.length_singleton, Nat.add_comm, text, List.cons_append, List.append_assoc,
    List.singleton_append, tokensUpTo_cons solid, first]
  rfl

/-- A word that is an atom. -/
theorem spells_atom {c : Char} {others : List Char} {value : Json}
    (solid : isGap c = false) (unmarked : mark? c = none) (unquoted : c ≠ '"')
    (word : ∀ d ∈ c :: others, isAtomChar d = true)
    (atom : atom? limit (c :: others) = some value) :
    Spells limit (c :: others) [.atom value] := by
  intro count rest stops
  obtain ⟨own, inner⟩ := List.forall_mem_cons.mp word
  have none : rest.takeWhile isAtomChar = [] ∧ rest.dropWhile isAtomChar = rest := by
    cases rest with
    | nil => exact ⟨rfl, rfl⟩
    | cons d tail => simp [stops d tail rfl]
  have taken : (others ++ rest).takeWhile isAtomChar = others := by
    rw [List.takeWhile_append_of_pos inner, none.1, List.append_nil]
  have left : (others ++ rest).dropWhile isAtomChar = rest := by
    rw [List.dropWhile_append_of_pos inner, none.2]
  have first : firstToken? limit c (others ++ rest) = some (.atom value, rest) := by
    simp [firstToken?, unmarked, unquoted, own, taken, left, atom]
  rw [List.length_singleton, Nat.add_comm, List.cons_append, tokensUpTo_cons solid, first]
  rfl

/-! ## Numbers -/

theorem takeDigits_append {front : List Char} {values : List Nat}
    (h : takeDigits front = (values, [])) (more : List Char) :
    takeDigits (front ++ more) = (values ++ (takeDigits more).1, (takeDigits more).2) := by
  induction front generalizing values with
  | nil =>
    obtain ⟨rfl, -⟩ := Prod.mk.inj h
    rfl
  | cons c rest ih =>
    rw [takeDigits] at h
    rw [List.cons_append, takeDigits]
    cases digit : asciiDigit? c with
    | none =>
      rw [digit] at h
      cases (Prod.mk.inj h).2
    | some value =>
      rw [digit] at h
      obtain ⟨rfl, left⟩ := Prod.mk.inj h
      dsimp only
      rw [ih (Prod.ext rfl left)]
      rfl

theorem asciiDigit?_digitChar {value : Nat} (h : value < 10) :
    asciiDigit? value.digitChar = some value := by
  decide +revert

/-- The digits of a number have its value, and no zero stands in front of them. -/
theorem takeDigits_toDigits (number : Nat) :
    ∃ values, takeDigits (Nat.toDigits 10 number) = (values, []) ∧ ofDigits values = number ∧
      values.length = (Nat.toDigits 10 number).length ∧ (values.head? = some 0 → number = 0) := by
  induction number using Nat.strongRecOn with
  | _ number ih =>
    by_cases small : number < 10
    · rw [Nat.toDigits_of_lt_base small]
      refine ⟨[number], ?_, by simp [ofDigits], rfl, fun zero => by simpa using zero⟩
      simp [takeDigits, asciiDigit?_digitChar small]
    · obtain ⟨values, taken, value, length, leading⟩ :=
        ih (number / 10) (Nat.div_lt_self (by omega) (by decide))
      have last : takeDigits [(number % 10).digitChar] = ([number % 10], []) := by
        simp [takeDigits, asciiDigit?_digitChar (Nat.mod_lt number (by decide))]
      rw [Nat.toDigits_of_base_le (by decide) (Nat.le_of_not_lt small)]
      refine ⟨values ++ [number % 10], ?_, ?_, ?_, ?_⟩
      · rw [takeDigits_append taken, last]
      · rw [ofDigits, List.foldl_append, ← ofDigits, value]
        simp only [List.foldl_cons, List.foldl_nil]
        omega
      · simp [length]
      · intro zero
        cases values with
        | nil => exact absurd length.symm (Nat.ne_of_gt Nat.length_toDigits_pos)
        | cons first others =>
          have none := leading zero
          omega

theorem number?_toDigits {number : Nat} (short : (Nat.toDigits 10 number).length ≤ limit) :
    number? limit false (Nat.toDigits 10 number) = some (.whole number) := by
  obtain ⟨values, taken, value, length, leading⟩ := takeDigits_toDigits number
  have filled : values.isEmpty = false := by
    rw [List.isEmpty_eq_false_iff, ← List.length_pos_iff, length]
    exact Nat.length_toDigits_pos
  have single : values.head? = some 0 → values.length = 1 := by
    intro zero
    rw [length, leading zero]
    rfl
  have enough : ¬limit < values.length := by omega
  simp [number?, taken, filled, enough, value]
  exact single

theorem solid_of_isDigit {c : Char} (h : c.isDigit = true) :
    isGap c = false ∧ mark? c = none ∧ c ≠ '"' ∧ isAtomChar c = true := by
  refine ⟨?_, ?_, ?_, by simp [isAtomChar, Char.isAlphanum, h]⟩
  · rw [Bool.eq_false_iff]
    intro gap
    simp only [isGap, List.mem_cons, List.not_mem_nil, or_false, decide_eq_true_eq] at gap
    rcases gap with rfl | rfl | rfl | rfl <;> cases h
  · unfold mark?
    split <;> first | rfl | cases h
  · rintro rfl
    cases h

/-- Digits are no word that has a meaning of its own. -/
theorem atom?_digits {chars : List Char} (digit : ∀ c ∈ chars, c.isDigit = true) :
    atom? limit chars = number? limit false chars := by
  have other (word : String) (strange : word.toList.all Char.isDigit = false) :
      String.ofList chars ≠ word := by
    rintro rfl
    rw [String.toList_ofList, List.all_eq_true.mpr digit] at strange
    cases strange
  unfold atom?
  split
  case h_7 =>
    split
    · cases digit '-' List.mem_cons_self
    · rfl
  -- The words.
  all_goals
    next same => exact absurd same (other _ (by decide))

/-- A number as it is printed is an atom. -/
theorem spells_number {number : Nat} (short : (Nat.toDigits 10 number).length ≤ limit) :
    Spells limit (Nat.toDigits 10 number) [.atom (.whole number)] := by
  have read := number?_toDigits short
  have digit : ∀ c ∈ Nat.toDigits 10 number, c.isDigit = true := fun c member =>
    Nat.isDigit_of_mem_toDigits (by decide) (by decide) member
  rw [← atom?_digits digit] at read
  generalize Nat.toDigits 10 number = chars at read digit
  cases chars with
  | nil => cases read
  | cons c others =>
    obtain ⟨solid, unmarked, unquoted, -⟩ := solid_of_isDigit (digit c List.mem_cons_self)
    exact spells_atom solid unmarked unquoted
      (fun d member => (solid_of_isDigit (digit d member)).2.2.2) read

end Tokens

/-! ## Characters and tokens -/

/-- A unit read before others leaves what they leave. -/
theorem takeUnits_of_cons {unit : Nat} {others rest : List Char} {units : List Nat}
    (h : (do
      let (found, tail) ← takeUnits others
      return (unit :: found, tail)) = some (units, rest)) :
    ∃ found, takeUnits others = some (found, rest) := by
  obtain ⟨⟨found, tail⟩, taken, same⟩ := Option.bind_eq_some_iff.mp h
  cases same
  exact ⟨found, taken⟩

theorem takeUnits_length {text rest : List Char} {units : List Nat}
    (h : takeUnits text = some (units, rest)) : rest.length < text.length := by
  fun_induction takeUnits text generalizing units rest
  case case1 => cases h
  case case2 others =>
    cases h
    exact Nat.lt_succ_self _
  case case3 a b c d others ih =>
    obtain ⟨high, -, h⟩ := Option.bind_eq_some_iff.mp h
    obtain ⟨upper, -, h⟩ := Option.bind_eq_some_iff.mp h
    obtain ⟨lower, -, h⟩ := Option.bind_eq_some_iff.mp h
    obtain ⟨low, -, h⟩ := Option.bind_eq_some_iff.mp h
    obtain ⟨found, taken⟩ := takeUnits_of_cons h
    have shorter := ih taken
    simp only [List.length_cons]
    omega
  case case12 => cases h
  case case13 => cases h
  case case14 c others _ _ _ _ ih =>
    obtain ⟨found, taken⟩ := takeUnits_of_cons h
    exact Nat.lt_succ_of_lt (ih taken)
  -- The characters that are escaped by a letter.
  all_goals
    next ih =>
      obtain ⟨found, taken⟩ := takeUnits_of_cons h
      have shorter := ih taken
      simp only [List.length_cons]
      omega

theorem firstToken?_length {limit : Nat} {c : Char} {rest tail : List Char} {token : Token}
    (h : firstToken? limit c rest = some (token, tail)) : tail.length ≤ rest.length := by
  unfold firstToken? at h
  split at h
  · cases h
    exact Nat.le_refl _
  · split at h
    · obtain ⟨⟨units, left⟩, taken, found⟩ := Option.bind_eq_some_iff.mp h
      obtain ⟨chars, -, same⟩ := Option.bind_eq_some_iff.mp found
      cases same
      exact Nat.le_of_lt (takeUnits_length taken)
    · split at h
      · obtain ⟨value, -, same⟩ := Option.bind_eq_some_iff.mp h
        cases same
        exact (List.dropWhile_suffix _).length_le
      · cases h

/-- Each token takes a character at least. -/
theorem tokensUpTo_length {limit count : Nat} {text : List Char} {tokens : List Token}
    (h : tokensUpTo limit count text = some tokens) : tokens.length ≤ text.length := by
  induction count generalizing text tokens with
  | zero => cases h
  | succ count ih =>
    have shorter : (text.dropWhile isGap).length ≤ text.length :=
      (List.dropWhile_suffix _).length_le
    unfold tokensUpTo at h
    split at h
    · cases h
      exact Nat.zero_le _
    · next c rest kept =>
      obtain ⟨⟨token, tail⟩, first, found⟩ := Option.bind_eq_some_iff.mp h
      obtain ⟨others, later, same⟩ := Option.bind_eq_some_iff.mp found
      cases same
      have own := firstToken?_length first
      have more := ih later
      rw [kept] at shorter
      simp only [List.length_cons] at shorter ⊢
      omega

end TestBench.Json
