import Mathlib.Data.List.Forall2
import Mathlib.Data.List.TakeWhile
import TestBench.Proofs.Json.Fields
import TestBench.Proofs.Json.Tokens

/-!
Printed JSON is read back. A value has tokens; its text is taken apart into them, and they are put
together to the value again.

- `tokensOf`: the tokens of a value,
- `Legible`: values that a reader takes whose limits for digits and depth are given,
- `Legible.spells`: the printed text of a value has its tokens,
- `Legible.takes`: the tokens of a value give the value,
- `read?_indented`: reading the printed text.
-/
namespace TestBench.Json
set_option autoImplicit false

mutual

/-- The tokens of a value. -/
def tokensOf : Json → List Token
  | text value => [.quoted value]
  | array items => .beginArray :: [Token.comma].intercalate (itemTokens items) ++ [.endArray]
  | object fields => .beginObject :: [Token.comma].intercalate (fieldTokens fields) ++ [.endObject]
  | value => [.atom value]

def itemTokens : List Json → List (List Token)
  | [] => []
  | item :: items => tokensOf item :: itemTokens items

def fieldTokens : List (String × Json) → List (List Token)
  | [] => []
  | (name, value) :: fields => (.quoted name :: .colon :: tokensOf value) :: fieldTokens fields

end

/-- A value whose numbers are natural and have at most `limit` digits, whose objects repeat no name
and whose containers lie at most so many deep. -/
inductive Legible (limit : Nat) : Nat → Json → Prop where
  | null {depth : Nat} : Legible limit depth null
  | bool {depth : Nat} (value : Bool) : Legible limit depth (bool value)
  | number {depth number : Nat} (short : (Nat.toDigits 10 number).length ≤ limit) :
      Legible limit depth (whole number)
  | text {depth : Nat} (value : String) : Legible limit depth (text value)
  | array {depth : Nat} {items : List Json} (inside : ∀ item ∈ items, Legible limit depth item) :
      Legible limit (depth + 1) (array items)
  | object {depth : Nat} {fields : List (String × Json)} (distinct : (names fields).Nodup)
      (inside : ∀ field ∈ fields, Legible limit depth field.2) :
      Legible limit (depth + 1) (object fields)

/-! ## From text to tokens -/

section Text
variable {limit : Nat}

/-- The lines of a block and the tokens of each of them. -/
abbrev SpellsEach (limit : Nat) : List String → List (List Token) → Prop :=
  List.Forall₂ fun line group => Spells limit line.toList group

theorem lexes_comma {margin : List Char} (blank : ∀ c ∈ margin, isGap c = true) :
    Lexes limit (',' :: margin) [.comma] :=
  (lexes_mark (c := ',') (by decide) rfl).append (lexes_gap blank)

theorem spells_lines {margin : List Char} (blank : ∀ c ∈ margin, isGap c = true) {line : String}
    {group : List Token} {lines : List String} {groups : List (List Token)}
    (first : Spells limit line.toList group) (others : SpellsEach limit lines groups) :
    Spells limit ((',' :: margin).intercalate ((line :: lines).map String.toList))
      ([Token.comma].intercalate (group :: groups)) := by
  induction others generalizing line group with
  | nil => simpa using first
  | @cons line' group' lines groups second _ ih =>
    rw [List.map_cons, List.map_cons, List.intercalate_cons_cons, List.intercalate_cons_cons,
      ← List.map_cons]
    exact (first.append (by decide) (lexes_comma blank)).append_spells (ih second)

theorem lexes_block {level : Nat} {first last : Char} {opening closing : Token}
    (opens : isGap first = false ∧ mark? first = some opening)
    (closes : isGap last = false ∧ mark? last = some closing)
    {lines : List String} {groups : List (List Token)} (spelt : SpellsEach limit lines groups) :
    Lexes limit (block level (String.singleton first) (String.singleton last) lines).toList
      (opening :: [Token.comma].intercalate groups ++ [closing]) := by
  have start : Lexes limit [first] [opening] := lexes_mark opens.1 opens.2
  have stop : Lexes limit [last] [closing] := lexes_mark closes.1 closes.2
  cases spelt with
  | nil => simpa [block] using start.append stop
  | @cons line group lines groups own others =>
    have blank (count : Nat) : ∀ c ∈ '\n' :: List.replicate (2 * count) ' ', isGap c = true := by
      intro c member
      rcases List.mem_cons.mp member with rfl | member
      · decide
      · rw [List.eq_of_mem_replicate member]
        decide
    have inner := spells_lines (blank (level + 1)) own others
    have finish := (lexes_gap (blank level)).append stop
    have all := start.append ((lexes_gap (blank (level + 1))).append
      (inner.append (by decide) finish))
    simpa [block, String.toList_intercalate] using all

theorem spellsEach_items {level : Nat} {items : List Json}
    (spelt : ∀ item ∈ items, Spells limit (indentedAt level item).toList (tokensOf item)) :
    SpellsEach limit (indentedItems level items) (itemTokens items) := by
  induction items with
  | nil => exact .nil
  | cons item others ih =>
    obtain ⟨first, later⟩ := List.forall_mem_cons.mp spelt
    exact .cons first (ih later)

theorem spellsEach_fields {level : Nat} {fields : List (String × Json)}
    (spelt : ∀ field ∈ fields, Spells limit (indentedAt level field.2).toList (tokensOf field.2)) :
    SpellsEach limit (indentedFields level fields) (fieldTokens fields) := by
  induction fields with
  | nil => exact .nil
  | cons field others ih =>
    obtain ⟨first, later⟩ := List.forall_mem_cons.mp spelt
    obtain ⟨name, value⟩ := field
    have blank : ∀ c ∈ [' '], isGap c = true := by simp [isGap]
    have colon : Lexes limit [':', ' '] [.colon] :=
      (lexes_mark (c := ':') (by decide) rfl).append (lexes_gap blank)
    have line := ((lexes_quoted name).append colon).append_spells first
    refine .cons ?_ (ih later)
    simpa using line

/-- The printed text of a value is taken apart into its tokens. -/
theorem Legible.spells {depth : Nat} {value : Json} (legible : Legible limit depth value)
    (level : Nat) : Spells limit (indentedAt level value).toList (tokensOf value) := by
  induction legible generalizing level with
  | null =>
    have shown : indentedAt level .null = "null" := rfl
    have word : ∀ d ∈ ['n', 'u', 'l', 'l'], isAtomChar d = true := by simp [isAtomChar]
    rw [shown]
    exact spells_atom (by decide) rfl (by decide) word rfl
  | bool value =>
    cases value with
    | true =>
      have shown : indentedAt level (.bool true) = "true" := rfl
      have word : ∀ d ∈ ['t', 'r', 'u', 'e'], isAtomChar d = true := by simp [isAtomChar]
      rw [shown]
      exact spells_atom (by decide) rfl (by decide) word rfl
    | false =>
      have shown : indentedAt level (.bool false) = "false" := rfl
      have word : ∀ d ∈ ['f', 'a', 'l', 's', 'e'], isAtomChar d = true := by simp [isAtomChar]
      rw [shown]
      exact spells_atom (by decide) rfl (by decide) word rfl
  | @number _ number short =>
    have shown : (indentedAt level (whole number)).toList = Nat.toDigits 10 number := by
      rw [indentedAt, inline]
      · exact Nat.toList_repr
      · simp
      · simp
    rw [shown]
    exact spells_number short
  | text value => exact (lexes_quoted value).spells
  | array _ ih =>
    have opens : isGap '[' = false ∧ mark? '[' = some .beginArray := ⟨by decide, rfl⟩
    have closes : isGap ']' = false ∧ mark? ']' = some .endArray := ⟨by decide, rfl⟩
    have each := spellsEach_items fun item member => ih item member (level + 1)
    exact (lexes_block opens closes each).spells
  | object _ _ ih =>
    have opens : isGap '\x7b' = false ∧ mark? '\x7b' = some .beginObject := ⟨by decide, rfl⟩
    have closes : isGap '\x7d' = false ∧ mark? '\x7d' = some .endObject := ⟨by decide, rfl⟩
    have each := spellsEach_fields fun field member => ih field member (level + 1)
    exact (lexes_block opens closes each).spells

end Text

/-! ## From tokens to values -/

section Values
variable {limit steps depth : Nat} {rest : List Token}

/-- A value does not begin with the end of an array. -/
theorem tokensOf_begins (value : Json) :
    ∃ first others, tokensOf value = first :: others ∧ first ≠ .endArray := by
  cases value <;> exact ⟨_, _, rfl, Token.noConfusion⟩

theorem takeValue_array (filled : ∀ tail, rest ≠ .endArray :: tail) :
    takeValue (steps + 1) (depth + 1) (.beginArray :: rest) =
      (takeItems steps depth rest).map fun found => (array found.1, found.2) := by
  rw [takeValue]
  · cases takeItems steps depth rest <;> rfl
  · exact filled

theorem takeValue_object (filled : ∀ tail, rest ≠ .endObject :: tail) :
    takeValue (steps + 1) (depth + 1) (.beginObject :: rest) =
      (takeFields steps depth [] rest).map fun found => (object found.1, found.2) := by
  rw [takeValue]
  · cases takeFields steps depth [] rest <;> rfl
  · exact filled

/-- The tokens of a value give the value, in as many steps as there are tokens. -/
def Takes (depth : Nat) (value : Json) : Prop :=
  ∀ steps rest, (tokensOf value).length ≤ steps →
    takeValue steps depth (tokensOf value ++ rest) = some (value, rest)

/-- The groups of tokens of a container that holds something. -/
theorem intercalate_comma (first next : List Token) (groups : List (List Token)) :
    [Token.comma].intercalate (first :: next :: groups) =
      first ++ .comma :: [Token.comma].intercalate (next :: groups) := by
  simp [List.intercalate_cons_cons]

theorem intercalate_begins (first : Token) (others : List Token) (groups : List (List Token)) :
    ∃ more, [Token.comma].intercalate ((first :: others) :: groups) = first :: more := by
  cases groups with
  | nil => exact ⟨others, List.intercalate_singleton⟩
  | cons next groups => exact ⟨_, intercalate_comma (first :: others) next groups⟩

/-- The tokens of items do not begin with the end of their array. -/
theorem items_begin (item : Json) (others : List Json) (tail : List Token) :
    [Token.comma].intercalate (itemTokens (item :: others)) ++ rest ≠ .endArray :: tail := by
  obtain ⟨first, inner, tokens, other⟩ := tokensOf_begins item
  obtain ⟨more, begins⟩ := intercalate_begins first inner (itemTokens others)
  rw [itemTokens, tokens, begins]
  exact fun same => other (List.cons.inj same).1

theorem fields_begin (field : String × Json) (others : List (String × Json)) (tail : List Token) :
    [Token.comma].intercalate (fieldTokens (field :: others)) ++ rest ≠ .endObject :: tail := by
  obtain ⟨more, begins⟩ := intercalate_begins (.quoted field.1) (.colon :: tokensOf field.2)
    (fieldTokens others)
  rw [fieldTokens, begins]
  exact fun same => Token.noConfusion (List.cons.inj same).1

theorem takeItems_tokens {item : Json} {others : List Json}
    (each : ∀ item' ∈ item :: others, Takes depth item')
    (enough : ([Token.comma].intercalate (itemTokens (item :: others))).length < steps) :
    takeItems steps depth
        ([Token.comma].intercalate (itemTokens (item :: others)) ++ .endArray :: rest) =
      some (item :: others, rest) := by
  induction others generalizing item steps with
  | nil =>
    obtain ⟨steps, rfl⟩ := Nat.exists_eq_succ_of_ne_zero (Nat.ne_zero_of_lt enough)
    simp only [itemTokens, List.intercalate_singleton] at enough ⊢
    rw [takeItems, each item List.mem_cons_self steps _ (Nat.le_of_lt_succ enough)]
    rfl
  | cons next others ih =>
    obtain ⟨steps, rfl⟩ := Nat.exists_eq_succ_of_ne_zero (Nat.ne_zero_of_lt enough)
    obtain ⟨first, later⟩ := List.forall_mem_cons.mp each
    rw [itemTokens, itemTokens, intercalate_comma, ← itemTokens] at enough ⊢
    rw [List.length_append, List.length_cons] at enough
    rw [List.append_assoc, takeItems, first steps _ (by omega)]
    have more : ([Token.comma].intercalate (itemTokens (next :: others))).length < steps := by omega
    simp [ih later more]

theorem absent_of_nodup {before others : List (String × Json)} {field : String × Json}
    (different : (names (before ++ field :: others)).Nodup) : field.1 ∉ names before := by
  rw [names, List.map_append, List.map_cons, List.nodup_append] at different
  exact fun member => different.2.2 _ member _ List.mem_cons_self rfl

theorem takeFields_tokens {before : List (String × Json)} {field : String × Json}
    {others : List (String × Json)} (each : ∀ field' ∈ field :: others, Takes depth field'.2)
    (different : (names (before ++ field :: others)).Nodup)
    (enough : ([Token.comma].intercalate (fieldTokens (field :: others))).length < steps) :
    takeFields steps depth before
        ([Token.comma].intercalate (fieldTokens (field :: others)) ++ .endObject :: rest) =
      some (before ++ field :: others, rest) := by
  induction others generalizing before field steps with
  | nil =>
    obtain ⟨steps, rfl⟩ := Nat.exists_eq_succ_of_ne_zero (Nat.ne_zero_of_lt enough)
    obtain ⟨name, value⟩ := field
    have put := putField_absent (absent_of_nodup different) value
    have first := each (name, value) List.mem_cons_self
    simp only [fieldTokens, List.intercalate_singleton, List.cons_append, List.length_cons]
      at enough ⊢
    rw [takeFields, first steps _ (by dsimp only; omega)]
    simp [put]
  | cons next others ih =>
    obtain ⟨steps, rfl⟩ := Nat.exists_eq_succ_of_ne_zero (Nat.ne_zero_of_lt enough)
    obtain ⟨name, value⟩ := field
    obtain ⟨name', value'⟩ := next
    obtain ⟨first, later⟩ := List.forall_mem_cons.mp each
    have put := putField_absent (absent_of_nodup different) value
    rw [List.append_cons] at different
    rw [fieldTokens, fieldTokens, intercalate_comma, ← fieldTokens] at enough ⊢
    simp only [List.length_append, List.length_cons] at enough
    rw [List.append_assoc, List.cons_append, List.cons_append, takeFields,
      first steps _ (by dsimp only; omega)]
    have more :
        ([Token.comma].intercalate (fieldTokens ((name', value') :: others))).length < steps := by
      omega
    simp only [put, ih later different more, Option.bind_eq_bind, Option.bind_some,
      List.cons_append, ← List.append_cons]

/-- The tokens of a value give the value. -/
theorem Legible.takes {value : Json} (legible : Legible limit depth value) :
    Takes depth value := by
  induction legible with
  | @array depth items inside ih =>
    intro steps rest enough
    obtain ⟨steps, rfl⟩ := Nat.exists_eq_succ_of_ne_zero (Nat.ne_zero_of_lt enough)
    cases items with
    | nil => rfl
    | cons item others =>
      simp only [tokensOf, List.length_append, List.length_cons, List.length_nil, List.cons_append,
        List.append_assoc, List.nil_append] at enough ⊢
      rw [takeValue_array (items_begin item others), takeItems_tokens ih (by omega)]
      rfl
  | @object depth fields different inside ih =>
    intro steps rest enough
    obtain ⟨steps, rfl⟩ := Nat.exists_eq_succ_of_ne_zero (Nat.ne_zero_of_lt enough)
    cases fields with
    | nil => rfl
    | cons field others =>
      simp only [tokensOf, List.length_append, List.length_cons, List.length_nil, List.cons_append,
        List.append_assoc, List.nil_append] at enough ⊢
      rw [takeValue_object (fields_begin field others), takeFields_tokens ih different (by omega)]
      rfl
  -- The others are a token each.
  | _ =>
    intro steps rest enough
    obtain ⟨steps, rfl⟩ := Nat.exists_eq_succ_of_ne_zero (Nat.ne_zero_of_lt enough)
    rfl

end Values

/-! ## From text to values -/

theorem stops_gap {c : Char} (h : isGap c = true) : isAtomChar c = false := by
  simp only [isGap, List.mem_cons, List.not_mem_nil, or_false, decide_eq_true_eq] at h
  rcases h with rfl | rfl | rfl | rfl <;> rfl

/-- A printed value with blanks after it is read back, whatever the limits of the reader are, if the
value keeps to them. -/
theorem read?_indented {limit depth : Nat} {value : Json} (legible : Legible limit depth value)
    {gap : String} (blank : ∀ c ∈ gap.toList, isGap c = true) :
    read? limit depth (value.indented ++ gap) = some value := by
  have stops : Stops gap.toList := by
    intro c tail same
    exact stops_gap (blank c (same ▸ List.mem_cons_self))
  have nothing (count : Nat) : tokensUpTo limit (count + 1) gap.toList = some [] := by
    have dropped : gap.toList.dropWhile isGap = [] :=
      List.dropWhile_eq_nil_iff.mpr blank
    rw [tokensUpTo, dropped]
  have taken (count : Nat) : tokensUpTo limit ((tokensOf value).length + (count + 1))
      (value.indented ++ gap).toList = some (tokensOf value) := by
    rw [String.toList_append, indented, legible.spells 0 _ _ stops, nothing]
    simp
  -- A text has as many characters as tokens, so all of them are read.
  obtain ⟨count, size⟩ := Nat.exists_eq_add_of_le (tokensUpTo_length (taken 0))
  have tokens : tokens? limit (value.indented ++ gap) = some (tokensOf value) := by
    rw [tokens?, size, Nat.add_assoc]
    exact taken count
  have whole := legible.takes (2 * (tokensOf value).length + 2) [] (by omega)
  rw [List.append_nil] at whole
  simp [read?, tokens, whole]

end TestBench.Json
