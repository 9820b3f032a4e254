import Mathlib.Data.List.TakeWhile
import TestBench.Discovery.Package

/-!
Package declarations as they are written.

- `Declares`: what a declaration is made of,
- `declaredHere?_of_declares` and `declares_of_declaredHere?`: a declaration is found at the front of a
  text if it stands there, and nothing else is,
- `Declares.declaredHere?`: no declaration begins in one text and ends in another declaration.
-/
namespace TestBench
set_option autoImplicit false

/-! ## Characters -/

namespace Text

/-- No range of the one list meets a range of the other. -/
def apart (ranges others : List (Nat × Nat)) : Bool :=
  ranges.all fun range => others.all fun other => range.2 < other.1 || other.2 < range.1

theorem not_inRanges_of_apart {ranges others : List (Nat × Nat)} (h : apart ranges others = true)
    {c : Char} (inside : inRanges ranges c = true) : inRanges others c = false := by
  rw [Bool.eq_false_iff]
  intro also
  obtain ⟨range, member, low, high⟩ := (inRanges_iff ranges c).mp inside
  obtain ⟨other, member', low', high'⟩ := (inRanges_iff others c).mp also
  have split := List.all_eq_true.mp (List.all_eq_true.mp h range member) other member'
  simp only [Bool.or_eq_true, decide_eq_true_eq] at split
  omega

theorem isBlank_eq (c : Char) : isBlank c = inRanges (spaceRanges ++ [(0x1c, 0x1f)]) c := by
  simp [isBlank, isSpace, inRanges]

theorem wordRanges_apart : apart wordRanges (spaceRanges ++ [(0x1c, 0x1f)]) = true := by
  decide +kernel

theorem inRanges_of_isAlphanum {c : Char} (h : c.isAlphanum = true) :
    inRanges [(0x30, 0x39), (0x41, 0x5a), (0x61, 0x7a)] c = true := by
  have h : (decide (c.val ≥ 65 ∧ c.val ≤ 90) || (decide (c.val ≥ 97) && decide (c.val ≤ 122)) ||
      (decide (c.val ≥ 48) && decide (c.val ≤ 57))) = true := h
  simp only [Bool.or_eq_true, Bool.and_eq_true, decide_eq_true_eq, UInt32.le_iff_toNat_le,
    ge_iff_le] at h
  simp only [inRanges, List.any_cons, List.any_nil, Bool.or_false, Bool.or_eq_true,
    Bool.and_eq_true, decide_eq_true_eq]
  rcases h with (upper | lower) | digit
  · exact .inr (.inl upper)
  · exact .inr (.inr lower)
  · exact .inl digit

theorem not_isBlank_of_isWordChar {c : Char} (h : isWordChar c = true) : isBlank c = false := by
  simp only [isWordChar, Bool.or_eq_true, beq_iff_eq, Bool.and_eq_true] at h
  rcases h with (alphanumeric | rfl) | ⟨-, inside⟩
  · rw [isBlank_eq]
    exact not_inRanges_of_apart (by decide) (inRanges_of_isAlphanum alphanumeric)
  · decide
  · rw [isBlank_eq]
    exact not_inRanges_of_apart wordRanges_apart inside

end Text

namespace Package
open Text (isBlank isWordChar)

theorem not_isBlank_of_isNameChar {c : Char} (h : isNameChar c = true) : isBlank c = false := by
  simp only [isNameChar, Bool.or_eq_true, beq_iff_eq] at h
  rcases h with word | rfl
  · exact Text.not_isBlank_of_isWordChar word
  · decide

theorem not_isNameChar_of_isBlank {c : Char} (h : isBlank c = true) : isNameChar c = false := by
  rw [Bool.eq_false_iff]
  intro name
  rw [not_isBlank_of_isNameChar name] at h
  cases h

/-! ## What a declaration is made of -/

/-- The word that a declaration begins with. -/
def keyword : List Char := "package".toList

theorem keyword_letters : ∀ c ∈ keyword, isNameChar c = true :=
  List.all_eq_true.mp (by decide +kernel)

/-- Blanks, a name, blanks and a semicolon. `rest` is what follows. -/
def Names (text name rest : List Char) : Prop :=
  ∃ gap space, text = gap ++ (name ++ (space ++ ';' :: rest)) ∧
    gap ≠ [] ∧ (∀ c ∈ gap, isBlank c = true) ∧
    name ≠ [] ∧ (∀ c ∈ name, isNameChar c = true) ∧
    ∀ c ∈ space, isBlank c = true

/-- A text begins with a declaration of a name. -/
def Declares (text name rest : List Char) : Prop :=
  ∃ after, text = keyword ++ after ∧ Names after name rest

/-- A name that is closed by a semicolon. -/
def closed? (name : String) : List Char → Option String
  | ';' :: _ => some name
  | _ => none

theorem closed?_eq (name : String) (text : List Char) :
    closed? name text = if text.head? = some ';' then some name else none := by
  unfold closed?
  split
  · rfl
  · next other =>
    cases text with
    | nil => rfl
    | cons c rest => exact (if_neg fun first => other rest (by rw [Option.some.inj first])).symm

/-- What a text names that stands behind the word. -/
def nameAfter? (text : List Char) : Option String :=
  let afterGap := text.dropWhile isBlank
  let name := afterGap.takeWhile isNameChar
  if text.length = afterGap.length ∨ name.isEmpty then none
  else closed? (String.ofList name) ((afterGap.dropWhile isNameChar).dropWhile isBlank)

theorem declaredHere?_eq (text : List Char) :
    declaredHere? text = (dropWord? keyword (text.dropWhile isBlank)).bind nameAfter? :=
  rfl

theorem dropWord?_eq_some {word text rest : List Char} :
    dropWord? word text = some rest ↔ text = word ++ rest := by
  unfold dropWord?
  split
  · next front =>
    obtain ⟨tail, rfl⟩ := List.isPrefixOf_iff_prefix.mp front
    rw [List.drop_left]
    simp [eq_comm]
  · next other =>
    refine ⟨nofun, ?_⟩
    rintro rfl
    exact absurd (List.isPrefixOf_iff_prefix.mpr (List.prefix_append word rest)) other

/-- The first characters of a text that satisfy a condition, and what comes after them. -/
theorem span_append {p : Char → Bool} {front rest : List Char} (all : ∀ c ∈ front, p c = true)
    (ends : ∀ c ∈ rest.head?, p c = false) :
    (front ++ rest).takeWhile p = front ∧ (front ++ rest).dropWhile p = rest := by
  rw [List.takeWhile_append_of_pos all, List.dropWhile_append_of_pos all]
  cases rest with
  | nil => simp
  | cons c tail => simp [ends c rfl]

/-- A text whose first characters with a condition end in it ends them in front of any other. -/
theorem span_append_left {p : Char → Bool} {front : List Char} (ends : ¬∀ c ∈ front, p c = true)
    (rest : List Char) :
    (front ++ rest).takeWhile p = front.takeWhile p ∧
      (front ++ rest).dropWhile p = front.dropWhile p ++ rest := by
  have left : front.dropWhile p ≠ [] := by
    rwa [ne_eq, List.dropWhile_eq_nil_iff]
  have shorter : (front.takeWhile p).length ≠ front.length := by
    intro full
    have sum := congrArg List.length (List.takeWhile_append_dropWhile (p := p) (l := front))
    rw [List.length_append, full, Nat.add_eq_left, List.length_eq_zero_iff] at sum
    exact left sum
  rw [List.takeWhile_append, if_neg shorter, List.dropWhile_append, if_neg (by simpa using left)]
  exact ⟨rfl, rfl⟩

theorem head?_name {name : List Char} (filled : name ≠ [])
    (whole : ∀ c ∈ name, isNameChar c = true) (more : List Char) : ∀ c ∈ (name ++ more).head?, isBlank c = false := by
  obtain ⟨c, others, rfl⟩ := List.exists_cons_of_ne_nil filled
  intro d first
  cases first
  exact not_isBlank_of_isNameChar (whole c List.mem_cons_self)

theorem dropWhile_gap {gap name : List Char} (blank : ∀ c ∈ gap, isBlank c = true)
    (filled : name ≠ []) (whole : ∀ c ∈ name, isNameChar c = true) (more : List Char) :
    (gap ++ (name ++ more)).dropWhile isBlank = name ++ more :=
  (span_append blank (head?_name filled whole more)).2

theorem span_word {word gap : List Char} (whole : ∀ c ∈ word, isNameChar c = true)
    (something : gap ≠ []) (blank : ∀ c ∈ gap, isBlank c = true) (more : List Char) :
    (word ++ (gap ++ more)).takeWhile isNameChar = word ∧
      (word ++ (gap ++ more)).dropWhile isNameChar = gap ++ more := by
  obtain ⟨b, others, rfl⟩ := List.exists_cons_of_ne_nil something
  refine span_append whole fun d first => ?_
  cases first
  exact not_isNameChar_of_isBlank (blank b List.mem_cons_self)

theorem span_name {name space : List Char} (whole : ∀ c ∈ name, isNameChar c = true)
    (blank : ∀ c ∈ space, isBlank c = true) (rest : List Char) :
    (name ++ (space ++ ';' :: rest)).takeWhile isNameChar = name ∧
      (name ++ (space ++ ';' :: rest)).dropWhile isNameChar = space ++ ';' :: rest := by
  cases space with
  | nil =>
    refine span_append whole fun d first => ?_
    cases first
    decide +kernel
  | cons b others => exact span_word whole (List.cons_ne_nil b others) blank _

theorem dropWhile_space {space : List Char} (blank : ∀ c ∈ space, isBlank c = true)
    (rest : List Char) :
    (space ++ ';' :: rest).dropWhile isBlank = ';' :: rest := by
  refine (span_append blank fun d first => ?_).2
  cases first
  decide

theorem Names.nameAfter? {text name rest : List Char} (h : Names text name rest) :
    nameAfter? text = some (String.ofList name) := by
  obtain ⟨gap, space, rfl, something, blank, filled, whole, blank'⟩ := h
  have named := span_name whole blank' rest
  have longer : 0 < gap.length := List.length_pos_iff.mpr something
  simp only [Package.nameAfter?]
  rw [dropWhile_gap blank filled whole, named.1, named.2, dropWhile_space blank', closed?_eq, if_neg]
  · rfl
  · simp only [List.length_append, List.isEmpty_iff, filled, or_false]
    omega

theorem names_of_nameAfter? {text : List Char} {found : String} (h : nameAfter? text = some found) :
    ∃ name rest, Names text name rest ∧ found = String.ofList name := by
  simp only [nameAfter?] at h
  split at h
  · cases h
  next named =>
  rw [not_or] at named
  rw [closed?_eq] at h
  split at h
  · next ending =>
    cases h
    obtain ⟨rest, ending⟩ := List.head?_eq_some_iff.mp ending
    refine ⟨_, rest, ⟨text.takeWhile isBlank, ((text.dropWhile isBlank).dropWhile
      isNameChar).takeWhile isBlank, ?_, ?_, fun _ => List.mem_takeWhile_imp, ?_,
      fun _ => List.mem_takeWhile_imp, fun _ => List.mem_takeWhile_imp⟩, rfl⟩
    · rw [← ending, List.takeWhile_append_dropWhile, List.takeWhile_append_dropWhile,
        List.takeWhile_append_dropWhile]
    · intro nothing
      have whole := List.takeWhile_append_dropWhile (p := isBlank) (l := text)
      rw [nothing, List.nil_append] at whole
      exact named.1 (congrArg List.length whole.symm)
    · simpa using named.2
  · cases h

theorem declaredHere?_of_declares {text name rest : List Char} (h : Declares text name rest) :
    declaredHere? text = some (String.ofList name) := by
  obtain ⟨after, rfl, names⟩ := h
  have begins : (keyword ++ after).dropWhile isBlank = keyword ++ after := rfl
  rw [declaredHere?_eq, begins, dropWord?_eq_some.mpr rfl]
  exact names.nameAfter?

/-- A text that is found to begin with a declaration begins with one, unless blanks stand before it. -/
theorem declares_of_declaredHere? {c : Char} {tail : List Char} {found : String}
    (dark : isBlank c = false) (h : declaredHere? (c :: tail) = some found) :
    ∃ name rest, Declares (c :: tail) name rest ∧ found = String.ofList name := by
  rw [declaredHere?_eq, List.dropWhile_cons_of_neg (by simp [dark]), Option.bind_eq_some_iff] at h
  obtain ⟨after, cut, named⟩ := h
  obtain ⟨name, rest, names, same⟩ := names_of_nameAfter? named
  exact ⟨name, rest, ⟨after, dropWord?_eq_some.mp cut, names⟩, same⟩

theorem declaredHere?_blank {c : Char} (blank : isBlank c = true) (text : List Char) :
    declaredHere? (c :: text) = declaredHere? text := by
  rw [declaredHere?_eq, declaredHere?_eq, List.dropWhile_cons_of_pos blank]

/-- A name that is closed by a semicolon does not begin a declaration, not even if it is the word that
declarations begin with. -/
theorem declaredHere?_closed {name space : List Char} (whole : ∀ c ∈ name, isNameChar c = true)
    (something : name ≠ []) (blank : ∀ c ∈ space, isBlank c = true) (rest : List Char) :
    declaredHere? (name ++ (space ++ ';' :: rest)) = none := by
  have named := (span_name whole blank rest).2
  have front : (name ++ (space ++ ';' :: rest)).dropWhile isBlank = name ++ (space ++ ';' :: rest) :=
    dropWhile_gap (List.forall_mem_nil _) something whole _
  rw [declaredHere?_eq, front, Option.bind_eq_none_iff]
  intro after cut
  rw [dropWord?_eq_some] at cut
  cases found : nameAfter? after with
  | none => rfl
  | some package =>
    obtain ⟨other, rest', ⟨gap, space', rfl, long, blank', filled, whole', -⟩, -⟩ :=
      names_of_nameAfter? found
    obtain ⟨d, others, rfl⟩ := List.exists_cons_of_ne_nil filled
    -- What is a name on either side ends at the same place, and so do the blanks behind it.
    rw [cut, (span_word keyword_letters long blank' _).2] at named
    have ended := dropWhile_space blank rest
    rw [← named, dropWhile_gap blank' filled whole'] at ended
    have name := whole' d List.mem_cons_self
    rw [show d = ';' from (List.cons.inj ended).1] at name
    exact absurd name (by decide +kernel)

/-! ## A text in front of a declaration -/

/-- The word cannot be made of the end of one text and the beginning of another such word. -/
theorem keyword_inside {front after : List Char} (something : front ≠ [])
    (begins : keyword <+: front ++ (keyword ++ after)) : keyword <+: front := by
  have overlap : ∀ count < keyword.length, keyword.drop count <+: keyword → count = 0 := by decide
  by_contra absent
  obtain ⟨part, word⟩ := (List.prefix_or_prefix_of_prefix begins
    (List.prefix_append front (keyword ++ after))).resolve_left absent
  have shorter : front.length < keyword.length := by
    have more : part ≠ [] := by
      rintro rfl
      exact absent ⟨[], by rw [← word, List.append_nil, List.append_nil]⟩
    have length := congrArg List.length word
    have positive := List.length_pos_iff.mpr more
    rw [List.length_append] at length
    omega
  have ending : keyword.drop front.length <+: keyword := by
    have behind : part <+: keyword ++ after := by
      rwa [← List.prefix_append_right_inj front, word]
    have inside := List.prefix_of_prefix_length_le behind (List.prefix_append keyword after)
      (by simp [← word])
    rwa [show keyword.drop front.length = part by rw [← word, List.drop_left]]
  exact something (List.length_eq_zero_iff.mp (overlap _ shorter ending))

section Append
variable {here name rest : List Char} (declares : Declares here name rest)
include declares

theorem Declares.head?_here : here.head? = some 'p' := by
  obtain ⟨after, rfl, -⟩ := declares
  rfl

theorem Declares.dropWhile_blank (front : List Char) :
    (front ++ here).dropWhile isBlank = front.dropWhile isBlank ++ here := by
  rw [List.dropWhile_append]
  split
  · next all =>
    have begins : here.dropWhile isBlank = here := by
      obtain ⟨after, rfl, -⟩ := declares
      rfl
    rw [begins, List.isEmpty_iff.mp all, List.nil_append]
  · rfl

theorem Declares.dropWord? {front : List Char} (something : front ≠ []) :
    dropWord? keyword (front ++ here) = (dropWord? keyword front).map (· ++ here) := by
  obtain ⟨after, whole, -⟩ := declares
  cases cut : Package.dropWord? keyword front with
  | some tail =>
    rw [dropWord?_eq_some] at cut
    rw [Option.map_some, dropWord?_eq_some, cut, List.append_assoc]
  | none =>
    cases found : Package.dropWord? keyword (front ++ here) with
    | none => rfl
    | some tail =>
      rw [dropWord?_eq_some, whole] at found
      obtain ⟨more, longer⟩ := keyword_inside something ⟨tail, found.symm⟩
      rw [dropWord?_eq_some.mpr longer.symm] at cut
      cases cut

/-- A name that runs into a declaration is not followed by a semicolon. -/
theorem Declares.nameAfter? (front : List Char) :
    nameAfter? (front ++ here) = nameAfter? front := by
  have same : (front ++ here).length = (front.dropWhile isBlank ++ here).length ↔
      front.length = (front.dropWhile isBlank).length := by
    simp
  simp only [Package.nameAfter?, declares.dropWhile_blank, same]
  generalize front.dropWhile isBlank = tail
  by_cases whole : ∀ c ∈ tail, isNameChar c = true
  · obtain ⟨after, rfl, gap, space, rfl, something, blank, filled, begins, -⟩ := declares
    have joined : ∀ c ∈ tail ++ keyword, isNameChar c = true := by
      rw [List.forall_mem_append]
      exact ⟨whole, keyword_letters⟩
    have named := (span_word joined something blank (name ++ (space ++ ';' :: rest))).2
    have alone : tail.dropWhile isNameChar = [] := List.dropWhile_eq_nil_iff.mpr whole
    obtain ⟨c, more, rfl⟩ := List.exists_cons_of_ne_nil filled
    have other : c ≠ ';' := by
      rintro rfl
      exact absurd (begins ';' List.mem_cons_self) (by decide +kernel)
    rw [← List.append_assoc, named, dropWhile_gap blank filled begins, alone]
    simp [closed?_eq, other]
  · have tails := span_append_left whole here
    rw [tails.1, tails.2, declares.dropWhile_blank]
    cases (tail.dropWhile isNameChar).dropWhile isBlank with
    | nil => simp [closed?_eq, declares.head?_here]
    | cons c more => simp [closed?_eq]

theorem Declares.declaredHere? {c : Char} (dark : isBlank c = false) (front : List Char) :
    declaredHere? (c :: front ++ here) = declaredHere? (c :: front) := by
  have cut := declares.dropWord? (List.cons_ne_nil c front)
  rw [declaredHere?_eq, declaredHere?_eq, declares.dropWhile_blank,
    List.dropWhile_cons_of_neg (by simp [dark]), cut, Option.bind_map]
  exact congrArg _ (funext declares.nameAfter?)

end Append

end Package
end TestBench
