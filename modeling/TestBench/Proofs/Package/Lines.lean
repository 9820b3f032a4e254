import TestBench.Proofs.Package.Declaration
import TestBench.Text.Lines

/-!
The lines of a source that begin with a package declaration.

- `declaredIn?`: the search line by line, whatever ends the lines,
- `declaredFrom?_unify`: this is what is searched after the ends of lines have been made alike,
- `declaredIn?_append`: what is found if a declaration stands behind a text.
-/
namespace TestBench.Package
set_option autoImplicit false
open Text (isBlank isWordChar unifyLineEnds)

/-! ## Lines -/

/-- A line ends at a line feed or at a carriage return. -/
def endsLine (c : Char) : Bool :=
  c == '\n' || c == '\r'

theorem isBlank_of_endsLine {c : Char} (h : endsLine c = true) : isBlank c = true := by
  simp only [endsLine, Bool.or_eq_true, beq_iff_eq] at h
  rcases h with rfl | rfl <;> decide

/-- The first package that is declared on a line behind nothing but blanks. `fresh` says that there is
nothing but blanks in front of the text on its line. -/
def declaredIn? : Bool → List Char → Option String
  | _, [] => none
  | fresh, c :: rest =>
    if isBlank c then declaredIn? (fresh || endsLine c) rest
    else (if fresh then declaredHere? (c :: rest) else none).or (declaredIn? false rest)

/-- Whether there is nothing but blanks in front of what comes after a text, on the same line. -/
def freshAfter : Bool → List Char → Bool
  | fresh, [] => fresh
  | fresh, c :: rest => freshAfter (isBlank c && (fresh || endsLine c)) rest

theorem freshAfter_append (fresh : Bool) (front rest : List Char) :
    freshAfter fresh (front ++ rest) = freshAfter (freshAfter fresh front) rest := by
  induction front generalizing fresh with
  | nil => rfl
  | cons c others ih => exact ih _

theorem freshAfter_getLast? {front : List Char} (h : freshAfter true front = true) :
    ∀ c ∈ front.getLast?, isBlank c = true := by
  intro c last
  obtain ⟨before, rfl⟩ := List.getLast?_eq_some_iff.mp last
  rw [freshAfter_append, freshAfter, freshAfter, Bool.and_eq_true] at h
  exact h.1

theorem declaredIn?_blank {c : Char} (blank : isBlank c = true) (fresh : Bool) (rest : List Char) :
    declaredIn? fresh (c :: rest) = declaredIn? (fresh || endsLine c) rest := by
  rw [declaredIn?, if_pos blank]

theorem declaredIn?_dark {c : Char} (dark : isBlank c = false) (fresh : Bool) (rest : List Char) :
    declaredIn? fresh (c :: rest) =
      (if fresh then declaredHere? (c :: rest) else none).or (declaredIn? false rest) := by
  rw [declaredIn?, if_neg (by simp [dark])]

theorem declaredIn?_blanks {blanks : List Char} (all : ∀ c ∈ blanks, isBlank c = true) (fresh : Bool)
    (rest : List Char) :
    declaredIn? fresh (blanks ++ rest) = declaredIn? (freshAfter fresh blanks) rest := by
  induction blanks generalizing fresh with
  | nil => rfl
  | cons c others ih =>
    rw [List.forall_mem_cons] at all
    rw [List.cons_append, declaredIn?_blank all.1, ih all.2, freshAfter, all.1, Bool.true_and]

/-- A word in the middle of a line. -/
theorem declaredIn?_word {word : List Char} (all : ∀ c ∈ word, isBlank c = false)
    (rest : List Char) : declaredIn? false (word ++ rest) = declaredIn? false rest := by
  induction word with
  | nil => rfl
  | cons c others ih =>
    rw [List.forall_mem_cons] at all
    rw [List.cons_append, declaredIn?_dark all.1, ih all.2]
    rfl

/-! ## The search -/

theorem declaredFrom?_fresh (text : List Char) :
    declaredFrom? true text = (declaredHere? text).or (declaredFrom? false text) := by
  cases text with
  | nil => rfl
  | cons c rest =>
    simp only [declaredFrom?]
    cases declaredHere? (c :: rest) <;> rfl

theorem declaredFrom?_blank {c : Char} (blank : isBlank c = true) (fresh : Bool)
    (rest : List Char) : declaredFrom? fresh (c :: rest) = declaredFrom? (fresh || c == '\n') rest := by
  cases fresh with
  | false => rfl
  | true =>
    rw [declaredFrom?_fresh, declaredHere?_blank blank, Bool.true_or, declaredFrom?_fresh rest]
    cases feed : c == '\n' with
    | false => simp [declaredFrom?, feed]
    | true =>
      have later : declaredFrom? false (c :: rest) = declaredFrom? true rest := by
        simp [declaredFrom?, feed]
      rw [later, declaredFrom?_fresh, ← Option.or_assoc, Option.or_self]

theorem declaredFrom?_dark {c : Char} (dark : isBlank c = false) (fresh : Bool)
    (rest : List Char) :
    declaredFrom? fresh (c :: rest) =
      (if fresh then declaredHere? (c :: rest) else none).or (declaredFrom? false rest) := by
  have other : (c == '\n') = false := by
    rw [beq_eq_false_iff_ne]
    rintro rfl
    revert dark
    decide
  rw [declaredFrom?, other]
  cases fresh with
  | false => rfl
  | true => cases declaredHere? (c :: rest) <;> rfl

/-! ## Line ends of every kind -/

section Unify
variable {p : Char → Bool}

theorem unifyLineEnds_dark {c : Char} (dark : endsLine c = false) (rest : List Char) :
    unifyLineEnds (c :: rest) = c :: unifyLineEnds rest := by
  have other : c ≠ '\r' := by
    rintro rfl
    cases dark
  simp [unifyLineEnds, other]

theorem unifyLineEnds_end {c : Char} (h : endsLine c = true) (rest : List Char) :
    ∃ more, unifyLineEnds (c :: rest) = '\n' :: more := by
  simp only [endsLine, Bool.or_eq_true, beq_iff_eq] at h
  rcases h with rfl | rfl
  · exact ⟨unifyLineEnds rest, by simp [unifyLineEnds]⟩
  · by_cases pair : ∃ tail, rest = '\n' :: tail
    · obtain ⟨tail, rfl⟩ := pair
      exact ⟨unifyLineEnds tail, by simp [unifyLineEnds]⟩
    · refine ⟨unifyLineEnds rest, ?_⟩
      rw [unifyLineEnds, if_pos rfl]
      exact fun tail _ found => pair ⟨tail, found⟩

theorem dropWhile_unify (feed : p '\n' = p '\r') (text : List Char) :
    (unifyLineEnds text).dropWhile p = unifyLineEnds (text.dropWhile p) := by
  fun_induction unifyLineEnds text with
  | case1 => rfl
  | case2 rest ih =>
    cases begins : p '\r' with
    | true => simp [feed, begins, ih]
    | false => simp [feed, begins, unifyLineEnds]
  | case3 c rest single ih =>
    have same : p (if c = '\r' then '\n' else c) = p c := by
      split
      next carriage => rw [carriage, feed]
      · rfl
    cases begins : p c with
    | true => simp [same, begins, ih]
    | false =>
      rw [List.dropWhile_cons_of_neg (by simp [same, begins]),
        List.dropWhile_cons_of_neg (by simp [begins]), unifyLineEnds]
      exact single

theorem takeWhile_unify (inside : ∀ c, p c = true → endsLine c = false) (text : List Char) :
    (unifyLineEnds text).takeWhile p = text.takeWhile p := by
  induction text with
  | nil => rfl
  | cons c rest ih =>
    cases ends : endsLine c with
    | false =>
      rw [unifyLineEnds_dark ends, List.takeWhile_cons, List.takeWhile_cons, ih]
    | true =>
      have other (c : Char) (ends : endsLine c = true) : ¬p c = true := fun begins => by
        rw [inside c begins] at ends
        cases ends
      obtain ⟨more, same⟩ := unifyLineEnds_end ends rest
      rw [same, List.takeWhile_cons_of_neg (other c ends),
        List.takeWhile_cons_of_neg (other '\n' rfl)]

theorem dropWord?_cons (x c : Char) (word text : List Char) :
    dropWord? (x :: word) (c :: text) = if x = c then dropWord? word text else none := by
  by_cases same : x = c <;> simp [dropWord?, same]

theorem dropWord?_unify {word : List Char} (inside : ∀ c ∈ word, endsLine c = false)
    (text : List Char) :
    dropWord? word (unifyLineEnds text) = (dropWord? word text).map unifyLineEnds := by
  induction word generalizing text with
  | nil => simp [dropWord?]
  | cons x others ih =>
    rw [List.forall_mem_cons] at inside
    cases text with
    | nil => rfl
    | cons c rest =>
      cases ends : endsLine c with
      | false =>
        rw [unifyLineEnds_dark ends, dropWord?_cons, dropWord?_cons, ih inside.2]
        split <;> rfl
      | true =>
        have other (c : Char) (ends : endsLine c = true) : x ≠ c := by
          rintro rfl
          rw [inside.1] at ends
          cases ends
        obtain ⟨more, same⟩ := unifyLineEnds_end ends rest
        rw [same, dropWord?_cons, dropWord?_cons, if_neg (other c ends), if_neg (other '\n' rfl)]
        rfl

end Unify

theorem endsLine_of_isNameChar (c : Char) (h : isNameChar c = true) : endsLine c = false := by
  rw [Bool.eq_false_iff]
  intro ends
  have dark := not_isBlank_of_isNameChar h
  rw [isBlank_of_endsLine ends] at dark
  cases dark

theorem gapless_iff (text : List Char) :
    text.length = (text.dropWhile isBlank).length ↔ ∀ c ∈ text.head?, isBlank c = false := by
  cases text with
  | nil => simp
  | cons c rest =>
    cases blank : isBlank c with
    | true =>
      have shorter := List.length_dropWhile_le isBlank rest
      simp [blank]
      omega
    | false => simp [blank]

theorem isBlank_feed : isBlank '\n' = isBlank '\r' := by
  decide

theorem gapless_unify (text : List Char) :
    (unifyLineEnds text).length = (unifyLineEnds (text.dropWhile isBlank)).length ↔
      text.length = (text.dropWhile isBlank).length := by
  rw [← dropWhile_unify isBlank_feed, gapless_iff, gapless_iff]
  cases text with
  | nil => rfl
  | cons c rest =>
    cases ends : endsLine c with
    | false => simp [unifyLineEnds_dark ends]
    | true =>
      obtain ⟨more, same⟩ := unifyLineEnds_end ends rest
      have feed : isBlank '\n' = true := by decide
      simp [same, feed, isBlank_of_endsLine ends]

theorem nameAfter?_unify (text : List Char) : nameAfter? (unifyLineEnds text) = nameAfter? text := by
  have outside : isNameChar '\n' = isNameChar '\r' := by decide +kernel
  simp only [nameAfter?, dropWhile_unify isBlank_feed, gapless_unify,
    takeWhile_unify endsLine_of_isNameChar, dropWhile_unify outside]
  cases ((text.dropWhile isBlank).dropWhile isNameChar).dropWhile isBlank with
  | nil => rfl
  | cons c rest =>
    cases ends : endsLine c with
    | false => simp [closed?_eq, unifyLineEnds_dark ends]
    | true =>
      obtain ⟨more, same⟩ := unifyLineEnds_end ends rest
      have other : c ≠ ';' := by
        rintro rfl
        cases ends
      simp [closed?_eq, same, other]

theorem declaredHere?_unify (text : List Char) :
    declaredHere? (unifyLineEnds text) = declaredHere? text := by
  rw [declaredHere?_eq, declaredHere?_eq, dropWhile_unify isBlank_feed,
    dropWord?_unify fun c member => endsLine_of_isNameChar c (keyword_letters c member),
    Option.bind_map]
  exact congrArg _ (funext nameAfter?_unify)

/-- Lines are searched whatever ends them. -/
theorem declaredFrom?_unify (fresh : Bool) (text : List Char) :
    declaredFrom? fresh (unifyLineEnds text) = declaredIn? fresh text := by
  fun_induction unifyLineEnds text generalizing fresh with
  | case1 => cases fresh <;> rfl
  | case2 rest ih =>
    rw [declaredFrom?_blank (by decide), ih, declaredIn?_blank (by decide),
      declaredIn?_blank (by decide)]
    simp [endsLine]
  | case3 c rest single ih =>
    cases blank : isBlank c with
    | true =>
      have still : isBlank (if c = '\r' then '\n' else c) = true := by
        split
        · decide
        · exact blank
      have ends : ((if c = '\r' then '\n' else c) == '\n') = endsLine c := by
        by_cases carriage : c = '\r' <;> simp [carriage, endsLine]
      rw [declaredFrom?_blank still, ih, declaredIn?_blank blank, ends]
    | false =>
      have dark : endsLine c = false := by
        rw [Bool.eq_false_iff]
        intro ends
        rw [isBlank_of_endsLine ends] at blank
        cases blank
      have carriage : c ≠ '\r' := by
        rintro rfl
        cases dark
      have here := declaredHere?_unify (c :: rest)
      rw [unifyLineEnds_dark dark] at here
      rw [if_neg carriage, declaredFrom?_dark blank, ih, declaredIn?_dark blank, here]

/-! ## The line of a declaration -/

/-- The lines that a name ends on and that go on behind its semicolon. -/
theorem Names.declaredIn?_rest {text name rest : List Char} (h : Names text name rest) :
    declaredIn? false text = declaredIn? false rest := by
  obtain ⟨gap, space, rfl, -, blank, filled, whole, blank'⟩ := h
  have closed := declaredHere?_closed whole filled blank' rest
  have open_ (fresh : Bool) :
      (if fresh then declaredHere? (';' :: rest) else none) = none := by
    cases fresh <;> rfl
  have dark : ∀ c ∈ name, isBlank c = false := fun c member =>
    not_isBlank_of_isNameChar (whole c member)
  obtain ⟨c, others, rfl⟩ := List.exists_cons_of_ne_nil filled
  rw [List.forall_mem_cons] at dark
  rw [declaredIn?_blanks blank, List.cons_append, declaredIn?_dark dark.1, ← List.cons_append, closed,
    declaredIn?_word dark.2, declaredIn?_blanks blank', declaredIn?_dark (by decide), open_]
  simp

/-- Behind the semicolon of a declaration the line goes on. -/
theorem Declares.declaredIn?_rest {here name rest : List Char} (h : Declares here name rest) :
    declaredIn? false here = declaredIn? false rest := by
  obtain ⟨after, rfl, names⟩ := h
  rw [declaredIn?_word fun c member => not_isBlank_of_isNameChar (keyword_letters c member),
    names.declaredIn?_rest]

/-- What is found if a declaration stands behind a text: what is found in the text; or else the
declaration, if only blanks stand in front of it on its line; or else what is found behind it. -/
theorem declaredIn?_append {here name rest : List Char} (h : Declares here name rest)
    (fresh : Bool) (front : List Char) :
    declaredIn? fresh (front ++ here) = (declaredIn? fresh front).or
      (if freshAfter fresh front then some (String.ofList name) else declaredIn? false rest) := by
  induction front generalizing fresh with
  | nil =>
    rw [List.nil_append, declaredIn?, Option.none_or, freshAfter]
    cases fresh with
    | false => exact h.declaredIn?_rest
    | true =>
      have found := declaredHere?_of_declares h
      obtain ⟨tail, rfl⟩ := List.head?_eq_some_iff.mp h.head?_here
      rw [declaredIn?_dark (by decide), if_pos rfl, found, Option.some_or, if_pos rfl]
  | cons c front ih =>
    cases blank : isBlank c with
    | true =>
      rw [List.cons_append, declaredIn?_blank blank, declaredIn?_blank blank, ih, freshAfter, blank,
        Bool.true_and]
    | false =>
      have same := h.declaredHere? blank front
      rw [List.cons_append] at same
      rw [List.cons_append, declaredIn?_dark blank, declaredIn?_dark blank, ih, same, freshAfter,
        blank, Bool.false_and, Option.or_assoc]

end TestBench.Package
