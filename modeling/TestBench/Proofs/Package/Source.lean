import TestBench.Proofs.Package.Lines

/-!
Java sources, as far as their comments and literals are concerned.

- `marked`: which characters are code, and which stand in a comment or in a literal,
- `outside`: the code, with a blank for each character of a comment,
- `IsHeading`: blanks and comments, as they are written,
- `stray?`: the first line that begins with a declaration that is none, since it stands in a comment or
  in a literal or has a malformed name,
- `IsSilent.declaredIn?`: where nothing is declared, only such a line is found.
-/
namespace TestBench.Java
set_option autoImplicit false
open Text (isBlank isWordChar)
open Package (Declares declaredHere? endsLine freshAfter)

/-! ## Regions -/

/-- Where a character of a source stands. A character and a string are quoted, each by a quote of its
own. -/
inductive Region where
  | code
  | lineComment
  | blockComment
  | quoted (quote : Char)
  | textBlock
deriving DecidableEq, Repr

/-- The characters of a source that goes on in a region, each with its own region. Comments and
literals have their delimiters in them. A comment that goes to the end of the line has not the end of
the line in it, and neither has what is quoted and not closed. -/
def marked : Region → List Char → List (Char × Region)
  | _, [] => []
  | .code, '/' :: '/' :: rest =>
    ('/', .lineComment) :: ('/', .lineComment) :: marked .lineComment rest
  | .code, '/' :: '*' :: rest =>
    ('/', .blockComment) :: ('*', .blockComment) :: marked .blockComment rest
  | .code, '"' :: '"' :: '"' :: rest =>
    ('"', .textBlock) :: ('"', .textBlock) :: ('"', .textBlock) :: marked .textBlock rest
  | .code, c :: rest =>
    if c = '"' ∨ c = '\'' then (c, .quoted c) :: marked (.quoted c) rest
    else (c, .code) :: marked .code rest
  | .lineComment, c :: rest =>
    if endsLine c then (c, .code) :: marked .code rest
    else (c, .lineComment) :: marked .lineComment rest
  | .blockComment, '*' :: '/' :: rest =>
    ('*', .blockComment) :: ('/', .blockComment) :: marked .code rest
  | .blockComment, c :: rest => (c, .blockComment) :: marked .blockComment rest
  | .quoted quote, '\\' :: c :: rest =>
    ('\\', .quoted quote) :: (c, .quoted quote) :: marked (.quoted quote) rest
  | .quoted quote, c :: rest =>
    if endsLine c then (c, .code) :: marked .code rest
    else (c, .quoted quote) :: marked (if c = quote then .code else .quoted quote) rest
  | .textBlock, '\\' :: c :: rest =>
    ('\\', .textBlock) :: (c, .textBlock) :: marked .textBlock rest
  | .textBlock, '"' :: '"' :: '"' :: rest =>
    ('"', .textBlock) :: ('"', .textBlock) :: ('"', .textBlock) :: marked .code rest
  | .textBlock, c :: rest => (c, .textBlock) :: marked .textBlock rest

theorem marked_text (region : Region) (text : List Char) :
    (marked region text).map Prod.fst = text := by
  fun_induction marked region text <;> simp_all

/-! ## Code -/

/-- Characters that begin no comment and no literal. -/
def IsPlain (c : Char) : Prop :=
  c ≠ '/' ∧ c ≠ '"' ∧ c ≠ '\''

instance (c : Char) : Decidable (IsPlain c) :=
  inferInstanceAs (Decidable (_ ∧ _ ∧ _))

theorem marked_plain {c : Char} (plain : IsPlain c) (rest : List Char) :
    marked .code (c :: rest) = (c, .code) :: marked .code rest := by
  obtain ⟨slash, quote, apostrophe⟩ := plain
  simp [marked, slash, quote, apostrophe]

theorem marked_plains {word : List Char} (plain : ∀ c ∈ word, IsPlain c) (rest : List Char) :
    marked .code (word ++ rest) = word.map (·, .code) ++ marked .code rest := by
  induction word with
  | nil => rfl
  | cons c others ih =>
    rw [List.forall_mem_cons] at plain
    rw [List.cons_append, marked_plain plain.1, ih plain.2]
    rfl

theorem plain_of_endsLine {c : Char} (h : endsLine c = true) : IsPlain c := by
  simp only [endsLine, Bool.or_eq_true, beq_iff_eq] at h
  rcases h with rfl | rfl <;> decide

/-- Code goes on in the same way however it was reached. -/
theorem marked_suffix {region : Region} {text : List Char} {c : Char}
    {after : List (Char × Region)} (h : (c, .code) :: after <:+ marked region text) :
    marked .code (c :: after.map Prod.fst) = (c, .code) :: after := by
  -- A character that a comment or a literal goes on with is none of code.
  have other {d : Char} {region : Region} {rest : List (Char × Region)}
      (h : (c, .code) :: after <:+ (d, region) :: rest) (inside : region ≠ .code) :
      (c, .code) :: after <:+ rest := by
    rcases List.suffix_cons_iff.mp h with same | later
    · exact absurd (congrArg Prod.snd (List.cons.inj same).1).symm inside
    · exact later
  fun_induction marked region text with
  | case1 => simp at h
  | case2 rest ih | case3 rest ih | case9 rest ih | case11 _ _ rest ih | case14 _ rest ih =>
    exact ih (other (other h nofun) nofun)
  | case4 rest ih | case15 rest ih => exact ih (other (other (other h nofun) nofun) nofun)
  | case5 d rest _ _ _ _ ih | case8 d rest _ ih | case10 d rest _ ih | case13 _ d rest _ _ ih
  | case16 d rest _ _ ih =>
    exact ih (other h nofun)
  | case6 d rest line block text quote ih =>
    rcases List.suffix_cons_iff.mp h with same | later
    · cases same
      rw [marked_text]
      simp_all [marked]
    · exact ih later
  | case7 d rest ends ih | case12 _ d rest _ ends ih =>
    rcases List.suffix_cons_iff.mp h with same | later
    · cases same
      rw [marked_text, marked_plain (plain_of_endsLine ends)]
    · exact ih later

/-! ## Comments in front -/

/-- Blanks, comments up to the end of a line and comments up to their closing delimiter, one after the
other. -/
inductive IsHeading : List Char → Prop
  | nil : IsHeading []
  | blank {c : Char} {rest : List Char} : isBlank c = true → IsHeading rest → IsHeading (c :: rest)
  | lineComment {body rest : List Char} {c : Char} : (∀ d ∈ body, endsLine d = false) →
      endsLine c = true → IsHeading rest → IsHeading ('/' :: '/' :: (body ++ c :: rest))
  | blockComment {body rest : List Char} : ¬['*', '/'] <:+: body → IsHeading rest →
      IsHeading ('/' :: '*' :: (body ++ '*' :: '/' :: rest))

theorem marked_lineComment {body : List Char} {c : Char}
    (inside : ∀ d ∈ body, endsLine d = false) (ends : endsLine c = true) (rest : List Char) :
    marked .lineComment (body ++ c :: rest) =
      body.map (·, .lineComment) ++ (c, .code) :: marked .code rest := by
  induction body with
  | nil => simp [marked, ends]
  | cons d others ih =>
    rw [List.forall_mem_cons] at inside
    rw [List.cons_append, marked, if_neg (by simp [inside.1]), ih inside.2]
    rfl

/-- A comment goes on up to its closing delimiter, and this is not made of the end of its text. -/
theorem marked_blockComment {body : List Char} (inside : ¬['*', '/'] <:+: body)
    (rest : List Char) :
    marked .blockComment (body ++ '*' :: '/' :: rest) =
      body.map (·, .blockComment) ++
        ('*', .blockComment) :: ('/', .blockComment) :: marked .code rest := by
  induction body with
  | nil => rfl
  | cons d others ih =>
    rw [List.infix_cons_iff, not_or] at inside
    have still (more : List Char) (star : d = '*')
        (slash : others ++ '*' :: '/' :: rest = '/' :: more) : False := by
      cases others with
      | nil => simp at slash
      | cons next others =>
        rw [List.cons_append, List.cons.injEq] at slash
        rw [star, slash.1] at inside
        exact inside.1 ⟨others, rfl⟩
    rw [List.cons_append, marked, ih inside.2]
    · rfl
    · exact still

theorem isPlain_of_isBlank {c : Char} (blank : isBlank c = true) : IsPlain c := by
  refine ⟨?_, ?_, ?_⟩ <;> rintro rfl <;> revert blank <;> decide

/-- What is code in front of a declaration is blank. -/
theorem IsHeading.blank_of_code {front : List Char} (heading : IsHeading front) :
    ∀ c, (c, Region.code) ∈ marked .code front → isBlank c = true := by
  induction heading with
  | nil => nofun
  | blank blank _ ih =>
    rw [marked_plain (isPlain_of_isBlank blank)]
    simpa [blank] using ih
  | lineComment inside ends _ ih =>
    rw [marked, marked_lineComment inside ends]
    simpa [Package.isBlank_of_endsLine ends] using ih
  | blockComment inside _ ih =>
    rw [marked, marked_blockComment inside]
    simpa using ih

/-! ## What stands outside -/

/-- A character of code, a blank for each character of a comment and a quote for each of a literal. -/
def shown : Char × Region → Char
  | (c, .code) => c
  | (_, .lineComment) => ' '
  | (_, .blockComment) => ' '
  | (_, .quoted _) => '"'
  | (_, .textBlock) => '"'

/-- The text of a source outside comments and literals. -/
def outside (text : List Char) : List Char :=
  (marked .code text).map shown

/-- A name of parts, each made of word characters, with a dot between them. -/
def IsDotted (name : List Char) : Prop :=
  ∀ part ∈ Text.splitOn '.' name, part ≠ [] ∧ part.all isWordChar = true

instance (name : List Char) : Decidable (IsDotted name) :=
  inferInstanceAs (Decidable (∀ part ∈ Text.splitOn '.' name, part ≠ [] ∧ part.all isWordChar = true))

/-- A declaration of a dotted name stands somewhere in a text, and not at the end of a longer word. -/
def HoldsDeclaration (text : List Char) : Prop :=
  ∃ before here name rest, text = before ++ here ∧ Declares here name rest ∧ IsDotted name ∧
    ∀ c ∈ before.getLast?, isWordChar c = false ∧ c ≠ '$'

theorem HoldsDeclaration.keyword {text : List Char} (h : HoldsDeclaration text) :
    Package.keyword <:+: text := by
  obtain ⟨before, _, _, _, rfl, ⟨after, rfl, -⟩, -⟩ := h
  exact ⟨before, after, List.append_assoc ..⟩

theorem isPlain_of_isNameChar {c : Char} (name : Package.isNameChar c = true) : IsPlain c := by
  refine ⟨?_, ?_, ?_⟩ <;> rintro rfl <;> revert name <;> decide +kernel

theorem shown_blank {c : Char} (blank : isBlank c = true) (region : Region) :
    isWordChar (shown (c, region)) = false ∧ shown (c, region) ≠ '$' := by
  have quote : isWordChar '"' = false := by decide +kernel
  have space : isWordChar ' ' = false := by decide +kernel
  cases region with
  | code =>
    refine ⟨?_, ?_⟩
    · rw [Bool.eq_false_iff]
      intro (word : isWordChar c = true)
      rw [Text.not_isBlank_of_isWordChar word] at blank
      cases blank
    · rintro (rfl : c = '$')
      revert blank
      decide
  | _ => simp [shown, quote, space]

theorem outside_plains {word : List Char} (plain : ∀ c ∈ word, IsPlain c) (rest : List Char) :
    outside (word ++ rest) = word ++ outside rest := by
  have same : word.map (fun c => shown (c, .code)) = word := List.map_id word
  rw [outside, marked_plains plain, List.map_append, List.map_map]
  exact congrArg (· ++ _) same

/-- A declaration among the code stands outside comments and literals as a whole. -/
theorem outside_declares {here name rest : List Char} (h : Declares here name rest) :
    Declares (outside here) name (outside rest) := by
  obtain ⟨after, rfl, gap, space, rfl, something, blank, filled, whole, blank'⟩ := h
  have semicolon : outside (';' :: rest) = ';' :: outside rest :=
    outside_plains (List.forall_mem_singleton.mpr (by decide)) rest
  refine ⟨gap ++ (name ++ (space ++ ';' :: outside rest)), ?_, gap, space, rfl, something, blank,
    filled, whole, blank'⟩
  rw [outside_plains fun c member => isPlain_of_isNameChar (Package.keyword_letters c member),
    outside_plains fun c member => isPlain_of_isBlank (blank c member),
    outside_plains fun c member => isPlain_of_isNameChar (whole c member),
    outside_plains fun c member => isPlain_of_isBlank (blank' c member), semicolon]

/-! ## Strays -/

/-- The first line that begins with a declaration that is none, since it stands in a comment or in a
literal, or since its name is no dotted name. -/
def strayIn? : Bool → List (Char × Region) → Option String
  | _, [] => none
  | fresh, (c, region) :: rest =>
    if isBlank c then strayIn? (fresh || endsLine c) rest
    else (if fresh then (declaredHere? (c :: rest.map Prod.fst)).filter fun name =>
        region ≠ .code ∨ ¬IsDotted name.toList else none).or (strayIn? false rest)

def stray? (text : List Char) : Option String :=
  strayIn? true (marked .code text)

theorem strayIn?_blank {c : Char} (blank : isBlank c = true) (fresh : Bool) (region : Region)
    (rest : List (Char × Region)) :
    strayIn? fresh ((c, region) :: rest) = strayIn? (fresh || endsLine c) rest := by
  rw [strayIn?, if_pos blank]

theorem strayIn?_dark {c : Char} (dark : isBlank c = false) (fresh : Bool) (region : Region)
    (rest : List (Char × Region)) :
    strayIn? fresh ((c, region) :: rest) =
      (if fresh then (declaredHere? (c :: rest.map Prod.fst)).filter fun name =>
        region ≠ .code ∨ ¬IsDotted name.toList else none).or (strayIn? false rest) := by
  rw [strayIn?, if_neg (by simp [dark])]

/-- A source whose code has no declaration of a dotted name at the beginning of a line. -/
def IsSilent (fresh : Bool) (source : List (Char × Region)) : Prop :=
  ∀ before c after, source = before ++ (c, .code) :: after → isBlank c = false →
    freshAfter fresh (before.map Prod.fst) = true →
      ∀ found, declaredHere? (c :: after.map Prod.fst) = some found → ¬IsDotted found.toList

theorem IsSilent.rest {fresh : Bool} {item : Char × Region} {rest : List (Char × Region)}
    (h : IsSilent fresh (item :: rest)) :
    IsSilent (isBlank item.1 && (fresh || endsLine item.1)) rest := by
  intro before c after same dark still
  exact h (item :: before) c after (by rw [same]; rfl) dark still

/-- In such a source nothing but strays is found. -/
theorem IsSilent.declaredIn? {fresh : Bool} {source : List (Char × Region)}
    (h : IsSilent fresh source) :
    Package.declaredIn? fresh (source.map Prod.fst) = strayIn? fresh source := by
  induction source generalizing fresh with
  | nil => rfl
  | cons item rest ih =>
    obtain ⟨c, region⟩ := item
    -- A blank keeps the line fresh, or begins one; after any other character it is fresh no more.
    have later := ih h.rest
    cases blank : isBlank c with
    | true =>
      rw [blank, Bool.true_and] at later
      rw [strayIn?_blank blank, ← later]
      exact Package.declaredIn?_blank blank fresh _
    | false =>
      rw [blank, Bool.false_and] at later
      rw [strayIn?_dark blank, ← later]
      refine (Package.declaredIn?_dark blank fresh _).trans (congrArg (Option.or · _) ?_)
      cases fresh with
      | false => rfl
      | true =>
        simp only [if_true]
        cases here : declaredHere? (c :: rest.map Prod.fst) with
        | none => rfl
        | some found =>
          rw [Option.filter_some, if_pos]
          rw [decide_eq_true_eq, or_iff_not_imp_left, not_not]
          rintro rfl
          exact h [] c rest rfl blank rfl found here

theorem IsHeading.isSilent {front : List Char} (heading : IsHeading front) :
    IsSilent true (marked .code front) := by
  intro before c after same dark _ found _ _
  have blank := heading.blank_of_code c (by rw [same]; simp)
  rw [dark] at blank
  cases blank

theorem isSilent_of_outside {text : List Char} (h : ¬HoldsDeclaration (outside text)) :
    IsSilent true (marked .code text) := by
  intro before c after same dark fresh found here dotted
  obtain ⟨name, rest, declares, rfl⟩ := Package.declares_of_declaredHere? dark here
  rw [String.toList_ofList] at dotted
  have ending : (c, Region.code) :: after <:+ marked .code text := ⟨before, same.symm⟩
  have code := marked_suffix ending
  -- The declaration is made of code, so it stands outside as it is written, behind a blank, a quote or
  -- nothing: the line is still fresh there.
  refine h ⟨before.map shown, outside (c :: after.map Prod.fst), name, outside rest, ?_,
    outside_declares declares, dotted, ?_⟩
  · rw [outside, same, List.map_append, outside, code]
  · intro last ends
    rw [List.getLast?_map, Option.mem_def, Option.map_eq_some_iff] at ends
    obtain ⟨⟨d, region⟩, ends, rfl⟩ := ends
    refine shown_blank (Package.freshAfter_getLast? fresh d ?_) region
    rw [List.getLast?_map, ends]
    rfl

end TestBench.Java
