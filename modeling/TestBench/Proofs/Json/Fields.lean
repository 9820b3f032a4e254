import TestBench.Json.Reader

/-!
The names of objects. A name that is set again keeps its place, so no object that is read has a name
twice, and it does not matter from which end a field is looked up.

- `putField_absent` and `putField_names`: a new name is added at the end,
- `read?_names`: the names of an object that is read are different,
- `lookup?_eq`: the last field of a name is the first one.
-/
namespace TestBench.Json
set_option autoImplicit false

/-- The names of an object, in order. -/
def names {α : Type} (fields : List (String × α)) : List String :=
  fields.map Prod.fst

theorem any_name {α : Type} {fields : List (String × α)} {name : String} :
    (fields.any fun field => field.1 == name) = true ↔ name ∈ names fields := by
  simp [names, List.any_eq_true]

/-- A new name is put at the end. -/
theorem putField_absent {α : Type} {fields : List (String × α)} {name : String}
    (absent : name ∉ names fields) (value : α) :
    putField fields name value = fields ++ [(name, value)] :=
  if_neg (mt any_name.mp absent)

theorem putField_names {α : Type} (fields : List (String × α)) (name : String) (value : α) :
    names (putField fields name value) =
      if name ∈ names fields then names fields else names fields ++ [name] := by
  by_cases known : name ∈ names fields
  · rw [putField, if_pos (any_name.mpr known), if_pos known, names, names, List.map_map]
    apply List.map_congr_left
    intro field _
    by_cases same : field.1 = name <;> simp [same]
  · rw [putField_absent known, if_neg known]
    simp [names]

theorem putField_nodup {α : Type} {fields : List (String × α)} (different : (names fields).Nodup)
    (name : String) (value : α) : (names (putField fields name value)).Nodup := by
  rw [putField_names]
  split
  · exact different
  · next other =>
    rw [List.nodup_append]
    refine ⟨different, by simp, ?_⟩
    intro known member new single same
    exact other (List.mem_singleton.mp single ▸ same ▸ member)

/-- Every field that is read is put to those before it. -/
theorem takeFields_nodup {steps depth : Nat} {before fields : List (String × Json)}
    {tokens rest : List Token} (different : (names before).Nodup)
    (h : takeFields steps depth before tokens = some (fields, rest)) : (names fields).Nodup := by
  induction steps generalizing before tokens with
  | zero => cases h
  | succ steps ih =>
    unfold takeFields at h
    split at h
    · next name tail =>
      obtain ⟨⟨value, after⟩, -, continued⟩ := Option.bind_eq_some_iff.mp h
      have next := putField_nodup different name value
      dsimp only at continued
      split at continued
      · cases continued
        exact next
      · exact ih next continued
      · cases continued
    · cases h

/-! ## Objects that are read -/

/-- Objects are read from marks, not from atoms. -/
theorem atom?_ne_object {limit : Nat} {chars : List Char} {fields : List (String × Json)} :
    atom? limit chars ≠ some (.object fields) := by
  have number (negative : Bool) (rest : List Char) :
      number? limit negative rest ≠ some (.object fields) := by
    simp only [number?]
    split
    · simp
    · split
      · simp
      · split
        · simp
        · cases takeFraction (takeDigits rest).2 with
          | none => simp
          | some found => cases tail : exponent? found.2 <;> simp [tail]
  unfold atom?
  split
  · simp
  · simp
  · simp
  · simp
  · simp
  · simp
  · split
    · exact number true _
    · exact number false _

theorem firstToken?_ne_object {limit : Nat} {c : Char} {rest tail : List Char}
    {fields : List (String × Json)} :
    firstToken? limit c rest ≠ some (.atom (.object fields), tail) := by
  intro h
  unfold firstToken? at h
  split at h
  · next mark =>
    obtain ⟨rfl, -⟩ := Prod.mk.inj (Option.some.inj h)
    unfold mark? at mark
    split at mark <;> cases mark
  · split at h
    · obtain ⟨units, -, found⟩ := Option.bind_eq_some_iff.mp h
      obtain ⟨chars, -, same⟩ := Option.bind_eq_some_iff.mp found
      cases same
    · split at h
      · obtain ⟨value, atom, same⟩ := Option.bind_eq_some_iff.mp h
        cases same
        exact atom?_ne_object atom
      · cases h

theorem tokensUpTo_marked {limit count : Nat} {chars : List Char} {tokens : List Token}
    {fields : List (String × Json)} (h : tokensUpTo limit count chars = some tokens) :
    .atom (.object fields) ∉ tokens := by
  induction count generalizing chars tokens with
  | zero => cases h
  | succ count ih =>
    unfold tokensUpTo at h
    split at h
    · cases h
      simp
    · obtain ⟨⟨token, tail⟩, first, found⟩ := Option.bind_eq_some_iff.mp h
      obtain ⟨others, later, same⟩ := Option.bind_eq_some_iff.mp found
      cases same
      intro member
      rcases List.mem_cons.mp member with rfl | member
      · exact firstToken?_ne_object first
      · exact ih later member

theorem takeValue_nodup {steps depth : Nat} {fields : List (String × Json)}
    {tokens rest : List Token} (marked : .atom (.object fields) ∉ tokens)
    (h : takeValue steps depth tokens = some (.object fields, rest)) : (names fields).Nodup := by
  have none : (names ([] : List (String × Json))).Nodup := List.nodup_nil
  cases steps with
  | zero => cases h
  | succ steps =>
    unfold takeValue at h
    split at h
    · cases h
      exact absurd List.mem_cons_self marked
    · cases h
    · cases h
    · cases h
      exact none
    · obtain ⟨items, -, same⟩ := Option.bind_eq_some_iff.mp h
      cases same
    · obtain ⟨found, taken, same⟩ := Option.bind_eq_some_iff.mp h
      cases same
      exact takeFields_nodup none taken
    · cases h

theorem read?_names {limit depth : Nat} {text : String} {fields : List (String × Json)}
    (h : read? limit depth text = some (.object fields)) : (names fields).Nodup := by
  obtain ⟨tokens, marked, found⟩ := Option.bind_eq_some_iff.mp h
  obtain ⟨⟨value, rest⟩, taken, whole⟩ := Option.bind_eq_some_iff.mp found
  split at whole
  · next same =>
    cases same
    cases whole
    exact takeValue_nodup (tokensUpTo_marked marked) taken
  · cases whole

/-! ## Looking up -/

theorem lookup?_eq {α : Type} {fields : List (String × α)} (different : (names fields).Nodup)
    (name : String) : lookup? name fields = fields.lookup name := by
  induction fields with
  | nil => rfl
  | cons field rest ih =>
    obtain ⟨first, value⟩ := field
    obtain ⟨other, different⟩ := List.nodup_cons.mp different
    have split : lookup? name ((first, value) :: rest) =
        (lookup? name rest).or (if first = name then some value else none) := by
      simp only [lookup?, List.reverse_cons, List.find?_append, List.find?_singleton, beq_iff_eq]
      split <;> cases rest.reverse.find? _ <;> rfl
    rw [split, ih different, List.lookup_cons]
    by_cases same : first = name
    · subst same
      have absent : rest.lookup first = none := by
        rw [List.lookup_eq_none_iff]
        rintro ⟨name, value⟩ member
        exact bne_iff_ne.mpr fun equal => other (List.mem_map.mpr ⟨_, member, equal.symm⟩)
      simp [absent]
    · have apart : (name == first) = false := beq_false_of_ne (Ne.symm same)
      simp [same, apart]

theorem lookup_eq_some {α : Type} {fields : List (String × α)} (different : (names fields).Nodup)
    {name : String} {value : α} : fields.lookup name = some value ↔ (name, value) ∈ fields := by
  rw [List.lookup_eq_some_iff, List.mem_iff_append]
  constructor
  · rintro ⟨before, after, rfl, -⟩
    exact ⟨before, after, rfl⟩
  · rintro ⟨before, after, rfl⟩
    refine ⟨before, after, rfl, ?_⟩
    intro field earlier
    rw [names, List.map_append, List.nodup_append] at different
    have apart := different.2.2 field.1 (List.mem_map_of_mem earlier) name List.mem_cons_self
    exact bne_iff_ne.mpr apart.symm

end TestBench.Json
