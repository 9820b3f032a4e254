import Mathlib.Data.List.Forall2
import TestBench.Proofs.Json.Fields
import TestBench.Validation.Standard

/-!
What validators promise.

- `Validator.Lawful`: the rules of a library that reads settings, as its documentation states them:
  texts and sequences of texts are taken as they are and never converted, the fields of a model are
  read in the order of declaration, a problem does not hide the others, and fields that are not
  declared may be forbidden,
- `Validator.standard_lawful`: the validator that the program uses follows these rules.
-/
namespace TestBench
set_option autoImplicit false
open Validation (problems)

/-- The same problem, seen from one step further out. -/
def Problem.inside (step : Place) (problem : Problem) : Problem :=
  { problem with place := step :: problem.place }

/-! ## The rules -/

/-- The fields of an object that a model forbids, each with its problem. -/
def Model.strange (model : Model) (given : List (String × Json)) : List Problem :=
  match model.extra with
  | .ignored => []
  | .forbidden =>
    (given.filter fun field => field.1 ∉ model.fields.map Field.name).map fun field =>
      ⟨[.field field.1], .undeclared⟩

namespace Validator

/-- What is wrong with a declared field in an object; nothing, if it is not given. -/
def wrongIn (validator : Validator) (given : List (String × Json)) (field : Field) :
    List Problem :=
  match given.lookup field.name with
  | none => []
  | some value =>
    (problems (validator.check field.kind value)).map (.inside (.field field.name))

/-- What is wrong with an object: the declared fields in their order, and then the other ones. -/
def wrong (validator : Validator) (model : Model) (given : List (String × Json)) : List Problem :=
  model.fields.flatMap (validator.wrongIn given) ++ model.strange given

/-- The values of fields in an object: what the given value comes to, and the default where none is
given. -/
def Reads (validator : Validator) (given : List (String × Json)) :
    (fields : List Field) → Values fields → Prop
  | [], _ => True
  | field :: rest, (value, values) =>
    (match given.lookup field.name with
      | none => value = field.default
      | some item => validator.check field.kind item = .ok value) ∧
    validator.Reads given rest values

/-- What the documentation of a validator promises. The first five rules are about texts and
sequences, the others about models. -/
structure Lawful (validator : Validator) : Prop where
  text (content : String) : validator.check .text (.text content) = .ok content
  notText {value : Json} (other : ∀ content, value ≠ .text content) :
    validator.check .text value = .error [⟨[], .notText⟩]
  items {items : List Json} {contents : List String}
    (each : List.Forall₂ (fun item content => validator.check .text item = .ok content) items
      contents) : validator.check .texts (.array items) = .ok contents
  wrongItems {items : List Json} {item : Json} {found : List Problem} (member : item ∈ items)
    (wrong : validator.check .text item = .error found) :
    validator.check .texts (.array items) = .error (items.zipIdx.flatMap fun item =>
      (problems (validator.check .text item.1)).map (.inside (.item item.2)))
  notAList {value : Json} (other : ∀ items, value ≠ .array items) :
    validator.check .texts value = .error [⟨[], .notAList⟩]
  notJsonText (model : Model) : validator.validate model none = .error [⟨[], .notJsonText⟩]
  malformed (model : Model) {source : String} (unread : validator.parse source = none) :
    validator.validate model (some source) = .error [⟨[], .malformedJson⟩]
  notAnObject (model : Model) {source : String} {value : Json}
    (read : validator.parse source = some value) (other : ∀ given, value ≠ .object given) :
    validator.validate model (some source) = .error [⟨[], .notAnObject⟩]
  accepts {model : Model} {source : String} {given : List (String × Json)}
    {values : Values model.fields} (read : validator.parse source = some (.object given))
    (different : (Json.names given).Nodup) (known : model.strange given = [])
    (reads : validator.Reads given model.fields values) :
    validator.validate model (some source) = .ok values
  refuses {model : Model} {source : String} {given : List (String × Json)}
    (read : validator.parse source = some (.object given)) (different : (Json.names given).Nodup)
    (defective : validator.wrong model given ≠ []) :
    validator.validate model (some source) = .error (validator.wrong model given)

end Validator

/-! ## The validator of the program -/

namespace Validation
variable {given : List (String × Json)}

theorem text_other {value : Json} (other : ∀ content, value ≠ .text content) :
    text value = .error [⟨[], .notText⟩] := by
  cases value with
  | text content => exact absurd rfl (other content)
  | _ => rfl

theorem texts_other {value : Json} (other : ∀ items, value ≠ .array items) :
    texts value = .error [⟨[], .notAList⟩] := by
  cases value with
  | array items => exact absurd rfl (other items)
  | _ => rfl

theorem itemsFrom_ok {α : Type} {check : Json → Checked α} {values : List Json} {found : List α}
    (each : List.Forall₂ (fun value item => check value = .ok item) values found) (start : Nat) :
    itemsFrom check start values = .ok found := by
  induction each generalizing start with
  | nil => rfl
  | cons first _ ih => rw [itemsFrom, first, within, ih]

theorem problems_within {α : Type} (step : Place) (checked : Checked α) :
    problems (within step checked) = (problems checked).map (.inside step) := by
  cases checked <;> rfl

theorem eq_error {α : Type} {checked : Checked α} (h : ∀ value, checked ≠ .ok value) :
    checked = .error (problems checked) := by
  cases checked with
  | ok value => exact absurd rfl (h value)
  | error found => rfl

theorem itemsFrom_problems {α : Type} (check : Json → Checked α) (values : List Json)
    (start : Nat) :
    problems (itemsFrom check start values) = (values.zipIdx start).flatMap fun item =>
      (problems (check item.1)).map (.inside (.item item.2)) := by
  induction values generalizing start with
  | nil => rfl
  | cons value rest ih =>
    rw [List.zipIdx_cons, List.flatMap_cons, ← ih, ← problems_within, itemsFrom]
    cases within (.item start) (check value) <;>
      cases itemsFrom check (start + 1) rest <;> rfl

theorem itemsFrom_ne_ok {α : Type} {check : Json → Checked α} {values : List Json} {value : Json}
    {found : List Problem} (member : value ∈ values) (wrong : check value = .error found)
    (start : Nat) (items : List α) : itemsFrom check start values ≠ .ok items := by
  induction values generalizing start items with
  | nil => cases member
  | cons first rest ih =>
    rw [itemsFrom]
    rcases List.mem_cons.mp member with rfl | later
    · rw [wrong, within]
      simp
    · cases others : itemsFrom check (start + 1) rest with
      | ok values => exact absurd others (ih later _ _)
      | error found => cases within (.item start) (check first) <;> simp

theorem extras_eq (model : Model) (given : List (String × Json)) :
    extras model given = model.strange given := by
  unfold extras Model.strange
  cases model.extra with
  | ignored => rfl
  | forbidden => simp only [undeclared, List.contains_eq_mem, decide_not]

theorem field_eq {fields : List (String × Json)} (different : (Json.names fields).Nodup)
    {α : Type} (name : String) (default : α) (check : Json → Checked α) :
    field fields name (some default) check = match fields.lookup name with
      | none => .ok default
      | some value => within (.field name) (check value) := by
  unfold field
  rw [Json.lookup?_eq different]
  cases fields.lookup name <;> rfl

theorem declared_problems (different : (Json.names given).Nodup) (fields : List Field) :
    problems (declared given fields) = fields.flatMap (Validator.standard.wrongIn given) := by
  induction fields with
  | nil => rfl
  | cons declaration rest ih =>
    have own : problems (field given declaration.name (some declaration.default)
        (check declaration.kind)) = Validator.standard.wrongIn given declaration := by
      rw [field_eq different, Validator.wrongIn]
      cases given.lookup declaration.name with
      | none => rfl
      | some value => exact problems_within _ _
    rw [List.flatMap_cons, ← ih, ← own, declared]
    cases field given declaration.name (some declaration.default) (check declaration.kind) <;>
      cases declared given rest <;> rfl

theorem declared_ok (different : (Json.names given).Nodup) {fields : List Field}
    {values : Values fields} (reads : Validator.standard.Reads given fields values) :
    declared given fields = .ok values := by
  induction fields with
  | nil => rfl
  | cons declaration rest ih =>
    obtain ⟨own, others⟩ := reads
    have found : field given declaration.name (some declaration.default)
        (check declaration.kind) = .ok values.1 := by
      rw [field_eq different]
      split at own
      · next none => exact congrArg Except.ok own.symm
      · next value given => exact congrArg (within _) own
    rw [declared, found, ih others]

end Validation

namespace Validator
open Validation

theorem standard_object {model : Model} {source : String} {given : List (String × Json)}
    (read : standard.parse source = some (.object given)) :
    standard.validate model (some source) = object model given := by
  have found : Json.read? Text.digitLimit depth source = some (.object given) := read
  change Validation.source model (some source) = _
  simp only [Validation.source, found]

/-- The validator of the program keeps the promises. -/
theorem standard_lawful : standard.Lawful where
  text content := rfl
  notText := text_other
  items each := itemsFrom_ok each 0
  wrongItems {items} item found member wrong := by
    have none : ∀ contents, itemsFrom Validation.text 0 items ≠ .ok contents :=
      itemsFrom_ne_ok member wrong 0
    change itemsFrom Validation.text 0 items = _
    rw [eq_error none, itemsFrom_problems]
    rfl
  notAList := texts_other
  notJsonText model := rfl
  malformed model source unread := by
    have none : Json.read? Text.digitLimit depth source = none := unread
    change Validation.source model (some source) = _
    simp only [Validation.source, none, refuse]
  notAnObject model source value read other := by
    have found : Json.read? Text.digitLimit depth source = some value := read
    change Validation.source model (some source) = _
    cases value with
    | object given => exact absurd rfl (other given)
    | _ => simp only [Validation.source, found, refuse]
  accepts read different known reads := by
    rw [standard_object read, object, declared_ok different reads, extras_eq, known]
  refuses {model source given} read different defective := by
    have parts : standard.wrong model given =
        problems (declared given model.fields) ++ extras model given := by
      rw [wrong, declared_problems different, extras_eq]
    rw [parts] at defective ⊢
    rw [standard_object read, object]
    split
    · next values found none =>
      rw [found, none] at defective
      exact absurd rfl defective
    · rfl

end Validator
end TestBench
