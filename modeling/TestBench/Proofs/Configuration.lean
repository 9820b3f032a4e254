import Mathlib.Data.List.Nodup
import TestBench.Mode.Registry
import TestBench.Proofs.Validator

/-!
The configurations that modes accept, and what is said about all others, whatever validator reads
them.

- `Declared`: a field that a configuration may have, the values that it admits and what is wrong
  with any other value,
- `Settles`: a check gives a right value, or exactly what is wrong,
- `Kind.validate_settles`: so does a validator with the model of a mode,
- `Kind.admits_iff`: a configuration is admitted exactly when nothing is wrong with it,
- `Kind.problems_places`: nothing is said twice about one place,
- `configure_validates`: the configurations that are accepted, and the problems of the others.
-/
namespace TestBench
set_option autoImplicit false

def Json.isText : Json → Bool
  | text _ => true
  | _ => false

namespace Mode
open Validation (problems)

/-! ## Declared fields -/

/-- A field that a configuration may have: a text that has a usual content, or texts, of which there
are usually none. -/
inductive Declared where
  | text (name usual : String)
  | texts (name : String)

/-- The items that are no texts, each at its index, from a first index on. -/
def strays (start : Nat) (items : List Json) : List Problem :=
  ((items.zipIdx start).filter fun item => !item.1.isText).map fun item =>
    ⟨[.item item.2], .notText⟩

namespace Declared

def name : Declared → String
  | text name _ => name
  | texts name => name

def usual : Declared → Json
  | text _ usual => .text usual
  | texts _ => .texts []

/-- The values that a field may have. -/
def Admits : Declared → Json → Prop
  | text _ _, value => ∃ content, value = .text content
  | texts _, value => ∃ contents, value = .texts contents

/-- What is wrong with a value of a field: its kind, or the kind of some of its items. -/
def defects : Declared → Json → List Problem
  | text _ _, value => if value.isText then [] else [⟨[], .notText⟩]
  | texts _, .array items => strays 0 items
  | texts _, _ => [⟨[], .notAList⟩]

/-- The value of a field in a configuration: the one that is given, or the usual one. -/
def valueIn (declared : Declared) (fields : List (String × Json)) : Json :=
  (fields.lookup declared.name).getD declared.usual

/-- What is wrong with a field in a configuration; nothing, if it is not given. -/
def problemsIn (declared : Declared) (fields : List (String × Json)) : List Problem :=
  match fields.lookup declared.name with
  | none => []
  | some value => (declared.defects value).map (Problem.inside (.field declared.name))

end Declared

namespace Kind

def modelName : Kind → String
  | jvm => "JavaVmConfig"
  | dalvikvm => "DalvikVmConfig"

def declared : Kind → List Declared
  | jvm => [.text "java" "java", .text "runner_main_class" "vmtest.TestRunner", .texts "vm_args"]
  | dalvikvm => [.text "dalvikvm" "dalvikvm", .text "dx" "dx",
      .text "runner_main_class" "vmtest.TestRunner", .texts "vm_args"]

def fieldNames (kind : Kind) : List String :=
  kind.declared.map Declared.name

/-- Every field is declared, and its value is one that it may have. -/
def Admits (kind : Kind) (fields : List (String × Json)) : Prop :=
  ∀ field ∈ fields, ∃ declared ∈ kind.declared, declared.name = field.1 ∧ declared.Admits field.2

def unknown (kind : Kind) (fields : List (String × Json)) : List (String × Json) :=
  fields.filter fun field => field.1 ∉ kind.fieldNames

/-- What is wrong with the declared fields, in the order of declaration, and then every field that
is not declared, in the order of the configuration. -/
def problems (kind : Kind) (fields : List (String × Json)) : List Problem :=
  kind.declared.flatMap (fun declared => declared.problemsIn fields) ++
    (kind.unknown fields).map fun field => ⟨[.field field.1], .undeclared⟩

/-- The text is an object of declared fields with values that they may have. -/
def Accepts (validator : Validator) (kind : Kind) (source : String) : Prop :=
  ∃ fields, validator.parse source = some (.object fields) ∧ kind.Admits fields

/-- What is wrong with a text as a configuration. -/
def wrongIn (validator : Validator) (kind : Kind) (source : String) : List Problem :=
  match validator.parse source with
  | none => [⟨[], .malformedJson⟩]
  | some (.object fields) => kind.problems fields
  | some _ => [⟨[], .notAnObject⟩]

end Kind

/-- Which virtual machine a mode is for, if it is for one. -/
def kind? : Mode → Option Kind
  | jvm _ => some .jvm
  | dalvikvm _ => some .dalvikvm
  | scripted _ => none

/-- The fields of the configuration of a mode with their values. -/
def values : Mode → List (String × Json)
  | jvm config => [("java", .text config.java), ("runner_main_class", .text config.runnerMainClass),
      ("vm_args", .texts config.vmArguments)]
  | dalvikvm config => [("dalvikvm", .text config.dalvikvm), ("dx", .text config.dx),
      ("runner_main_class", .text config.runnerMainClass), ("vm_args", .texts config.vmArguments)]
  | scripted _ => []

/-- A mode has the values that a configuration gives it, and the usual ones for the rest. -/
def Follows (mode : Mode) (kind : Kind) (fields : List (String × Json)) : Prop :=
  mode.kind? = some kind ∧
    mode.values = kind.declared.map fun declared => (declared.name, declared.valueIn fields)

/-! ## Checks -/

/-- What comes out of a check: a right value if nothing is wrong, and else what is wrong. -/
def Settles {α : Type} (wrong : List Problem) (Right : α → Prop) : Checked α → Prop
  | .ok value => wrong = [] ∧ Right value
  | .error found => found = wrong ∧ wrong ≠ []

theorem Settles.problems_eq {α : Type} {wrong : List Problem} {Right : α → Prop}
    {checked : Checked α} (h : Settles wrong Right checked) : problems checked = wrong := by
  cases checked with
  | ok value => exact h.1.symm
  | error found => exact h.1

theorem strays_cons (start : Nat) (value : Json) (rest : List Json) :
    strays start (value :: rest) =
      (if value.isText then [] else [⟨[.item start], .notText⟩]) ++ strays (start + 1) rest := by
  cases kind : value.isText <;> simp [strays, kind]

theorem strays_eq_nil {start : Nat} {items : List Json} :
    strays start items = [] ↔ ∃ contents : List String, items = contents.map Json.text := by
  induction items generalizing start with
  | nil => exact ⟨fun _ => ⟨[], rfl⟩, fun _ => rfl⟩
  | cons item rest ih =>
    rw [strays_cons, List.append_eq_nil_iff, ih]
    constructor
    · rintro ⟨none, contents, rfl⟩
      cases item with
      | text content => exact ⟨content :: contents, rfl⟩
      | _ => cases none
    · rintro ⟨contents, same⟩
      cases contents with
      | nil => cases same
      | cons content contents =>
        obtain ⟨rfl, rfl⟩ := List.cons.inj same
        exact ⟨rfl, contents, rfl⟩

theorem exists_stray {start : Nat} {items : List Json} (h : strays start items ≠ []) :
    ∃ item ∈ items, item.isText = false := by
  obtain ⟨problem, member⟩ := List.exists_mem_of_ne_nil _ h
  obtain ⟨item, inside, -⟩ := List.mem_map.mp member
  obtain ⟨found, other⟩ := List.mem_filter.mp inside
  exact ⟨item.1, List.fst_mem_of_mem_zipIdx found, by simpa using other⟩

/-! ## Declared fields and validators -/

/-- A field of a model as a configuration may have it. -/
def Declared.ofField : Field → Declared
  | ⟨name, .text, usual⟩ => .text name usual
  | ⟨name, .texts, _⟩ => .texts name

theorem Declared.ofField_name (field : Field) : (ofField field).name = field.name := by
  obtain ⟨name, kind, usual⟩ := field
  cases kind <;> rfl

/-- A value of a kind of field, as it stands in a configuration. -/
def encode : (kind : FieldKind) → kind.Value → Json
  | .text, content => .text content
  | .texts, contents => .texts contents

/-- Values of fields, as they stand in a configuration. -/
def encodeAll : (fields : List Field) → Values fields → List (String × Json)
  | [], _ => []
  | field :: rest, (value, values) =>
    (field.name, encode field.kind value) :: encodeAll rest values

theorem Kind.model_declared (kind : Kind) :
    kind.model.fields.map Declared.ofField = kind.declared := by
  cases kind <;> rfl

theorem Kind.model_usual (kind : Kind) :
    ∀ field ∈ kind.model.fields, encode field.kind field.default = (Declared.ofField field).usual := by
  cases kind <;> simp [Kind.model, encode, Declared.ofField, Declared.usual]

theorem Kind.model_strange (kind : Kind) (fields : List (String × Json)) :
    kind.model.strange fields = (kind.unknown fields).map fun field =>
      ⟨[.field field.1], .undeclared⟩ := by
  cases kind <;> rfl

theorem Kind.mode_values (kind : Kind) (values : Values kind.model.fields) :
    (kind.mode values).kind? = some kind ∧
      (kind.mode values).values = encodeAll kind.model.fields values := by
  cases kind <;> exact ⟨rfl, rfl⟩

section Lawful
variable {validator : Validator} (lawful : validator.Lawful)
include lawful

theorem text_settles (value : Json) :
    Settles (if value.isText then [] else [⟨[], .notText⟩]) (fun content => .text content = value)
      (validator.check .text value) := by
  cases value with
  | text content =>
    rw [lawful.text]
    exact ⟨rfl, rfl⟩
  | _ =>
    rw [lawful.notText (by simp)]
    exact ⟨rfl, List.cons_ne_nil _ _⟩

/-- The problems of items are those of the items that are no texts. -/
theorem flatMap_strays (items : List (Json × Nat)) :
    (items.flatMap fun item =>
        (problems (validator.check .text item.1)).map (Problem.inside (.item item.2))) =
      (items.filter fun item => !item.1.isText).map fun item => ⟨[.item item.2], .notText⟩ := by
  induction items with
  | nil => rfl
  | cons item rest ih =>
    rw [List.flatMap_cons, ih, (text_settles lawful item.1).problems_eq]
    cases kind : item.1.isText <;> simp [kind, Problem.inside]

theorem texts_settles (name : String) (value : Json) :
    Settles ((Declared.texts name).defects value) (fun contents => .texts contents = value)
      (validator.check .texts value) := by
  cases value with
  | array items =>
    by_cases all : strays 0 items = []
    · obtain ⟨contents, rfl⟩ := strays_eq_nil.mp all
      have each : List.Forall₂ (fun item content => validator.check .text item = .ok content)
          (contents.map .text) contents := by
        simp [lawful.text, List.forall₂_map_left_iff]
      rw [lawful.items each]
      exact ⟨all, rfl⟩
    · obtain ⟨item, member, other⟩ := exists_stray all
      have noText : ∀ content, item ≠ .text content := by
        rintro content rfl
        cases other
      rw [lawful.wrongItems member (lawful.notText noText), flatMap_strays lawful]
      exact ⟨rfl, all⟩
  | _ =>
    rw [lawful.notAList (by simp)]
    exact ⟨rfl, List.cons_ne_nil _ _⟩

theorem check_settles (field : Field) (value : Json) :
    Settles ((Declared.ofField field).defects value) (fun found => encode field.kind found = value)
      (validator.check field.kind value) := by
  obtain ⟨name, kind, usual⟩ := field
  cases kind with
  | text => exact text_settles lawful value
  | texts => exact texts_settles lawful name value

theorem wrongIn_eq (fields : List (String × Json)) (field : Field) :
    validator.wrongIn fields field = (Declared.ofField field).problemsIn fields := by
  rw [Validator.wrongIn, Declared.problemsIn, Declared.ofField_name]
  cases fields.lookup field.name with
  | none => rfl
  | some value =>
    dsimp only
    rw [(check_settles lawful field value).problems_eq]

theorem Kind.wrong_eq (kind : Kind) (fields : List (String × Json)) :
    validator.wrong kind.model fields = kind.problems fields := by
  have each : validator.wrongIn fields = fun field => (Declared.ofField field).problemsIn fields :=
    funext (wrongIn_eq lawful fields)
  rw [Validator.wrong, Kind.problems, ← kind.model_declared, List.flatMap_map, kind.model_strange,
    each]

/-- Fields with which nothing is wrong have values. -/
theorem exists_reads {given : List (String × Json)} {fields : List Field}
    (right : ∀ field ∈ fields, validator.wrongIn given field = []) :
    ∃ values, validator.Reads given fields values := by
  induction fields with
  | nil => exact ⟨(), trivial⟩
  | cons field rest ih =>
    rw [List.forall_mem_cons, wrongIn_eq lawful, Declared.problemsIn,
      Declared.ofField_name] at right
    obtain ⟨values, others⟩ := ih right.2
    cases found : given.lookup field.name with
    | none => exact ⟨(field.default, values), by rw [found], others⟩
    | some item =>
      have settles := check_settles lawful field item
      simp only [found, List.map_eq_nil_iff] at right
      rw [right.1] at settles
      cases checked : validator.check field.kind item with
      | ok value => exact ⟨(value, values), by rw [found]; exact checked, others⟩
      | error wrong =>
        rw [checked] at settles
        exact absurd rfl settles.2

theorem encodeAll_eq {given : List (String × Json)} {fields : List Field} {values : Values fields}
    (usual : ∀ field ∈ fields, encode field.kind field.default = (Declared.ofField field).usual)
    (reads : validator.Reads given fields values) :
    encodeAll fields values = (fields.map Declared.ofField).map fun declared =>
      (declared.name, declared.valueIn given) := by
  induction fields with
  | nil => rfl
  | cons field rest ih =>
    rw [List.forall_mem_cons] at usual
    obtain ⟨own, others⟩ := reads
    have same : encode field.kind values.1 = (Declared.ofField field).valueIn given := by
      rw [Declared.valueIn, Declared.ofField_name]
      split at own
      · next none => rw [own, usual.1, none, Option.getD_none]
      · next item found =>
        have settles := check_settles lawful field item
        rw [own] at settles
        rw [settles.2, found, Option.getD_some]
    rw [List.map_cons, List.map_cons, ← ih usual.2 others, Declared.ofField_name, ← same]
    rfl

/-! ## Whole configurations -/

theorem Kind.validate_settles (kind : Kind) {source : String}
    (different : ∀ fields, validator.parse source = some (.object fields) →
      (Json.names fields).Nodup) :
    Settles (kind.wrongIn validator source)
      (fun values => ∃ fields, validator.parse source = some (.object fields) ∧
        (kind.mode values).Follows kind fields)
      (validator.validate kind.model (some source)) := by
  simp only [Kind.wrongIn]
  cases read : validator.parse source with
  | none =>
    rw [lawful.malformed kind.model read]
    exact ⟨rfl, List.cons_ne_nil _ _⟩
  | some value =>
    cases value with
    | object fields =>
      have names := different fields read
      dsimp only
      rw [← kind.wrong_eq lawful]
      by_cases none : validator.wrong kind.model fields = []
      · obtain ⟨right, known⟩ := List.append_eq_nil_iff.mp none
        obtain ⟨values, reads⟩ := exists_reads lawful (List.flatMap_eq_nil_iff.mp right)
        obtain ⟨own, encoded⟩ := kind.mode_values values
        rw [lawful.accepts read names known reads]
        refine ⟨none, fields, rfl, own, ?_⟩
        rw [encoded, encodeAll_eq lawful kind.model_usual reads, kind.model_declared]
      · rw [lawful.refuses read names none]
        exact ⟨rfl, none⟩
    | _ =>
      rw [lawful.notAnObject kind.model read (by simp)]
      exact ⟨rfl, List.cons_ne_nil _ _⟩

end Lawful

/-! ## Admitted configurations -/

theorem Declared.defects_eq_nil {declared : Declared} {value : Json} :
    declared.defects value = [] ↔ declared.Admits value := by
  cases declared with
  | text name usual => cases value <;> simp [defects, Admits, Json.isText]
  | texts name =>
    cases value with
    | array items => simp [defects, Admits, Json.texts, strays_eq_nil]
    | _ => simp [defects, Admits, Json.texts]

theorem Kind.fieldNames_nodup (kind : Kind) : kind.fieldNames.Nodup := by
  cases kind <;> decide

theorem Declared.problemsIn_eq_nil {declared : Declared} {fields : List (String × Json)} :
    declared.problemsIn fields = [] ↔
      ∀ value, fields.lookup declared.name = some value → declared.Admits value := by
  unfold problemsIn
  cases fields.lookup declared.name with
  | none => simp
  | some value => simp [defects_eq_nil]

theorem Kind.admits_iff {kind : Kind} {fields : List (String × Json)}
    (different : (Json.names fields).Nodup) :
    kind.Admits fields ↔ kind.problems fields = [] := by
  constructor
  · intro admitted
    rw [Kind.problems, List.append_eq_nil_iff, List.flatMap_eq_nil_iff, List.map_eq_nil_iff,
      Kind.unknown, List.filter_eq_nil_iff]
    constructor
    · intro declared member
      rw [Declared.problemsIn_eq_nil]
      intro value given
      obtain ⟨other, known, name, right⟩ := admitted _ ((Json.lookup_eq_some different).mp given)
      -- no name is declared twice, so the field was admitted by this declaration
      have same : other = declared :=
        List.inj_on_of_nodup_map kind.fieldNames_nodup known member name
      exact same ▸ right
    · rintro field given
      obtain ⟨declared, known, name, -⟩ := admitted field given
      have named : field.1 ∈ kind.fieldNames := List.mem_map.mpr ⟨declared, known, name⟩
      simpa using named
  · intro none field given
    rw [Kind.problems, List.append_eq_nil_iff, List.flatMap_eq_nil_iff, List.map_eq_nil_iff,
      Kind.unknown, List.filter_eq_nil_iff] at none
    obtain ⟨right, known⟩ := none
    have named : field.1 ∈ kind.fieldNames := by simpa using known field given
    obtain ⟨declared, member, name⟩ := List.mem_map.mp named
    refine ⟨declared, member, name, ?_⟩
    exact Declared.problemsIn_eq_nil.mp (right declared member) _
      (name ▸ (Json.lookup_eq_some different).mpr given)

/-! ## Places -/

theorem strays_places (start : Nat) (items : List Json) :
    ((strays start items).map Problem.place).Nodup := by
  have indices : ((items.zipIdx start).map Prod.snd).Nodup := by
    rw [List.zipIdx_map_snd]
    exact List.nodup_range'
  have places : (strays start items).map Problem.place =
      (((items.zipIdx start).filter fun item => !item.1.isText).map Prod.snd).map fun index =>
        [.item index] := by
    simp [strays]
  rw [places]
  apply List.Nodup.map
  · intro first second same
    simpa using same
  · exact indices.sublist (List.filter_sublist.map _)

theorem Declared.defects_places (declared : Declared) (value : Json) :
    ((declared.defects value).map Problem.place).Nodup := by
  cases declared with
  | text name usual => cases value <;> simp [defects, Json.isText]
  | texts name =>
    cases value with
    | array items => exact strays_places 0 items
    | _ => exact List.nodup_singleton _

theorem Declared.problemsIn_places (declared : Declared) (fields : List (String × Json)) :
    ((declared.problemsIn fields).map Problem.place).Nodup := by
  unfold problemsIn
  cases fields.lookup declared.name with
  | none => exact List.nodup_nil
  | some value =>
    have places : ((declared.defects value).map (Problem.inside (.field declared.name))).map
        Problem.place = ((declared.defects value).map Problem.place).map
          (List.cons (.field declared.name)) := by
      simp [Problem.inside]
    dsimp only
    rw [places]
    exact (declared.defects_places value).map List.cons_injective

/-- The place of a problem begins with the field that it is about. -/
theorem Declared.place_of_mem {declared : Declared} {fields : List (String × Json)}
    {place : List Place} (member : place ∈ (declared.problemsIn fields).map Problem.place) :
    place.head? = some (.field declared.name) := by
  obtain ⟨problem, found, rfl⟩ := List.mem_map.mp member
  unfold problemsIn at found
  split at found
  · cases found
  · obtain ⟨defect, -, rfl⟩ := List.mem_map.mp found
    rfl

theorem Kind.problems_places (kind : Kind) {fields : List (String × Json)}
    (different : (Json.names fields).Nodup) :
    ((kind.problems fields).map Problem.place).Nodup := by
  rw [Kind.problems, List.map_append, List.map_flatMap, List.nodup_append, List.nodup_flatMap]
  -- places of different fields differ in their first step, and those of one field further in
  refine ⟨⟨fun declared _ => declared.problemsIn_places fields, ?_⟩, ?_, ?_⟩
  · have names := List.pairwise_map.mp kind.fieldNames_nodup
    apply names.imp
    intro first second apart place one two
    have same := (Declared.place_of_mem one).symm.trans (Declared.place_of_mem two)
    exact apart (Place.field.inj (Option.some.inj same))
  · have places : ((kind.unknown fields).map fun field =>
        (⟨[.field field.1], .undeclared⟩ : Problem)).map Problem.place =
          (Json.names (kind.unknown fields)).map fun name => [.field name] := by
      simp [Json.names]
    rw [places]
    apply List.Nodup.map
    · intro first second same
      simpa using same
    · exact different.sublist (List.filter_sublist.map _)
  · intro place one other two same
    obtain ⟨declared, known, place⟩ := List.mem_flatMap.mp one
    obtain ⟨problem, stray, rfl⟩ := List.mem_map.mp two
    obtain ⟨field, strange, rfl⟩ := List.mem_map.mp stray
    have begins := Declared.place_of_mem place
    rw [same] at begins
    have named : field.1 = declared.name := Place.field.inj (Option.some.inj begins)
    have undeclared : field.1 ∉ kind.fieldNames := by simpa using (List.mem_filter.mp strange).2
    exact undeclared (named ▸ List.mem_map_of_mem known)

/-! ## Texts -/

section Texts
variable {validator : Validator} {kind : Kind} {source : String}
  (different : ∀ fields, validator.parse source = some (.object fields) →
    (Json.names fields).Nodup)
include different

theorem Kind.wrongIn_eq_nil : kind.wrongIn validator source = [] ↔ kind.Accepts validator source := by
  unfold wrongIn Accepts
  split
  · next none => simp [none]
  · next fields some =>
    rw [← Kind.admits_iff (different fields some), some]
    simp
  · next value other some =>
    rw [some]
    simp only [List.cons_ne_nil, Option.some.injEq, false_iff, not_exists, not_and]
    intro fields same
    exact absurd same (other fields)

theorem Kind.wrongIn_places : ((kind.wrongIn validator source).map Problem.place).Nodup := by
  unfold wrongIn
  split
  · exact List.nodup_singleton _
  · next fields read => exact kind.problems_places (different fields read)
  · exact List.nodup_singleton _

end Texts

/-- A text is accepted exactly if it is an object of declared fields with values that they may have.
The mode then has the given values and the usual ones for the rest. Of every other text all is said
that is wrong with it, each place once. -/
theorem configure_validates {validator : Validator} (lawful : validator.Lawful) (kind : Kind)
    {source : String} (different : ∀ fields, validator.parse source = some (.object fields) →
      (Json.names fields).Nodup) :
    ((∃ mode, configure validator kind (some source) = .ok mode) ↔ kind.Accepts validator source) ∧
    (∀ fields mode, validator.parse source = some (.object fields) →
      configure validator kind (some source) = .ok mode → mode.Follows kind fields) ∧
    (¬kind.Accepts validator source → ∃ error, configure validator kind (some source) = .error error ∧
      error.label = "ModeConfigError" ∧
      error = .invalidConfig kind.modelName (kind.wrongIn validator source) ∧
      kind.wrongIn validator source ≠ [] ∧
      ((kind.wrongIn validator source).map Problem.place).Nodup) := by
  have settles := kind.validate_settles lawful different
  cases validated : validator.validate kind.model (some source) with
  | ok values =>
    have result : configure validator kind (some source) = .ok (kind.mode values) := by
      rw [configure, validated]
    rw [validated] at settles
    obtain ⟨none, fields, read, follows⟩ := settles
    have accepted := (Kind.wrongIn_eq_nil different).mp none
    refine ⟨⟨fun _ => accepted, fun _ => ⟨_, result⟩⟩, ?_, fun refused => absurd accepted refused⟩
    intro others mode same accepted
    obtain rfl := Except.ok.inj (result.symm.trans accepted)
    obtain rfl := Json.object.inj (Option.some.inj (read.symm.trans same))
    exact follows
  | error found =>
    have named : kind.model.name = kind.modelName := by cases kind <;> rfl
    have result : configure validator kind (some source) =
        .error (.invalidConfig kind.modelName found) := by
      rw [configure, validated, named]
    rw [validated] at settles
    obtain ⟨rfl, some⟩ := settles
    have refused := mt (Kind.wrongIn_eq_nil different).mpr some
    rw [result]
    refine ⟨⟨?_, fun accepted => absurd accepted refused⟩, ?_, ?_⟩
    · rintro ⟨mode, accepted⟩
      cases accepted
    · intro fields mode _ accepted
      cases accepted
    · intro _
      exact ⟨_, rfl, rfl, rfl, some, Kind.wrongIn_places different⟩

/-- A configuration of two fields. -/
def sampleConfig : String :=
  "\x7b\"vm_args\": [\"-Xint\"], \"dx\": \"/sdk/dx\"\x7d"

/-- A configuration with a text that is no text, an item that is no text, and a misspelled field. -/
def sampleMistaken : String :=
  "\x7b\"jav\": 1, \"vm_args\": [\"-Xint\", 7], \"java\": 42\x7d"

def dalvikConfig? : Except LoadError Mode → Option DalvikConfig
  | .ok (.dalvikvm config) => some config
  | _ => none

def loadError? : Except LoadError Mode → Option LoadError
  | .ok _ => none
  | .error error => some error

/-- The first configuration is accepted, and of the second all is said that is wrong with it. -/
theorem configure_validates_sample :
    configure .standard .dalvikvm (some sampleConfig) =
        .ok (.dalvikvm ⟨"dalvikvm", "/sdk/dx", "vmtest.TestRunner", ["-Xint"]⟩) ∧
      Kind.dalvikvm.Accepts .standard sampleConfig ∧
      ¬Kind.jvm.Accepts .standard sampleMistaken ∧
      Kind.jvm.wrongIn .standard sampleMistaken = [⟨[.field "java"], .notText⟩,
        ⟨[.field "vm_args", .item 1], .notText⟩, ⟨[.field "jav"], .undeclared⟩] := by
  obtain ⟨accepted, -, -⟩ := @configure_validates .standard Validator.standard_lawful .dalvikvm
    sampleConfig fun _ => Json.read?_names
  obtain ⟨refused, -, said⟩ := @configure_validates .standard Validator.standard_lawful .jvm
    sampleMistaken fun _ => Json.read?_names
  have config : dalvikConfig? (configure .standard .dalvikvm (some sampleConfig)) =
      some ⟨"dalvikvm", "/sdk/dx", "vmtest.TestRunner", ["-Xint"]⟩ := by
    decide +kernel
  have error : loadError? (configure .standard .jvm (some sampleMistaken)) =
      some (.invalidConfig "JavaVmConfig" [⟨[.field "java"], .notText⟩,
        ⟨[.field "vm_args", .item 1], .notText⟩, ⟨[.field "jav"], .undeclared⟩]) := by
    decide +kernel
  have configured : configure .standard .dalvikvm (some sampleConfig) =
      .ok (.dalvikvm ⟨"dalvikvm", "/sdk/dx", "vmtest.TestRunner", ["-Xint"]⟩) := by
    unfold dalvikConfig? at config
    split at config
    · next found => rw [found, Option.some.inj config]
    · cases config
  have rejected : ¬Kind.jvm.Accepts .standard sampleMistaken := by
    rw [← refused]
    rintro ⟨mode, configured⟩
    rw [configured] at error
    cases error
  obtain ⟨found, result, -, whole, -⟩ := said rejected
  rw [result, loadError?, whole] at error
  exact ⟨configured, accepted.mp ⟨_, configured⟩, rejected,
    (LoadError.invalidConfig.inj (Option.some.inj error)).2⟩

end Mode
end TestBench
