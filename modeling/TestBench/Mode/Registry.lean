import TestBench.Mode

/-!
The registry of execution modes: the modes that can be asked for by name, and how one is loaded with
its configuration.
-/
namespace TestBench.Mode
set_option autoImplicit false

inductive Kind where
  | jvm
  | dalvikvm
deriving DecidableEq, Repr

/-- What is registered under a name: a mode, or a value that is none. -/
inductive Registration where
  | mode (kind : Kind)
  | stranger (value : String)
deriving DecidableEq, Repr

inductive LoadError where
  | unknown (key : String) (available : List String)
  | notAMode (key value : String)
  | invalidConfig (model : String) (found : List Problem)
deriving DecidableEq, Repr

def LoadError.label : LoadError → String
  | unknown _ _ => "ModeNotFoundError"
  | notAMode _ _ => "ModeNotFoundError"
  | invalidConfig _ _ => "ModeConfigError"

/-- How many problems a model has, in words. -/
def problemCount (model : String) (count : Nat) : String :=
  toString count ++ " validation error" ++ (if count = 1 then "" else "s") ++ " for " ++ model

/-- The message of a load error; of an invalid configuration the first line. -/
def LoadError.message : LoadError → String
  | unknown key available =>
    "Unknown mode '" ++ key ++ "'. Available modes: " ++ ", ".intercalate available
  | notAMode key value => "Entry point '" ++ key ++ "' (" ++ value ++ ") is not a mode manifest"
  | invalidConfig model found =>
    "Invalid configuration for " ++ model ++ ": " ++ problemCount model found.length

def standard : List (String × Registration) :=
  [("jvm", .mode .jvm), ("dalvikvm", .mode .dalvikvm)]

/-- The names in a registry, each once and in order. -/
def available (registry : List (String × Registration)) : List String :=
  (distinct (registry.map Prod.fst)).mergeSort

/-- Finds a mode. Of several under one name the first is taken. -/
def find (registry : List (String × Registration)) (key : String) : Except LoadError Kind :=
  match registry.find? fun entry => entry.1 == key with
  | none => .error (.unknown key (available registry))
  | some (_, .stranger value) => .error (.notAMode key value)
  | some (_, .mode kind) => .ok kind

/-- The model of the configurations of a mode. -/
def Kind.model : Kind → Model
  | jvm => JvmConfig.model
  | dalvikvm => DalvikConfig.model

/-- The mode that has the values of its model as its configuration. -/
def Kind.mode : (kind : Kind) → Values kind.model.fields → Mode
  | jvm, values => .jvm (.ofValues values)
  | dalvikvm, values => .dalvikvm (.ofValues values)

/-- A mode with a configuration that a validator reads from a source. -/
def configure (validator : Validator) (kind : Kind) (source : Option String) :
    Except LoadError Mode :=
  match validator.validate kind.model source with
  | .ok values => .ok (kind.mode values)
  | .error found => .error (.invalidConfig kind.model.name found)

def load (validator : Validator) (key : String) (source : Option String) :
    Except LoadError Mode :=
  match find standard key with
  | .error problem => .error problem
  | .ok kind => configure validator kind source

end TestBench.Mode
