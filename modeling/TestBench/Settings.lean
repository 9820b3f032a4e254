import TestBench.Classpath
import TestBench.Validation.Integer

/-!
Settings of a harness. `Settings.ofJson` reads them from a JSON object and accepts the usual ways to
write a value: numbers as text, whole numbers with a point, switches as words. `Settings.ofValues`
takes values that have been read already. Once they are made, settings stay as they are.
-/
namespace TestBench
set_option autoImplicit false

/-- What stays the same for the lifetime of a harness. -/
structure Settings where
  sdkJar : Path
  runnerSourceRoot : Path
  libraryClasspath : List Path
  timeoutSeconds : Nat
  failFast : Bool
  timeout_pos : 0 < timeoutSeconds
deriving DecidableEq

namespace Settings
open Validation

/-- The classpath that is added to every compilation of a test. -/
def library (settings : Settings) : Classpath :=
  .of settings.libraryClasspath

/-- The name under which problems with settings are reported. -/
def modelName : String := "HarnessConfig"

/-! ## Values -/

def path : Json → Checked Path
  | .text value => .ok (.parse value)
  | _ => refuse .notAPath

def paths : Json → Checked (List Path)
  | .array values => items path values
  | .text _ => refuse .textAsSequence
  | _ => refuse .notASequence

def switchOfInteger (value : Int) : Checked Bool :=
  if value = 0 then .ok false
  else if value = 1 then .ok true
  else refuse .unreadableBoolean

def switch : Json → Checked Bool
  | .bool value => .ok value
  | .whole value => if isMachineInteger value then switchOfInteger value else refuse .notABoolean
  | .scaled mantissa exponent =>
    match integerOfScaled mantissa exponent with
    | .ok value => switchOfInteger value
    | .error _ => refuse .notABoolean
  | .text value =>
    let word := String.ofList (value.toList.map Char.toLower)
    if word ∈ ["1", "on", "t", "true", "y", "yes"] then .ok true
    else if word ∈ ["0", "off", "f", "false", "n", "no"] then .ok false
    else refuse .unreadableBoolean
  | _ => refuse .notABoolean

/-! ## Settings -/

/-- The number of seconds that a test may take unless it is set. -/
def usualTimeout : { number : Nat // 0 < number } :=
  ⟨60, by decide⟩

def fieldNames : List String :=
  ["sdk_jar", "runner_source_root", "library_classpath", "timeout_seconds", "fail_fast"]

/-- Settings of checked fields, or the problems of all of them. -/
def ofChecked (sdkJar sourceRoot : Checked Path) (library : Checked (List Path))
    (timeout : Checked { number : Nat // 0 < number }) (failFast : Checked Bool)
    (unknown : List Problem) : Checked Settings :=
  match sdkJar, sourceRoot, library, timeout, failFast, unknown with
  | .ok sdkJar, .ok sourceRoot, .ok library, .ok timeout, .ok failFast, [] =>
    .ok ⟨sdkJar, sourceRoot, library, timeout.1, failFast, timeout.2⟩
  | _, _, _, _, _, _ =>
    .error (problems sdkJar ++ problems sourceRoot ++ problems library ++ problems timeout
      ++ problems failFast ++ unknown)

def ofJson : Json → Checked Settings
  | .object fields =>
    ofChecked (field fields "sdk_jar" none path) (field fields "runner_source_root" none path)
      (field fields "library_classpath" (some []) paths)
      (field fields "timeout_seconds" (some usualTimeout) positive)
      (field fields "fail_fast" (some false) switch) (undeclared fieldNames fields)
  | _ => refuse .notAnObject

/-- A path that has been read already, unless it was no path. -/
def knownPath : Option Path → Checked Path
  | some value => .ok value
  | none => refuse .notAPath

/-- A timeout that has been read already, unless it was no number. -/
def knownTimeout : Option Int → Checked { number : Nat // 0 < number }
  | some value => aboveZero value
  | none => refuse .notAnInteger

/-- Settings from values that have been read already. A value that is not there was of the wrong
kind. -/
def ofValues (sdkJar sourceRoot : Option Path) (library : List Path) (timeout : Option Int)
    (failFast : Bool) : Checked Settings :=
  ofChecked (within (.field "sdk_jar") (knownPath sdkJar))
    (within (.field "runner_source_root") (knownPath sourceRoot)) (.ok library)
    (within (.field "timeout_seconds") (knownTimeout timeout)) (.ok failFast) []

/-- Settings cannot be changed: the problem of an attempt to set a field. Only names that begin with
an underscore can be set, since they are never the names of settings. -/
def changeProblem? (name : String) : Option Problem :=
  if name.toList.head? = some '_' then none else some ⟨[.field name], .frozen⟩

end Settings
end TestBench
