import TestBench.Validation.Model

/-!
Configurations of execution modes: what each kind of mode declares, and the configuration that comes
of the declared values. All fields are optional, and there are no others.
-/
namespace TestBench.Mode
set_option autoImplicit false

/-- What the host's own virtual machine needs to know. -/
structure JvmConfig where
  java : String
  runnerMainClass : String
  vmArguments : List String
deriving DecidableEq, Repr

/-- What a Dalvik virtual machine and its archiver need to know. -/
structure DalvikConfig where
  dalvikvm : String
  dx : String
  runnerMainClass : String
  vmArguments : List String
deriving DecidableEq, Repr

def usualMainClass : String := "vmtest.TestRunner"

namespace JvmConfig

@[reducible] def model : Model where
  name := "JavaVmConfig"
  fields := [⟨"java", .text, "java"⟩, ⟨"runner_main_class", .text, usualMainClass⟩,
    ⟨"vm_args", .texts, []⟩]
  extra := .forbidden

def ofValues : Values model.fields → JvmConfig
  | (java, mainClass, arguments, _) => ⟨java, mainClass, arguments⟩

end JvmConfig

namespace DalvikConfig

@[reducible] def model : Model where
  name := "DalvikVmConfig"
  fields := [⟨"dalvikvm", .text, "dalvikvm"⟩, ⟨"dx", .text, "dx"⟩,
    ⟨"runner_main_class", .text, usualMainClass⟩, ⟨"vm_args", .texts, []⟩]
  extra := .forbidden

def ofValues : Values model.fields → DalvikConfig
  | (dalvikvm, dx, mainClass, arguments, _) => ⟨dalvikvm, dx, mainClass, arguments⟩

end DalvikConfig

end TestBench.Mode
