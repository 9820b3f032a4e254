/-!
The options of the command line: their spellings and how messages name them.
-/
namespace TestBench.CommandLine
set_option autoImplicit false

inductive Flag where
  | help
  | mode
  | modeConfig
  | sdkJar
  | javac
  | runnerSourceRoot
  | runnerClasspath
  | libraryClasspath
  | timeout
  | failFast
  | workDir
  | keepFiles
deriving DecidableEq, Repr

/-- All spellings of options, in order. -/
def spellings : List (String × Flag) :=
  [("-h", .help), ("--help", .help), ("--mode", .mode), ("--mode-config", .modeConfig),
    ("--sdk-jar", .sdkJar), ("--javac", .javac), ("--runner-source-root", .runnerSourceRoot),
    ("--runner-classpath", .runnerClasspath), ("--library-classpath", .libraryClasspath),
    ("--timeout", .timeout), ("--fail-fast", .failFast), ("--work-dir", .workDir),
    ("--keep-files", .keepFiles)]

namespace Flag

def ofSpelling? (spelling : String) : Option Flag :=
  (spellings.find? fun entry => entry.1 == spelling).map Prod.snd

/-- How messages name an option: by all of its spellings. -/
def shown (flag : Flag) : String :=
  "/".intercalate ((spellings.filter fun entry => entry.2 == flag).map Prod.fst)

def takesValue : Flag → Bool
  | help | failFast | keepFiles => false
  | _ => true

end Flag
end TestBench.CommandLine
