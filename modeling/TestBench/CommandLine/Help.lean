/-!
The help text of the command line.
-/
namespace TestBench.CommandLine
set_option autoImplicit false

def programName : String := "vm-test-runner"

/-- How the program is called. -/
def usageLines : List String :=
  ["usage: vm-test-runner [-h] --mode MODE [--mode-config MODE_CONFIG] --sdk-jar",
    "                      SDK_JAR [--javac JAVAC] --runner-source-root",
    "                      RUNNER_SOURCE_ROOT [--runner-classpath RUNNER_CLASSPATH]",
    "                      [--library-classpath LIBRARY_CLASSPATH]",
    "                      [--timeout TIMEOUT] [--fail-fast] [--work-dir WORK_DIR]",
    "                      [--keep-files]",
    "                      tests [tests ...]"]

/-- What the options and operands mean. -/
def helpLines : List String :=
  ["",
    "Compile and run single-file Java tests on a VM",
    "",
    "positional arguments:",
    "  tests                 Test sources or directories containing them",
    "",
    "options:",
    "  -h, --help            show this help message and exit",
    "  --mode MODE           Execution mode key (jvm, dalvikvm)",
    "  --mode-config MODE_CONFIG",
    "                        JSON configuration for the mode",
    "  --sdk-jar SDK_JAR     Jar used as boot classpath for every compile",
    "  --javac JAVAC         Java compiler executable",
    "  --runner-source-root RUNNER_SOURCE_ROOT",
    "                        Source root of the test runner support code",
    "  --runner-classpath RUNNER_CLASSPATH",
    "                        Classpath the test runner depends on",
    "  --library-classpath LIBRARY_CLASSPATH",
    "                        Archives added to the classpath of every test compile",
    "  --timeout TIMEOUT     Seconds each test may run before it is killed",
    "  --fail-fast           Fail a test when any of its setup commands exits non-",
    "                        zero",
    "  --work-dir WORK_DIR   Directory for compiled classes (default: a new",
    "                        temporary dir)",
    "  --keep-files          Keep compiled classes and working directories after",
    "                        the run"]

def unlines (lines : List String) : String :=
  String.join (lines.map fun line => line ++ "\n")

def help : String :=
  unlines (usageLines ++ helpLines)

/-- What is written when a command line is refused. -/
def complaint (message : String) : String :=
  unlines (usageLines ++ [programName ++ ": error: " ++ message])

end TestBench.CommandLine
