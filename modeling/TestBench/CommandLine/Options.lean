import TestBench.CommandLine.Value
import TestBench.CommandLine.Word
import TestBench.Text.Numeral
import TestBench.Text.Quoted

/-!
Reading a command line. Options and operands may be mixed, but only one run of operands, the first,
names tests. `read` gives the options, asks for help, or says what is wrong:

- a word that is ambiguous, then
- an option that lacks its value or has a bad one, in the order of the words, then
- options and operands that are missing, and last
- words that nothing takes.
-/
namespace TestBench.CommandLine
set_option autoImplicit false

/-- What a command line asks for. Where an option has been given no value at all, there is none. -/
structure Options where
  mode : String
  modeConfig : Option String
  sdkJar : Option Path
  javac : String
  runnerSourceRoot : Option Path
  runnerClasspath : List Path
  libraryClasspath : List Path
  timeout : Option Int
  failFast : Bool
  workDir : Option Path
  keepFiles : Bool
  tests : List Path
deriving DecidableEq

/-- Whether the run of operands is still to come, is being read, or is over. -/
inductive Phase where
  | before
  | during
  | after
deriving DecidableEq, Repr

/-- What has been read so far. Required options have no value before they are given. -/
structure Draft where
  mode : Option Value
  modeConfig : Value
  sdkJar : Option Value
  javac : Value
  runnerSourceRoot : Option Value
  runnerClasspath : Value
  libraryClasspath : Value
  timeout : Option Int
  failFast : Bool
  workDir : Value
  keepFiles : Bool
  phase : Phase
  operands : List String
  leftOver : List String
deriving DecidableEq

/-- What becomes of a command line. -/
inductive Reading where
  | options (options : Options)
  | help
  | refused (message : String)
deriving DecidableEq

namespace Draft

def blank : Draft where
  mode := none
  modeConfig := .text "\x7b\x7d"
  sdkJar := none
  javac := .text "javac"
  runnerSourceRoot := none
  runnerClasspath := .emptyList
  libraryClasspath := .emptyList
  timeout := some 60
  failFast := false
  workDir := .emptyList
  keepFiles := false
  phase := .before
  operands := []
  leftOver := []

/-- Adds a word that nothing takes. -/
def leave (draft : Draft) (text : String) : Draft :=
  { draft with leftOver := draft.leftOver ++ [text] }

def addOperand (draft : Draft) (text : String) : Draft :=
  match draft.phase with
  | .after => draft.leave text
  | _ => { draft with phase := .during, operands := draft.operands ++ [text] }

/-- Takes the separator, which belongs to the operands around it. As the last word it has none before
it unless their run has begun. -/
def addSeparator (draft : Draft) (isLast : Bool) : Draft :=
  match draft.phase with
  | .before => if isLast then draft.leave separator else { draft with phase := .during }
  | .during => draft
  | .after => draft.leave separator

/-- Ends the run of operands, if it has begun. -/
def endRun (draft : Draft) : Draft :=
  if draft.phase = .during then { draft with phase := .after } else draft

def about (flag : Flag) (text : String) : String :=
  "argument " ++ flag.shown ++ ": " ++ text

def setValue (draft : Draft) (flag : Flag) (value : Value) : Except String Draft :=
  match flag with
  | .mode => .ok { draft with mode := some value }
  | .modeConfig => .ok { draft with modeConfig := value }
  | .sdkJar => .ok { draft with sdkJar := some value }
  | .javac => .ok { draft with javac := value }
  | .runnerSourceRoot => .ok { draft with runnerSourceRoot := some value }
  | .runnerClasspath => .ok { draft with runnerClasspath := value }
  | .libraryClasspath => .ok { draft with libraryClasspath := value }
  | .workDir => .ok { draft with workDir := value }
  | .timeout =>
    match value with
    | .emptyList => .ok { draft with timeout := none }
    | .text numeral =>
      match Text.readInteger? numeral with
      | some number => .ok { draft with timeout := some number }
      | none => .error (about flag ("invalid int value: " ++ Text.quote numeral))
  | _ => .ok draft

def setSwitch (draft : Draft) (flag : Flag) : Draft :=
  match flag with
  | .failFast => { draft with failFast := true }
  | .keepFiles => { draft with keepFiles := true }
  | _ => draft

/-- The message about a value that an option does not take. -/
def unwanted (flag : Flag) (value : String) : String :=
  about flag ("ignored explicit argument " ++ Text.quote value)

/-- What is wrong with text that is attached to the short spelling of the request for help. It may
only repeat the letter. -/
def bundleFault? (attached : List Char) : Option String :=
  match attached, attached.dropWhile (· == 'h') with
  | _ :: _, [] => none
  | _, rest => some (unwanted .help (String.ofList rest))

/-- The required options and operands that are missing. -/
def missing (draft : Draft) : List String :=
  (if draft.mode.isNone then ["--mode"] else [])
    ++ (if draft.sdkJar.isNone then ["--sdk-jar"] else [])
    ++ (if draft.runnerSourceRoot.isNone then ["--runner-source-root"] else [])
    ++ (if draft.operands.isEmpty then ["tests"] else [])

/-- The options, once all words have been read. -/
def finish (draft : Draft) : Reading :=
  match draft.mode, draft.sdkJar, draft.runnerSourceRoot with
  | some mode, some sdkJar, some sourceRoot =>
    if !draft.missing.isEmpty then
      .refused ("the following arguments are required: " ++ ", ".intercalate draft.missing)
    else if !draft.leftOver.isEmpty then
      .refused ("unrecognized arguments: " ++ " ".intercalate draft.leftOver)
    else .options {
      mode := mode.shown
      modeConfig := draft.modeConfig.text?
      sdkJar := sdkJar.path?
      javac := draft.javac.shown
      runnerSourceRoot := sourceRoot.path?
      runnerClasspath := draft.runnerClasspath.paths
      libraryClasspath := draft.libraryClasspath.paths
      timeout := draft.timeout
      failFast := draft.failFast
      workDir := draft.workDir.path?
      keepFiles := draft.keepFiles
      tests := draft.operands.map Path.parse }
  | _, _, _ =>
    .refused ("the following arguments are required: " ++ ", ".intercalate draft.missing)

def consume : List (String × Word) → Draft → Reading
  | [], draft => draft.finish
  | (text, .operand) :: rest, draft => consume rest (draft.addOperand text)
  | (_, .separator) :: rest, draft => consume rest (draft.addSeparator rest.isEmpty)
  | (text, .unknown) :: rest, draft => consume rest (draft.endRun.leave text)
  | (_, .option flag short attached) :: rest, draft =>
    if flag.takesValue then
      match attached with
      | some given =>
        match draft.endRun.setValue flag (.ofAttached given) with
        | .error message => .refused message
        | .ok next => consume rest next
      | none =>
        match rest with
        | (value, .operand) :: others =>
          match draft.endRun.setValue flag (.text value) with
          | .error message => .refused message
          | .ok next => consume others next
        | _ => .refused (about flag "expected one argument")
    else
      match attached with
      | none => if flag = .help then .help else consume rest (draft.endRun.setSwitch flag)
      | some given =>
        if short then
          match bundleFault? given.toList with
          | some message => .refused message
          | none => .help
        else .refused (unwanted flag given)

end Draft

def read (words : List String) : Reading :=
  match Word.classifyAll words with
  | .error message => .refused message
  | .ok classified => Draft.consume classified .blank

end TestBench.CommandLine
