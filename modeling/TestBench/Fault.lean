import TestBench.Text.Lines
import TestBench.Text.Quoted

/-!
Faults: everything that can go wrong while tests are built and run. A fault has a label, which names
its kind, and a message; `Fault.report` is the text that a test records when a fault ends it.
-/
namespace TestBench
set_option autoImplicit false

/-! ## Refusals of the operating system -/

inductive Refusal where
  | notFound
  | occupied
  | notDirectory
  | isDirectory
  | notPermitted
  | brokenPipe
  | connectionReset
  | connectionAborted
  | connectionRefused
  | connection
  | timedOut
  | noProcess
  | noChild
  | interrupted
  | wouldBlock
  | unspecified
deriving DecidableEq, Repr

namespace Refusal

def label : Refusal → String
  | notFound => "FileNotFoundError"
  | occupied => "FileExistsError"
  | notDirectory => "NotADirectoryError"
  | isDirectory => "IsADirectoryError"
  | notPermitted => "PermissionError"
  | brokenPipe => "BrokenPipeError"
  | connectionReset => "ConnectionResetError"
  | connectionAborted => "ConnectionAbortedError"
  | connectionRefused => "ConnectionRefusedError"
  | connection => "ConnectionError"
  | timedOut => "TimeoutError"
  | noProcess => "ProcessLookupError"
  | noChild => "ChildProcessError"
  | interrupted => "InterruptedError"
  | wouldBlock => "BlockingIOError"
  | unspecified => "OSError"

def all : List Refusal :=
  [notFound, occupied, notDirectory, isDirectory, notPermitted, brokenPipe, connectionReset,
    connectionAborted, connectionRefused, connection, timedOut, noProcess, noChild, interrupted,
    wouldBlock, unspecified]

def ofLabel? (text : String) : Option Refusal :=
  all.find? fun refusal => refusal.label == text

/-- The refusal that an error number stands for. -/
def ofCode (code : Int) : Refusal :=
  if code = 1 ∨ code = 13 then notPermitted
  else if code = 2 then notFound
  else if code = 3 then noProcess
  else if code = 4 then interrupted
  else if code = 10 then noChild
  else if code = 11 ∨ code = 114 ∨ code = 115 then wouldBlock
  else if code = 17 then occupied
  else if code = 20 then notDirectory
  else if code = 21 then isDirectory
  else if code = 32 ∨ code = 108 then brokenPipe
  else if code = 103 then connectionAborted
  else if code = 104 then connectionReset
  else if code = 110 then timedOut
  else if code = 111 then connectionRefused
  else unspecified

end Refusal

/-! ## Details -/

/-- How a message names a file: by its written name, or by its path. -/
inductive FileName where
  | written (name : String)
  | located (path : String)
deriving DecidableEq, Repr

def FileName.shown : FileName → String
  | written name => Text.quote name
  | located path => "PosixPath(" ++ Text.quote path ++ ")"

/-- What a fault says beyond its label. -/
inductive Detail where
  | silent
  | plain (message : String)
  | numbered (code : Int) (message : String) (file : Option FileName)
deriving DecidableEq, Repr

/-! ## Faults -/

/-- Something that went wrong. `endless` stands for a call that waits for what never happens, so
nothing after it takes place. -/
inductive Fault where
  | system (refusal : Refusal) (detail : Detail)
  | commandFailed (arguments : List String) (status : Int) (output : List String)
  | preparation (message : String) (cause : Option String)
  | other (label : String) (detail : Detail)
  | endless
deriving DecidableEq, Repr

namespace Fault

/-- An operation that the state of things does not allow. -/
def misuse (message : String) : Fault :=
  other "RuntimeError" (.plain message)

/-- A value that no operation can use. -/
def badValue (message : String) : Fault :=
  other "ValueError" (.plain message)

def deadline : Fault :=
  system .timedOut .silent

/-- A name or an argument that holds a null character. -/
def nullCharacter : Fault :=
  badValue "embedded null byte"

def label : Fault → String
  | system refusal _ => refusal.label
  | commandFailed _ _ _ => "CommandFailedError"
  | preparation _ _ => "HarnessPreparationError"
  | other label _ => label
  | endless => "Endless"

/-- The label of a fault with the place where its kind is defined. -/
def qualifiedLabel : Fault → String
  | commandFailed _ _ _ => "vm_test_runner.command.CommandFailedError"
  | preparation _ _ => "vm_test_runner.harness.HarnessPreparationError"
  | fault => fault.label

def refusalMessage : Detail → String
  | .silent => ""
  | .plain message => message
  | .numbered code message none => "[Errno " ++ toString code ++ "] " ++ message
  | .numbered code message (some file) =>
    "[Errno " ++ toString code ++ "] " ++ message ++ ": " ++ file.shown

/-- The message of any other fault. A missing key is shown quoted. -/
def otherMessage (label : String) : Detail → String
  | .silent => ""
  | .plain message => if label = "KeyError" then Text.quote message else message
  | .numbered code message none => "(" ++ toString code ++ ", " ++ Text.quote message ++ ")"
  | .numbered code message (some file) =>
    "(" ++ toString code ++ ", " ++ Text.quote message ++ ", " ++ file.shown ++ ")"

def message : Fault → String
  | system _ detail => refusalMessage detail
  | commandFailed arguments status _ =>
    "Command failed with exit code " ++ toString status ++ ": " ++ Text.quoteList arguments
  | preparation message _ => message
  | other label detail => otherMessage label detail
  | endless => ""

/-- Whether a fault is a deadline that passed, as far as its label tells. -/
def isTimeout : Fault → Bool
  | system .timedOut _ => true
  | _ => false

/-- The text from which line feeds at the end are dropped. -/
def dropLineFeeds (text : List Char) : List Char :=
  (text.reverse.dropWhile (· == '\n')).reverse

/-- What a test records about a fault: its label and message on one line, and then the lines of the
same with the qualified label. -/
def report (fault : Fault) : List String :=
  let full := if fault.message = "" then fault.qualifiedLabel
    else fault.qualifiedLabel ++ ": " ++ fault.message
  (fault.label ++ ": " ++ fault.message)
    :: (Text.textLines (dropLineFeeds full.toList)).map String.ofList

theorem report_head (fault : Fault) :
    fault.report.head? = some (fault.label ++ ": " ++ fault.message) := rfl

end Fault
end TestBench
