import GpuInventory.Decimal.Precision
import GpuInventory.Environment
import GpuInventory.Log
import GpuInventory.Text.Blank
import GpuInventory.Text.Quoted
import GpuInventory.Text.Separated
import GpuInventory.Text.Utf8

/-!
Commands: starting a process, and what comes of it.

A command is run to its end under a time limit, in the inherited environment under the given one.
What the machine does is an `Outcome`; `run` says what the caller gets for it.  The text that a
process writes is its result only if it exits with code zero and the text is UTF-8.  Of a process
that fails the message shows the text that it wrote to its second stream, whatever that is.
-/

namespace GpuInventory

structure Command where
  program : String
  arguments : List String := []
deriving DecidableEq, Repr

namespace Command

def words (c : Command) : List String :=
  c.program :: c.arguments

def line (c : Command) : String :=
  String.ofList (Text.joined [' '] (c.words.map String.toList))

inductive Outcome where
  /-- The process ends with a code, and has written to its two streams. -/
  | exited (code : Int) (output complaint : List UInt8)
  /-- The process is still running when its time is over. -/
  | timedOut
  /-- The system cannot start it, and says why, with a number if it has one. -/
  | notStarted (number : Option Int) (reason : String)
  /-- The command or its environment is none that could be given to the system. -/
  | refused (reason : String)
deriving DecidableEq, Repr

/-- A process that was started or was to be started. -/
structure Run where
  command : Command
  environment : Environment
  timeout : Float
deriving Repr

inductive Fault where
  | timedOut (program : String) (timeout : Float)
  | failed (program : String) (code : Int) (complaint : String)
  | notStarted (program reason : String)
  | undecodable (program : String) (error : Utf8.Error)
  | refused (reason : String)
deriving Repr

def Fault.message : Fault → String
  | .timedOut program timeout =>
    "Command " ++ program ++ " timed out after " ++ Decimal.generalText timeout ++ " seconds"
  | .failed program code complaint =>
    "Command " ++ program ++ " exited with code " ++ integerText code ++ ": " ++ complaint
  | .notStarted program reason => "Failed to start " ++ program ++ ": " ++ reason
  | .undecodable program error =>
    "Command " ++ program ++ " produced output that is not valid UTF-8: " ++ error.message
  | .refused reason => reason

/-- The texts that the message tells as the operator or the system has given them.  What a process
has written is not among them: it was decoded, so that it holds no half of a surrogate pair. -/
def Fault.given : Fault → List String
  | .timedOut program _ => [program]
  | .failed program _ _ => [program]
  | .notStarted program reason => [program, reason]
  | .undecodable program _ => [program]
  | .refused reason => [reason]

/-- The text of an error of the system on a program: with the number of the error and the program
if there is a number. -/
def systemReason (program : String) (number : Option Int) (reason : String) : String :=
  match number with
  | some n =>
    "[Errno " ++ integerText n ++ "] " ++ reason ++ ": " ++ Text.quotedString program
  | none => reason

def Outcome.result (program : String) (timeout : Float) : Outcome → Except Fault String
  | .exited code output complaint =>
    if code = 0 then
      match Utf8.decode output with
      | .ok text => .ok (String.ofList text)
      | .error e => .error (.undecodable program e)
    else
      .error (.failed program code (String.ofList (Text.trim (Utf8.decodeLossy complaint))))
  | .timedOut => .error (.timedOut program timeout)
  | .notStarted number reason => .error (.notStarted program (systemReason program number reason))
  | .refused reason => .error (.refused reason)

/-- The machine as far as processes see it: what it does with a command, the environment that they
inherit, and what its library of XML says of an output that is no document. -/
structure Machine where
  outcome : Outcome
  inherited : Environment
  describe : List Char → String := fun _ => "<detail>"

/-- What came of running a command: the text or the reason why there is none, the one process, and
the log. -/
structure Attempt where
  result : Except Fault String
  run : Run
  entries : List Log.Entry

def run (machine : Machine) (command : Command) (environment : Environment) (timeout : Float) :
    Attempt :=
  { result := machine.outcome.result command.program timeout,
    run := { command, environment := machine.inherited.overlay environment, timeout },
    entries := [⟨.runner, .debug, "Running command: " ++ command.line⟩] }

end Command
end GpuInventory
