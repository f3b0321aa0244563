import GpuInventory.Service

/-!
The command line: the service on one report.

Standard input holds what the tool has written, the environment holds the settings, and the
arguments are requests, each a method and a path.  The log comes out first, then the answers, one on
a line.
-/

namespace GpuInventory
namespace Main

/-- The variables in a block of them, each ended by a zero. -/
def pairs (block : String) : List (String × String) :=
  (Text.parts '\x00' block.toList).filterMap fun text =>
    match text.dropWhile (· != '=') with
    | _ :: value => some (String.ofList (text.takeWhile (· != '=')), String.ofList value)
    | [] => none

def requests : List String → List Http.Request
  | method :: path :: rest => { method, path } :: requests rest
  | _ => []

/-- A machine on which the tool is installed and writes a report. -/
def world (report : List UInt8) : World :=
  { place := .ofPaths "/" ["/usr/bin/nvidia-smi"] []
    machine := { outcome := .exited 0 report [], inherited := {} } }

/-- A line of the log as it is written, if it can be. -/
def lineText? (format : Settings.LogFormat) (line : Log.Line) : Option String :=
  match format with
  | .json => some line.json.text
  | .console => line.console?

def responseText (response : Http.Response) : String :=
  toString response.status ++ " " ++
    match response.body with
    | .json value => value.text
    | .plain lines => String.intercalate "\n" lines
    | .empty => ""

def faultText : Service.Fault → String
  | .settings (.unreadable group) => Settings.unreadableMessage group
  | .settings (.invalid problems) =>
    String.intercalate ", " (problems.map fun p => p.place ++ ": " ++ p.kind.name)
  | .failure failure => failure.message

/-- What is written for a report and some requests: to standard output, or why there is nothing to
write. -/
def output (given : List (String × String)) (report : List UInt8) (arguments : List String) :
    Except String (List String) :=
  match Service.start given (world report) with
  | .error fault => .error (faultText fault)
  | .ok service =>
    let (service, responses) := service.serveAll (requests arguments)
    .ok (service.written.filterMap (lineText? service.settings.observability.format) ++
      responses.map responseText)

end Main
end GpuInventory

open GpuInventory in
def main (arguments : List String) : IO UInt32 := do
  let block ← IO.FS.readBinFile "/proc/self/environ"
  let report ← IO.FS.readBinFile "/dev/stdin"
  let given := Main.pairs (String.ofList (Utf8.decodeLossy block.toList))
  match Main.output given report.toList arguments with
  | .ok lines =>
    lines.forM IO.println
    return 0
  | .error reason =>
    IO.eprintln reason
    return 1
