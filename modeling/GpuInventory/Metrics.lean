import GpuInventory.Decimal.Writing
import GpuInventory.Text.Blank
import GpuInventory.Text.Separated

/-!
Metrics: what is counted about discovery, and the text in which it is told.

Attempts are counted by how they ended, and the time of those that ran the tool is put into buckets
by upper bounds.  The text lists the families of samples in a fixed order, each under two lines that
describe it.
-/

namespace GpuInventory

/-- How an attempt at discovery ended.  The last two are attempts that did not run the tool. -/
inductive Ending where
  | success
  | failure
  | disabled
  | unconfigured
deriving DecidableEq, Repr

def Ending.name : Ending → String
  | .success => "success"
  | .failure => "failure"
  | .disabled => "disabled"
  | .unconfigured => "unconfigured"

/-! ## Durations -/

/-- The upper bounds of the buckets, in seconds; a duration is in the first bucket whose bound it
does not pass. -/
def durationBounds : List Float :=
  [0.05, 0.1, 0.25, 0.5, 1.0, 2.5, 5.0, 10.0, 1.0 / 0.0]

structure Durations where
  counts : List Nat := durationBounds.map fun _ => 0
  sum : Float := 0.0
deriving Repr

namespace Durations

def increment : Nat → List Nat → List Nat
  | _, [] => []
  | 0, n :: rest => (n + 1) :: rest
  | i + 1, n :: rest => n :: increment i rest

def observe (d : Durations) (seconds : Float) : Durations :=
  { counts := increment (durationBounds.findIdx fun bound => seconds ≤ bound) d.counts
    sum := d.sum + seconds }

def count (d : Durations) : Nat :=
  d.counts.foldl (· + ·) 0

/-- How many durations are in each bucket or in one before it, with `before` in the ones before
the first. -/
def cumulative (before : Nat) : List Nat → List Nat
  | [] => []
  | n :: rest => (before + n) :: cumulative (before + n) rest

end Durations

/-! ## The registry -/

structure DiscoveryInfo where
  allowedDevices : String
  binaryPath : String
  driverVersion : String
deriving DecidableEq, Repr

structure Metrics where
  /-- The attempts by their ending, in the order in which the endings first came up. -/
  attempts : List (Ending × Nat) := []
  failures : Nat := 0
  durations : Durations := {}
  discovered : Nat := 0
  usable : Nat := 0
  info : Option DiscoveryInfo := none
deriving Repr

namespace Metrics

def incrementIn (ending : Ending) : List (Ending × Nat) → List (Ending × Nat)
  | [] => [(ending, 1)]
  | (e, n) :: rest => if e = ending then (e, n + 1) :: rest else (e, n) :: incrementIn ending rest

def countAttempt (m : Metrics) (ending : Ending) : Metrics :=
  { m with attempts := incrementIn ending m.attempts }

def attemptCount (m : Metrics) (ending : Ending) : Nat :=
  (m.attempts.lookup ending).getD 0

def observe (m : Metrics) (seconds : Float) : Metrics :=
  { m with durations := m.durations.observe seconds }

/-- The texts among the metrics that are told as they were given. -/
def given (m : Metrics) : List String :=
  match m.info with
  | none => []
  | some info => [info.allowedDevices, info.binaryPath]

end Metrics

/-! ## The text -/

namespace Metrics

structure Sample where
  name : String
  labels : List (String × String) := []
  value : Float
deriving Repr

structure Family where
  name : String
  help : String
  kind : String
  samples : List Sample
deriving Repr

/-- The text of a value: the shortest one, but with a power of ten as soon as more than six digits
stand before the point. -/
def valueText (x : Float) : List Char :=
  if x.isNaN then "NaN".toList
  else if x.isInf then if x < 0.0 then "-Inf".toList else "+Inf".toList
  else
    let text := (Decimal.shortestText x).toList
    match text.takeWhile (· != '.'), text.dropWhile (· != '.') with
    | first :: whole, _ :: fraction =>
      if 0.0 < x ∧ 6 ≤ whole.length then
        let digits := first :: '.' :: whole ++ fraction
        (digits.reverse.dropWhile fun c => c == '0' || c == '.').reverse ++
          "e+0".toList ++ Nat.toDigits 10 whole.length
      else text
    | _, _ => text

def labelChar : Char → List Char
  | '\\' => ['\\', '\\']
  | '"' => ['\\', '"']
  | '\n' => ['\\', 'n']
  | c => [c]

def labelText (label : String × String) : List Char :=
  label.1.toList ++ '=' :: '"' :: label.2.toList.flatMap labelChar ++ ['"']

/-- The text of some labels, which are in the order of their names. -/
def labelsText (labels : List (String × String)) : List Char :=
  if labels.isEmpty then []
  else '\x7b' :: Text.joined [','] (labels.map labelText) ++ ['\x7d']

def Sample.line (s : Sample) : List Char :=
  s.name.toList ++ labelsText s.labels ++ ' ' :: valueText s.value

def Family.lines (f : Family) : List (List Char) :=
  ("# HELP " ++ f.name ++ " " ++ f.help).toList ::
    ("# TYPE " ++ f.name ++ " " ++ f.kind).toList :: f.samples.map Sample.line

def gauge (name help : String) (value : Nat) : Family :=
  { name, help, kind := "gauge", samples := [{ name, value := Float.ofNat value }] }

def attemptsFamily (m : Metrics) : Family :=
  let name := "gpu_discovery_attempts_total"
  { name
    help := "Discovery attempts by result"
    kind := "counter"
    samples := m.attempts.map fun (ending, n) =>
      { name, labels := [("result", ending.name)], value := Float.ofNat n } }

def durationsFamily (d : Durations) : Family :=
  let name := "gpu_discovery_duration_seconds"
  { name
    help := "nvidia-smi run and parse time"
    kind := "histogram"
    samples :=
      (durationBounds.zip (Durations.cumulative 0 d.counts)).map (fun (bound, n) =>
        { name := name ++ "_bucket"
          labels := [("le", String.ofList (valueText bound))]
          value := Float.ofNat n }) ++
        [{ name := name ++ "_count", value := Float.ofNat d.count },
          { name := name ++ "_sum", value := d.sum }] }

def infoFamily (info : Option DiscoveryInfo) : Family :=
  let name := "gpu_discovery_info"
  let labels := match info with
    | none => []
    | some info =>
      [("allowed_devices", info.allowedDevices), ("binary_path", info.binaryPath),
        ("driver_version", info.driverVersion)]
  { name, help := "Discovery info", kind := "gauge", samples := [{ name, labels, value := 1.0 }] }

def families (m : Metrics) : List Family :=
  [attemptsFamily m,
    gauge "gpu_discovery_consecutive_failures" "Failed discoveries since last success" m.failures,
    durationsFamily m.durations,
    gauge "gpu_discovered_devices" "GPUs in the last successful discovery" m.discovered,
    gauge "gpu_usable_devices" "GPUs usable by the resource manager" m.usable,
    infoFamily m.info]

/-- The whole text: every line ends in a line feed. -/
def text (m : Metrics) : List Char :=
  ((families m).flatMap Family.lines).flatMap fun line => line ++ ['\n']

def standsIn (word : List Char) : List Char → Bool
  | [] => word.isEmpty
  | c :: s => word.isPrefixOf (c :: s) || standsIn word s

/-- The lines of the text that are told: not those on when something was created. -/
def lines (m : Metrics) : List String :=
  ((Text.lines m.text).filter fun line => !standsIn "_created".toList line).map String.ofList

end Metrics
end GpuInventory
