import GpuInventory.Http
import GpuInventory.Log.Line
import GpuInventory.Settings.Variables

/-!
The service: settings from environment variables, a monitor that is set up once, and what is logged
from then on.

The service does not start if the settings are wrong, or if setting up ends in a failure that nobody
reckoned with.
-/

namespace GpuInventory

structure Service where
  settings : Settings
  world : World
  monitor : Monitor
  /-- Every process that was run. -/
  runs : List Command.Run := []
  /-- Every line for the log, whether or not its level is high enough to be written. -/
  lines : List Log.Line := []

namespace Service

def version : String := "0.1.0"

inductive Fault where
  | settings (fault : Settings.Fault)
  | failure (failure : Failure)

inductive Exporter where
  | console
  | collector (endpoint : String)
deriving DecidableEq, Repr

/-- Where spans are sent: to an endpoint if one is set. -/
def exporter (settings : Settings) : Exporter :=
  match settings.observability.endpoint.filter fun e => !e.isEmpty with
  | some endpoint => .collector endpoint
  | none => .console

def resource (settings : Settings) : List (String × String) :=
  [("service.name", Log.serviceName), ("service.version", version),
    ("deployment.environment", settings.observability.deployment)]

def openingLine (settings : Settings) (monitor : Monitor) : Log.Line :=
  { event := "gpu_discovery_container_initialized"
    level := .info
    logger := Log.componentLogger
    fields :=
      [("component", .string "container"),
        ("environment", .string settings.observability.deployment),
        ("binary_path", .ofString? monitor.engine.path)] }

def freshMonitor (settings : Settings) : Monitor :=
  { discovery := settings.discovery, metrics := some {} }

def startWith (settings : Settings) (world : World) : Except Failure Service :=
  let done := (freshMonitor settings).setUp world
  match done.value with
  | .error failure => .error failure
  | .ok _ =>
    .ok
      { settings
        world := world.after done.runs
        monitor := done.state
        runs := done.runs
        lines := done.entries.map .ofEntry ++ [openingLine settings done.state] }

def start (given : List (String × String)) (world : World) : Except Fault Service :=
  match Settings.read given with
  | .error fault => .error (.settings fault)
  | .ok settings =>
    match startWith settings world with
    | .error failure => .error (.failure failure)
    | .ok service => .ok service

def log (service : Service) (note : Log.Note) : Service :=
  { service with lines := service.lines ++ (Log.Line.ofNote? note).toList }

def serve (service : Service) (request : Http.Request) : Service × Http.Response :=
  let done := Http.serve request service.monitor service.world
  ({ service with
      monitor := done.state
      world := service.world.after done.runs
      runs := service.runs ++ done.runs
      lines := service.lines ++ done.entries.map .ofEntry },
    done.value)

def serveAll (service : Service) : List Http.Request → Service × List Http.Response
  | [] => (service, [])
  | request :: rest =>
    let (service, response) := service.serve request
    let (service, responses) := service.serveAll rest
    (service, response :: responses)

def written (service : Service) : List Log.Line :=
  Log.Line.written service.settings.observability.level service.lines

/-- The level below which the web server does not log the requests it gets. -/
def accessLevel : Log.Level := .warning

end Service
end GpuInventory
