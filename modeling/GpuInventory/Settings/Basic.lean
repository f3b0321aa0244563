import GpuInventory.Environment
import GpuInventory.Log

/-!
The settings of the program and their defaults, in three groups: how GPUs are discovered, where the
service listens, and how it is observed.
-/

namespace GpuInventory

/-- The value of the allow list that asks for every GPU that is discovered. -/
def automatic : String := "auto"

def allowedDevicesSetting : String := "GPU_DISCOVERY_DISCOVERY__ALLOWED_DEVICES"

/-- How GPUs are discovered: where the tool is, which devices may be used, and what is added to the
environment of the tool. -/
structure Discovery where
  path : String := ""
  allowedDevices : String := automatic
  environment : Environment := {}
deriving DecidableEq, Repr

namespace Settings

structure Server where
  host : String := "0.0.0.0"
  port : Int := 8080
deriving DecidableEq, Repr

inductive LogFormat where
  | json
  | console
deriving DecidableEq, Repr

namespace LogFormat

def name : LogFormat → String
  | .json => "json"
  | .console => "console"

def ofName? (s : String) : Option LogFormat :=
  [json, console].find? fun f => f.name == s

theorem ofName?_name (f : LogFormat) : ofName? f.name = some f := by
  cases f <;> decide

end LogFormat

/-- How the service is observed: what is logged and how, the name of the deployment, and where
spans are sent. -/
structure Observability where
  level : Log.Level := .info
  format : LogFormat := .json
  deployment : String := "development"
  endpoint : Option String := none
deriving DecidableEq, Repr

end Settings

structure Settings where
  discovery : Discovery := {}
  server : Settings.Server := {}
  observability : Settings.Observability := {}
deriving DecidableEq, Repr

end GpuInventory
