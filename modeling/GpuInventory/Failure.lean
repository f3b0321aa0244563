import GpuInventory.AllowList
import GpuInventory.Command
import GpuInventory.Locator
import GpuInventory.Report
import GpuInventory.Settings.Basic

/-!
What can go wrong between a caller and the GPUs, and what the caller is told.
-/

namespace GpuInventory

/-- How many failures in a row are borne before the tool is no longer run. -/
def maxFailures : Nat := 10

/-- Why there is no answer. -/
inductive Failure where
  /-- Nothing was set up yet. -/
  | notInitialized
  /-- The tool was not found. -/
  | noExecutable
  /-- The tool has failed too often in a row. -/
  | disabled
  /-- The tool has never given a report. -/
  | neverDiscovered
  | command (fault : Command.Fault)
  | report (fault : Report.Fault)
  | allowList (fault : AllowList.Fault)
deriving Repr

namespace Failure

def message : Failure → String
  | .notInitialized => "Please initialize (call initialize) before use GPUDiscoverer"
  | .noExecutable =>
    "Failed to find GPU discovery executable, please double check " ++ Locator.settingName ++
      " setting."
  | .disabled =>
    "Failed to execute GPU device information detection script for " ++ Nat.repr maxFailures ++
      " times, skip following executions."
  | .neverDiscovered =>
    allowedDevicesSetting ++ " is set to " ++ automatic ++
      ", however automatically discovering GPU information failed, please check " ++
      "the log for more details, as an alternative, admin can specify " ++
      allowedDevicesSetting ++ " manually to enable GPU isolation."
  | .command fault => fault.message
  | .report fault => fault.message
  | .allowList fault => fault.message

/-- The texts that the message tells as they were given; the others are fixed, decoded or quoted. -/
def given : Failure → List String
  | .command fault => fault.given
  | _ => []

/-- Whether callers reckon with the failure.  They do not reckon with a command that could not even
be put to the system, nor with a number that is too long to be read: such a failure passes through
every layer as it is. -/
def isExpected : Failure → Bool
  | .command (.refused _) => false
  | .allowList (.overlong _) => false
  | _ => true

end Failure
end GpuInventory
