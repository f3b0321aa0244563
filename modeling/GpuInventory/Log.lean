/-!
Log entries.

Every part of the program that logs is a `Source`; an entry has a source, a level and a message on
one line or more.  Functions that log are pure: they give their value together with the entries, in
the order in which they were written.
-/

namespace GpuInventory
namespace Log

/-- How important an entry is, in ascending order. -/
inductive Level where
  | debug
  | info
  | warning
  | error
deriving DecidableEq, Repr

namespace Level

def rank : Level → Nat
  | .debug => 0
  | .info => 1
  | .warning => 2
  | .error => 3

def name : Level → String
  | .debug => "DEBUG"
  | .info => "INFO"
  | .warning => "WARNING"
  | .error => "ERROR"

/-- The name of a level as log lines write it. -/
def lowerName : Level → String
  | .debug => "debug"
  | .info => "info"
  | .warning => "warning"
  | .error => "error"

def all : List Level := [.debug, .info, .warning, .error]

def ofName? (s : String) : Option Level :=
  all.find? fun level => level.name == s

theorem ofName?_name (level : Level) : ofName? level.name = some level := by
  cases level <;> decide

/-- Whether an entry of this level is written when entries below `threshold` are not. -/
def reaches (level threshold : Level) : Bool :=
  threshold.rank ≤ level.rank

end Level

inductive Source where
  | allowList
  | locator
  | engine
  | runner
  | monitor
deriving DecidableEq, Repr

def Source.name : Source → String
  | .allowList => "gpu_discovery.domain.services.allowlist"
  | .locator => "gpu_discovery.domain.services.binary_locator"
  | .engine => "gpu_discovery.domain.services.gpu_discovery"
  | .runner => "gpu_discovery.adapters.outbound.shell"
  | .monitor => "gpu_discovery.application.coordinator"

structure Entry where
  source : Source
  level : Level
  message : String
deriving DecidableEq, Repr

end Log

/-- A value and the log entries written on the way to it. -/
structure Logged (α : Type) where
  value : α
  entries : List Log.Entry
deriving Repr

namespace Logged

def silent {α : Type} (value : α) : Logged α :=
  { value, entries := [] }

def saying {α : Type} (source : Log.Source) (level : Log.Level) (message : String) (value : α) :
    Logged α :=
  { value, entries := [{ source, level, message }] }

end Logged
end GpuInventory
