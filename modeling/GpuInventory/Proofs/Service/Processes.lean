import GpuInventory.Proofs.Monitor.Calls
import GpuInventory.Proofs.Session.Processes
import GpuInventory.Proofs.Settings.ToolVariables
import GpuInventory.Service

/-!
The processes of the service, and what they see of the settings.

The settings are read once, when the program starts, and the engine is set up with them once.  From
then on requests are served, callers log, and the files and the machine may change, but nothing
writes to the environment that the engine holds for the tool.  So every process the service runs
sees that setting over the environment that it inherits, the first one included, which is run before
the service has started and even if it then does not start.

What a process sees of a variable that an operator sets for it can therefore be read off the
settings, and they have the name of the variable in lower case if it came as the end of a name.
-/

namespace GpuInventory

namespace Service

/-- What can happen to a service.  Outside of it everything may change but the environment that
processes inherit, which is its own. -/
inductive Action where
  | request (request : Http.Request)
  | note (note : Log.Note)
  | change (place : Place) (outcome : Command.Outcome) (seconds : Float)

def step (service : Service) : Action → Service
  | .request request => (service.serve request).1
  | .note note => service.log note
  | .change place outcome seconds =>
    { service with
      world :=
        { service.world with place, machine := { service.world.machine with outcome }, seconds } }

def after (service : Service) (actions : List Action) : Service :=
  actions.foldl step service

theorem serveAll_eq_after (service : Service) (requests : List Http.Request) :
    (service.serveAll requests).1 = service.after (requests.map .request) := by
  induction requests generalizing service with
  | nil => rfl
  | cons request rest ih => exact ih (service.serve request).1

/-- Every process that the program runs with some settings: those of a service in its lifetime, or
those of a set-up that ends in a failure. -/
def processes (settings : Settings) (world : World) (actions : List Action) : List Command.Run :=
  match startWith settings world with
  | .ok service => (service.after actions).runs
  | .error _ => ((freshMonitor settings).setUp world).runs

/-! ## The environment of processes -/

/-- What is true of a service from its start on. -/
structure Supplies (environment : Environment) (inherited : Environment) (service : Service) :
    Prop where
  engine : service.monitor.engine.environment = environment
  world : service.world.machine.inherited = inherited
  runs : ∀ run ∈ service.runs, run.environment = inherited.overlay environment

variable {environment inherited : Environment}

theorem environment_of_discover {engine : Engine} {machine : Command.Machine} {run : Command.Run}
    (h : run ∈ (engine.discover machine).runs) :
    run.environment = machine.inherited.overlay engine.environment := by
  obtain ⟨-, path, -, rfl⟩ := Engine.run_of_discover h
  show machine.inherited.overlay (engine.discover machine).state.environment = _
  rw [(engine.discover_frame machine).2.2.2]

theorem serve_supplies (request : Http.Request) (monitor : Monitor) (world : World) :
    (Http.serve request monitor world).state.engine.environment = monitor.engine.environment ∧
      ∀ run ∈ (Http.serve request monitor world).runs,
        run.environment = world.machine.inherited.overlay monitor.engine.environment := by
  cases hd : request.callsDiscovery with
  | true =>
    obtain ⟨hengine, hruns⟩ := monitor.refresh_engine world
    rw [Http.serve_of_callsDiscovery hd]
    refine ⟨?_, fun run hrun => ?_⟩
    · show (monitor.refresh world).state.engine.environment = _
      rw [hengine]
      exact (monitor.engine.discover_frame world.machine).2.2.2
    · have hmem : run ∈ (monitor.refresh world).runs := hrun
      rw [hruns] at hmem
      exact environment_of_discover hmem
  | false =>
    obtain ⟨hengine, hruns⟩ := Http.serve_of_not_callsDiscovery hd monitor world
    rw [hengine, hruns]
    exact ⟨rfl, fun run hrun => absurd hrun List.not_mem_nil⟩

theorem Supplies.step {service : Service} (h : Supplies environment inherited service)
    (action : Action) : Supplies environment inherited (service.step action) := by
  cases action with
  | request request =>
    obtain ⟨hengine, hruns⟩ := serve_supplies request service.monitor service.world
    refine ⟨hengine.trans h.engine, h.world, fun run hrun => ?_⟩
    rcases List.mem_append.mp hrun with hold | hnew
    · exact h.runs run hold
    · rw [hruns run hnew, h.engine, h.world]
  | note note => exact ⟨h.engine, h.world, h.runs⟩
  | change place outcome seconds => exact ⟨h.engine, h.world, h.runs⟩

theorem Supplies.after {service : Service} (h : Supplies environment inherited service)
    (actions : List Action) : Supplies environment inherited (service.after actions) := by
  induction actions generalizing service with
  | nil => exact h
  | cons action rest ih => exact ih (h.step action)

section Start

variable (settings : Settings) (world : World)

theorem setUp_runs_environment :
    ∀ run ∈ ((freshMonitor settings).setUp world).runs,
      run.environment = world.machine.inherited.overlay settings.discovery.environment := by
  intro run hrun
  rw [((freshMonitor settings).setUp_engine world).2] at hrun
  exact environment_of_discover hrun

theorem supplies_of_start {service : Service} (h : startWith settings world = .ok service) :
    Supplies settings.discovery.environment world.machine.inherited service := by
  unfold startWith at h
  dsimp only at h
  split at h
  · cases h
  · cases h
    refine ⟨?_, rfl, setUp_runs_environment settings world⟩
    show ((freshMonitor settings).setUp world).state.engine.environment = _
    rw [((freshMonitor settings).setUp_engine world).1]
    exact (({} : Engine).setUp_frame settings.discovery world.place world.machine).2.2.2

/-- Every process of the program sees the setting for the environment of the tool over the
environment that it inherits. -/
theorem environment_of_processes (actions : List Action) :
    ∀ run ∈ processes settings world actions,
      run.environment = world.machine.inherited.overlay settings.discovery.environment := by
  unfold processes
  cases h : startWith settings world with
  | ok service => exact ((supplies_of_start settings world h).after actions).runs
  | error failure => exact setUp_runs_environment settings world

theorem processes_nil :
    processes settings world [] = ((freshMonitor settings).setUp world).runs := by
  unfold processes startWith
  dsimp only
  cases ((freshMonitor settings).setUp world).value with
  | ok done => rfl
  | error failure => rfl

theorem processes_nil_of_located {path : String}
    (h : (Locator.locate world.place {} settings.discovery.path).value = some path) :
    processes settings world [] =
      [{ command := Engine.reportCommand path
         environment := world.machine.inherited.overlay settings.discovery.environment
         timeout := Engine.timeout }] := by
  rw [processes_nil, ((freshMonitor settings).setUp_engine world).2]
  let configured := (({} : Engine).configure settings.discovery world.place).value
  have hready : configured.IsReady := by
    rw [Engine.configure_isReady_iff]
    exact Option.isSome_of_eq_some h
  obtain ⟨found, hfound, he⟩ := Engine.discover_of_isReady hready world.machine
  have hpath : found = path := Option.some.inj (hfound.symm.trans h)
  show (configured.discover world.machine).runs = _
  rw [he, Engine.runTool_runs, hpath]
  rfl

end Start

/-! ## Variables for the tool -/

section ToolVariables

variable {given : List (String × String)} {settings : Settings}

/-- Variables for the tool that come as JSON reach it under their own names. -/
theorem tool_sees_json_variables {name value : String} {pairs : List (String × String)}
    (hread : Settings.read given = .ok settings)
    (hname : Text.lower name = "gpu_discovery_discovery__environment")
    (hvalue : Json.parse? value = some (.object (pairs.map fun v => (v.1, .string v.2))))
    (hone : given.filter Settings.addressesTool = [(name, value)]) (world : World)
    (actions : List Action) :
    ∀ run ∈ processes settings world actions,
      run.environment = world.machine.inherited.overlay (.ofList pairs) := by
  intro run hrun
  rw [environment_of_processes settings world actions run hrun,
    Settings.environment_of_json hread hname hvalue hone]

/-- A variable for the tool that comes as a variable of its own reaches it in lower case.

Let the settings be read from variables of which one alone speaks of the environment of the tool,
and let it be one that ends in the name of a variable for the tool.  Then every process of the
program, whatever happens to it, sees that name in lower case with the given value, and apart from
it what is inherited.  It sees the name itself with that value exactly if the name is in lower case
already, or if it would see it so anyway. -/
theorem tool_sees_variable_in_lower_case {n value : String}
    (hread : Settings.read given = .ok settings)
    (hn : ¬ Settings.partSeparator.toList <:+: n.toList)
    (hone : given.filter Settings.addressesTool = [(Settings.toolVariableStart ++ n, value)])
    (world : World) (actions : List Action) :
    ∀ run ∈ processes settings world actions,
      (∀ name, run.environment.get? name =
        if name = Text.lower n then some value else world.machine.inherited.get? name) ∧
      (run.environment.get? n = some value ↔
        n = Text.lower n ∨ world.machine.inherited.get? n = some value) := by
  intro run hrun
  have hsees : ∀ name, run.environment.get? name =
      if name = Text.lower n then some value else world.machine.inherited.get? name := by
    intro name
    rw [environment_of_processes settings world actions run hrun,
      Settings.environment_of_toolVariable hread hn hone]
    show (world.machine.inherited.set (Text.lower n) value).get? name = _
    by_cases hname : name = Text.lower n
    · rw [hname, Environment.get?_set_self, if_pos rfl]
    · rw [Environment.get?_set_of_ne _ value hname, if_neg hname]
  refine ⟨hsees, ?_⟩
  rw [hsees n]
  by_cases hlower : n = Text.lower n
  · rw [if_pos hlower]
    exact iff_of_true rfl (.inl hlower)
  · rw [if_neg hlower]
    exact (or_iff_right hlower).symm

/-- A world in which the tool is installed, but hangs. -/
def hanging : World :=
  { place := .ofPaths "/" ["/usr/bin/nvidia-smi"] []
    machine := { outcome := .timedOut, inherited := {} } }

theorem mem_processes_hanging (environment : Environment) :
    { command := Engine.reportCommand "/usr/bin/nvidia-smi"
      environment := Environment.overlay {} environment
      timeout := Engine.timeout } ∈ processes { discovery := { environment } } hanging [] := by
  have hlocated : (Locator.locate hanging.place {} "").value = some "/usr/bin/nvidia-smi" := by
    decide +kernel
  rw [processes_nil_of_located { discovery := { environment } } hanging hlocated]
  exact List.mem_cons_self

theorem read_foo : Settings.read [("GPU_DISCOVERY_DISCOVERY__ENVIRONMENT__FOO", "1")] =
    .ok { discovery := { environment := .ofList [("foo", "1")] } } := rfl

theorem foo_alone :
    [("GPU_DISCOVERY_DISCOVERY__ENVIRONMENT__FOO", "1")].filter Settings.addressesTool =
      [(Settings.toolVariableStart ++ "FOO", "1")] := by
  decide +kernel

theorem tool_sees_foo_in_lower_case :
    ∃ run ∈ processes { discovery := { environment := .ofList [("foo", "1")] } } hanging [],
      run.environment.get? "foo" = some "1" ∧ ¬ run.environment.get? "FOO" = some "1" := by
  have hrun := mem_processes_hanging (.ofList [("foo", "1")])
  obtain ⟨hsees, hown⟩ :=
    tool_sees_variable_in_lower_case read_foo (by decide +kernel) foo_alone hanging [] _ hrun
  refine ⟨_, hrun, ?_, ?_⟩
  · rw [hsees]
    decide +kernel
  · rw [hown]
    decide +kernel

/-- A variable for the tool may fail to reach it under its own name. -/
theorem capital_name_lost :
    ¬ ∀ (given : List (String × String)) (settings : Settings) (n value : String) (world : World)
        (actions : List Action),
      Settings.read given = .ok settings → n ≠ "" →
        ¬ Settings.partSeparator.toList <:+: n.toList →
        given.filter Settings.addressesTool = [(Settings.toolVariableStart ++ n, value)] →
        ∀ run ∈ processes settings world actions, run.environment.get? n = some value := by
  intro hall
  have hrun := mem_processes_hanging (.ofList [("foo", "1")])
  have hsame :=
    hall _ _ "FOO" "1" hanging [] read_foo (by decide) (by decide +kernel) foo_alone _ hrun
  exact absurd hsame (by decide +kernel)

end ToolVariables

end Service
end GpuInventory
