import GpuInventory.Proofs.Session.Settings

/-!
The processes of a session: what is started, and with which environment.

The engine holds an environment for the tool that callers may write to.  It is filled from the
settings at a set-up, so what was written before is gone, and what is written afterwards stays
there and does not reach the settings.  A process sees it over the environment that is inherited at
that moment.

Which process a step starts can therefore be told from the actions.  They are split at the last
set-up: the settings of that set-up say where the tool is, in the files of its moment, and the
writes since then come on top of the variables of the settings.
-/

namespace GpuInventory

namespace Engine

/-- A call for discovery does not touch what it runs the tool with, so the run can be read off the
engine that it leaves behind. -/
theorem run_of_discover {engine : Engine} {machine : Command.Machine} {run : Command.Run}
    (h : run ∈ (engine.discover machine).runs) :
    (engine.discover machine).state.isInitialized = true ∧
      ∃ path, (engine.discover machine).state.path = some path ∧
        run = (engine.discover machine).state.reportRun machine path := by
  have hready : engine.IsReady :=
    (engine.discover_runs_ne_nil_iff machine).mp (List.ne_nil_of_mem h)
  obtain ⟨path, hpath, he⟩ := discover_of_isReady hready machine
  rw [he, runTool_runs, List.mem_singleton] at h
  obtain ⟨-, hdiscovery, hkept, henvironment⟩ := engine.discover_frame machine
  refine ⟨?_, path, hkept.trans hpath, ?_⟩
  · rw [isInitialized, hdiscovery]
    exact hready.1
  · rw [h]
    unfold reportRun
    rw [henvironment]

end Engine

namespace Session

/-! ## What was written -/

/-- The value that an action writes for a variable into the environment of the engine. -/
def Action.written? (name : String) : Action → Option String
  | .setVariable other value => if other = name then some value else none
  | _ => none

/-- The last value that some actions have written for a variable. -/
def latestValue (name : String) (actions : List Action) : Option String :=
  (actions.filterMap (Action.written? name)).getLast?

theorem latestValue_cons (name : String) (action : Action) (rest : List Action) :
    latestValue name (action :: rest) = (latestValue name rest).or (action.written? name) :=
  getLast?_filterMap_cons (Action.written? name) action rest

/-! ## Steps -/

theorem step_environment {action : Action} (h : action.isSetUp = false) (session : Session)
    (name : String) :
    (session.step action).state.engine.environment.get? name =
      (action.written? name).or (session.engine.environment.get? name) := by
  cases hd : action.isDiscovery with
  | true =>
    have hnone : action.written? name = none := by
      cases action with
      | setVariable other value => cases hd
      | _ => rfl
    rw [(session.step_engine action).1, demand_of_isDiscovery hd, hnone]
    show (session.engine.discover session.world.machine).state.environment.get? name = _
    rw [(session.engine.discover_frame session.world.machine).2.2.2]
    rfl
  | false =>
    cases action with
    | setUpEngine discovery => cases h
    | setUpMonitor => cases h
    | discover => cases hd
    | refresh => cases hd
    | setVariable other value =>
      show (session.engine.environment.set other value).get? name = _
      rw [Action.written?]
      by_cases hn : other = name
      · rw [hn, Environment.get?_set_self, if_pos rfl]
        rfl
      · rw [Environment.get?_set_of_ne _ value (Ne.symm hn), if_neg hn]
        rfl
    | request request =>
      rw [(session.step_engine _).1, demand, if_neg (Bool.not_eq_true _ ▸ hd)]
      rfl
    | monitoredDevices =>
      rw [(session.step_engine _).1]
      rfl
    | _ => rfl

/-- A set-up starts from the settings alone: a variable that was written before makes no difference
to anything that it does. -/
theorem step_setVariable_of_isSetUp {action : Action} (h : action.isSetUp = true)
    (session : Session) (name value : String) :
    (session.step (.setVariable name value)).state.step action = session.step action := by
  cases action with
  | setUpEngine discovery => rfl
  | setUpMonitor => rfl
  | _ => cases h

theorem run_of_step {session : Session} {action : Action} {run : Command.Run}
    (h : run ∈ (session.step action).runs) :
    (session.step action).state.engine.isInitialized = true ∧
      ∃ path, (session.step action).state.engine.path = some path ∧
        run = (session.step action).state.engine.reportRun session.world.machine path := by
  obtain ⟨hengine, hruns⟩ := session.step_engine action
  rw [hruns] at h
  rw [hengine]
  cases hd : session.demand action with
  | setUp discovery =>
    -- A set-up runs the tool by a call for discovery on the engine that it has configured.
    rw [hd] at h
    exact Engine.run_of_discover h
  | discover =>
    rw [hd] at h
    exact Engine.run_of_discover h
  | setVariable name value =>
    rw [hd] at h
    cases h
  | nothing =>
    rw [hd] at h
    cases h

/-! ## Sessions -/

theorem after_append (session : Session) (first second : List Action) :
    session.after (first ++ second) = (session.after first).after second :=
  List.foldl_append

/-- Until the next set-up the engine knows the same path, and of its environment only what is
written changes. -/
theorem after_of_no_setUp {actions : List Action} (h : ∀ action ∈ actions, action.isSetUp = false)
    (session : Session) :
    (session.after actions).engine.path = session.engine.path ∧
      ∀ name, (session.after actions).engine.environment.get? name =
        (latestValue name actions).or (session.engine.environment.get? name) := by
  induction actions generalizing session with
  | nil => exact ⟨rfl, fun _ => rfl⟩
  | cons action rest ih =>
    have hfirst := h action List.mem_cons_self
    obtain ⟨hpath, henvironment⟩ :=
      ih (fun a ha => h a (List.mem_cons_of_mem action ha)) (session.step action).state
    refine ⟨?_, fun name => ?_⟩
    · rw [after_cons, hpath]
      exact (step_of_not_isSetUp hfirst session).2.2
    · rw [after_cons, henvironment, step_environment hfirst, latestValue_cons, Option.or_assoc]

theorem split_at_last_setUp (actions : List Action) :
    (∀ action ∈ actions, action.isSetUp = false) ∨
      ∃ before setUp since, actions = before ++ setUp :: since ∧ setUp.isSetUp = true ∧
        ∀ action ∈ since, action.isSetUp = false := by
  induction actions with
  | nil => exact .inl fun _ h => absurd h List.not_mem_nil
  | cons action rest ih =>
    rcases ih with hnone | ⟨before, setUp, since, rfl, hs, hsince⟩
    · cases ha : action.isSetUp with
      | true => exact .inr ⟨[], action, rest, rfl, ha, hnone⟩
      | false => exact .inl (List.forall_mem_cons.mpr ⟨ha, hnone⟩)
    · exact .inr ⟨action :: before, setUp, since, rfl, hs, hsince⟩

/-- Every process that a session ever starts.

There is a last set-up before it, or it belongs to that set-up itself.  The program is what the
settings of that set-up led to in the files of its moment.  A variable has the value that was
written last since then; if there is none, the one in the settings; and if there is none, the one
that is inherited now; it has no value otherwise.

What is written never gets into the settings, neither those of the monitor nor those that the engine
keeps, and a set-up does the same whether or not something was written just before it. -/
theorem processes_follow_last_setUp (world : World) (discovery : Discovery)
    (search : Locator.Search) (metrics : Option Metrics) (traced : Bool) (actions : List Action) :
    let session := fresh world discovery search metrics traced
    let reached := session.after actions
    (∀ action run, run ∈ (reached.step action).runs →
        ∃ before setUp since settings path,
          actions ++ [action] = before ++ setUp :: since ∧
          setUp.settings? discovery = some settings ∧
          (∀ a ∈ since, a.isSetUp = false) ∧
          (Locator.locate (session.after before).world.place search settings.path).value =
            some path ∧
          run.command.words = [path, "-x", "-q"] ∧ run.timeout = 10.0 ∧
          ∀ name, run.environment.get? name =
            ((latestValue name since).or (settings.environment.get? name)).or
              (reached.world.machine.inherited.get? name)) ∧
      (reached.monitor.discovery = discovery ∧
        reached.engine.discovery = latestSettings discovery actions) ∧
      ∀ name value setUp, setUp.isSetUp = true →
        (reached.step (.setVariable name value)).state.step setUp = reached.step setUp := by
  intro session reached
  refine ⟨fun action run hrun => ?_, ⟨after_own session actions,
    discovery_of_fresh world discovery search metrics traced actions⟩,
    fun name value setUp hs => step_setVariable_of_isSetUp hs reached name value⟩
  obtain ⟨hinitialized, path, hpath, rfl⟩ := run_of_step hrun
  have hlast : (reached.step action).state = session.after (actions ++ [action]) :=
    (after_append session actions [action]).symm
  rw [hlast] at hinitialized hpath ⊢
  rcases split_at_last_setUp (actions ++ [action]) with
    hnone | ⟨before, setUp, since, hsplit, hs, hsince⟩
  · -- Without a set-up the engine has no settings, and nothing could have been started.
    rw [Engine.isInitialized, discovery_of_fresh,
      (latestSettings_eq_none_iff discovery _).mpr hnone] at hinitialized
    cases hinitialized
  · obtain ⟨settings, hsettings⟩ : ∃ settings, setUp.settings? discovery = some settings := by
      refine Option.ne_none_iff_exists'.mp fun hnone => ?_
      rw [Action.settings?_eq_none_iff.mp hnone] at hs
      cases hs
    have hown : setUp.settings? (session.after before).monitor.discovery = some settings := by
      rw [after_own]
      exact hsettings
    have hsearch : (session.after before).engine.search = search := after_search session before
    obtain ⟨-, -, hlocated, hfilled⟩ := step_of_settings? hown
    obtain ⟨hkept, hwritten⟩ :=
      after_of_no_setUp hsince ((session.after before).step setUp).state
    refine ⟨before, setUp, since, settings, path, hsplit, hsettings, hsince, ?_, rfl, rfl,
      fun name => ?_⟩
    · rw [hsplit, after_append, after_cons, hkept, hlocated, hsearch] at hpath
      exact hpath
    · rw [hsplit, after_append, after_cons]
      show (Environment.overlay _ _).get? name = _
      rw [Environment.get?_overlay, hwritten, hfilled]

end Session
end GpuInventory
