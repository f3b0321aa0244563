import GpuInventory.Proofs.Metrics.Durations
import GpuInventory.Proofs.Monitor.Recording
import GpuInventory.Proofs.Session.Outcomes
import Mathlib.Data.List.Infix

/-!
What the metrics account for.

The metrics are kept by the monitor, so they can be right about the engine only if every call on it
goes through the monitor.  What they should say is put together from the steps of the session, again
without looking into the state: `times` is what the clock of the world says about the runs of a
step, and `listings` what the monitor has answered to the question for usable devices.  `Counted`
says that the metrics agree with all of this and with the engine.  One attempt keeps it, since a
call for discovery is recorded by its result, and so does every other step.

A duration is in a bucket if it is a number.  It is one if the clock shows finite times before and
after the run, as clocks do: `ClockStaysFinite` says so of a session, whose clock is otherwise any.
-/

namespace GpuInventory
namespace Session

/-! ## What is counted -/

/-- Whether an event is a run that ends so: a run succeeds if it gives an inventory. -/
def Event.endsIn (ending : Ending) : Event → Bool
  | .setUp => false
  | .ran (.ok _) => ending == .success
  | .ran (.error _) => ending == .failure

/-- Whether an action is a call for discovery or a set-up past the monitor. -/
def Action.goesPast : Action → Bool
  | .setUpEngine _ | .discover => true
  | _ => false

/-- Whether an action calls on the monitor for a set-up or a discovery. -/
def Action.isAttempt : Action → Bool
  | .setUpMonitor | .refresh => true
  | .request r => r.asksFor .discovery
  | _ => false

/-- Whether an action asks the monitor for the usable devices. -/
def Action.asksMonitor : Action → Bool
  | .monitoredDevices => true
  | .request r => r.asksFor .usable
  | _ => false

/-- How long each run of a step takes. -/
def times (session : Session) (action : Action) : List Float :=
  (session.step action).runs.map fun _ =>
    (session.step action).state.world.clock - session.world.clock

/-- The clock shows a finite time at the beginning of a session and after each of its actions. -/
def ClockStaysFinite (session : Session) (actions : List Action) : Prop :=
  ∀ before, before <+: actions → (session.after before).world.clock.isFinite = true

/-- How many devices the monitor lists in a step, if it does. -/
def listings (session : Session) (action : Action) : List Nat :=
  if action.asksMonitor then
    match session.monitor.usableDevices.value with
    | .ok devices => [devices.length]
    | .error _ => []
  else []

/-- What is noted about the steps of a session, one after the other. -/
def collect {α : Type} (note : Session → Action → List α) (session : Session) :
    List Action → List α
  | [] => []
  | action :: rest => note session action ++ (session.step action).state.collect note rest

theorem events_of_runs_eq_nil {session : Session} {action : Action} (h : action.isSetUp = false)
    (hruns : (session.step action).runs = []) : session.events action = [] := by
  rw [events, h, hruns]
  rfl

theorem times_of_runs_eq_nil {session : Session} {action : Action}
    (hruns : (session.step action).runs = []) : session.times action = [] := by
  rw [times, hruns]
  rfl

theorem countP_add_countP_runEvents (machine : Command.Machine) (runs : List Command.Run) :
    (runEvents machine runs).countP (Event.endsIn .success) +
      (runEvents machine runs).countP (Event.endsIn .failure) = runs.length := by
  induction runs with
  | nil => rfl
  | cons run rest ih =>
    rw [List.length_cons, ← ih, runEvents, runEvents, List.map_cons, List.countP_cons,
      List.countP_cons]
    cases Engine.ending machine run with
    | ok inventory => exact Nat.add_right_comm _ 1 _
    | error failure => rfl

section Discover

variable {machine : Command.Machine} (hr : ¬ Engine.Refuses machine) (engine : Engine)
include hr

/-- A call makes a run with the ending that it is counted as, if that is the ending of a run. -/
theorem countP_runEvents_discover {ending : Ending} (hrun : ending.isRun = true) :
    (runEvents machine (engine.discover machine).runs).countP (Event.endsIn ending) =
      if Monitor.callEnding (engine.discover machine).value = ending then 1 else 0 := by
  rcases Monitor.callEnding_discover hr engine with
    ⟨run, inventory, hruns, hend, he⟩ | ⟨run, failure, hruns, hend, he⟩ | ⟨hruns, he⟩
  · rw [hruns, he, runEvents, List.map_singleton, hend]
    cases ending <;> rfl
  · rw [hruns, he, runEvents, List.map_singleton, hend]
    cases ending <;> rfl
  · have hne : Monitor.callEnding (engine.discover machine).value ≠ ending := by
      rintro rfl
      rw [hrun] at he
      cases he
    rw [hruns, if_neg hne]
    rfl

/-- A call is timed if it is counted as a run, and not otherwise. -/
theorem foldl_observe_discover (elapsed : Float) (d : Durations) :
    ((engine.discover machine).runs.map fun _ => elapsed).foldl Durations.observe d =
      if (Monitor.callEnding (engine.discover machine).value).isRun then d.observe elapsed
      else d := by
  rcases Monitor.callEnding_discover hr engine with
    ⟨run, inventory, hruns, -, he⟩ | ⟨run, failure, hruns, -, he⟩ | ⟨hruns, he⟩
  · rw [hruns, he]
    rfl
  · rw [hruns, he]
    rfl
  · rw [hruns, he]
    rfl

end Discover

/-! ## The account -/

/-- The metrics agree with the engine and with what was noted about a session. -/
structure Counted (engine : Engine) (history : List Event) (times : List Float) (attempts : Nat)
    (listings : List Nat) (m : Metrics) : Prop where
  runs : ∀ ending, ending.isRun = true →
    m.attemptCount ending = history.countP (Event.endsIn ending)
  total : m.attemptTotal = attempts
  durations : m.durations = times.foldl Durations.observe {}
  failures : m.failures = engine.failures
  discovered : m.discovered = (engine.inventory.map Inventory.count).getD 0
  usable : m.usable = listings.getLast?.getD 0

namespace Counted

variable {engine : Engine} {history : List Event} {past : List Float} {attempts : Nat}
  {lists : List Nat} {m : Metrics}

theorem of_fresh (search : Locator.Search) : Counted { search } [] [] 0 [] {} where
  runs := fun _ _ => rfl
  total := rfl
  durations := rfl
  failures := rfl
  discovered := rfl
  usable := rfl

/-- Whatever engine is called, and whatever is known about the set-up: a call is counted by its
result. -/
theorem call (h : Counted engine history past attempts lists m) (called : Engine)
    {machine : Command.Machine} (hr : ¬ Engine.Refuses machine) (elapsed : Float)
    (info : Option DiscoveryInfo) :
    Counted (called.discover machine).state
      (history ++ runEvents machine (called.discover machine).runs)
      (past ++ (called.discover machine).runs.map fun _ => elapsed) (attempts + 1) lists
      (Monitor.recordCall (called.discover machine).value (called.discover machine).state elapsed
        { m with info }) := by
  refine ⟨fun ending hrun => ?_, ?_, ?_, rfl, rfl, ?_⟩
  · rw [Monitor.attemptCount_recordCall, List.countP_append, ← h.runs ending hrun,
      countP_runEvents_discover hr called hrun]
    rfl
  · rw [Monitor.attemptTotal_recordCall, ← h.total]
    rfl
  · rw [Monitor.durations_recordCall, List.foldl_append, ← h.durations, foldl_observe_discover hr]
  · rw [Monitor.usable_recordCall, ← h.usable]

/-- The account says nothing about an engine besides its count of failures and its inventory. -/
theorem of_same (h : Counted engine history past attempts lists m) {after : Engine}
    (hfailures : after.failures = engine.failures) (hinventory : after.inventory = engine.inventory) :
    Counted after history past attempts lists m :=
  { h with
    failures := h.failures.trans hfailures.symm
    discovered := by rw [hinventory, h.discovered] }

/-! ### Calls on the monitor -/

section Calls

variable {monitor : Monitor} {world : World}

/-- That the engine was set up is an event besides the run, and no ending of one. -/
theorem monitor_setUp (h : Counted engine history past attempts lists m)
    (hm : monitor.metrics = some m) (hr : ¬ Engine.Refuses world.machine) :
    let done := monitor.setUp world
    ∃ after, done.state.metrics = some after ∧
      Counted done.state.engine (history ++ ([.setUp] ++ runEvents world.machine done.runs))
        (past ++ done.runs.map fun _ => world.elapsed done.runs) (attempts + 1) lists after := by
  intro done
  have hevent : Counted engine (history ++ [.setUp]) past attempts lists m := by
    refine { h with runs := fun ending hrun => ?_ }
    rw [h.runs ending hrun, List.countP_append]
    rfl
  obtain ⟨hengine, hruns⟩ := monitor.setUp_engine world
  have hmetrics := monitor.setUp_metrics hr
  rw [hm] at hmetrics
  refine ⟨_, hmetrics, ?_⟩
  rw [← List.append_assoc, hengine, hruns]
  exact hevent.call (monitor.engine.configure monitor.discovery world.place).value hr _ _

theorem monitor_refresh (h : Counted engine history past attempts lists m)
    (hm : monitor.metrics = some m) (hr : ¬ Engine.Refuses world.machine) :
    let done := monitor.refresh world
    ∃ after, done.state.metrics = some after ∧
      Counted done.state.engine (history ++ runEvents world.machine done.runs)
        (past ++ done.runs.map fun _ => world.elapsed done.runs) (attempts + 1) lists after := by
  intro done
  obtain ⟨hengine, hruns⟩ := monitor.refresh_engine world
  have hmetrics := monitor.refresh_metrics hr
  rw [hm] at hmetrics
  refine ⟨_, hmetrics, ?_⟩
  rw [hengine, hruns]
  exact h.call monitor.engine hr _ m.info

theorem monitor_usableDevices (h : Counted monitor.engine history past attempts lists m)
    (hm : monitor.metrics = some m) :
    let done := monitor.usableDevices
    ∃ after, done.state.metrics = some after ∧
      Counted done.state.engine history past attempts
        (lists ++ match done.value with | .ok devices => [devices.length] | .error _ => []) after := by
  intro done
  have hmetrics := monitor.usableDevices_metrics
  rw [hm] at hmetrics
  refine ⟨_, hmetrics, ?_⟩
  rw [monitor.usableDevices_engine.1, monitor.usableDevices_value]
  cases monitor.engine.usableDevices.value with
  | ok devices =>
    refine { h with usable := ?_ }
    rw [List.getLast?_concat]
    rfl
  | error failure =>
    rw [List.append_nil]
    exact h

end Calls

end Counted

/-! ## Sessions -/

section Step

variable {session : Session} {history : List Event} {past : List Float} {attempts : Nat}
  {lists : List Nat} {m : Metrics}

/-- A step that leaves alone what the metrics tell of needs no account. -/
theorem counted_step_of_idle (hm : session.monitor.metrics = some m)
    (h : Counted session.engine history past attempts lists m) {action : Action}
    (hsetUp : action.isSetUp = false) (hattempt : action.isAttempt = false)
    (hlist : action.asksMonitor = false) (hruns : (session.step action).runs = [])
    (hmetrics : (session.step action).state.monitor.metrics = session.monitor.metrics)
    (hfailures : (session.step action).state.engine.failures = session.engine.failures)
    (hinventory : (session.step action).state.engine.inventory = session.engine.inventory) :
    ∃ after, (session.step action).state.monitor.metrics = some after ∧
      Counted (session.step action).state.engine (history ++ session.events action)
        (past ++ session.times action) (attempts + if action.isAttempt then 1 else 0)
        (lists ++ session.listings action) after := by
  refine ⟨m, hmetrics.trans hm, ?_⟩
  rw [events_of_runs_eq_nil hsetUp hruns, times_of_runs_eq_nil hruns, listings, hattempt, hlist]
  simpa using h.of_same hfailures hinventory

theorem counted_step_refresh (hm : session.monitor.metrics = some m)
    (h : Counted session.engine history past attempts lists m)
    (hr : ¬ Engine.Refuses session.world.machine) :
    ∃ after, (session.step .refresh).state.monitor.metrics = some after ∧
      Counted (session.step .refresh).state.engine (history ++ session.events .refresh)
        (past ++ session.times .refresh) (attempts + 1) (lists ++ session.listings .refresh)
        after := by
  have hlists : lists ++ session.listings .refresh = lists := List.append_nil lists
  rw [hlists]
  exact h.monitor_refresh hm hr

theorem counted_step_monitoredDevices (hm : session.monitor.metrics = some m)
    (h : Counted session.engine history past attempts lists m) :
    ∃ after, (session.step .monitoredDevices).state.monitor.metrics = some after ∧
      Counted (session.step .monitoredDevices).state.engine
        (history ++ session.events .monitoredDevices) (past ++ session.times .monitoredDevices)
        attempts (lists ++ session.listings .monitoredDevices) after := by
  have hruns : (session.step .monitoredDevices).runs = [] := session.monitor.usableDevices_engine.2
  rw [events_of_runs_eq_nil rfl hruns, times_of_runs_eq_nil hruns, List.append_nil, List.append_nil]
  exact h.monitor_usableDevices hm

/-- The step lemma: whatever an action does, the metrics account for it, unless it goes past the
monitor. -/
theorem counted_step (hm : session.monitor.metrics = some m)
    (h : Counted session.engine history past attempts lists m)
    (hr : ¬ Engine.Refuses session.world.machine) {action : Action}
    (hcalls : action.goesPast = false) :
    ∃ after, (session.step action).state.monitor.metrics = some after ∧
      Counted (session.step action).state.engine (history ++ session.events action)
        (past ++ session.times action) (attempts + if action.isAttempt then 1 else 0)
        (lists ++ session.listings action) after := by
  cases action with
  | setUpEngine discovery => cases hcalls
  | discover => cases hcalls
  | setUpMonitor =>
    have hlists : lists ++ session.listings .setUpMonitor = lists := List.append_nil lists
    rw [hlists]
    exact h.monitor_setUp hm hr
  | refresh => exact counted_step_refresh hm h hr
  | monitoredDevices => exact counted_step_monitoredDevices hm h
  | request request =>
    -- A request that goes further does to the monitor what the call on it does.
    cases hd : request.asksFor .discovery with
    | true =>
      have hsame : (session.step (.request request)).state = (session.step .refresh).state ∧
          (session.step (.request request)).runs = (session.step .refresh).runs := by
        simp only [step]
        rw [Http.serve_of_asksFor (by decide) hd]
        exact ⟨rfl, rfl⟩
      have hu : (Action.request request).asksMonitor = false := by
        refine Bool.eq_false_iff.mpr fun hu => ?_
        have hsame := Http.Request.eq_of_asksFor (by decide) (by decide) hd hu
        cases hsame
      have hcounted := counted_step_refresh hm h hr
      rw [events, times, listings, hsame.1, hsame.2, hu]
      rw [show (Action.request request).isAttempt = true from hd]
      exact hcounted
    | false =>
      cases hu : request.asksFor .usable with
      | true =>
        have hsame : (session.step (.request request)).state =
              (session.step .monitoredDevices).state ∧
            (session.step (.request request)).runs = (session.step .monitoredDevices).runs := by
          simp only [step]
          rw [Http.serve_of_asksFor (by decide) hu]
          exact ⟨rfl, rfl⟩
        have hcounted := counted_step_monitoredDevices hm h
        rw [events, times, listings, hsame.1, hsame.2]
        rw [show (Action.request request).asksMonitor = true from hu,
          show (Action.request request).isAttempt = false from hd]
        exact hcounted
      | false =>
        obtain ⟨hstate, hruns⟩ := Http.serve_of_neither hd hu session.monitor session.world
        exact counted_step_of_idle hm h rfl hd hu hruns (congrArg Monitor.metrics hstate)
          (congrArg (fun monitor => monitor.engine.failures) hstate)
          (congrArg (fun monitor => monitor.engine.inventory) hstate)
  | _ => exact counted_step_of_idle hm h rfl rfl rfl rfl rfl rfl rfl

end Step

theorem counted_after {session : Session} {history : List Event} {past : List Float}
    {attempts : Nat} {lists : List Nat} {m : Metrics} (hm : session.monitor.metrics = some m)
    (h : Counted session.engine history past attempts lists m) {actions : List Action}
    (hcalls : ∀ action ∈ actions, action.goesPast = false)
    (houtcomes : ∀ outcome ∈ outcomes session.world actions, ∀ reason, outcome ≠ .refused reason) :
    ∃ after, (session.after actions).monitor.metrics = some after ∧
      Counted (session.after actions).engine (history ++ session.history actions)
        (past ++ session.collect times actions) (attempts + actions.countP Action.isAttempt)
        (lists ++ session.collect listings actions) after := by
  induction actions generalizing session history past attempts lists m with
  | nil =>
    refine ⟨m, hm, ?_⟩
    rw [Session.history, collect, collect, List.append_nil, List.append_nil, List.append_nil]
    exact h
  | cons action rest ih =>
    have hr : ¬ Engine.Refuses session.world.machine := by
      rintro ⟨reason, ho⟩
      exact houtcomes _ List.mem_cons_self reason ho
    obtain ⟨between, hbetween, hstep⟩ := counted_step hm h hr (hcalls action List.mem_cons_self)
    obtain ⟨after, hafter, hrest⟩ := ih hbetween hstep
      (fun a ha => hcalls a (List.mem_cons_of_mem action ha))
      (fun outcome ho => houtcomes outcome (mem_outcomes_of_step ho))
    refine ⟨after, hafter, ?_⟩
    rw [Session.history, collect, collect, List.countP_cons, ← List.append_assoc,
      ← List.append_assoc, ← List.append_assoc, Nat.add_comm (rest.countP _), ← Nat.add_assoc]
    exact hrest

/-! ## Runs and their times -/

theorem length_collect_times (session : Session) (actions : List Action) :
    (session.collect times actions).length = ((session.run actions).flatMap Effects.runs).length := by
  induction actions generalizing session with
  | nil => rfl
  | cons action rest ih =>
    rw [collect, run, List.flatMap_cons, List.length_append, List.length_append, ih, times,
      List.length_map]

/-- Every run is a success or a failure. -/
theorem countP_history (session : Session) (actions : List Action) :
    (session.history actions).countP (Event.endsIn .success) +
      (session.history actions).countP (Event.endsIn .failure) =
        ((session.run actions).flatMap Effects.runs).length := by
  induction actions generalizing session with
  | nil => rfl
  | cons action rest ih =>
    have hevents : (session.events action).countP (Event.endsIn .success) +
        (session.events action).countP (Event.endsIn .failure) =
          (session.step action).runs.length := by
      rw [← countP_add_countP_runEvents session.world.machine, events]
      cases action.isSetUp <;> rfl
    rw [Session.history, run, List.flatMap_cons, List.countP_append, List.countP_append,
      List.length_append, ← ih, ← hevents]
    omega

theorem ClockStaysFinite.tail {session : Session} {action : Action} {rest : List Action}
    (h : session.ClockStaysFinite (action :: rest)) :
    (session.step action).state.ClockStaysFinite rest := fun before hb =>
  h (action :: before) (List.cons_prefix_cons.mpr ⟨rfl, hb⟩)

/-- On a clock that stays finite every time is a number. -/
theorem isNaN_of_mem_times {session : Session} {actions : List Action}
    (h : session.ClockStaysFinite actions) :
    ∀ t ∈ session.collect times actions, t.isNaN = false := by
  induction actions generalizing session with
  | nil => exact fun t ht => absurd ht List.not_mem_nil
  | cons action rest ih =>
    intro t ht
    rcases List.mem_append.mp ht with ht | ht
    · obtain ⟨run, -, rfl⟩ := List.mem_map.mp ht
      exact isNaN_sub (h [action] ⟨rest, rfl⟩) (h [] List.nil_prefix)
    · exact ih h.tail t ht

/-- The metrics of a session in which every call goes through the monitor and no command is refused,
in every state that it can reach.

Successes and failures are the runs that gave an inventory and those that did not, and there were as
many of both as processes were started.  The durations are the times of these runs, one of each, and
the buckets hold all of them, since the clock shows finite times.  With the calls that were turned
away the endings are as many as there were set-ups and calls for discovery.  The gauges are those of
the engine as it is, and of the last list that the monitor has given. -/
theorem metrics_account_for_session (world : World) (discovery : Discovery)
    (search : Locator.Search) (traced : Bool) (actions : List Action)
    (hcalls : ∀ action ∈ actions, action.goesPast = false)
    (houtcomes : ∀ outcome ∈ outcomes world actions, ∀ reason, outcome ≠ .refused reason)
    (hclock : (fresh world discovery search (some {}) traced).ClockStaysFinite actions) :
    let session := fresh world discovery search (some {}) traced
    let reached := session.after actions
    let history := session.history actions
    let processes := (session.run actions).flatMap Effects.runs
    let measured := session.collect times actions
    ∃ m, reached.monitor.metrics = some m ∧
      m.attemptCount .success = history.countP (Event.endsIn .success) ∧
      m.attemptCount .failure = history.countP (Event.endsIn .failure) ∧
      m.attemptCount .success + m.attemptCount .failure = processes.length ∧
      m.attemptCount .success + m.attemptCount .failure = m.durations.count ∧
      (m.durations = measured.foldl Durations.observe {} ∧ measured.length = processes.length) ∧
      m.attemptCount .success + m.attemptCount .failure + m.attemptCount .disabled +
        m.attemptCount .unconfigured = actions.countP Action.isAttempt ∧
      m.failures = reached.engine.failures ∧
      m.discovered = (reached.engine.inventory.map Inventory.count).getD 0 ∧
      m.usable = (session.collect listings actions).getLast?.getD 0 := by
  intro session reached history processes measured
  have hfresh : Counted session.engine [] [] 0 [] {} := Counted.of_fresh search
  obtain ⟨m, hm, hcounted⟩ := counted_after rfl hfresh hcalls houtcomes
  have hsuccess : m.attemptCount .success = history.countP (Event.endsIn .success) :=
    hcounted.runs .success rfl
  have hfailure : m.attemptCount .failure = history.countP (Event.endsIn .failure) :=
    hcounted.runs .failure rfl
  have hruns : m.attemptCount .success + m.attemptCount .failure = processes.length := by
    rw [hsuccess, hfailure]
    exact countP_history session actions
  have hlength : measured.length = processes.length := length_collect_times session actions
  have hdurations : m.durations = measured.foldl Durations.observe {} := hcounted.durations
  have hcount : m.durations.count = measured.length := by
    have hnumbers : measured.countP (fun t => !t.isNaN) = measured.length := by
      rw [List.countP_eq_length]
      intro t ht
      rw [isNaN_of_mem_times hclock t ht]
      rfl
    rw [hdurations, Durations.count_foldl_observe rfl, hnumbers]
    exact Nat.zero_add _
  have htotal : m.attemptTotal = actions.countP Action.isAttempt :=
    hcounted.total.trans (Nat.zero_add _)
  exact ⟨m, hm, hsuccess, hfailure, hruns, hruns.trans (hlength.symm.trans hcount.symm),
    ⟨hdurations, hlength⟩, htotal, hcounted.failures, hcounted.discovered, hcounted.usable⟩

/-- A tool that does not answer: two failures, and both of them measured. -/
theorem metrics_of_two_timeouts :
    let place : Place := .ofPaths "/" ["/usr/bin/nvidia-smi"] []
    let machine : Command.Machine := { outcome := .timedOut, inherited := {} }
    let session := fresh { place, machine, seconds := 10.0 } {} {} (some {}) true
    let actions := [Action.setUpMonitor, .monitoredDevices, .refresh]
    ∃ m, (session.after actions).monitor.metrics = some m ∧
      m.attemptCount .success + m.attemptCount .failure = 2 ∧ m.durations.count = 2 := by
  intro place machine session actions
  have hcalls : ∀ action ∈ actions, action.goesPast = false := by decide
  have houtcomes : ∀ outcome ∈ outcomes session.world actions, ∀ reason,
      outcome ≠ .refused reason :=
    ne_refused_of_outcomes_eq rfl
  have hclock : session.ClockStaysFinite actions := by
    have hinits : ∀ before ∈ actions.inits,
        (session.after before).world.clock.isFinite = true := by
      decide +kernel
    exact fun before hb => hinits before ((List.mem_inits before actions).mpr hb)
  obtain ⟨m, hm, -, -, hruns, hcount, -⟩ := metrics_account_for_session
    { place, machine, seconds := 10.0 } {} {} true actions hcalls houtcomes hclock
  have htwo : ((session.run actions).flatMap Effects.runs).length = 2 := by decide +kernel
  have hruns := hruns.trans htwo
  exact ⟨m, hm, hruns, hcount.symm.trans hruns⟩

end Session
end GpuInventory
