import GpuInventory.Proofs.Session.Observation

/-!
What setting up anew forgets.

A set-up writes over everything that the engine holds, save one thing: the inventory of the last
good report.  Nothing of what it writes over is read before, so an engine with any past does at a
set-up what a new one does that searches the same directories, and if the first try gives an
inventory, the two engines are the same afterwards.  The past is then without any consequence, even
if it has left the circuit open.

The inventory takes no part in a call for discovery but to be replaced, which is the reason for all
of this: `discover_of_inventory` says so, and `setUp_eq_renewed` is that for the call that a set-up
makes.
-/

namespace GpuInventory
namespace Engine

/-! ## Engines that differ in their inventory -/

/-- The engine as if nothing had ever happened to it. -/
def renewed (engine : Engine) : Engine :=
  { search := engine.search }

/-- A call for discovery is the same whatever the inventory is, which it replaces or keeps. -/
theorem discover_of_inventory (engine : Engine) (inventory : Option Inventory)
    (machine : Command.Machine) :
    ({ engine with inventory } : Engine).discover machine =
      { engine.discover machine with
        state :=
          { (engine.discover machine).state with
            inventory := (engine.discover machine).value.toOption.or inventory } } := by
  obtain ⟨search, discovery, path, environment, failures, old⟩ := engine
  unfold discover
  cases discovery with
  | none => rfl
  | some discovery =>
    cases path with
    | none => rfl
    | some path =>
      dsimp only
      split
      · rfl
      · unfold runTool
        dsimp only
        split
        · rfl
        · split <;> rfl

theorem inventory_discover_renewed (engine : Engine) (machine : Command.Machine)
    (h : engine.inventory = none) :
    (engine.discover machine).state.inventory = (engine.discover machine).value.toOption := by
  have hsame : ({ engine with inventory := none } : Engine) = engine := by rw [← h]
  have hstate := congrArg (fun done => done.state.inventory)
    (engine.discover_of_inventory none machine)
  dsimp only at hstate
  rw [hsame, Option.or_none] at hstate
  exact hstate

/-- A set-up leaves nothing of the past but the inventory, and that only if the first try gives no
other. -/
theorem setUp_eq_renewed (engine : Engine) (discovery : Discovery) (place : Place)
    (machine : Command.Machine) :
    engine.setUp discovery place machine =
      { engine.renewed.setUp discovery place machine with
        state :=
          { (engine.renewed.setUp discovery place machine).state with
            inventory :=
              (engine.renewed.setUp discovery place machine).state.inventory.or
                engine.inventory } } := by
  have hdiscover := discover_of_inventory (engine.renewed.configure discovery place).value
    engine.inventory machine
  have hinventory := inventory_discover_renewed (engine.renewed.configure discovery place).value
    machine rfl
  have hconfigured : (engine.configure discovery place).value =
      { (engine.renewed.configure discovery place).value with
        inventory := engine.inventory } := rfl
  -- Discovery is called for on the configured engine, of which nothing is old but the inventory.
  unfold setUp
  dsimp only
  rw [hconfigured, hdiscover, hinventory]
  rfl

theorem mem_runEvents_discover_iff (engine : Engine) (machine : Command.Machine)
    (inventory : Inventory) :
    Session.Event.ran (.ok inventory) ∈
        Session.runEvents machine (engine.discover machine).runs ↔
      (engine.discover machine).value = .ok inventory := by
  by_cases h : engine.IsReady
  · obtain ⟨path, -, he⟩ := discover_of_isReady h machine
    rw [he, runTool_runs, runTool_value, Session.runEvents, List.map_singleton,
      List.mem_singleton, Session.Event.ran.injEq]
    exact eq_comm
  · obtain ⟨hvalue, -, hruns⟩ := discover_of_not_isReady h machine
    simp [hvalue, hruns, Session.runEvents]

/-- The first try of a set-up gives an inventory exactly if a new engine would have it then. -/
theorem mem_runEvents_setUp_iff (engine : Engine) (discovery : Discovery) (place : Place)
    (machine : Command.Machine) (inventory : Inventory) :
    Session.Event.ran (.ok inventory) ∈
        Session.runEvents machine (engine.setUp discovery place machine).runs ↔
      (engine.renewed.setUp discovery place machine).state.inventory = some inventory := by
  have hinventory : (engine.renewed.setUp discovery place machine).state.inventory = _ :=
    inventory_discover_renewed (engine.renewed.configure discovery place).value machine rfl
  rw [setUp_eq_renewed, hinventory]
  show _ ∈ Session.runEvents machine
    ((engine.renewed.configure discovery place).value.discover machine).runs ↔ _
  rw [mem_runEvents_discover_iff]
  cases ((engine.renewed.configure discovery place).value.discover machine).value <;>
    simp [Except.toOption]

end Engine

namespace Session

/-! ## Two sessions that are set up

One of them may have any past, the other has a new engine; both are in the same world. -/

section Renewed

variable {s t : Session} (hengine : t.engine = s.engine.renewed)
  (hown : t.monitor.discovery = s.monitor.discovery) (hworld : t.world = s.world)
  (settings : Option Discovery)
include hengine hown hworld

theorem step_setUpEngine_renewed :
    let again := s.step (.setUpEngine settings)
    let first := t.step (.setUpEngine settings)
    (again.value = first.value ∧ again.runs = first.runs ∧ again.entries = first.entries) ∧
      again.state.engine =
        { first.state.engine with
          inventory := first.state.engine.inventory.or s.engine.inventory } := by
  intro again first
  have hdone := s.engine.setUp_eq_renewed (settings.getD s.monitor.discovery) s.world.place
    s.world.machine
  rw [← hengine, ← hown, ← hworld] at hdone
  have hagain : again = s.step (.setUpEngine settings) := rfl
  simp only [step, ← hown, ← hworld] at hagain
  rw [show s.monitor.engine = s.engine from rfl, hdone] at hagain
  rw [hagain]
  exact ⟨⟨rfl, rfl, rfl⟩, rfl⟩

theorem mem_events_setUpEngine_iff (inventory : Inventory) :
    Event.ran (.ok inventory) ∈ s.events (.setUpEngine settings) ↔
      (t.step (.setUpEngine settings)).state.engine.inventory = some inventory := by
  have hran := s.engine.mem_runEvents_setUp_iff (settings.getD s.monitor.discovery) s.world.place
    s.world.machine inventory
  rw [← hengine, ← hown, ← hworld] at hran
  refine Iff.trans ?_ hran
  rw [hworld, hown]
  exact List.mem_cons.trans (or_iff_right (by simp))

end Renewed

/-- A session that is begun where another one has got to has the engine of that one, renewed. -/
theorem fresh_renewed (world : World) (discovery : Discovery) (search : Locator.Search)
    (metrics kept : Option Metrics) (traced spied : Bool) (actions : List Action) :
    let reached := (fresh world discovery search metrics traced).after actions
    let anew := fresh reached.world discovery search kept spied
    anew.engine = reached.engine.renewed ∧
      anew.monitor.discovery = reached.monitor.discovery := by
  intro reached anew
  refine ⟨?_, (after_own (fresh world discovery search metrics traced) actions).symm⟩
  rw [Engine.renewed, after_search]
  rfl

/-- A set-up does not depend on the past of the engine, and leaves nothing of it but the inventory.

The session may have reached any state, with an open circuit for instance; beside it stands one that
begins in the same world, with an engine that searches the same directories.  Both are set up with
the same settings.  The answers, the processes and the log agree, and so do the engines afterwards,
but for the inventory: it may be another one only if the tool has given none now, and then it is the
one from before.  If the tool has given one, the two sessions show the same at whatever follows. -/
theorem set_up_forgets_all_but_inventory (world : World) (discovery : Discovery)
    (search : Locator.Search) (metrics kept : Option Metrics) (traced spied : Bool)
    (actions : List Action) (settings : Option Discovery) :
    let reached := (fresh world discovery search metrics traced).after actions
    let anew := fresh reached.world discovery search kept spied
    let again := reached.step (.setUpEngine settings)
    let first := anew.step (.setUpEngine settings)
    (again.value = first.value ∧ again.runs = first.runs ∧ again.entries = first.entries) ∧
      (again.state.engine.discovery = first.state.engine.discovery ∧
        again.state.engine.path = first.state.engine.path ∧
        again.state.engine.environment = first.state.engine.environment ∧
        again.state.engine.failures = first.state.engine.failures) ∧
      (again.state.engine.inventory ≠ first.state.engine.inventory →
        (∀ inventory, Event.ran (.ok inventory) ∉ reached.events (.setUpEngine settings)) ∧
          again.state.engine.inventory = reached.engine.inventory) ∧
      ((∃ inventory, Event.ran (.ok inventory) ∈ reached.events (.setUpEngine settings)) →
        again.state.engine = first.state.engine ∧
          ∀ later : List Action, List.Forall₂ ShowAlike (later.zip (again.state.run later))
            (later.zip (first.state.run later))) := by
  intro reached anew again first
  obtain ⟨hrenewed, hown⟩ :=
    fresh_renewed world discovery search metrics kept traced spied actions
  obtain ⟨htold, hengine⟩ := step_setUpEngine_renewed hrenewed hown rfl settings
  have hran := mem_events_setUpEngine_iff hrenewed hown rfl settings
  refine ⟨htold, ?_, fun hdiffers => ?_, fun ⟨inventory, hmem⟩ => ?_⟩
  · rw [hengine]
    exact ⟨rfl, rfl, rfl, rfl⟩
  · rw [hengine] at hdiffers ⊢
    cases hinventory : first.state.engine.inventory with
    | none =>
      refine ⟨fun inventory hmem => ?_, rfl⟩
      rw [hran, hinventory] at hmem
      cases hmem
    | some inventory =>
      rw [hinventory] at hdiffers
      exact absurd rfl hdiffers
  · -- the inventory is new as well, and with the same engine nothing can be told apart any more
    have hsame : again.state.engine = first.state.engine := by
      have hfound : first.state.engine.inventory = some inventory := (hran inventory).mp hmem
      rw [hengine, hfound, Option.some_or, ← hfound]
    have halike : again.state.Alike first.state :=
      ⟨⟨(step_own _ _).trans (hown.trans (step_own _ _).symm), hsame.symm⟩, rfl, rfl⟩
    exact ⟨hsame, fun later => run_alike halike (List.forall₂_same.mpr fun a _ => .same a)⟩

/-- Ten timeouts have opened the circuit, and then the tool is repaired: the next set-up gives an
inventory, and an engine like one that was never broken. -/
theorem set_up_closes_open_circuit :
    let place : Place := .ofPaths "/" ["/usr/bin/nvidia-smi"] []
    let machine : Command.Machine := { outcome := .timedOut, inherited := {} }
    let repair := Action.setOutcome (.exited 0 "<nvidia_smi_log/>".toUTF8.toList []) 0.0
    let actions := .setUpEngine none :: List.replicate 9 .discover ++ [repair]
    let reached := (fresh { place, machine } {} {} none false).after actions
    let anew := fresh reached.world {} {} none false
    reached.engine.failures = maxFailures ∧
      (∃ inventory, Event.ran (.ok inventory) ∈ reached.events (.setUpEngine none)) ∧
      (reached.step (.setUpEngine none)).state.engine =
        (anew.step (.setUpEngine none)).state.engine := by
  intro place machine repair actions reached anew
  have hfound : (anew.step (.setUpEngine none)).state.engine.inventory.isSome = true := by
    decide +kernel
  obtain ⟨inventory, hinventory⟩ := Option.isSome_iff_exists.mp hfound
  have hran : Event.ran (.ok inventory) ∈ reached.events (.setUpEngine none) := by
    obtain ⟨hrenewed, hown⟩ := fresh_renewed { place, machine } {} {} none none false false actions
    exact (mem_events_setUpEngine_iff hrenewed hown rfl none inventory).mpr hinventory
  obtain ⟨-, -, -, hagain⟩ := set_up_forgets_all_but_inventory { place, machine } {} {} none none
    false false actions none
  exact ⟨by decide +kernel, ⟨inventory, hran⟩, (hagain ⟨inventory, hran⟩).1⟩

end Session
end GpuInventory
