import GpuInventory.Proofs.Engine.Usable
import GpuInventory.Proofs.Session.Settings

/-!
The usable devices over the history of a session.

What is answered to the question for usable devices is settled by two things that can be told from
outside: the settings of the last set-up and the last inventory that the tool has given.  Of the
second nothing matters if the settings hold an allow list.  That the engine has both right is
`discovery_of_fresh` and `Accords`; here they are put together.

The question is asked of the engine or of the monitor.  The answer is the same, and neither asks
anything of the tool or leaves anything behind in the engine.
-/

namespace GpuInventory

theorem Inventory.getElem?_devices (inventory : Inventory) (k : Nat) :
    inventory.devices[k]? = inventory.gpus[k]?.map fun g => ⟨k, g.minorNumber⟩ := by
  have h := getElem?_devicesFrom 0 inventory.gpus k
  rwa [Nat.zero_add] at h

namespace Session

/-- Whether an action asks for the usable devices, of the engine or of the monitor. -/
def Action.asksDevices : Action → Bool
  | .usableDevices | .monitoredDevices => true
  | _ => false

theorem step_of_asksDevices {action : Action} (h : action.asksDevices = true) (session : Session) :
    (session.step action).value = .ofExcept .devices session.engine.usableDevices.value ∧
      (session.step action).runs = [] ∧ (session.step action).state.engine = session.engine := by
  cases action with
  | usableDevices => exact ⟨rfl, rfl, rfl⟩
  | monitoredDevices =>
    refine ⟨?_, session.monitor.usableDevices_engine.2, session.monitor.usableDevices_engine.1⟩
    show Answer.ofExcept .devices session.monitor.usableDevices.value = _
    rw [Monitor.usableDevices_value]
    rfl
  | _ => cases h

/-- The usable devices, in every state that a session can reach.

Before the first set-up there is no answer.  Without an allow list the devices are those of the last
inventory, numbered in its order, and there is no answer exactly if the tool has never given one;
whatever has failed since makes no difference.  With an allow list the answer is what the list
reads as, and nothing else enters into it.  Asking changes nothing and runs nothing. -/
theorem usable_devices_follow_history (world : World) (discovery : Discovery)
    (search : Locator.Search) (metrics : Option Metrics) (traced : Bool) (actions : List Action) :
    let session := fresh world discovery search metrics traced
    let reached := session.after actions
    let history := session.history actions
    let found := reached.engine.usableDevices.value
    (found = .error .notInitialized ↔ ∀ action ∈ actions, action.isSetUp = false) ∧
      (∀ settings, latestSettings discovery actions = some settings →
        settings.allowedDevices = automatic →
          (found = .error .neverDiscovered ↔ ∀ inventory, Event.ran (.ok inventory) ∉ history) ∧
          ∀ inventory, latestInventory history = some inventory →
            ∃ devices, found = .ok devices ∧ devices.length = inventory.count ∧
              ∀ k : Nat, devices[k]? = inventory.gpus[k]?.map fun g => ⟨k, g.minorNumber⟩) ∧
      (∀ settings, latestSettings discovery actions = some settings →
        settings.allowedDevices ≠ automatic →
          found = (AllowList.parse settings.allowedDevices).mapError Failure.allowList) ∧
      ∀ action, action.asksDevices = true →
        (reached.step action).value = .ofExcept .devices found ∧
          (reached.step action).runs = [] ∧ (reached.step action).state.engine = reached.engine := by
  intro session reached history found
  have hsettings : reached.engine.discovery = latestSettings discovery actions :=
    discovery_of_fresh world discovery search metrics traced actions
  have haccords : Accords reached.engine history :=
    accords_fresh world discovery search metrics traced actions
  refine ⟨?_, ?_, fun settings hs hl => Engine.usableDevices_of_list (hsettings.trans hs) hl,
    fun action ha => step_of_asksDevices ha reached⟩
  · rw [← latestSettings_eq_none_iff discovery, ← hsettings]
    exact reached.engine.usableDevices_eq_notInitialized_iff
  · intro settings hs ha
    have hfound := Engine.usableDevices_of_automatic (hsettings.trans hs) ha
    rw [haccords.inventory] at hfound
    rw [show found = _ from hfound, ← latestInventory_eq_none_iff]
    refine ⟨?_, ?_⟩
    · cases latestInventory history <;> simp
    · intro inventory hi
      rw [hi]
      exact ⟨inventory.devices, rfl, inventory.length_devices, inventory.getElem?_devices⟩

end Session
end GpuInventory
