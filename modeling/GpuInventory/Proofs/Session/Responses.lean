import GpuInventory.Proofs.Http.Body
import GpuInventory.Proofs.Session.Outcomes
import GpuInventory.Proofs.Session.UsableDevices

/-!
What is answered over HTTP, as a function of the history.

An answer with a value is read from the client's side, with the readers of `Http`; the others are
told apart by their status.  Which answer it is follows from the history and from the settings of
the last set-up: the inventory and the account of the engine are right by `Accords`, its settings by
`discovery_of_fresh`.

The service breaks down, with status 500, only over a failure that callers do not reckon with, and
over a text that it would tell and that cannot be encoded.  There are two failures of that kind, a
refused command and an overlong number in an allow list.  A session that has neither breaks down
over texts alone, whatever is requested of it.  The texts are those of the operator and the system:
what the tool has written is decoded, and allow lists are quoted in messages, so that `Http.given`
names all that matter.
-/

namespace GpuInventory

namespace Http

namespace Response

/-- Whether an answer tells an inventory: a client can read it. -/
def Tells (response : Response) (inventory : Inventory) : Prop :=
  response.status = 200 ∧
    ∃ value, response.body = .json value ∧ readInventory? value = some inventory.finite

/-- Whether an answer tells some devices. -/
def TellsDevices (response : Response) (devices : List Device) : Prop :=
  response.status = 200 ∧ ∃ value, response.body = .json value ∧ readDevices? value = some devices

/-- Whether an answer is one that the service means to give. -/
def IsProper (response : Response) : Prop :=
  response.status ≠ 500 ∧ response.raised = none

/-- Whether an answer is proper as far as the texts that it tells can be encoded. -/
structure IsProperUnless (response : Response) (given : List String) : Prop where
  raised : response.raised = none
  status : response.status = 500 ↔ Text.areEncodable given = false

theorem IsProperUnless.isProper {response : Response} (h : response.IsProperUnless []) :
    response.IsProper :=
  ⟨fun hstatus => absurd (h.status.mp hstatus) (by decide), h.raised⟩

end Response

/-- The texts that a failure tells as they were given, if there is one. -/
def givenBy {α : Type} : Except Failure α → List String
  | .ok _ => []
  | .error failure => failure.given

/-- The texts that a resource tells as they were given: those of the status, the labels of the
metrics and those of the failure that a call for discovery ends in. -/
def Resource.given (r : Resource) (monitor : Monitor) (world : World) : List String :=
  match r with
  | .health => monitor.status.given
  | .metrics => (monitor.metrics.map Metrics.given).getD []
  | .discovery => givenBy (monitor.engine.discover world.machine).value
  | _ => []

/-- The texts that a request is answered with as they were given. -/
def given (request : Request) (monitor : Monitor) (world : World) : List String :=
  match Resource.at? monitor request.path.toList with
  | some resource =>
    if resource.methods.contains request.method then resource.given monitor world else []
  | none => []

theorem tells_answer (inventory : Inventory) : (answer (inventoryBody inventory)).Tells inventory :=
  ⟨rfl, _, rfl, readInventory?_inventoryBody inventory⟩

theorem tellsDevices_answer (devices : List Device) :
    (answer (.array (devices.map deviceBody))).TellsDevices devices :=
  ⟨rfl, _, rfl, readDevices?_deviceBodies devices⟩

theorem discoveryResponse_of_isExpected {failure : Failure} (h : failure.isExpected = true) :
    discoveryResponse (.error failure) = refusal 503 failure.message failure.given :=
  if_pos h

theorem refusal_of_areEncodable {given : List String} (h : Text.areEncodable given = true)
    (status : Nat) (detail : String) : refusal status detail given = refusal status detail :=
  encoded_of_areEncodable h status _

/-! ## Proper answers -/

theorem isProperUnless_encoded {status : Nat} (h : status ≠ 500) (value : Json)
    (given : List String) : (encoded status value given).IsProperUnless given := by
  cases hgiven : Text.areEncodable given with
  | true =>
    rw [encoded_of_areEncodable hgiven]
    exact ⟨rfl, iff_of_false h (by rw [hgiven]; decide)⟩
  | false =>
    rw [encoded_of_not_areEncodable hgiven]
    exact ⟨rfl, iff_of_true rfl hgiven⟩

theorem isProperUnless_nil {response : Response} (h : response.IsProper) :
    response.IsProperUnless [] :=
  ⟨h.2, iff_of_false h.1 (by decide)⟩

theorem isProperUnless_discoveryResponse {result : Except Failure Inventory}
    (h : ∀ failure, result = .error failure → failure.isExpected = true) :
    (discoveryResponse result).IsProperUnless (givenBy result) := by
  cases result with
  | ok inventory => exact isProperUnless_encoded (by decide) _ []
  | error failure =>
    rw [discoveryResponse_of_isExpected (h failure rfl)]
    exact isProperUnless_encoded (by decide) _ failure.given

theorem isProperUnless_usableResponse {result : Except Failure (List Device)}
    (h : ∀ failure, result = .error failure → failure.isExpected = true) :
    (usableResponse result).IsProperUnless (givenBy result) := by
  cases result with
  | ok devices => exact isProperUnless_encoded (by decide) _ []
  | error failure =>
    unfold usableResponse
    dsimp only
    rw [h failure rfl, if_neg (by decide)]
    split
    · exact isProperUnless_encoded (by decide) _ _
    · exact isProperUnless_encoded (by decide) _ _

theorem isProperUnless_metricsResponse (metrics : Option Metrics) :
    (metricsResponse metrics).IsProperUnless ((metrics.map Metrics.given).getD []) := by
  cases metrics with
  | none => exact isProperUnless_nil ⟨by show (200 : Nat) ≠ 500; decide, rfl⟩
  | some m =>
    show (if Text.areEncodable m.given = true then _ else _ : Response).IsProperUnless m.given
    cases hgiven : Text.areEncodable m.given with
    | true => exact ⟨rfl, iff_of_false (by show (200 : Nat) ≠ 500; decide) (by rw [hgiven]; decide)⟩
    | false => exact ⟨rfl, iff_of_true rfl hgiven⟩

/-- What the engine fails with over usable devices is told in texts of its own. -/
theorem givenBy_usableDevices (engine : Engine) : givenBy engine.usableDevices.value = [] := by
  cases hd : engine.discovery with
  | none => rw [Engine.usableDevices_of_not_initialized hd]; rfl
  | some discovery =>
    by_cases ha : discovery.allowedDevices = automatic
    · rw [Engine.usableDevices_of_automatic hd ha]
      cases engine.inventory <;> rfl
    · rw [Engine.usableDevices_of_list hd ha]
      cases AllowList.parse discovery.allowedDevices <;> rfl

theorem isProper_usableResponse {engine : Engine}
    (h : ∀ failure, engine.usableDevices.value = .error failure → failure.isExpected = true) :
    (usableResponse engine.usableDevices.value).IsProper := by
  have hproper := isProperUnless_usableResponse h
  rw [givenBy_usableDevices] at hproper
  exact hproper.isProper

section Serve

variable {monitor : Monitor} {world : World}
  (hdiscover : ∀ failure, (monitor.engine.discover world.machine).value = .error failure →
    failure.isExpected = true)
  (husable : ∀ failure, monitor.engine.usableDevices.value = .error failure →
    failure.isExpected = true)
include hdiscover husable

theorem Resource.isProperUnless_serve (r : Resource) :
    (r.serve monitor world).value.IsProperUnless (r.given monitor world) := by
  cases r with
  | description => exact isProperUnless_encoded (by decide) _ []
  | health => exact isProperUnless_encoded (by decide) _ _
  | inventory =>
    show (inventoryResponse monitor.inventory).IsProperUnless []
    cases monitor.inventory with
    | none => exact isProperUnless_encoded (by decide) _ []
    | some inventory => exact isProperUnless_encoded (by decide) _ []
  | discovery =>
    show (discoveryResponse (monitor.refresh world).value).IsProperUnless _
    rw [Monitor.refresh_value]
    exact isProperUnless_discoveryResponse hdiscover
  | usable =>
    show (usableResponse monitor.usableDevices.value).IsProperUnless []
    rw [Monitor.usableDevices_value]
    exact isProperUnless_nil (isProper_usableResponse husable)
  | metrics => exact isProperUnless_metricsResponse monitor.metrics
  | _ => exact isProperUnless_nil ⟨by show (200 : Nat) ≠ 500; decide, rfl⟩

/-- Whatever is requested, a text that cannot be encoded is the only reason for an answer that is
not proper. -/
theorem isProperUnless_serve (request : Request) :
    (serve request monitor world).value.IsProperUnless (given request monitor world) := by
  have hrefused : ∀ (status : Nat) (detail : String), status ≠ 500 →
      (refusal status detail).IsProperUnless [] := fun status detail h =>
    isProperUnless_encoded h _ []
  unfold serve given
  dsimp only
  cases Resource.at? monitor request.path.toList with
  | some resource =>
    dsimp only
    cases resource.methods.contains request.method with
    | true => exact resource.isProperUnless_serve hdiscover husable
    | false => exact hrefused 405 _ (by decide)
  | none =>
    dsimp only
    split
    · exact isProperUnless_nil ⟨by show (307 : Nat) ≠ 500; decide, rfl⟩
    · exact hrefused 404 _ (by decide)

end Serve

/-! ## Usable devices -/

/-- The status of an answer on usable devices tells which of the three ways the engine went. -/
theorem usableResponse_status {engine : Engine}
    (h : ∀ failure, engine.usableDevices.value = .error failure → failure.isExpected = true) :
    ((usableResponse engine.usableDevices.value).status = 400 ↔
        ∃ discovery fault, engine.discovery = some discovery ∧
          discovery.allowedDevices ≠ automatic ∧
          AllowList.parse discovery.allowedDevices = .error fault) ∧
      ((usableResponse engine.usableDevices.value).status = 503 ↔
        engine.discovery = none ∨
          ∃ discovery, engine.discovery = some discovery ∧
            discovery.allowedDevices = automatic ∧ engine.inventory = none) := by
  cases hd : engine.discovery with
  | none =>
    rw [Engine.usableDevices_of_not_initialized hd]
    simp [usableResponse, refusal, Failure.isExpected, Failure.given]
  | some discovery =>
    by_cases ha : discovery.allowedDevices = automatic
    · rw [Engine.usableDevices_of_automatic hd ha]
      cases engine.inventory with
      | none => simp [usableResponse, refusal, Failure.isExpected, Failure.given, ha]
      | some inventory => simp [usableResponse, answer, ha]
    · rw [Engine.usableDevices_of_list hd ha] at h ⊢
      cases hp : AllowList.parse discovery.allowedDevices with
      | ok devices =>
        show ((usableResponse (.ok devices)).status = 400 ↔ _) ∧
          ((usableResponse (.ok devices)).status = 503 ↔ _)
        simp [usableResponse, answer, ha, hp]
      | error fault =>
        rw [hp] at h
        have hx : (Failure.allowList fault).isExpected = true := h _ rfl
        show ((usableResponse (.error (.allowList fault))).status = 400 ↔ _) ∧
          ((usableResponse (.error (.allowList fault))).status = 503 ↔ _)
        simp [usableResponse, refusal, Failure.given, hx, ha, hp]

theorem exists_devices_of_usableResponse {result : Except Failure (List Device)}
    (h : ∀ failure, result = .error failure → failure.isExpected = true)
    (hgiven : givenBy result = []) (hlist : (usableResponse result).status ≠ 400)
    (hother : (usableResponse result).status ≠ 503) :
    ∃ devices, result = .ok devices ∧ (usableResponse result).TellsDevices devices := by
  cases result with
  | ok devices => exact ⟨devices, rfl, tellsDevices_answer devices⟩
  | error failure =>
    unfold usableResponse at hlist hother
    dsimp only at hlist hother
    have hgiven : failure.given = [] := hgiven
    rw [h failure rfl, if_neg (by decide), hgiven] at hlist hother
    cases failure with
    | allowList fault => exact absurd rfl hlist
    | _ => exact absurd rfl hother

/-! ## What the answers are made of -/

section Serve

variable {request : Request} (monitor : Monitor) (world : World)

theorem serve_value_of_asksFor_inventory (h : request.asksFor .inventory = true) :
    (serve request monitor world).value = inventoryResponse monitor.engine.inventory := by
  rw [serve_of_asksFor (by decide) h]
  rfl

theorem serve_value_of_asksFor_discovery (h : request.asksFor .discovery = true) :
    (serve request monitor world).value =
      discoveryResponse (monitor.engine.discover world.machine).value := by
  rw [serve_of_asksFor (by decide) h, ← Monitor.refresh_value]
  rfl

theorem serve_value_of_asksFor_usable (h : request.asksFor .usable = true) :
    (serve request monitor world).value = usableResponse monitor.engine.usableDevices.value := by
  rw [serve_of_asksFor (by decide) h, ← Monitor.usableDevices_value]
  rfl

end Serve

end Http

namespace Session

/-! ## The three questions -/

section Questions

variable {session : Session} {history : List Event} {request : Http.Request}

theorem inventory_response (haccords : Accords session.engine history)
    (hasks : request.asksFor .inventory = true) :
    let response := (Http.serve request session.monitor session.world).value
    ((∃ inventory, Event.ran (.ok inventory) ∈ history) →
        ∃ inventory, latestInventory history = some inventory ∧ response.Tells inventory) ∧
      ((∀ inventory, Event.ran (.ok inventory) ∉ history) → response.status = 404) := by
  intro response
  have hresponse : response = Http.inventoryResponse session.engine.inventory :=
    Http.serve_value_of_asksFor_inventory session.monitor session.world hasks
  rw [hresponse, haccords.inventory, ← latestInventory_eq_none_iff]
  refine ⟨fun ⟨inventory, hran⟩ => ?_, fun hnone => ?_⟩
  · cases hlatest : latestInventory history with
    | none => exact absurd hran ((latestInventory_eq_none_iff history).mp hlatest inventory)
    | some latest => exact ⟨latest, rfl, Http.tells_answer latest⟩
  · rw [hnone]
    rfl

theorem discovery_response
    (hexpected : ∀ failure,
      (session.engine.discover session.world.machine).value = .error failure →
        failure.isExpected = true)
    (hasks : request.asksFor .discovery = true) :
    let response := (Http.serve request session.monitor session.world).value
    (∀ inventory, session.events (.request request) = [.ran (.ok inventory)] →
        response.Tells inventory) ∧
      ((∀ inventory, session.events (.request request) ≠ [.ran (.ok inventory)]) →
        ∃ failure, (session.step .refresh).value = .failed failure ∧
          (Text.areEncodable failure.given = true →
            response = Http.refusal 503 failure.message)) := by
  intro response
  have hdiscovery : (Action.request request).isDiscovery = true := hasks
  have hresponse : response =
      Http.discoveryResponse (session.engine.discover session.world.machine).value :=
    Http.serve_value_of_asksFor_discovery session.monitor session.world hasks
  rw [hresponse]
  simp only [ne_eq, events_eq_ran_ok_iff hdiscovery]
  cases hvalue : (session.engine.discover session.world.machine).value with
  | ok inventory =>
    refine ⟨fun other hother => ?_, fun hnone => absurd rfl (hnone inventory)⟩
    cases hother
    exact Http.tells_answer inventory
  | error failure =>
    refine ⟨fun other hother => ?_, fun _ => ⟨failure, ?_, ?_⟩⟩
    · cases hother
    · rw [step_value_of_isDiscovery rfl, hvalue]
      rfl
    · intro hgiven
      rw [Http.discoveryResponse_of_isExpected (hexpected failure hvalue),
        Http.refusal_of_areEncodable hgiven]

theorem usable_response (haccords : Accords session.engine history)
    (hexpected : ∀ failure, session.engine.usableDevices.value = .error failure →
      failure.isExpected = true)
    (hasks : request.asksFor .usable = true) :
    let response := (Http.serve request session.monitor session.world).value
    (response.status = 400 ↔
        ∃ settings fault, session.engine.discovery = some settings ∧
          settings.allowedDevices ≠ automatic ∧
          AllowList.parse settings.allowedDevices = .error fault) ∧
      (response.status = 503 ↔
        session.engine.discovery = none ∨
          ∃ settings, session.engine.discovery = some settings ∧
            settings.allowedDevices = automatic ∧
            ∀ inventory, Event.ran (.ok inventory) ∉ history) ∧
      (response.status ≠ 400 → response.status ≠ 503 →
        ∃ devices, (session.step .monitoredDevices).value = .devices devices ∧
          response.TellsDevices devices) := by
  intro response
  have hresponse : response = Http.usableResponse session.engine.usableDevices.value :=
    Http.serve_value_of_asksFor_usable session.monitor session.world hasks
  obtain ⟨hrejected, hunknown⟩ := Http.usableResponse_status hexpected
  rw [haccords.inventory] at hunknown
  simp only [latestInventory_eq_none_iff] at hunknown
  rw [hresponse]
  refine ⟨hrejected, hunknown, fun hlist hother => ?_⟩
  obtain ⟨devices, hvalue, htells⟩ := Http.exists_devices_of_usableResponse hexpected
    (Http.givenBy_usableDevices session.engine) hlist hother
  refine ⟨devices, ?_, htells⟩
  rw [(step_of_asksDevices rfl session).1, hvalue]
  rfl

end Questions

/-- The answers over HTTP, in every state that a session without refused commands and overlong
numbers can reach.

The question for the last inventory is answered with that of the last run that gave one, and with
404 as long as none has.  A call for discovery is answered with the inventory of its own run, and
otherwise with 503 and the message that the monitor tells for the same call, if its texts can be
encoded.  The question for usable devices is answered with 400 if the engine was set up with an
allow list that is rejected, with 503 if it was not set up, or without a list and no run has ever
given an inventory, and otherwise with the devices that the monitor tells.  A request is answered
with 500 exactly if a text that its answer would tell as it was given cannot be encoded. -/
theorem responses_follow_history (world : World) (discovery : Discovery) (search : Locator.Search)
    (metrics : Option Metrics) (traced : Bool) (actions : List Action)
    (houtcomes : ∀ outcome ∈ outcomes world actions, ∀ reason, outcome ≠ .refused reason)
    (hlists : ∀ settings ∈ actions.filterMap (Action.settings? discovery),
      ¬ AllowList.HoldsOverlong settings.allowedDevices.toList) (request : Http.Request) :
    let session := fresh world discovery search metrics traced
    let reached := session.after actions
    let history := session.history actions
    ∃ response, (reached.step (.request request)).value = .response response ∧
      response.raised = none ∧
      (response.status = 500 ↔
        Text.areEncodable (Http.given request reached.monitor reached.world) = false) ∧
      (request.asksFor .inventory = true →
        ((∃ inventory, Event.ran (.ok inventory) ∈ history) →
          ∃ inventory, latestInventory history = some inventory ∧ response.Tells inventory) ∧
        ((∀ inventory, Event.ran (.ok inventory) ∉ history) → response.status = 404)) ∧
      (request.asksFor .discovery = true →
        (∀ inventory, reached.events (.request request) = [.ran (.ok inventory)] →
          response.Tells inventory) ∧
        ((∀ inventory, reached.events (.request request) ≠ [.ran (.ok inventory)]) →
          ∃ failure, (reached.step .refresh).value = .failed failure ∧
            (Text.areEncodable failure.given = true →
              response = Http.refusal 503 failure.message))) ∧
      (request.asksFor .usable = true →
        (response.status = 400 ↔
          ∃ settings fault, latestSettings discovery actions = some settings ∧
            settings.allowedDevices ≠ automatic ∧
            AllowList.parse settings.allowedDevices = .error fault) ∧
        (response.status = 503 ↔
          latestSettings discovery actions = none ∨
            ∃ settings, latestSettings discovery actions = some settings ∧
              settings.allowedDevices = automatic ∧
              ∀ inventory, Event.ran (.ok inventory) ∉ history) ∧
        (response.status ≠ 400 → response.status ≠ 503 →
          ∃ devices, (reached.step .monitoredDevices).value = .devices devices ∧
            response.TellsDevices devices)) := by
  intro session reached history
  have haccords : Accords reached.engine history :=
    accords_fresh world discovery search metrics traced actions
  have hsettings : reached.engine.discovery = latestSettings discovery actions :=
    discovery_of_fresh world discovery search metrics traced actions
  have hdiscover : ∀ failure,
      (reached.engine.discover reached.world.machine).value = .error failure →
        failure.isExpected = true :=
    (reached.engine.discover_isExpected_iff reached.world.machine).mpr
      (.inr (session.not_refuses_after houtcomes))
  have husable : ∀ failure, reached.engine.usableDevices.value = .error failure →
      failure.isExpected = true := fun failure =>
    Engine.usableDevices_isExpected fun settings hs =>
      hlists settings (mem_of_latestSettings (hsettings.symm.trans hs))
  have hproper := Http.isProperUnless_serve hdiscover husable request
  refine ⟨(Http.serve request reached.monitor reached.world).value, rfl, hproper.raised,
    hproper.status, inventory_response haccords, discovery_response hdiscover, fun hasks => ?_⟩
  have husableResponse := usable_response haccords husable hasks
  rw [hsettings] at husableResponse
  exact husableResponse

/-- With an allow list the usable devices are told although the tool has never answered, and no
inventory is. -/
theorem devices_answered_without_inventory :
    let place : Place := .ofPaths "/" ["/usr/bin/nvidia-smi"] []
    let machine : Command.Machine := { outcome := .timedOut, inherited := {} }
    let reached := (fresh { place, machine } { allowedDevices := "1:5" } {} none false).after
      [.setUpMonitor]
    (∃ response, (reached.step (.request { path := "/gpus/usable" })).value = .response response ∧
        response.TellsDevices [⟨1, 5⟩]) ∧
      ∃ response, (reached.step (.request { path := "/gpus" })).value = .response response ∧
        response.status = 404 := by
  intro place machine reached
  have houtcomes : ∀ outcome ∈ outcomes { place, machine } [.setUpMonitor], ∀ reason,
      outcome ≠ .refused reason :=
    ne_refused_of_outcomes_eq rfl
  have hlists : ∀ settings ∈ [Action.setUpMonitor].filterMap
      (Action.settings? { allowedDevices := "1:5" }),
        ¬ AllowList.HoldsOverlong settings.allowedDevices.toList := by
    intro settings hs
    rw [List.mem_singleton.mp hs]
    exact AllowList.not_holdsOverlong_of_length_le (by decide)
  have hanswers := responses_follow_history { place, machine } { allowedDevices := "1:5" } {} none
    false [.setUpMonitor] houtcomes hlists
  refine ⟨?_, ?_⟩
  · have hparse : AllowList.parse "1:5" = .ok [⟨1, 5⟩] := rfl
    have hlatest : latestSettings { allowedDevices := "1:5" } [.setUpMonitor] =
      some { allowedDevices := "1:5" } := rfl
    obtain ⟨response, hvalue, -, -, -, -, husable⟩ := hanswers { path := "/gpus/usable" }
    obtain ⟨hrejected, hunknown, hdevices⟩ := husable (by decide)
    have hlist : response.status ≠ 400 := by
      rw [Ne, hrejected]
      rintro ⟨settings, fault, hs, -, hfault⟩
      cases hlatest.symm.trans hs
      cases hparse.symm.trans hfault
    have hknown : response.status ≠ 503 := by
      rw [Ne, hunknown]
      rintro (hnone | ⟨settings, hs, hautomatic, -⟩)
      · cases hlatest.symm.trans hnone
      · cases hlatest.symm.trans hs
        exact absurd hautomatic (by decide)
    obtain ⟨devices, htold, htells⟩ := hdevices hlist hknown
    have hfound : reached.engine.usableDevices.value = .ok [⟨1, 5⟩] := by
      have hsettings := discovery_of_fresh { place, machine } { allowedDevices := "1:5" } {} none
        false [.setUpMonitor]
      rw [Engine.usableDevices_of_list (hsettings.trans hlatest) (by decide), hparse]
      rfl
    rw [(step_of_asksDevices rfl _).1, hfound] at htold
    cases htold
    exact ⟨response, hvalue, htells⟩
  · obtain ⟨response, hvalue, -, -, hinventory, -⟩ := hanswers { path := "/gpus" }
    refine ⟨response, hvalue, (hinventory (by decide)).2 ?_⟩
    rw [← latestInventory_eq_none_iff, ← Option.isNone_iff_eq_none]
    decide +kernel

/-- With half of a surrogate pair in the path of the tool, a failure that callers reckon with is
told past HTTP, and over HTTP the service breaks down. -/
theorem surrogate_in_path_breaks_answer :
    let path := "/opt/" ++ String.ofList [Text.standIn 0xDCFF]
    let place : Place := .ofPaths "/" [path] []
    let machine : Command.Machine := { outcome := .timedOut, inherited := {} }
    let reached := (fresh { place, machine } { path } {} none false).after [.setUpMonitor]
    (∃ failure, (reached.step .refresh).value = .failed failure ∧ failure.isExpected = true) ∧
      ∃ response,
        (reached.step (.request { method := "POST", path := "/gpus/discover" })).value =
            .response response ∧
          response.status = 500 := by
  intro path place machine reached
  have hpath : reached.engine.path = some path := by decide +kernel
  have hready : reached.engine.IsReady :=
    ⟨by decide +kernel, by rw [hpath]; rfl, by decide +kernel⟩
  have hvalue : (reached.engine.discover reached.world.machine).value =
      .error (.command (.timedOut path Engine.timeout)) := by
    obtain ⟨found, hfound, he⟩ := Engine.discover_of_isReady hready reached.world.machine
    cases hpath.symm.trans hfound
    rw [he, Engine.runTool_value]
    rfl
  have hasks : Http.Request.asksFor { method := "POST", path := "/gpus/discover" } .discovery =
      true := by decide
  refine ⟨⟨.command (.timedOut path Engine.timeout), ?_, rfl⟩, _, rfl, ?_⟩
  · rw [step_value_of_isDiscovery rfl, hvalue]
    rfl
  · rw [Http.serve_value_of_asksFor_discovery _ _ hasks]
    show (Http.discoveryResponse (reached.engine.discover reached.world.machine).value).status = 500
    rw [hvalue, Http.discoveryResponse_of_isExpected rfl, Http.refusal,
      Http.encoded_of_not_areEncodable (by decide +kernel)]
    rfl

end Session
end GpuInventory
