import GpuInventory.Proofs.AllowList.Blame
import GpuInventory.Proofs.Session.Responses

/-!
Allow lists that callers do not reckon with.

What is wrong with an allow list is told as a failure of the list, and every layer knows what to do
with one: the engine passes it on, and over HTTP it is answered with 400.  One fault is different.
A number that has the form but is too long to be read fails where nobody looks for failures, and
what comes of it passes through the engine and the monitor as it is and breaks the answer.

It takes such a number and nothing else, and the reader has to get as far as the number: a list that
is malformed before it is rejected like any other.
-/

namespace GpuInventory

namespace Engine

/-- With an allow list there is one way for the question to fail that nobody reckons with. -/
theorem usableDevices_isExpected_iff_of_list {engine : Engine} {settings : Discovery}
    (h : engine.discovery = some settings) (hlist : settings.allowedDevices ≠ automatic) :
    (∀ failure, engine.usableDevices.value = .error failure → failure.isExpected = true) ↔
      ¬ AllowList.StopsAtOverlong settings.allowedDevices := by
  rw [usableDevices_of_list h hlist, ← AllowList.exists_parse_eq_overlong_iff]
  cases hp : AllowList.parse settings.allowedDevices with
  | ok devices =>
    refine ⟨fun _ ⟨digits, hlong⟩ => ?_, fun _ failure hvalue => ?_⟩
    · cases hlong
    · cases hvalue
  | error fault =>
    constructor
    · rintro hexpected ⟨digits, hlong⟩
      cases hlong
      exact absurd (hexpected _ rfl) Bool.false_ne_true
    · intro hnone failure hvalue
      cases hvalue
      cases fault with
      | overlong digits => exact absurd ⟨digits, rfl⟩ hnone
      | _ => rfl

end Engine

namespace Http

/-- With an allow list the answer is one of three. -/
theorem usableResponse_of_list {engine : Engine} {settings : Discovery}
    (h : engine.discovery = some settings) (hlist : settings.allowedDevices ≠ automatic) :
    let response := usableResponse engine.usableDevices.value
    (¬ AllowList.StopsAtOverlong settings.allowedDevices ∧ response.IsProper ∧
        (response.status = 200 ∨ response.status = 400)) ∨
      (AllowList.StopsAtOverlong settings.allowedDevices ∧
        ∃ digits, response = broken (.allowList (.overlong digits))) := by
  intro response
  have hexpected := Engine.usableDevices_isExpected_iff_of_list h hlist
  by_cases hstops : AllowList.StopsAtOverlong settings.allowedDevices
  · obtain ⟨digits, hlong⟩ := AllowList.exists_parse_eq_overlong_iff.mpr hstops
    have hvalue : engine.usableDevices.value = .error (.allowList (.overlong digits)) := by
      rw [Engine.usableDevices_of_list h hlist, hlong]
      rfl
    refine .inr ⟨hstops, digits, ?_⟩
    show usableResponse engine.usableDevices.value = _
    rw [hvalue]
    rfl
  · refine .inl ⟨hstops, isProper_usableResponse (hexpected.mpr hstops), ?_⟩
    show (usableResponse engine.usableDevices.value).status = 200 ∨
      (usableResponse engine.usableDevices.value).status = 400
    have hreckoned := hexpected.mpr hstops
    rw [Engine.usableDevices_of_list h hlist] at hreckoned ⊢
    cases hp : AllowList.parse settings.allowedDevices with
    | ok devices => exact .inl rfl
    | error fault =>
      rw [hp] at hreckoned
      have hfault : (Failure.allowList fault).isExpected = true := hreckoned _ rfl
      right
      show (usableResponse (.error (.allowList fault))).status = 400
      simp [usableResponse, hfault, refusal, Failure.given]

end Http

namespace Session

/-- Where an allow list fails in a way of its own, for every list and in every state that has one.

A list is read, or rejected with a failure that callers reckon with, unless the reader comes to a
number that is too long.  Accordingly, once the engine is set up with a list, the question for
usable devices fails only in ways that callers reckon with, and is answered over HTTP with 200 or
400, exactly if that does not happen; if it does, the answer is an error of the service with the
number behind it. -/
theorem overlong_numbers_alone_escape (whole : String) :
    (((∃ devices, AllowList.parse whole = .ok devices) ∨
          ∃ fault, AllowList.parse whole = .error fault ∧
            (Failure.allowList fault).isExpected = true) ↔
        ¬ AllowList.StopsAtOverlong whole) ∧
      ∀ (session : Session) (settings : Discovery), session.engine.discovery = some settings →
        settings.allowedDevices = whole → whole ≠ automatic →
          ((∀ failure, session.engine.usableDevices.value = .error failure →
              failure.isExpected = true) ↔
            ¬ AllowList.StopsAtOverlong whole) ∧
          ∀ request : Http.Request, request.asksFor .usable = true →
            ∃ response, (session.step (.request request)).value = .response response ∧
              ((response.status = 200 ∨ response.status = 400) ∧ response.IsProper ↔
                ¬ AllowList.StopsAtOverlong whole) ∧
              (AllowList.StopsAtOverlong whole →
                ∃ digits, response = Http.broken (.allowList (.overlong digits))) := by
  constructor
  · rw [← AllowList.exists_parse_eq_overlong_iff]
    cases AllowList.parse whole with
    | ok devices => simp
    | error fault => cases fault <;> simp [Failure.isExpected]
  · rintro session settings h rfl hlist
    refine ⟨Engine.usableDevices_isExpected_iff_of_list h hlist, fun request hasks => ?_⟩
    refine ⟨_, rfl, ?_⟩
    rw [Http.serve_value_of_asksFor_usable _ _ hasks]
    rcases Http.usableResponse_of_list h hlist with ⟨hnone, hproper, hstatus⟩ | ⟨hstops, digits, he⟩
    · exact ⟨iff_of_true ⟨hstatus, hproper⟩ hnone, fun hstops => absurd hstops hnone⟩
    · refine ⟨iff_of_false (fun h => ?_) (not_not_intro hstops), fun _ => ⟨digits, he⟩⟩
      exact h.2.1 (congrArg Http.Response.status he)

/-- A minor number of one digit too many. -/
theorem overlong_number_breaks_answer :
    let whole := String.ofList ('0' :: ':' :: List.replicate (Numeral.maxDigits + 1) '9')
    let place : Place := .ofPaths "/" [] []
    let machine : Command.Machine := { outcome := .timedOut, inherited := {} }
    let reached := (fresh { place, machine } { allowedDevices := whole } {} none false).after
      [.setUpMonitor]
    (∃ digits, AllowList.parse whole = .error (.overlong digits)) ∧
      ∃ digits response,
        (reached.step (.request { path := "/gpus/usable" })).value = .response response ∧
          response.status = 500 ∧ response.raised = some (.allowList (.overlong digits)) := by
  intro whole place machine reached
  have hentry : AllowList.IsOverlong whole.toList := by
    refine ⟨_, _, ⟨[], ['0'], List.replicate (Numeral.maxDigits + 1) '9', [], ?_, by simp, by simp,
      .bare (by simp) (by simp), .bare (by simp) (by simp)⟩, .inr ?_⟩
    · simp [whole]
    · simp
  have hparts : Text.parts ',' whole.toList = [whole.toList] :=
    Text.parts_of_not_mem (by simp [whole])
  have hwritten : AllowList.written (Text.parts ',' whole.toList) = [whole.toList] := by
    obtain ⟨index, minorNumber, hw, -⟩ := hentry
    rw [hparts, AllowList.written_cons hw.not_blank]
    rfl
  have hstops : AllowList.StopsAtOverlong whole :=
    ⟨[], whole.toList, [], [], hwritten, .nil, List.nodup_nil, by simp, hentry⟩
  refine ⟨AllowList.exists_parse_eq_overlong_iff.mpr hstops, ?_⟩
  have hsettings : reached.engine.discovery = some { allowedDevices := whole } :=
    discovery_of_fresh { place, machine } { allowedDevices := whole } {} none false [.setUpMonitor]
  have hlist : whole ≠ automatic := by
    intro h
    have hhead : whole.toList.head? = automatic.toList.head? := by rw [h]
    rw [String.toList_ofList] at hhead
    exact absurd hhead (by decide)
  rcases Http.usableResponse_of_list hsettings hlist with ⟨hnone, -⟩ | ⟨-, digits, he⟩
  · exact absurd hstops hnone
  · refine ⟨digits, _, rfl, ?_⟩
    rw [Http.serve_value_of_asksFor_usable _ _ (by decide)]
    exact ⟨congrArg Http.Response.status he, congrArg Http.Response.raised he⟩

end Session
end GpuInventory
