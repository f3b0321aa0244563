import GpuInventory.Command
import GpuInventory.Proofs.Text.Utf8

/-!
What the caller of a command gets, by what came of the process.

The caller gets a text if the process exits with code zero and what it wrote is the encoding of that
text, and in no other case.  In all the others there is a fault.  A fault that says the command was
refused is one that nobody could do anything about by running the tool; it is given if the system
did refuse the command, and only then.

The complaint of a process that failed may be any bytes.  The message holds the code before it, so
that the code can be read whatever the bytes are.
-/

namespace GpuInventory
namespace Command

theorem result_eq_ok_iff {program : String} {timeout : Float} {outcome : Outcome} {text : String} :
    outcome.result program timeout = .ok text ↔
      ∃ output complaint, outcome = .exited 0 output complaint ∧
        output.toByteArray = text.toUTF8 := by
  constructor
  · intro h
    cases outcome with
    | exited code output complaint =>
      rw [Outcome.result] at h
      by_cases hcode : code = 0
      · rw [if_pos hcode] at h
        subst hcode
        cases hd : Utf8.decode output with
        | error e =>
          rw [hd] at h
          cases h
        | ok s =>
          rw [hd] at h
          cases h
          exact ⟨output, complaint, rfl, Utf8.decode_eq_ok_iff_toUTF8.mp hd⟩
      · rw [if_neg hcode] at h
        cases h
    | timedOut => cases h
    | notStarted number reason => cases h
    | refused reason => cases h
  · rintro ⟨output, complaint, rfl, hbytes⟩
    have hd : Utf8.decode output = .ok text.toList := by
      rw [Utf8.decode_eq_ok_iff_toUTF8, String.ofList_toList, hbytes]
    rw [Outcome.result, if_pos rfl, hd]
    dsimp only
    rw [String.ofList_toList]

theorem outcome_of_result_refused {program : String} {timeout : Float} {outcome : Outcome}
    {reason : String} (h : outcome.result program timeout = .error (.refused reason)) :
    outcome = .refused reason := by
  cases outcome with
  | exited code output complaint =>
    rw [Outcome.result] at h
    split at h
    · split at h <;> cases h
    · cases h
  | timedOut => cases h
  | notStarted number why => cases h
  | refused why =>
    cases h
    rfl

/-- What running a command comes to, for every machine, command, environment and time limit.

One process is run, with the command and in the inherited environment under the given one.  Its
caller gets a text exactly if the process exits with code zero and has written the UTF-8 bytes of
that text.  Otherwise the caller gets a fault, which is a refusal only if the command was refused.
Of a process that exits with another code the message tells the code, and after it the trimmed text
of the complaint if the complaint is one. -/
theorem run_accounts_for_outcome (machine : Machine) (command : Command)
    (environment : Environment) (timeout : Float) :
    let attempt := run machine command environment timeout
    (attempt.run.command = command ∧ attempt.run.timeout = timeout ∧
        ∀ name, attempt.run.environment.get? name =
          (environment.get? name).or (machine.inherited.get? name)) ∧
      (∀ text, attempt.result = .ok text ↔
        ∃ output complaint, machine.outcome = .exited 0 output complaint ∧
          output.toByteArray = text.toUTF8) ∧
      ((∀ reason, machine.outcome ≠ .refused reason) →
        (∀ output complaint, machine.outcome = .exited 0 output complaint →
          ∀ text : String, output.toByteArray ≠ text.toUTF8) →
        ∃ fault, attempt.result = .error fault ∧ ∀ reason, fault ≠ .refused reason) ∧
      ∀ code output complaint, machine.outcome = .exited code output complaint → code ≠ 0 →
        ∃ fault shown, attempt.result = .error fault ∧
          fault.message = "Command " ++ command.program ++ " exited with code " ++
            integerText code ++ ": " ++ shown ∧
          ∀ text : String, complaint.toByteArray = text.toUTF8 →
            shown = String.ofList (Text.trim text.toList) := by
  intro attempt
  refine ⟨⟨rfl, rfl, Environment.get?_overlay _ _⟩, fun text => result_eq_ok_iff, ?_, ?_⟩
  · intro hstarted hnone
    cases hresult : attempt.result with
    | ok text =>
      obtain ⟨output, complaint, houtcome, hbytes⟩ := result_eq_ok_iff.mp hresult
      exact absurd hbytes (hnone output complaint houtcome text)
    | error fault =>
      refine ⟨fault, rfl, ?_⟩
      rintro reason rfl
      exact hstarted reason (outcome_of_result_refused hresult)
  · intro code output complaint houtcome hcode
    have hresult : attempt.result = .error
        (.failed command.program code (String.ofList (Text.trim (Utf8.decodeLossy complaint)))) := by
      show machine.outcome.result command.program timeout = _
      rw [houtcome, Outcome.result, if_neg hcode]
    refine ⟨_, _, hresult, rfl, fun text hbytes => ?_⟩
    have hd : Utf8.decode complaint = .ok text.toList := by
      rw [Utf8.decode_eq_ok_iff_toUTF8, String.ofList_toList, hbytes]
    rw [Utf8.decodeLossy_of_decode hd]

end Command
end GpuInventory
