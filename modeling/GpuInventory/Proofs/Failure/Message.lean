import GpuInventory.Failure

/-!
What the message of a failure gives away.

A caller over HTTP sees the message of a failure and not its kind.  That discovery is disabled can
be told from the message alone: of all failures that callers reckon with no other one has it.  Most
of them open with another character; the rest share the opening `Failed to ` and part at the next
one.
-/

namespace GpuInventory

theorem Text.append_ne_append (n : Nat) {a b : String} (h : a.toList.take n ≠ b.toList.take n)
    (ha : n ≤ a.toList.length) (hb : n ≤ b.toList.length) (r s : String) : a ++ r ≠ b ++ s := by
  intro he
  apply h
  have ht : (a ++ r).toList.take n = (b ++ s).toList.take n := by rw [he]
  rw [String.toList_append, String.toList_append, List.take_append_of_le_length ha,
    List.take_append_of_le_length hb] at ht
  exact ht

namespace Failure

theorem append_ne_message_disabled (n : Nat) {a : String}
    (h : a.toList.take n ≠ "Failed to e".toList.take n) (ha : n ≤ a.toList.length)
    (hn : n ≤ "Failed to e".toList.length) (r : String) : a ++ r ≠ message .disabled := by
  have hopening : message .disabled =
      "Failed to e" ++ ("xecute GPU device information detection script for " ++
        Nat.repr maxFailures ++ " times, skip following executions.") := by decide +kernel
  rw [hopening]
  exact Text.append_ne_append n h ha hn r _

theorem command_message_ne_disabled {fault : Command.Fault}
    (h : isExpected (.command fault) = true) : fault.message ≠ message .disabled := by
  cases fault with
  | refused reason => cases h
  | timedOut program timeout =>
    show "Command " ++ _ ++ _ ++ _ ++ _ ≠ _
    simp only [String.append_assoc]
    exact append_ne_message_disabled 1 (by decide) (by decide) (by decide) _
  | failed program code complaint =>
    show "Command " ++ _ ++ _ ++ _ ++ _ ++ _ ≠ _
    simp only [String.append_assoc]
    exact append_ne_message_disabled 1 (by decide) (by decide) (by decide) _
  | notStarted program reason =>
    show "Failed to start " ++ _ ++ _ ++ _ ≠ _
    simp only [String.append_assoc]
    exact append_ne_message_disabled 11 (by decide) (by decide) (by decide) _
  | undecodable program error =>
    show "Command " ++ _ ++ _ ++ _ ≠ _
    simp only [String.append_assoc]
    exact append_ne_message_disabled 1 (by decide) (by decide) (by decide) _

theorem report_message_ne_disabled (fault : Report.Fault) : fault.message ≠ message .disabled := by
  cases fault with
  | notXml detail =>
    show "Invalid nvidia-smi XML output: " ++ _ ≠ _
    exact append_ne_message_disabled 1 (by decide) (by decide) (by decide) _
  | unexpectedRoot tag =>
    show "Unexpected root element <" ++ _ ++ _ ++ _ ++ _ ≠ _
    simp only [String.append_assoc]
    exact append_ne_message_disabled 1 (by decide) (by decide) (by decide) _
  | noMinorNumber position =>
    show "GPU #" ++ _ ++ _ ≠ _
    rw [String.append_assoc]
    exact append_ne_message_disabled 1 (by decide) (by decide) (by decide) _
  | invalidMinorNumber position written =>
    show "GPU #" ++ _ ++ _ ++ _ ≠ _
    simp only [String.append_assoc]
    exact append_ne_message_disabled 1 (by decide) (by decide) (by decide) _

theorem allowList_message_ne_disabled (fault : AllowList.Fault) :
    fault.message ≠ message .disabled := by
  cases fault with
  | empty => decide
  | malformed entry whole =>
    show "Illegal format of individual GPU device: " ++ _ ++ _ ++ _ ≠ _
    simp only [String.append_assoc]
    exact append_ne_message_disabled 1 (by decide) (by decide) (by decide) _
  | repeated entry whole =>
    show "GPU device " ++ _ ++ _ ++ _ ≠ _
    simp only [String.append_assoc]
    exact append_ne_message_disabled 1 (by decide) (by decide) (by decide) _
  | overlong digits =>
    show "Exceeds the limit (" ++ _ ++ _ ++ _ ++ _ ≠ _
    simp only [String.append_assoc]
    exact append_ne_message_disabled 1 (by decide) (by decide) (by decide) _

/-- The message of a disabled discovery is that of no other failure that callers reckon with. -/
theorem eq_disabled_of_message {failure : Failure} (hx : failure.isExpected = true)
    (h : failure.message = message .disabled) : failure = .disabled := by
  cases failure with
  | disabled => rfl
  | notInitialized => exact absurd h (by decide)
  | noExecutable => exact absurd h (by decide)
  | neverDiscovered => exact absurd h (by decide)
  | command fault => exact absurd h (command_message_ne_disabled hx)
  | report fault => exact absurd h (report_message_ne_disabled fault)
  | allowList fault => exact absurd h (allowList_message_ne_disabled fault)

end Failure
end GpuInventory
