import GpuInventory.AllowList
import GpuInventory.Proofs.Metrics.Export
import GpuInventory.Proofs.Text.Quoted
import Mathlib.Data.String.Basic

/-!
What the operator can tell from the message about an allow list.

The message quotes an entry and the whole list, and either may hold anything: quotes, line breaks,
even the words of a message.  `Fault.ofMessage?` takes a message apart again.  It goes by the
opening, which no two kinds of faults share, and by the quoted texts, which say themselves where
they end; so it gives back the fault, and different faults have different messages.
-/

namespace GpuInventory
namespace AllowList

/-- The two texts that stand quoted behind an opening and around a middle part. -/
def quotedPair? (opening middle message : List Char) : Option (String × String) := do
  let (entry, s) ← (message.dropPrefix? opening).bind Text.readQuoted
  let (whole, s) ← (s.dropPrefix? middle).bind Text.readQuoted
  if s.isEmpty then some (String.ofList entry, String.ofList whole) else none

theorem quotedPair?_append (opening middle : List Char) (entry whole : String) :
    quotedPair? opening middle
        (opening ++ (Text.quoted entry.toList ++ (middle ++ Text.quoted whole.toList))) =
      some (entry, whole) := by
  have hopening := List.dropPrefix?_append_of_beq
    (Text.quoted entry.toList ++ (middle ++ Text.quoted whole.toList)) (BEq.refl opening)
  have hmiddle := List.dropPrefix?_append_of_beq (Text.quoted whole.toList) (BEq.refl middle)
  have hentry := Text.readQuoted_quoted entry.toList (middle ++ Text.quoted whole.toList)
  have hwhole := Text.readQuoted_quoted whole.toList []
  rw [List.append_nil] at hwhole
  simp [quotedPair?, hopening, hmiddle, hentry, hwhole]

/-- What stands before, between and behind the quoted texts of the message about an entry. -/
def malformedOpening : List Char :=
  "Illegal format of individual GPU device: ".toList

def malformedMiddle : List Char :=
  ". Expected <index>:<minorNumber>, allowed devices value was: ".toList

def repeatedOpening : List Char :=
  "GPU device ".toList

def repeatedMiddle : List Char :=
  " is specified more than once. Allowed devices value was: ".toList

/-- The fault that a message is about, unless it is about a number of too many digits. -/
def Fault.ofMessage? (message : String) : Option Fault :=
  if message = Fault.empty.message then some .empty
  else
    match quotedPair? malformedOpening malformedMiddle message.toList with
    | some (entry, whole) => some (.malformed entry whole)
    | none =>
      match quotedPair? repeatedOpening repeatedMiddle message.toList with
      | some (entry, whole) => some (.repeated entry whole)
      | none => none

theorem toList_message_malformed (entry whole : String) :
    (Fault.malformed entry whole).message.toList =
      malformedOpening ++
        (Text.quoted entry.toList ++ (malformedMiddle ++ Text.quoted whole.toList)) := by
  show ("Illegal format of individual GPU device: " ++ Text.quotedString entry ++
    ". Expected <index>:<minorNumber>, allowed devices value was: " ++
      Text.quotedString whole).toList = _
  simp only [String.toList_append, Text.toList_quotedString, List.append_assoc]
  rfl

theorem toList_message_repeated (entry whole : String) :
    (Fault.repeated entry whole).message.toList =
      repeatedOpening ++
        (Text.quoted entry.toList ++ (repeatedMiddle ++ Text.quoted whole.toList)) := by
  show ("GPU device " ++ Text.quotedString entry ++
    " is specified more than once. Allowed devices value was: " ++
      Text.quotedString whole).toList = _
  simp only [String.toList_append, Text.toList_quotedString, List.append_assoc]
  rfl

theorem toList_message_empty :
    Fault.empty.message.toList =
      "Allowed GPU devices were specified with an empty value. ".toList ++
        "Expected a comma-separated list of <index>:<minorNumber> entries.".toList :=
  String.toList_append

theorem head?_message_empty : Fault.empty.message.toList.head? = some 'A' := by
  have hopening : _ = "Allowed GPU devices were specified with an empty value. ".toList :=
    String.ofList_eq.mp rfl
  rw [toList_message_empty, ← hopening]
  rfl

theorem ne_message_empty {message : String} (h : message.toList.head? ≠ some 'A') :
    message ≠ Fault.empty.message := by
  rintro rfl
  exact h head?_message_empty

theorem Fault.ofMessage?_message_empty : ofMessage? Fault.empty.message = some .empty :=
  if_pos rfl

theorem Fault.ofMessage?_message_malformed (entry whole : String) :
    ofMessage? (Fault.malformed entry whole).message = some (.malformed entry whole) := by
  have hne : (Fault.malformed entry whole).message ≠ Fault.empty.message := by
    refine ne_message_empty ?_
    rw [toList_message_malformed]
    rintro ⟨⟩
  rw [ofMessage?, if_neg hne, toList_message_malformed, quotedPair?_append]

theorem Fault.ofMessage?_message_repeated (entry whole : String) :
    ofMessage? (Fault.repeated entry whole).message = some (.repeated entry whole) := by
  have hne : (Fault.repeated entry whole).message ≠ Fault.empty.message := by
    refine ne_message_empty ?_
    rw [toList_message_repeated]
    rintro ⟨⟩
  have hother : quotedPair? malformedOpening malformedMiddle
      (Fault.repeated entry whole).message.toList = none := by
    rw [toList_message_repeated]
    rfl
  rw [ofMessage?, if_neg hne, hother, toList_message_repeated, quotedPair?_append]

/-- Faults that can be read off their messages are the same if the messages are. -/
theorem Fault.eq_of_message_eq {f g : Fault} (hf : ofMessage? f.message = some f)
    (hg : ofMessage? g.message = some g) (h : f.message = g.message) : f = g := by
  rw [h, hg] at hf
  exact (Option.some.inj hf).symm

/-! ## What a message shows -/

theorem isPrintable_of_mem_words {words : String} {chars : List Char}
    (hwords : String.ofList chars = words) (h : chars.all Text.isPrintable = true) :
    ∀ c ∈ words.toList, Text.isPrintable c = true := by
  rw [← String.ofList_eq.mp hwords]
  exact List.all_eq_true.mp h

theorem isPrintable_of_mem_pair {opening middle : List Char}
    (hopening : ∀ c ∈ opening, Text.isPrintable c = true)
    (hmiddle : ∀ c ∈ middle, Text.isPrintable c = true) (entry whole : String) :
    ∀ c ∈ opening ++ (Text.quoted entry.toList ++ (middle ++ Text.quoted whole.toList)),
      Text.isPrintable c = true := by
  simp only [List.forall_mem_append]
  exact ⟨hopening, fun _ => Text.isPrintable_of_mem_quoted, hmiddle,
    fun _ => Text.isPrintable_of_mem_quoted⟩

theorem isPrintable_of_mem_message {entry whole : String} {fault : Fault}
    (h : fault ∈ [.empty, .malformed entry whole, .repeated entry whole]) :
    ∀ c ∈ fault.message.toList, Text.isPrintable c = true := by
  simp only [List.mem_cons, List.not_mem_nil, or_false] at h
  rcases h with rfl | rfl | rfl
  · rw [toList_message_empty, List.forall_mem_append]
    exact ⟨isPrintable_of_mem_words rfl (by decide +kernel),
      isPrintable_of_mem_words rfl (by decide +kernel)⟩
  · rw [toList_message_malformed]
    exact isPrintable_of_mem_pair (isPrintable_of_mem_words rfl (by decide +kernel))
      (isPrintable_of_mem_words rfl (by decide +kernel)) entry whole
  · rw [toList_message_repeated]
    exact isPrintable_of_mem_pair (isPrintable_of_mem_words rfl (by decide +kernel))
      (isPrintable_of_mem_words rfl (by decide +kernel)) entry whole

theorem ofMessage?_message {entry whole : String} {fault : Fault}
    (h : fault ∈ [.empty, .malformed entry whole, .repeated entry whole]) :
    Fault.ofMessage? fault.message = some fault := by
  simp only [List.mem_cons, List.not_mem_nil, or_false] at h
  rcases h with rfl | rfl | rfl
  · exact Fault.ofMessage?_message_empty
  · exact Fault.ofMessage?_message_malformed entry whole
  · exact Fault.ofMessage?_message_repeated entry whole

theorem lines_message {entry whole : String} {fault : Fault}
    (h : fault ∈ [.empty, .malformed entry whole, .repeated entry whole]) :
    Text.lines (fault.message.toList ++ ['\n']) = [fault.message.toList] :=
  Text.linesFrom_append_feed
    (fun c hc => Text.isLineEnd_of_isPrintable (isPrintable_of_mem_message h c hc)) []

/-- Whatever the operator wrote, the message says what is wrong, with which entry, and in which
list.

Messages are the same only for the same fault, and the fault can be read off its message.  Every
character of a message is printable, so it is one line of the log. -/
theorem message_tells_cause (entry whole entry' whole' : String) :
    ((Fault.malformed entry whole).message = (Fault.malformed entry' whole').message ↔
      entry = entry' ∧ whole = whole') ∧
    ((Fault.repeated entry whole).message = (Fault.repeated entry' whole').message ↔
      entry = entry' ∧ whole = whole') ∧
    (Fault.malformed entry whole).message ≠ (Fault.repeated entry' whole').message ∧
    (Fault.malformed entry whole).message ≠ Fault.empty.message ∧
    (Fault.repeated entry whole).message ≠ Fault.empty.message ∧
    ∀ fault ∈ [.empty, .malformed entry whole, .repeated entry whole],
      Fault.ofMessage? fault.message = some fault ∧
      (∀ c ∈ fault.message.toList, Text.isPrintable c = true) ∧
      Text.lines (fault.message.toList ++ ['\n']) = [fault.message.toList] := by
  have hempty := Fault.ofMessage?_message_empty
  have hmalformed := Fault.ofMessage?_message_malformed
  have hrepeated := Fault.ofMessage?_message_repeated
  refine ⟨⟨fun h => ?_, fun h => by rw [h.1, h.2]⟩, ⟨fun h => ?_, fun h => by rw [h.1, h.2]⟩,
    fun h => ?_, fun h => ?_, fun h => ?_,
    fun fault h => ⟨ofMessage?_message h, isPrintable_of_mem_message h, lines_message h⟩⟩
  · exact Fault.malformed.inj (Fault.eq_of_message_eq (hmalformed _ _) (hmalformed _ _) h)
  · exact Fault.repeated.inj (Fault.eq_of_message_eq (hrepeated _ _) (hrepeated _ _) h)
  · cases Fault.eq_of_message_eq (hmalformed entry whole) (hrepeated entry' whole') h
  · cases Fault.eq_of_message_eq (hmalformed entry whole) hempty h
  · cases Fault.eq_of_message_eq (hrepeated entry whole) hempty h

end AllowList
end GpuInventory
