import GpuInventory.AllowList
import GpuInventory.Proofs.Numeral.Short
import GpuInventory.Proofs.Text.Blank
import GpuInventory.Settings.Basic

/-!
Writing devices as an allow list and reading it back.

The text of a device holds no comma and no blank, and its colon is the only one.  So the separators
take a written list apart where it was put together, nothing is trimmed, and each entry gives the
two numerals that it was written from.  What remains is whether the devices that come out are taken:
they are if all of them are short and no two of them are the same, and then the list is the one that
was written.

The converse holds for every text, however it is written: the devices that are read are short and
different from each other.  A value that was read can therefore always be written and read again.
-/

namespace GpuInventory

namespace Device

def IsShort (d : Device) : Prop :=
  Numeral.IsShort d.index ∧ Numeral.IsShort d.minorNumber

instance (d : Device) : Decidable d.IsShort :=
  inferInstanceAs (Decidable (_ ∧ _))

/-! ## The text of a device -/

theorem toList_text (d : Device) :
    d.text.toList = (Numeral.ofInt d.index).chars ++ ':' :: (Numeral.ofInt d.minorNumber).chars := by
  simp [text, integerText]

theorem comma_not_mem_text (d : Device) : ',' ∉ d.text.toList := by
  rw [toList_text, List.mem_append, List.mem_cons]
  rintro (h | h | h)
  · exact (Numeral.ne_separator_of_mem_chars h).1 rfl
  · exact absurd h (by decide)
  · exact (Numeral.ne_separator_of_mem_chars h).1 rfl

theorem trim_text (d : Device) : Text.trim d.text.toList = d.text.toList := by
  refine Text.trim_eq_self fun c hc => ?_
  rw [toList_text, List.mem_append, List.mem_cons] at hc
  rcases hc with h | rfl | h
  · exact (Numeral.ne_separator_of_mem_chars h).2.2
  · decide
  · exact (Numeral.ne_separator_of_mem_chars h).2.2

theorem parts_text (d : Device) :
    Text.parts ':' d.text.toList =
      [(Numeral.ofInt d.index).chars, (Numeral.ofInt d.minorNumber).chars] := by
  have hcolon : ∀ i, ':' ∉ (Numeral.ofInt i).chars :=
    fun i h => (Numeral.ne_separator_of_mem_chars h).2.1 rfl
  rw [toList_text, Text.parts_append_cons (hcolon d.index),
    Text.parts_of_not_mem (hcolon d.minorNumber)]

end Device

namespace AllowList

/-! ## One entry -/

theorem entryNumerals?_text (d : Device) :
    entryNumerals? d.text.toList = some (Numeral.ofInt d.index, Numeral.ofInt d.minorNumber) := by
  rw [entryNumerals?, Device.trim_text, Device.parts_text]
  show ((Numeral.ofChars? _).bind fun index => (Numeral.ofChars? _).bind fun minorNumber =>
    some (index, minorNumber)) = _
  rw [Numeral.ofChars?_chars_ofInt, Numeral.ofChars?_chars_ofInt]
  rfl

theorem entryDevice_text (whole : String) {d : Device} (h : d.IsShort) :
    entryDevice whole d.text.toList = .ok d := by
  rw [entryDevice, entryNumerals?_text]
  dsimp only
  rw [Numeral.value_ofInt h.1, Numeral.value_ofInt h.2]

theorem ofChars?_of_entryNumerals? {entry : List Char} {index minorNumber : Numeral}
    (h : entryNumerals? entry = some (index, minorNumber)) :
    ∃ left right, Text.parts ':' (Text.trim entry) = [left, right] ∧
      Numeral.ofChars? left = some index ∧ Numeral.ofChars? right = some minorNumber := by
  unfold entryNumerals? at h
  split at h
  · next left right hparts =>
    obtain ⟨i, hi, h⟩ := Option.bind_eq_some_iff.mp h
    obtain ⟨m, hm, h⟩ := Option.bind_eq_some_iff.mp h
    cases h
    exact ⟨left, right, hparts, hi, hm⟩
  · cases h

theorem entryDevice_eq_ok {whole : String} {entry : List Char} {d : Device}
    (h : entryDevice whole entry = .ok d) :
    ∃ index minorNumber, entryNumerals? entry = some (index, minorNumber) ∧
      index.value = .ok d.index ∧ minorNumber.value = .ok d.minorNumber := by
  unfold entryDevice at h
  split at h
  · cases h
  · next index minorNumber hn =>
    split at h
    · cases h
    · next i hi =>
      split at h
      · cases h
      · next m hm =>
        cases h
        exact ⟨index, minorNumber, hn, hi, hm⟩

theorem isShort_of_entryDevice {whole : String} {entry : List Char} {d : Device}
    (h : entryDevice whole entry = .ok d) : d.IsShort := by
  obtain ⟨index, minorNumber, hn, hi, hm⟩ := entryDevice_eq_ok h
  obtain ⟨left, right, -, hleft, hright⟩ := ofChars?_of_entryNumerals? hn
  exact ⟨Numeral.isShort_of_ofChars? hleft hi, Numeral.isShort_of_ofChars? hright hm⟩

/-! ## The entries in turn -/

/-- Entries that were written from short devices, none of them twice and none of them seen before,
give these devices. -/
theorem devicesOf_texts (whole : String) {seen devices : List Device} (hnodup : devices.Nodup)
    (hseen : ∀ d ∈ devices, d ∉ seen) (hshort : ∀ d ∈ devices, d.IsShort) :
    devicesOf whole seen (devices.map fun d => d.text.toList) = .ok devices := by
  induction devices generalizing seen with
  | nil => rfl
  | cons d rest ih =>
    obtain ⟨hd, hrest⟩ := List.nodup_cons.mp hnodup
    have hentry : Text.trim d.text.toList ≠ [] := by
      rw [Device.trim_text, Device.toList_text]
      exact List.append_ne_nil_of_right_ne_nil _ (List.cons_ne_nil _ _)
    -- The device joins those seen before, and is not among the rest.
    have htail : devicesOf whole (d :: seen) (rest.map fun d => d.text.toList) = .ok rest := by
      refine ih hrest (fun e he => ?_) fun e he => hshort e (List.mem_cons_of_mem d he)
      rw [List.mem_cons, not_or]
      exact ⟨fun h => hd (h ▸ he), hseen e (List.mem_cons_of_mem d he)⟩
    rw [List.map_cons, devicesOf, if_neg hentry,
      entryDevice_text whole (hshort d List.mem_cons_self)]
    dsimp only
    rw [if_neg (hseen d List.mem_cons_self), htail]

/-- An entry is skipped, or it gives the first device and one that is new. -/
theorem devicesOf_cons_eq_ok {whole : String} {seen : List Device} {entry : List Char}
    {rest : List (List Char)} {devices : List Device}
    (h : devicesOf whole seen (entry :: rest) = .ok devices) :
    (Text.trim entry = [] ∧ devicesOf whole seen rest = .ok devices) ∨
      ∃ d tail, entryDevice whole entry = .ok d ∧ d ∉ seen ∧
        devicesOf whole (d :: seen) rest = .ok tail ∧ devices = d :: tail := by
  rw [devicesOf] at h
  by_cases hblank : Text.trim entry = []
  · rw [if_pos hblank] at h
    exact .inl ⟨hblank, h⟩
  rw [if_neg hblank] at h
  split at h
  · cases h
  · next d hd =>
    split at h
    · cases h
    · next hseen =>
      split at h
      · cases h
      · next tail ht =>
        cases h
        exact .inr ⟨d, tail, hd, hseen, ht, rfl⟩

theorem devicesOf_sound {whole : String} {seen : List Device} {entries : List (List Char)}
    {devices : List Device} (h : devicesOf whole seen entries = .ok devices) :
    devices.Nodup ∧ (∀ d ∈ devices, d ∉ seen) ∧ ∀ d ∈ devices, d.IsShort := by
  -- The devices seen grow along the way, so the claim is made for all of them.
  induction entries generalizing seen devices with
  | nil =>
    cases h
    simp
  | cons entry rest ih =>
    rcases devicesOf_cons_eq_ok h with ⟨-, hrest⟩ | ⟨d, tail, hd, hseen, ht, rfl⟩
    · exact ih hrest
    · obtain ⟨hnodup, hnew, hshort⟩ := ih ht
      refine ⟨List.nodup_cons.mpr ⟨fun hm => hnew d hm List.mem_cons_self, hnodup⟩, ?_, ?_⟩
      · intro e he
        rcases List.mem_cons.mp he with rfl | he
        · exact hseen
        · exact fun hm => hnew e he (List.mem_cons_of_mem d hm)
      · intro e he
        rcases List.mem_cons.mp he with rfl | he
        · exact isShort_of_entryDevice hd
        · exact hshort e he

/-! ## Whole lists -/

theorem toList_ofDevices (devices : List Device) :
    (ofDevices devices).toList = Text.joined [','] (devices.map fun d => d.text.toList) :=
  String.toList_ofList

theorem parts_ofDevices {devices : List Device} (hne : devices ≠ []) :
    Text.parts ',' (ofDevices devices).toList = devices.map fun d => d.text.toList := by
  rw [toList_ofDevices]
  refine Text.parts_joined (fun h => hne (List.map_eq_nil_iff.mp h)) fun p hp => ?_
  obtain ⟨d, -, rfl⟩ := List.mem_map.mp hp
  exact d.comma_not_mem_text

theorem colon_mem_ofDevices {devices : List Device} (hne : devices ≠ []) :
    ':' ∈ (ofDevices devices).toList := by
  cases devices with
  | nil => exact absurd rfl hne
  | cons d rest =>
    have hd : ':' ∈ d.text.toList := by
      rw [Device.toList_text]
      exact List.mem_append_right _ List.mem_cons_self
    rw [toList_ofDevices, List.map_cons]
    cases rest with
    | nil => exact hd
    | cons e rest => exact List.mem_append_left _ (List.mem_append_left _ hd)

theorem parse_sound {whole : String} {devices : List Device} (h : parse whole = .ok devices) :
    devices.Nodup ∧ ∀ d ∈ devices, d.IsShort := by
  unfold parse at h
  split at h
  · cases h
  · obtain ⟨hnodup, -, hshort⟩ := devicesOf_sound h
    exact ⟨hnodup, hshort⟩

/-- The list of some devices is read back exactly if all of them are short and no two of them are
the same. -/
theorem parse_ofDevices_iff {devices : List Device} (hne : devices ≠ []) :
    parse (ofDevices devices) = .ok devices ↔
      devices.Nodup ∧ ∀ d ∈ devices, d.IsShort := by
  refine ⟨parse_sound, fun ⟨hnodup, hshort⟩ => ?_⟩
  have hwritten : Text.trim (ofDevices devices).toList ≠ [] :=
    List.ne_nil_of_mem (Text.mem_trim (colon_mem_ofDevices hne) (by decide))
  rw [parse, if_neg hwritten, parts_ofDevices hne]
  exact devicesOf_texts _ hnodup (fun _ _ => List.not_mem_nil) hshort

theorem parse_ofDevices_of_parse {whole : String} {devices : List Device} (hne : devices ≠ [])
    (h : parse whole = .ok devices) : parse (ofDevices devices) = .ok devices :=
  (parse_ofDevices_iff hne).mpr (parse_sound h)

theorem ofDevices_ne_automatic {devices : List Device} (hne : devices ≠ []) :
    ofDevices devices ≠ automatic := by
  intro h
  have hcolon := colon_mem_ofDevices hne
  rw [h] at hcolon
  exact absurd hcolon (by decide)

end AllowList
end GpuInventory
