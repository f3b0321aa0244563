import GpuInventory.Proofs.AllowList.Form
import Mathlib.Data.List.Forall2

/-!
Which allow lists are taken, and which entry the others are blamed on.

The reader goes through the entries and keeps the devices that it has seen.  Seen from outside, the
entries that are not blank name one device each, in their order, and no device twice; or there is a
first entry at which this comes to an end, all entries before it naming different devices.  Such an
entry names no device, or one that an earlier entry names, and the list is blamed on it whatever
follows.

The first part goes by what the reader makes of a single entry, which is where the recursion is
opened.  The second part puts the form of an entry in its place.
-/

namespace GpuInventory

namespace Text

def isBlankText (s : List Char) : Bool :=
  s.all isBlank

theorem isBlankText_iff {s : List Char} : isBlankText s = true ↔ trim s = [] := by
  rw [isBlankText, List.all_eq_true, trim_eq_nil_iff]

theorem isBlankText_eq_false_iff {s : List Char} : isBlankText s = false ↔ trim s ≠ [] := by
  rw [← Bool.not_eq_true, isBlankText_iff]

end Text

namespace AllowList

/-- The entries that are not blank. -/
def written (entries : List (List Char)) : List (List Char) :=
  entries.filter fun entry => !Text.isBlankText entry

theorem written_cons_of_blank {entry : List Char} (h : Text.trim entry = [])
    (rest : List (List Char)) : written (entry :: rest) = written rest := by
  have hblank : Text.isBlankText entry = true := Text.isBlankText_iff.mpr h
  exact List.filter_cons_of_neg (by rw [hblank]; decide)

theorem written_cons {entry : List Char} (h : Text.trim entry ≠ []) (rest : List (List Char)) :
    written (entry :: rest) = entry :: written rest := by
  have hblank : Text.isBlankText entry = false := Text.isBlankText_eq_false_iff.mpr h
  exact List.filter_cons_of_pos (by rw [hblank]; rfl)

/-! ## The entries in turn -/

section Entries

variable {whole : String}

/-- Whether the reader gets a device from an entry. -/
def Gives (whole : String) (entry : List Char) (d : Device) : Prop :=
  entryDevice whole entry = .ok d

theorem devicesOf_cons_of_blank {seen : List Device} {entry : List Char}
    (h : Text.trim entry = []) (rest : List (List Char)) :
    devicesOf whole seen (entry :: rest) = devicesOf whole seen rest := by
  rw [devicesOf, if_pos h]

theorem devicesOf_cons_of_error {seen : List Device} {entry : List Char} {fault : Fault}
    (h : Text.trim entry ≠ []) (hfault : entryDevice whole entry = .error fault)
    (rest : List (List Char)) : devicesOf whole seen (entry :: rest) = .error fault := by
  rw [devicesOf, if_neg h, hfault]

theorem devicesOf_cons_of_mem {seen : List Device} {entry : List Char} {d : Device}
    (h : Text.trim entry ≠ []) (hd : Gives whole entry d) (hseen : d ∈ seen)
    (rest : List (List Char)) :
    devicesOf whole seen (entry :: rest) = .error (.repeated (String.ofList entry) whole) := by
  rw [Gives] at hd
  rw [devicesOf, if_neg h, hd]
  exact if_pos hseen

theorem devicesOf_cons_of_not_mem {seen : List Device} {entry : List Char} {d : Device}
    (h : Text.trim entry ≠ []) (hd : Gives whole entry d) (hseen : d ∉ seen)
    (rest : List (List Char)) :
    devicesOf whole seen (entry :: rest) =
      (devicesOf whole (d :: seen) rest).map fun devices => d :: devices := by
  rw [Gives] at hd
  rw [devicesOf, if_neg h, hd]
  dsimp only
  rw [if_neg hseen]
  cases devicesOf whole (d :: seen) rest <;> rfl

/-- Whether the reader stops at an entry, having seen some devices. -/
def Faults (whole : String) (seen : List Device) (entry : List Char) (fault : Fault) : Prop :=
  entryDevice whole entry = .error fault ∨
    ∃ d ∈ seen, Gives whole entry d ∧ fault = .repeated (String.ofList entry) whole

/-- Whether there is a first entry at which the reader stops: those before give devices, no two the
same and none of them seen. -/
def StopsAt (whole : String) (seen : List Device) (entries : List (List Char)) (fault : Fault) :
    Prop :=
  ∃ before entry after earlier, entries = before ++ entry :: after ∧
    List.Forall₂ (Gives whole) before earlier ∧ earlier.Nodup ∧ (∀ d ∈ earlier, d ∉ seen) ∧
    Faults whole (earlier ++ seen) entry fault

theorem stopsAt_nil (seen : List Device) (fault : Fault) : ¬ StopsAt whole seen [] fault := by
  rintro ⟨before, entry, after, earlier, h, -⟩
  exact List.append_ne_nil_of_right_ne_nil before (List.cons_ne_nil entry after) h.symm

/-- The reader stops at the first entry, or gets a new device from it and stops later. -/
theorem stopsAt_cons_iff {seen : List Device} {first : List Char} {rest : List (List Char)}
    {fault : Fault} :
    StopsAt whole seen (first :: rest) fault ↔
      Faults whole seen first fault ∨
        ∃ d, Gives whole first d ∧ d ∉ seen ∧ StopsAt whole (d :: seen) rest fault := by
  constructor
  · rintro ⟨before, entry, after, earlier, hsplit, hgiven, hnodup, hfresh, hfault⟩
    cases hgiven with
    | nil =>
      rw [List.nil_append] at hsplit hfault
      cases hsplit
      exact .inl hfault
    | @cons e d before earlier hd hgiven =>
      rw [List.cons_append] at hsplit
      cases hsplit
      obtain ⟨hnew, hnodup⟩ := List.nodup_cons.mp hnodup
      refine .inr ⟨d, hd, hfresh d List.mem_cons_self, before, entry, after, earlier, rfl, hgiven,
        hnodup, fun e he => ?_, ?_⟩
      · rw [List.mem_cons, not_or]
        exact ⟨fun h => hnew (h ▸ he), hfresh e (List.mem_cons_of_mem d he)⟩
      · -- the device has moved from those on the way to those seen before
        refine hfault.imp_right fun ⟨e, he, hgives⟩ => ⟨e, ?_, hgives⟩
        simp only [List.cons_append, List.mem_cons, List.mem_append] at he ⊢
        tauto
  · rintro (hfault | ⟨d, hd, hseen, before, entry, after, earlier, rfl, hgiven, hnodup, hfresh,
      hfault⟩)
    · exact ⟨[], first, rest, [], rfl, .nil, List.nodup_nil,
        fun _ h => absurd h List.not_mem_nil, hfault⟩
    · have hnew : d ∉ earlier := fun h => hfresh d h List.mem_cons_self
      refine ⟨first :: before, entry, after, d :: earlier, rfl, .cons hd hgiven,
        List.nodup_cons.mpr ⟨hnew, hnodup⟩, ?_, ?_⟩
      · rw [List.forall_mem_cons]
        exact ⟨hseen, fun e he h => hfresh e he (List.mem_cons_of_mem d h)⟩
      · refine hfault.imp_right fun ⟨e, he, hgives⟩ => ⟨e, ?_, hgives⟩
        simp only [List.cons_append, List.mem_cons, List.mem_append] at he ⊢
        tauto

theorem devicesOf_eq_error_iff {seen : List Device} {entries : List (List Char)} {fault : Fault} :
    devicesOf whole seen entries = .error fault ↔ StopsAt whole seen (written entries) fault := by
  induction entries generalizing seen with
  | nil =>
    exact ⟨fun h => absurd h (by simp [devicesOf]), fun h => absurd h (stopsAt_nil seen fault)⟩
  | cons entry rest ih =>
    by_cases hblank : Text.trim entry = []
    · rw [devicesOf_cons_of_blank hblank, written_cons_of_blank hblank]
      exact ih
    rw [written_cons hblank, stopsAt_cons_iff]
    cases hd : entryDevice whole entry with
    | error stop =>
      have hnone : ∀ d, ¬ Gives whole entry d := fun d h => by
        rw [Gives, hd] at h
        cases h
      rw [devicesOf_cons_of_error hblank hd]
      constructor
      · intro h
        cases h
        exact .inl (.inl hd)
      · rintro ((h | ⟨d, -, h, -⟩) | ⟨d, h, -⟩)
        · cases hd.symm.trans h
          rfl
        · exact absurd h (hnone d)
        · exact absurd h (hnone d)
    | ok d =>
      have hunique : ∀ e, Gives whole entry e → e = d := fun e h => by
        rw [Gives, hd] at h
        cases h
        rfl
      by_cases hseen : d ∈ seen
      · rw [devicesOf_cons_of_mem hblank hd hseen]
        constructor
        · intro h
          cases h
          exact .inl (.inr ⟨d, hseen, hd, rfl⟩)
        · rintro ((h | ⟨e, -, -, rfl⟩) | ⟨e, he, hnew, -⟩)
          · rw [hd] at h
            cases h
          · rfl
          · exact absurd hseen (hunique e he ▸ hnew)
      · rw [devicesOf_cons_of_not_mem hblank hd hseen]
        have hmap : ∀ result : Except Fault (List Device),
            result.map (fun devices => d :: devices) = .error fault ↔ result = .error fault := by
          intro result
          cases result <;> simp [Except.map]
        rw [hmap, ih]
        constructor
        · exact fun h => .inr ⟨d, hd, hseen, h⟩
        · rintro ((h | ⟨e, hmem, he, -⟩) | ⟨e, he, -, h⟩)
          · rw [hd] at h
            cases h
          · exact absurd (hunique e he ▸ hmem) hseen
          · exact hunique e he ▸ h

theorem devicesOf_eq_ok_iff {seen : List Device} {entries : List (List Char)}
    {devices : List Device} :
    devicesOf whole seen entries = .ok devices ↔
      List.Forall₂ (Gives whole) (written entries) devices ∧ devices.Nodup ∧
        ∀ d ∈ devices, d ∉ seen := by
  induction entries generalizing seen devices with
  | nil =>
    constructor
    · intro h
      cases h
      exact ⟨.nil, List.nodup_nil, fun _ h => absurd h List.not_mem_nil⟩
    · rintro ⟨hgiven, -⟩
      cases hgiven
      rfl
  | cons entry rest ih =>
    by_cases hblank : Text.trim entry = []
    · rw [devicesOf_cons_of_blank hblank, written_cons_of_blank hblank]
      exact ih
    rw [written_cons hblank, List.forall₂_cons_left_iff]
    constructor
    · intro h
      rcases devicesOf_cons_eq_ok h with ⟨hempty, -⟩ | ⟨d, tail, hd, hseen, ht, rfl⟩
      · exact absurd hempty hblank
      obtain ⟨hgiven, hnodup, hfresh⟩ := ih.mp ht
      have hnew : d ∉ tail := fun h => hfresh d h List.mem_cons_self
      refine ⟨⟨d, tail, hd, hgiven, rfl⟩, List.nodup_cons.mpr ⟨hnew, hnodup⟩, ?_⟩
      rw [List.forall_mem_cons]
      exact ⟨hseen, fun e he h => hfresh e he (List.mem_cons_of_mem d h)⟩
    · rintro ⟨⟨d, tail, hd, hgiven, rfl⟩, hnodup, hfresh⟩
      obtain ⟨hnew, hnodup⟩ := List.nodup_cons.mp hnodup
      obtain ⟨hseen, hfresh⟩ := List.forall_mem_cons.mp hfresh
      have ht : devicesOf whole (d :: seen) rest = .ok tail := by
        refine ih.mpr ⟨hgiven, hnodup, fun e he => ?_⟩
        rw [List.mem_cons, not_or]
        exact ⟨fun h => hnew (h ▸ he), hfresh e he⟩
      rw [devicesOf_cons_of_not_mem hblank hd hseen, ht]
      rfl

end Entries

/-! ## Whole lists -/

section Lists

variable {whole : String}

theorem gives_iff {entry : List Char} {d : Device} :
    Gives whole entry d ↔ Names entry d ∧ ¬ IsOverlong entry := by
  rw [Gives]
  rcases entryDevice_cases whole entry with
    ⟨hnone, he⟩ | ⟨hlong, digits, he⟩ | ⟨e, hnames, hshort, he⟩ <;> rw [he]
  · exact ⟨nofun, fun h => absurd h.1 (hnone d)⟩
  · exact ⟨nofun, fun h => absurd hlong h.2⟩
  · constructor
    · intro h
      cases h
      exact ⟨hnames, hshort⟩
    · rintro ⟨h, -⟩
      rw [hnames.unique h]

theorem forall₂_gives_iff {entries : List (List Char)} {devices : List Device} :
    List.Forall₂ (Gives whole) entries devices ↔
      List.Forall₂ Names entries devices ∧ ∀ entry ∈ entries, ¬ IsOverlong entry := by
  constructor
  · intro h
    induction h with
    | nil => exact ⟨.nil, fun _ h => absurd h List.not_mem_nil⟩
    | cons hd _ ih =>
      obtain ⟨hnames, hshort⟩ := gives_iff.mp hd
      exact ⟨.cons hnames ih.1, List.forall_mem_cons.mpr ⟨hshort, ih.2⟩⟩
  · rintro ⟨h, hshort⟩
    induction h with
    | nil => exact .nil
    | cons hnames _ ih =>
      obtain ⟨hfirst, hrest⟩ := List.forall_mem_cons.mp hshort
      exact .cons (gives_iff.mpr ⟨hnames, hfirst⟩) (ih hrest)

theorem entryDevice_eq_error_iff {entry : List Char} (hshort : ¬ IsOverlong entry)
    {fault : Fault} :
    entryDevice whole entry = .error fault ↔
      (∀ d, ¬ Names entry d) ∧ fault = .malformed (String.ofList entry) whole := by
  rcases entryDevice_cases whole entry with
    ⟨hnone, he⟩ | ⟨hlong, -⟩ | ⟨d, hnames, -, he⟩
  · rw [he]
    constructor
    · intro h
      cases h
      exact ⟨hnone, rfl⟩
    · rintro ⟨-, rfl⟩
      rfl
  · exact absurd hlong hshort
  · rw [he]
    exact ⟨nofun, fun h => absurd hnames (h.1 d)⟩

theorem parse_eq_ok_iff {devices : List Device} :
    parse whole = .ok devices ↔
      Text.trim whole.toList ≠ [] ∧
        List.Forall₂ (Gives whole) (written (Text.parts ',' whole.toList)) devices ∧
        devices.Nodup := by
  unfold parse
  by_cases hblank : Text.trim whole.toList = []
  · rw [if_pos hblank]
    exact ⟨nofun, fun h => absurd hblank h.1⟩
  · rw [if_neg hblank, devicesOf_eq_ok_iff]
    simp [hblank]

theorem parse_eq_error_iff {fault : Fault} :
    parse whole = .error fault ↔
      (Text.trim whole.toList = [] ∧ fault = .empty) ∨
        (Text.trim whole.toList ≠ [] ∧
          StopsAt whole [] (written (Text.parts ',' whole.toList)) fault) := by
  unfold parse
  by_cases hblank : Text.trim whole.toList = []
  · rw [if_pos hblank]
    simp [hblank, eq_comm]
  · rw [if_neg hblank, devicesOf_eq_error_iff]
    simp [hblank]

/-- Whether the reader comes to a number that is too long to be read: the entries before it name
different devices, and none of them has such a number. -/
def StopsAtOverlong (whole : String) : Prop :=
  ∃ before entry after earlier,
    written (Text.parts ',' whole.toList) = before ++ entry :: after ∧
      List.Forall₂ Names before earlier ∧ earlier.Nodup ∧
      (∀ e ∈ before, ¬ IsOverlong e) ∧ IsOverlong entry

theorem trim_ne_nil_of_mem_written {entry : List Char}
    (h : entry ∈ written (Text.parts ',' whole.toList)) : Text.trim whole.toList ≠ [] := by
  obtain ⟨hentry, hwritten⟩ := List.mem_filter.mp h
  intro hblank
  have hall : ∀ c ∈ entry, Text.isBlank c = true := fun c hc =>
    Text.trim_eq_nil_iff.mp hblank c ((Text.isInfix_of_mem_parts hentry).subset hc)
  have hone : Text.isBlankText entry = true :=
    Text.isBlankText_iff.mpr (Text.trim_eq_nil_iff.mpr hall)
  rw [hone] at hwritten
  exact absurd hwritten (by decide)

/-- A list fails for an overlong number exactly if the reader gets as far as one. -/
theorem exists_parse_eq_overlong_iff :
    (∃ digits, parse whole = .error (.overlong digits)) ↔ StopsAtOverlong whole := by
  constructor
  · rintro ⟨digits, h⟩
    rcases parse_eq_error_iff.mp h with ⟨-, hfault⟩ | ⟨-, hstops⟩
    · cases hfault
    obtain ⟨before, entry, after, earlier, hsplit, hgiven, hnodup, -, hfault⟩ := hstops
    obtain ⟨hnamed, hshort⟩ := forall₂_gives_iff.mp hgiven
    refine ⟨before, entry, after, earlier, hsplit, hnamed, hnodup, hshort, ?_⟩
    rcases hfault with hfault | ⟨d, -, -, hrepeated⟩
    · by_contra hentry
      cases ((entryDevice_eq_error_iff hentry).mp hfault).2
    · cases hrepeated
  · rintro ⟨before, entry, after, earlier, hsplit, hnamed, hnodup, hshort, hlong⟩
    have hmem : entry ∈ written (Text.parts ',' whole.toList) := by
      rw [hsplit]
      simp
    have hgiven : List.Forall₂ (Gives whole) before earlier :=
      forall₂_gives_iff.mpr ⟨hnamed, hshort⟩
    obtain ⟨digits, hfault⟩ := entryDevice_of_isOverlong hlong whole
    exact ⟨digits, parse_eq_error_iff.mpr (.inr ⟨trim_ne_nil_of_mem_written hmem, before, entry,
      after, earlier, hsplit, hgiven, hnodup, fun _ _ => List.not_mem_nil, .inl hfault⟩)⟩

/-- Which lists are taken, and what the others are blamed on, if no number in them is too long to be
read.

A list gives the devices that its entries name, in their order and no more of them, exactly if there
is something in it, each entry that is not blank names a device, and no two name the same.  A blank
list is called empty.  Any other one has a first entry that names no device or one named before it,
and is blamed on it: as malformed in the one case, as a repetition in the other. -/
theorem parse_takes_or_blames_first (whole : String)
    (hshort : ∀ entry ∈ Text.parts ',' whole.toList, ¬ IsOverlong entry) :
    let entries := written (Text.parts ',' whole.toList)
    let isBlank := ∀ c ∈ whole.toList, Text.isBlank c = true
    (∀ devices, parse whole = .ok devices ↔
        ¬ isBlank ∧ List.Forall₂ Names entries devices ∧ devices.Nodup) ∧
      ∀ fault, parse whole = .error fault ↔
        (isBlank ∧ fault = .empty) ∨
          (¬ isBlank ∧ ∃ before entry after earlier, entries = before ++ entry :: after ∧
            List.Forall₂ Names before earlier ∧ earlier.Nodup ∧
            (((∀ d, ¬ Names entry d) ∧ fault = .malformed (String.ofList entry) whole) ∨
              ((∃ d ∈ earlier, Names entry d) ∧
                fault = .repeated (String.ofList entry) whole))) := by
  intro entries isBlank
  have hentries : ∀ entry ∈ entries, ¬ IsOverlong entry :=
    fun entry h => hshort entry (List.mem_of_mem_filter h)
  have hblank : Text.trim whole.toList = [] ↔ isBlank := Text.trim_eq_nil_iff
  refine ⟨fun devices => ?_, fun fault => ?_⟩
  · rw [parse_eq_ok_iff, forall₂_gives_iff, Ne, hblank, and_iff_left hentries]
  · rw [parse_eq_error_iff, Ne, hblank]
    refine or_congr_right (and_congr_right fun _ => ?_)
    constructor
    · rintro ⟨before, entry, after, earlier, hsplit, hgiven, hnodup, -, hfault⟩
      have hentry : ¬ IsOverlong entry := by
        refine hentries entry ?_
        show entry ∈ written (Text.parts ',' whole.toList)
        rw [hsplit]
        simp
      refine ⟨before, entry, after, earlier, hsplit, (forall₂_gives_iff.mp hgiven).1, hnodup, ?_⟩
      rcases hfault with hfault | ⟨d, hd, hgives, hfault⟩
      · exact .inl ((entryDevice_eq_error_iff hentry).mp hfault)
      · rw [List.append_nil] at hd
        exact .inr ⟨⟨d, hd, (gives_iff.mp hgives).1⟩, hfault⟩
    · rintro ⟨before, entry, after, earlier, hsplit, hnamed, hnodup, hfault⟩
      have hbefore : ∀ e ∈ before, ¬ IsOverlong e :=
        fun e he => hentries e (by rw [hsplit]; exact List.mem_append_left _ he)
      have hentry : ¬ IsOverlong entry := hentries entry (by rw [hsplit]; simp)
      refine ⟨before, entry, after, earlier, hsplit, forall₂_gives_iff.mpr ⟨hnamed, hbefore⟩,
        hnodup, fun _ _ => List.not_mem_nil, ?_⟩
      rcases hfault with hfault | ⟨⟨d, hd, hnames⟩, hfault⟩
      · exact .inl ((entryDevice_eq_error_iff hentry).mpr hfault)
      · rw [List.append_nil]
        exact .inr ⟨d, hd, gives_iff.mpr ⟨hnames, hentry⟩, hfault⟩

/-- A device that is named twice, in two ways, is blamed and not the malformed entry after it. -/
theorem repetition_blamed_first :
    let whole := " +0:-0,,0:0,x"
    (∀ entry ∈ Text.parts ',' whole.toList, ¬ IsOverlong entry) ∧
      parse whole = .error (.repeated "0:0" whole) := by
  intro whole
  have hshort : ∀ entry ∈ Text.parts ',' whole.toList, ¬ IsOverlong entry := by
    have hlength : ∀ entry ∈ Text.parts ',' whole.toList, entry.length ≤ Numeral.maxDigits := by
      decide
    exact fun entry h => not_isOverlong_of_length_le (hlength entry h)
  have hsigned : Names " +0:-0".toList ⟨0, 0⟩ :=
    (gives_iff.mp (show entryDevice whole " +0:-0".toList = .ok ⟨0, 0⟩ by decide)).1
  have hplain : Names "0:0".toList ⟨0, 0⟩ :=
    (gives_iff.mp (show entryDevice whole "0:0".toList = .ok ⟨0, 0⟩ by decide)).1
  have hfilled : ¬ ∀ c ∈ whole.toList, Text.isBlank c = true :=
    fun hblank => absurd (hblank 'x' (by decide)) (by decide)
  refine ⟨hshort, ((parse_takes_or_blames_first whole hshort).2 _).mpr (.inr ⟨hfilled, ?_⟩)⟩
  exact ⟨[" +0:-0".toList], "0:0".toList, ["x".toList], [⟨0, 0⟩], by decide,
    .cons hsigned .nil, by decide,
    .inr ⟨⟨⟨0, 0⟩, List.mem_singleton_self _, hplain⟩, rfl⟩⟩

end Lists

end AllowList
end GpuInventory
