import GpuInventory.Metrics
import GpuInventory.Proofs.Decimal.Characters

/-!
The text of the metrics, line by line.

Every line of the text ends in a line feed, so breaking the text into lines breaks each of them
apart on its own, whatever the values of labels have brought into it.  It follows that a number that
has a line to itself is told in this line and nowhere else.  This is made precise for the number of
usable devices, the one number that a question may change.
-/

namespace GpuInventory

namespace Text

/-- Any other character than a carriage return with a line feed behind it is read by itself. -/
theorem linesFrom_cons {c : Char} {text : List Char}
    (h : ∀ rest, c = '\r' → text = '\n' :: rest → False) (line : List Char) :
    linesFrom line (c :: text) =
      if isLineEnd c then line.reverse :: linesFrom [] text else linesFrom (c :: line) text :=
  linesFrom.eq_3 line c text h

theorem linesFrom_feed (line rest : List Char) :
    linesFrom line ('\n' :: rest) = line.reverse :: linesFrom [] rest := by
  rw [linesFrom_cons (fun _ h => absurd h (by decide)), if_pos (by decide)]

/-- Beyond a line feed the lines do not depend on what is before it. -/
theorem linesFrom_append (line text rest : List Char) :
    linesFrom line (text ++ '\n' :: rest) =
      linesFrom line (text ++ ['\n']) ++ linesFrom [] rest := by
  -- A character is read the same whatever follows, save a carriage return at the end of the text.
  have hread : ∀ {c : Char} {text : List Char},
      (∀ rest, c = '\r' → text = '\n' :: rest → False) → ¬ (c = '\r' ∧ text = []) →
      ∀ line more, linesFrom line (c :: text ++ more) =
        if isLineEnd c then line.reverse :: linesFrom [] (text ++ more)
        else linesFrom (c :: line) (text ++ more) := by
    intro c text h hlast line more
    refine linesFrom_cons (fun rest hc hrest => ?_) line
    cases text with
    | nil => exact hlast ⟨hc, rfl⟩
    | cons d text => exact h text hc (by rw [(List.cons.inj hrest).1])
  induction line, text using linesFrom.induct with
  | case1 line h => simp [linesFrom_feed, linesFrom]
  | case2 line h => simp [linesFrom_feed, linesFrom]
  | case3 line text ih => simpa [linesFrom] using ih
  | case4 line c text h hend ih =>
    by_cases hlast : c = '\r' ∧ text = []
    · rw [hlast.1, hlast.2]
      simp [linesFrom]
    · rw [hread h hlast, hread h hlast, if_pos hend, if_pos hend, ih, List.cons_append]
  | case5 line c text h hend ih =>
    have hlast : ¬ (c = '\r' ∧ text = []) := by
      rintro ⟨rfl, -⟩
      exact hend (by decide)
    rw [hread h hlast, hread h hlast, if_neg hend, if_neg hend, ih]

theorem lines_flatMap_append_feed (ls : List (List Char)) :
    lines (ls.flatMap fun l => l ++ ['\n']) = ls.flatMap fun l => lines (l ++ ['\n']) := by
  induction ls with
  | nil => rfl
  | cons l rest ih =>
    rw [List.flatMap_cons, List.flatMap_cons, ← ih, List.append_assoc, List.singleton_append]
    exact linesFrom_append [] l _

theorem linesFrom_append_feed {text : List Char} (h : ∀ c ∈ text, isLineEnd c = false)
    (line : List Char) : linesFrom line (text ++ ['\n']) = [line.reverse ++ text] := by
  induction text generalizing line with
  | nil =>
    rw [List.nil_append, linesFrom_feed, List.append_nil]
    rfl
  | cons c rest ih =>
    obtain ⟨hc, hrest⟩ := List.forall_mem_cons.mp h
    have hother : c ≠ '\r' := by
      rintro rfl
      exact absurd hc (by decide)
    rw [List.cons_append, linesFrom_cons (fun _ h => absurd h hother), hc, if_neg (by decide),
      ih hrest, List.reverse_cons, List.append_assoc, List.singleton_append]

end Text

namespace Metrics

/-- What is told of some lines of the text. -/
def toldLines (ls : List (List Char)) : List String :=
  ((ls.flatMap fun l => Text.lines (l ++ ['\n'])).filter fun line =>
    !standsIn "_created".toList line).map String.ofList

theorem toldLines_append (ls more : List (List Char)) :
    toldLines (ls ++ more) = toldLines ls ++ toldLines more := by
  rw [toldLines, List.flatMap_append, List.filter_append, List.map_append]
  rfl

theorem lines_eq_toldLines (m : Metrics) :
    m.lines = toldLines ((families m).flatMap Family.lines) := by
  rw [lines, text, Text.lines_flatMap_append_feed]
  rfl

/-! ## The number of usable devices -/

/-- What is told about the number of usable devices. -/
def usableFamily (n : Nat) : Family :=
  gauge "gpu_usable_devices" "GPUs usable by the resource manager" n

/-- The line of the number of usable devices. -/
def usableLine (n : Nat) : List Char :=
  Sample.line { name := "gpu_usable_devices", value := Float.ofNat n }

theorem isNumberText_valueText (x : Float) : Decimal.IsNumberText (valueText x) := by
  have htext : Decimal.IsNumberText (Decimal.shortestText x).toList :=
    Decimal.isNumberText_shortestText x
  unfold valueText
  dsimp only
  split
  · exact Decimal.isNumberText_of_all (by decide)
  · split
    · split
      · exact Decimal.isNumberText_of_all (by decide)
      · exact Decimal.isNumberText_of_all (by decide)
    · split
      · next first whole point fraction hfirst hrest =>
        have hwhole : Decimal.IsNumberText (first :: whole) := by
          rw [← hfirst]
          exact htext.mono (List.takeWhile_sublist _).subset
        have hfraction : Decimal.IsNumberText (point :: fraction) := by
          rw [← hrest]
          exact htext.mono (List.dropWhile_sublist _).subset
        rw [Decimal.isNumberText_cons_iff] at hwhole hfraction
        have hdigits : Decimal.IsNumberText (first :: '.' :: whole ++ fraction) := by
          rw [List.cons_append, List.cons_append, Decimal.isNumberText_cons_iff,
            Decimal.isNumberText_cons_iff, Decimal.isNumberText_append_iff]
          exact ⟨hwhole.1, by decide, hwhole.2, hfraction.2⟩
        split
        · rw [Decimal.isNumberText_append_iff, Decimal.isNumberText_append_iff]
          exact ⟨⟨hdigits.trimmed _, Decimal.isNumberText_of_all (by decide)⟩,
            Decimal.isNumberText_toDigits _⟩
        · exact htext
      · exact htext

theorem usableLine_eq (n : Nat) :
    usableLine n = "gpu_usable_devices ".toList ++ valueText (Float.ofNat n) := by
  have hname : "gpu_usable_devices ".toList = "gpu_usable_devices".toList ++ [' '] := by decide
  rw [hname, List.append_assoc, List.singleton_append, usableLine, Sample.line, labelsText,
    if_pos List.isEmpty_nil, List.append_nil]

theorem isLineEnd_of_mem_usableLine (n : Nat) : ∀ c ∈ usableLine n, Text.isLineEnd c = false := by
  have hname : "gpu_usable_devices ".toList.all (fun c => !Text.isLineEnd c) = true := by decide
  intro c hc
  rw [usableLine_eq, List.mem_append] at hc
  rcases hc with h | h
  · exact (Bool.not_eq_true' _).mp (List.all_eq_true.mp hname c h)
  · exact Decimal.isLineEnd_of_isNumberChar (isNumberText_valueText _ c h)

theorem standsIn_eq_false_of_not_mem {c : Char} {s : List Char} (h : c ∉ s) (word : List Char) :
    standsIn (c :: word) s = false := by
  induction s with
  | nil => rfl
  | cons d rest ih =>
    rw [List.mem_cons, not_or] at h
    rw [standsIn, ih h.2, Bool.or_false, List.isPrefixOf, beq_eq_false_iff_ne.mpr h.1,
      Bool.false_and]

/-- The line is not taken for one on when something was created. -/
theorem standsIn_created_usableLine (n : Nat) :
    standsIn "_created".toList (usableLine n) = false := by
  have hvalue : standsIn "_created".toList (valueText (Float.ofNat n)) = false :=
    standsIn_eq_false_of_not_mem (fun h =>
      absurd (isNumberText_valueText _ _ h) (by decide)) "created".toList
  rw [usableLine_eq]
  simpa [standsIn, List.isPrefixOf] using hvalue

theorem toldLines_usableLine_cons (n : Nat) (ls : List (List Char)) :
    toldLines (usableLine n :: ls) = String.ofList (usableLine n) :: toldLines ls := by
  have hline : Text.lines (usableLine n ++ ['\n']) = [usableLine n] :=
    Text.linesFrom_append_feed (isLineEnd_of_mem_usableLine n) []
  rw [toldLines, List.flatMap_cons, hline, List.singleton_append, List.filter_cons,
    standsIn_created_usableLine]
  rfl

/-- All lines but one are the same whatever the number of usable devices is. -/
theorem lines_of_usable (m : Metrics) :
    ∃ before after : List String, ∀ n : Nat, lines { m with usable := n } =
      before ++ String.ofList (usableLine n) :: after := by
  refine ⟨toldLines (((families m).take 4).flatMap Family.lines ++ (usableFamily 0).lines.take 2),
    toldLines (infoFamily m.info).lines, fun n => ?_⟩
  have hsplit : families { m with usable := n } =
      (families m).take 4 ++ [usableFamily n, infoFamily m.info] := rfl
  have hlines : (usableFamily n).lines = (usableFamily 0).lines.take 2 ++ [usableLine n] := rfl
  rw [lines_eq_toldLines, hsplit, List.flatMap_append, List.flatMap_cons, List.flatMap_singleton,
    hlines, List.append_assoc, List.singleton_append, ← List.append_assoc, toldLines_append,
    toldLines_usableLine_cons]

end Metrics
end GpuInventory
