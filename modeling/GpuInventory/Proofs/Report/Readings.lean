import GpuInventory.Proofs.Decimal.Overflow
import GpuInventory.Proofs.Http.Body
import GpuInventory.Proofs.Report.Acceptance
import GpuInventory.Proofs.Xml.Plain

/-!
Which readings of a report reach a client.

A reading is the number in front of a unit, and in the body of an answer it is a number or null.
Null stands for a reading that is missing.  But the word in front of a unit may also be a name such
as `nan`, or a number past all finite doubles.  Such a reading is kept, as a double that is not
finite, and is lost on the way to the client, who cannot tell it from a missing one.

`IsLost` says in terms of the document which readings these are.  An accepted report gives finite
readings for all others, and its inventory reaches the client as it is exactly if it has none of
them.
-/

namespace GpuInventory

/-- The readings of a GPU that are real numbers. -/
inductive Reading where
  | temperature
  | utilization
  | powerDraw
deriving DecidableEq, Repr

namespace Reading

open Report
open Xml (Element)

/-- What a GPU says for a reading. -/
def saying? : Reading → Element → Option (List Char)
  | temperature => textAt ["temperature", "gpu_temp"]
  | utilization => textAt ["utilization", "gpu_util"]
  | powerDraw => powerText

/-- A reading in an inventory. -/
def value? : Reading → Gpu → Option Float
  | temperature => Gpu.temperature
  | utilization => Gpu.utilization
  | powerDraw => Gpu.powerDraw

/-- The name of a reading in the body of an answer. -/
def member : Reading → String
  | temperature => "temperature_c"
  | utilization => "utilization_percent"
  | powerDraw => "power_draw_w"

/-- Whether a GPU says a number for a reading. -/
def SaysNumber (r : Reading) (e : Element) (d : Decimal) : Prop :=
  ∃ text, r.saying? e = some text ∧ Decimal.Reports (Text.firstWord text) d

/-- Whether a GPU says one of the names that are no number for a reading. -/
def SaysName (r : Reading) (e : Element) : Prop :=
  ∃ text, r.saying? e = some text ∧ Decimal.ReportsName (Text.firstWord text)

/-- Whether what a GPU says for a reading is lost on the way to a client. -/
def IsLost (r : Reading) (e : Element) : Prop :=
  r.SaysName e ∨ ∃ d, r.SaysNumber e d ∧ 2 ^ 1024 - 2 ^ 970 ≤ d.magnitude

/-! ## One reading -/

theorem value?_gpuOf (r : Reading) (n : Int) (e : Element) :
    r.value? (gpuOf n e) = number? (r.saying? e) := by
  cases r <;> rfl

theorem get?_gpuBody (r : Reading) (g : Gpu) :
    (Http.gpuBody g).get? r.member = some (Json.ofFloat? (r.value? g)) := by
  cases r <;> rfl

theorem number?_eq_none_iff {r : Reading} {e : Element} :
    number? (r.saying? e) = none ↔ (∀ d, ¬ r.SaysNumber e d) ∧ ¬ r.SaysName e := by
  unfold SaysNumber SaysName
  cases r.saying? e with
  | none => simp [number?]
  | some text => simp [number?, Decimal.readFloat?_eq_none_iff]

theorem SaysNumber.number?_eq {r : Reading} {e : Element} {d : Decimal} (h : r.SaysNumber e d) :
    number? (r.saying? e) = some d.toFloat := by
  obtain ⟨text, htext, hd⟩ := h
  rw [htext]
  exact hd.readFloat?_eq

theorem isLost_iff {r : Reading} {e : Element} :
    r.IsLost e ↔ ∃ text, r.saying? e = some text ∧ Decimal.IsUnbounded (Text.firstWord text) := by
  unfold IsLost SaysName SaysNumber Decimal.IsUnbounded
  cases r.saying? e with
  | none => simp
  | some text => simp

theorem IsLost.number?_eq {r : Reading} {e : Element} (h : r.IsLost e) :
    ∃ x, number? (r.saying? e) = some x ∧ x.isFinite = false := by
  obtain ⟨text, htext, hunbounded⟩ := isLost_iff.mp h
  obtain ⟨x, hx⟩ := hunbounded.exists_readFloat?
  refine ⟨x, ?_, hunbounded.isFinite_eq_false hx⟩
  rw [htext]
  exact hx

theorem SaysNumber.not_isLost {r : Reading} {e : Element} {d : Decimal} (h : r.SaysNumber e d)
    (hd : d.toFloat.isFinite = true) : ¬ r.IsLost e := by
  intro hlost
  obtain ⟨x, hx, hinfinite⟩ := hlost.number?_eq
  rw [h.number?_eq] at hx
  cases hx
  exact Bool.eq_false_iff.mp hinfinite hd

theorem isFinite_of_not_isLost {r : Reading} {e : Element} (h : ¬ r.IsLost e) {x : Float}
    (hx : number? (r.saying? e) = some x) : x.isFinite = true := by
  obtain ⟨text, htext, hread⟩ := Option.bind_eq_some_iff.mp hx
  exact (Decimal.isFinite_readFloat?_iff hread).mpr fun hunbounded =>
    h (isLost_iff.mpr ⟨text, htext, hunbounded⟩)

/-- A reading is missing or finite unless it is lost. -/
theorem isFinite_iff_not_isLost {r : Reading} {e : Element} :
    (∀ x, number? (r.saying? e) = some x → x.isFinite = true) ↔ ¬ r.IsLost e := by
  refine ⟨fun h hlost => ?_, fun h x hx => isFinite_of_not_isLost h hx⟩
  obtain ⟨x, hx, hinfinite⟩ := hlost.number?_eq
  exact Bool.eq_false_iff.mp hinfinite (h x hx)

theorem ofFloat?_eq_null_iff (x : Option Float) :
    Json.ofFloat? x = .null ↔ x = none ∨ ∃ y, x = some y ∧ y.isFinite = false := by
  cases x with
  | none => exact iff_of_true rfl (.inl rfl)
  | some y =>
    rw [Json.ofFloat?]
    cases hy : y.isFinite <;> simp [hy]

/-- Null stands for a missing reading or for a lost one. -/
theorem ofFloat?_number?_eq_null_iff {r : Reading} {e : Element} :
    Json.ofFloat? (number? (r.saying? e)) = .null ↔
      number? (r.saying? e) = none ∨ r.IsLost e := by
  rw [ofFloat?_eq_null_iff]
  refine or_congr_right ⟨?_, IsLost.number?_eq⟩
  rintro ⟨x, hx, hinfinite⟩
  by_contra hlost
  exact Bool.eq_false_iff.mp hinfinite (isFinite_of_not_isLost hlost hx)

/-- What an inventory and the body of an answer tell about a reading. -/
structure IsTold (r : Reading) (e : Element) (g : Gpu) : Prop where
  /-- A reading is missing exactly if the GPU says neither a number nor a name for it. -/
  missing : r.value? g = none ↔ (∀ d, ¬ r.SaysNumber e d) ∧ ¬ r.SaysName e
  /-- A number is rounded to the nearest double. -/
  number : ∀ d, r.SaysNumber e d → r.value? g = some d.toFloat
  /-- Only what is lost is kept as a double that is not finite. -/
  finite : (r.value? g = none ∨ ∃ x, r.value? g = some x ∧ x.isFinite = true) ↔ ¬ r.IsLost e
  /-- The client is told null for a reading that is missing, and for one that is lost. -/
  null : (Http.gpuBody g).get? r.member = some .null ↔ r.value? g = none ∨ r.IsLost e

theorem isTold_gpuOf (r : Reading) (n : Int) (e : Element) : r.IsTold e (gpuOf n e) where
  missing := by
    rw [value?_gpuOf]
    exact number?_eq_none_iff
  number d hd := by
    rw [value?_gpuOf]
    exact hd.number?_eq
  finite := by
    rw [value?_gpuOf, ← isFinite_iff_not_isLost]
    cases number? (r.saying? e) <;> simp
  null := by
    rw [get?_gpuBody, value?_gpuOf, Option.some_inj]
    exact ofFloat?_number?_eq_null_iff

end Reading

/-! ## All readings -/

theorem filter_isFinite_eq_self_iff (x : Option Float) :
    x.filter Float.isFinite = x ↔ ∀ y, x = some y → y.isFinite = true := by
  cases x with
  | none => simp
  | some y => simp [Option.filter_some]

theorem Gpu.finite_eq_self_iff (g : Gpu) :
    g.finite = g ↔ ∀ (r : Reading) (x : Float), r.value? g = some x → x.isFinite = true := by
  have hfields : g.finite = g ↔ g.temperature.filter Float.isFinite = g.temperature ∧
      g.utilization.filter Float.isFinite = g.utilization ∧
      g.powerDraw.filter Float.isFinite = g.powerDraw := by
    cases g
    simp [Gpu.finite]
  simp only [hfields, filter_isFinite_eq_self_iff]
  constructor
  · rintro ⟨htemperature, hutilization, hpower⟩ r
    cases r with
    | temperature => exact htemperature
    | utilization => exact hutilization
    | powerDraw => exact hpower
  · exact fun h => ⟨h .temperature, h .utilization, h .powerDraw⟩

theorem Inventory.finite_eq_self_iff (inventory : Inventory) :
    inventory.finite = inventory ↔ ∀ g ∈ inventory.gpus, g.finite = g := by
  have hgpus : inventory.finite = inventory ↔ inventory.gpus.map Gpu.finite = inventory.gpus := by
    cases inventory
    simp [Inventory.finite]
  rw [hgpus, ← List.map_inj_left, List.map_id']

namespace Report

open Xml (Element)

theorem finite_eq_self_iff_of_forall₂ {elements : List Element} {gpus : List Gpu}
    (h : List.Forall₂ (fun e g => ∀ r : Reading, r.IsTold e g) elements gpus) :
    (∀ g ∈ gpus, g.finite = g) ↔ ∀ e ∈ elements, ∀ r : Reading, ¬ r.IsLost e := by
  induction h with
  | nil => exact iff_of_true (List.forall_mem_nil _) (List.forall_mem_nil _)
  | @cons e g elements gpus htold _ ih =>
    rw [List.forall_mem_cons, List.forall_mem_cons, ih, Gpu.finite_eq_self_iff]
    refine and_congr_left fun _ => forall_congr' fun r => ?_
    rw [← (htold r).finite]
    cases r.value? g <;> simp

/-- Which readings reach a client.

For every accepted report, a reading in the inventory is missing or finite, unless what the GPU says
for it is a name that is no number, or a number half a unit or more past the greatest double; null
is told for a missing reading, and for these.  All readings of an inventory can be read off the body
of an answer exactly if the report has none of these. -/
theorem readings_finite_unless_lost {text : List Char} {describe : List Char → String}
    {inventory : Inventory} (h : read text describe = .ok inventory) :
    ∃ root, Xml.readDocument text = some root ∧
      List.Forall₂ (fun e g => ∀ r : Reading, r.IsTold e g) (gpuElements root) inventory.gpus ∧
      (Http.readInventory? (Http.inventoryBody inventory) = some inventory ↔
        ∀ e ∈ gpuElements root, ∀ r : Reading, ¬ r.IsLost e) := by
  obtain ⟨-, herror⟩ | ⟨root, hroot, hread⟩ := read_cases text describe
  · rw [herror] at h
    cases h
  · rw [hread, ofElement_eq_ok_iff, gpusFrom_eq_ok_iff] at h
    have htold : List.Forall₂ (fun e g => ∀ r : Reading, r.IsTold e g)
        (gpuElements root) inventory.gpus :=
      h.2.1.imp fun e g hg r => by
        rw [hg.2]
        exact r.isTold_gpuOf g.minorNumber e
    refine ⟨root, hroot, htold, ?_⟩
    rw [Http.readInventory?_inventoryBody, Option.some_inj, Inventory.finite_eq_self_iff]
    exact finite_eq_self_iff_of_forall₂ htold

/-! ## Reports of one GPU -/

/-- A report of one GPU and nothing else. -/
def reportOf (gpu : Element) : Element :=
  .node rootTag [gpu]

theorem gpuElements_reportOf {gpu : Element} (htag : gpu.tag = "gpu") :
    gpuElements (reportOf gpu) = [gpu] := by
  refine List.filter_eq_self.mpr fun e he => ?_
  rw [List.mem_singleton.mp he, htag]
  rfl

section Plain

variable {gpu : Element} {text : String}
  (htext : String.ofList ((reportOf gpu).written []) = text) (hplain : gpu.isPlain = true)

include htext hplain

theorem readDocument_reportOf : Xml.readDocument text.toList = some (reportOf gpu) := by
  have htag : Xml.isPlainName rootTag.toList = true := by decide +kernel
  rw [← htext, String.toList_ofList]
  refine Xml.readDocument_written ?_
  simp [reportOf, Element.node, Element.isPlain, Element.arePlain, htag, hplain]

/-- A plain report of one GPU is accepted if the GPU has a minor number. -/
theorem read_reportOf (htag : gpu.tag = "gpu") {n : Int} (hn : HasMinorNumber gpu n) :
    read text.toList = .ok { driverVersion := "", gpus := [gpuOf n gpu] } := by
  have hversion : nameAt ["driver_version"] (reportOf gpu) = "" := by
    have hnone : elementsAt ["driver_version"] (reportOf gpu) = [] := by
      rw [elementsAt_singleton]
      refine List.filter_eq_nil_iff.mpr fun e he => ?_
      rw [List.mem_singleton.mp he, htag]
      decide
    rw [nameAt, textAt, hnone]
    rfl
  rw [read, readDocument_reportOf htext hplain]
  refine ofElement_eq_ok_iff.mpr ⟨rfl, ?_, hversion.symm⟩
  rw [gpuElements_reportOf htag]
  exact gpusFrom_eq_ok_iff.mpr (.cons ⟨hn, rfl⟩ .nil)

end Plain

/-- A GPU with some readings. -/
def gpuSaying (temperature utilization power : String) : Element :=
  .node "gpu"
    [.leaf "minor_number" "0",
      .node "temperature" [.leaf "gpu_temp" temperature],
      .node "utilization" [.leaf "gpu_util" utilization],
      .node "power_readings" [.leaf "power_draw" power]]

theorem hasMinorNumber_gpuSaying (temperature utilization power : String) :
    HasMinorNumber (gpuSaying temperature utilization power) 0 :=
  ⟨['0'], ⟨_, rfl, by decide +kernel⟩, .bare (.intro (d := 0) (by decide) .nil) (by decide)⟩

theorem not_isLost_gpuSaying (r : Reading) :
    ¬ r.IsLost (gpuSaying "31 C" "0 %" "24.84 W") := by
  cases r with
  | temperature =>
    refine Reading.SaysNumber.not_isLost (d := ⟨false, 31, 0⟩) ⟨"31 C".toList, by decide +kernel,
      "31".toList, by decide +kernel, ?_⟩ (by decide +kernel)
    exact Decimal.ofChars?_eq_some_iff.mp (by decide +kernel)
  | utilization =>
    refine Reading.SaysNumber.not_isLost (d := ⟨false, 0, 0⟩) ⟨"0 %".toList, by decide +kernel,
      "0".toList, by decide +kernel, ?_⟩ (by decide +kernel)
    exact Decimal.ofChars?_eq_some_iff.mp (by decide +kernel)
  | powerDraw =>
    refine Reading.SaysNumber.not_isLost (d := ⟨false, 2484, -2⟩) ⟨"24.84 W".toList,
      by decide +kernel, "24.84".toList, by decide +kernel, ?_⟩ (by decide +kernel)
    exact Decimal.ofChars?_eq_some_iff.mp (by decide +kernel)

theorem isLost_gpuSaying (r : Reading) : r.IsLost (gpuSaying "nan C" "inf %" "1e999 W") := by
  cases r with
  | temperature =>
    refine .inl ⟨"nan C".toList, by decide +kernel, "nan".toList, by decide +kernel, ?_⟩
    exact .intro .absent (by decide)
  | utilization =>
    refine .inl ⟨"inf %".toList, by decide +kernel, "inf".toList, by decide +kernel, ?_⟩
    exact .intro .absent (by decide)
  | powerDraw =>
    refine .inr ⟨⟨false, 1, 999⟩, ⟨"1e999 W".toList, by decide +kernel, "1e999".toList,
      by decide +kernel, Decimal.ofChars?_eq_some_iff.mp (by decide +kernel)⟩, ?_⟩
    have hpast : ¬ (Decimal.toFloat ⟨false, 1, 999⟩).isFinite = true := by decide +kernel
    exact not_lt.mp fun h => hpast ((Decimal.isFinite_toFloat_iff _).mpr h)

set_option maxRecDepth 4000 in
/-- A report whose readings all reach the client. -/
theorem readings_carried :
    ∃ inventory, read
        "<nvidia_smi_log><gpu><minor_number>0</minor_number><temperature><gpu_temp>31 C</gpu_temp></temperature><utilization><gpu_util>0 %</gpu_util></utilization><power_readings><power_draw>24.84 W</power_draw></power_readings></gpu></nvidia_smi_log>".toList =
          .ok inventory ∧
      Http.readInventory? (Http.inventoryBody inventory) = some inventory := by
  have hplain : (gpuSaying "31 C" "0 %" "24.84 W").isPlain = true := by decide +kernel
  have hread := read_reportOf rfl hplain rfl (hasMinorNumber_gpuSaying "31 C" "0 %" "24.84 W")
  obtain ⟨root, hroot, -, hcarried⟩ := readings_finite_unless_lost hread
  refine ⟨_, hread, hcarried.mpr fun e he r => ?_⟩
  rw [readDocument_reportOf rfl hplain] at hroot
  cases hroot
  rw [gpuElements_reportOf rfl] at he
  rw [List.mem_singleton.mp he]
  exact not_isLost_gpuSaying r

set_option maxRecDepth 4000 in
/-- A report whose readings are all kept as doubles that are not finite, and told as missing. -/
theorem readings_lost :
    ∃ inventory g, read
        "<nvidia_smi_log><gpu><minor_number>0</minor_number><temperature><gpu_temp>nan C</gpu_temp></temperature><utilization><gpu_util>inf %</gpu_util></utilization><power_readings><power_draw>1e999 W</power_draw></power_readings></gpu></nvidia_smi_log>".toList =
          .ok inventory ∧ g ∈ inventory.gpus ∧
      ∀ r : Reading, (∃ x, r.value? g = some x ∧ x.isFinite = false) ∧
        (Http.gpuBody g).get? r.member = some .null := by
  have hplain : (gpuSaying "nan C" "inf %" "1e999 W").isPlain = true := by decide +kernel
  have hread := read_reportOf rfl hplain rfl (hasMinorNumber_gpuSaying "nan C" "inf %" "1e999 W")
  refine ⟨_, _, hread, List.mem_singleton.mpr rfl, fun r => ⟨?_, ?_⟩⟩
  · rw [Reading.value?_gpuOf]
    exact (isLost_gpuSaying r).number?_eq
  · exact (r.isTold_gpuOf 0 _).null.mpr (.inr (isLost_gpuSaying r))

end Report
end GpuInventory
