import GpuInventory.Decimal.Reading
import GpuInventory.Proofs.Numeral.Plain

/-!
The forms of a real number, said without their readers.

A number is written as digits, perhaps with a point before, among or after them, perhaps after a
sign, and perhaps with a power of ten behind.  `IsWritten` says so as a predicate on the text, and
`ofChars?_eq_some_iff` that the reader takes exactly that.  In the tolerant form a text may also be
a name, which no number is.
-/

namespace GpuInventory
namespace Decimal

/-- Whether a text is a sign, and whether that is a minus; no sign at all counts as a plus. -/
inductive IsSign : List Char → Bool → Prop where
  | absent : IsSign [] false
  | plus : IsSign ['+'] false
  | minus : IsSign ['-'] true

/-- Whether a text stands for a power of ten behind the digits of a number. -/
inductive IsPower : List Char → Int → Prop where
  | absent : IsPower [] 0
  | marked {mark : Char} {s : List Char} {n : Numeral} (hmark : mark = 'e' ∨ mark = 'E')
    (hs : Numeral.IsWritten s n) : IsPower (mark :: s) n.integer

/-- Whether a text writes a decimal number. -/
inductive IsWritten : List Char → Decimal → Prop where
  | whole {sign digits power : List Char} {negative : Bool} {exponent : Int}
    (hsign : IsSign sign negative) (hne : digits ≠ []) (hd : ∀ c ∈ digits, c.isDigit = true)
    (hpower : IsPower power exponent) :
    IsWritten (sign ++ (digits ++ power))
      { negative, coefficient := Nat.ofDigitChars 10 digits 0, exponent }
  | pointed {sign digits fraction power : List Char} {negative : Bool} {exponent : Int}
    (hsign : IsSign sign negative) (hne : digits ++ fraction ≠ [])
    (hd : ∀ c ∈ digits ++ fraction, c.isDigit = true) (hpower : IsPower power exponent) :
    IsWritten (sign ++ (digits ++ '.' :: (fraction ++ power)))
      { negative
        coefficient := Nat.ofDigitChars 10 (digits ++ fraction) 0
        exponent := exponent - fraction.length }

/-! ## Signs and powers -/

theorem exists_isSign (s : List Char) :
    ∃ sign, IsSign sign (Numeral.splitSign s).1 ∧ s = sign ++ (Numeral.splitSign s).2 := by
  unfold Numeral.splitSign
  split
  · exact ⟨_, .minus, rfl⟩
  · exact ⟨_, .plus, rfl⟩
  · exact ⟨_, .absent, rfl⟩

/-- A sign is taken off whatever does not begin with one itself. -/
theorem splitSign_append {sign s : List Char} {negative : Bool} (h : IsSign sign negative)
    (hminus : s.head? ≠ some '-') (hplus : s.head? ≠ some '+') :
    Numeral.splitSign (sign ++ s) = (negative, s) := by
  cases h with
  | absent =>
    rw [List.nil_append]
    unfold Numeral.splitSign
    split
    · exact absurd rfl hminus
    · exact absurd rfl hplus
    · rfl
  | plus => rfl
  | minus => rfl

theorem exponent?_eq_some_iff {s : List Char} {power : Int} :
    exponent? s = some power ↔ IsPower s power := by
  constructor
  · intro h
    unfold exponent? at h
    split at h
    · cases h
      exact .absent
    · split at h
      · next hmark =>
        obtain ⟨n, hn, rfl⟩ := Option.map_eq_some_iff.mp h
        exact .marked hmark (Numeral.ofChars?_eq_some_iff.mp hn)
      · cases h
  · intro h
    cases h with
    | absent => rfl
    | marked hmark hs =>
      rw [exponent?, if_pos hmark, Numeral.ofChars?_eq_some_iff.mpr hs]
      rfl

/-! ## Digits -/

/-- What ends the digits before it. -/
def StopsDigits (s : List Char) : Prop :=
  ∀ c, s.head? = some c → c.isDigit = false

theorem IsPower.stopsDigits {s : List Char} {power : Int} (h : IsPower s power) :
    StopsDigits s := by
  intro c hc
  cases h with
  | absent => cases hc
  | marked hmark _ =>
    cases hc
    rcases hmark with rfl | rfl <;> decide

theorem IsPower.head?_ne_point {s : List Char} {power : Int} (h : IsPower s power) :
    s.head? ≠ some '.' := by
  cases h with
  | absent => rintro ⟨⟩
  | marked hmark _ =>
    rintro ⟨⟩
    exact absurd hmark (by decide)

theorem takeWhile_isDigit_append {digits s : List Char} (hd : ∀ c ∈ digits, c.isDigit = true)
    (hs : StopsDigits s) : (digits ++ s).takeWhile Char.isDigit = digits := by
  rw [List.takeWhile_append_of_pos hd]
  cases s with
  | nil => exact List.append_nil digits
  | cons c rest =>
    rw [List.takeWhile_cons_of_neg (Bool.eq_false_iff.mp (hs c rfl)), List.append_nil]

theorem dropWhile_isDigit_append {digits s : List Char} (hd : ∀ c ∈ digits, c.isDigit = true)
    (hs : StopsDigits s) : (digits ++ s).dropWhile Char.isDigit = s := by
  rw [List.dropWhile_append_of_pos hd]
  cases s with
  | nil => rfl
  | cons c rest => rw [List.dropWhile_cons_of_neg (Bool.eq_false_iff.mp (hs c rfl))]

/-! ## Numbers -/

theorem of_ite_map_eq_some {whole fraction after : List Char} {f : Int → Decimal} {d : Decimal}
    (h : (if (whole.isEmpty && fraction.isEmpty) = true then none
      else (exponent? after).map f) = some d) :
    whole ++ fraction ≠ [] ∧ ∃ power, IsPower after power ∧ d = f power := by
  split at h
  · cases h
  · next hsome =>
    rw [Bool.and_eq_true, List.isEmpty_iff, List.isEmpty_iff] at hsome
    obtain ⟨power, hpower, rfl⟩ := Option.map_eq_some_iff.mp h
    exact ⟨fun hnil => hsome (List.append_eq_nil_iff.mp hnil), power,
      exponent?_eq_some_iff.mp hpower, rfl⟩

theorem isWritten_of_ofChars? {s : List Char} {d : Decimal} (h : ofChars? s = some d) :
    IsWritten s d := by
  obtain ⟨sign, hsign, hs⟩ := exists_isSign s
  unfold ofChars? at h
  rw [hs]
  generalize Numeral.splitSign s = signed at h hsign
  obtain ⟨negative, rest⟩ := signed
  dsimp only at h ⊢
  have hrest : rest.takeWhile Char.isDigit ++ rest.dropWhile Char.isDigit = rest :=
    List.takeWhile_append_dropWhile
  have hwhole : ∀ c ∈ rest.takeWhile Char.isDigit, c.isDigit = true :=
    List.all_eq_true.mp List.all_takeWhile
  rw [← hrest]
  generalize rest.takeWhile Char.isDigit = whole at h hwhole
  generalize rest.dropWhile Char.isDigit = after at h
  split at h
  · next tail =>
    obtain ⟨hne, power, hpower, rfl⟩ := of_ite_map_eq_some h
    have htail : tail.takeWhile Char.isDigit ++ tail.dropWhile Char.isDigit = tail :=
      List.takeWhile_append_dropWhile
    have hfraction : ∀ c ∈ tail.takeWhile Char.isDigit, c.isDigit = true :=
      List.all_eq_true.mp List.all_takeWhile
    have hpointed := IsWritten.pointed hsign hne
      (fun c hc => (List.mem_append.mp hc).elim (hwhole c) (hfraction c)) hpower
    rwa [htail] at hpointed
  · next hpoint =>
    obtain ⟨hne, power, hpower, rfl⟩ := of_ite_map_eq_some h
    rw [List.append_nil] at hne ⊢
    rw [List.length_nil, Int.ofNat_zero, Int.sub_zero]
    exact .whole hsign hne hwhole hpower

/-- A number begins with no sign of its own. -/
theorem head?_append_ne {digits s : List Char} {mark : Char}
    (hd : ∀ c ∈ digits, c.isDigit = true) (hs : digits = [] → s.head? ≠ some mark)
    (hmark : mark.isDigit = false) : (digits ++ s).head? ≠ some mark := by
  cases digits with
  | nil => exact hs rfl
  | cons c rest =>
    rintro ⟨⟩
    exact absurd (hd mark List.mem_cons_self) (Bool.eq_false_iff.mp hmark)

theorem ofChars?_of_isWritten {s : List Char} {d : Decimal} (h : IsWritten s d) :
    ofChars? s = some d := by
  cases h with
  | @whole sign digits power negative exponent hsign hne hd hpower =>
    unfold ofChars?
    rw [splitSign_append hsign (head?_append_ne hd (fun h => absurd h hne) (by decide))
      (head?_append_ne hd (fun h => absurd h hne) (by decide))]
    dsimp only
    rw [takeWhile_isDigit_append hd hpower.stopsDigits,
      dropWhile_isDigit_append hd hpower.stopsDigits]
    split
    · exact absurd rfl hpower.head?_ne_point
    · rw [if_neg (by simpa using hne), exponent?_eq_some_iff.mpr hpower, List.append_nil,
        List.length_nil, Option.map_some, Int.ofNat_zero, Int.sub_zero]
  | @pointed sign digits fraction power negative exponent hsign hne hd hpower =>
    have hdigits : ∀ c ∈ digits, c.isDigit = true := fun c hc => hd c (List.mem_append_left _ hc)
    have hfraction : ∀ c ∈ fraction, c.isDigit = true := fun c hc =>
      hd c (List.mem_append_right _ hc)
    have hpoint : StopsDigits ('.' :: (fraction ++ power)) := by
      intro c hc
      cases hc
      decide
    unfold ofChars?
    rw [splitSign_append hsign (head?_append_ne hdigits (fun _ => by rintro ⟨⟩) (by decide))
      (head?_append_ne hdigits (fun _ => by rintro ⟨⟩) (by decide))]
    dsimp only
    rw [takeWhile_isDigit_append hdigits hpoint, dropWhile_isDigit_append hdigits hpoint]
    split
    · next heq =>
      cases heq
      rw [takeWhile_isDigit_append hfraction hpower.stopsDigits,
        dropWhile_isDigit_append hfraction hpower.stopsDigits, if_neg (by simpa using hne),
        exponent?_eq_some_iff.mpr hpower, Option.map_some]
    · next hpoint => exact absurd rfl (hpoint _)

/-- A number in ASCII is what the reader takes. -/
theorem ofChars?_eq_some_iff {s : List Char} {d : Decimal} :
    ofChars? s = some d ↔ IsWritten s d :=
  ⟨isWritten_of_ofChars?, ofChars?_of_isWritten⟩

/-! ## Names -/

/-- The names of what is no number, in lower case. -/
def names : List String :=
  ["inf", "infinity", "nan"]

/-- Whether a text is one of the names, in any case and perhaps after a sign. -/
inductive IsNamed : List Char → Prop where
  | intro {sign name : List Char} {negative : Bool} (hsign : IsSign sign negative)
    (hname : String.ofList (name.map Char.toLower) ∈ names) : IsNamed (sign ++ name)

theorem exists_named?_iff {name : List Char} :
    (∃ x, named? name = some x) ↔ String.ofList (name.map Char.toLower) ∈ names := by
  unfold named? names
  dsimp only
  rw [List.mem_cons, List.mem_cons, List.mem_singleton, ← or_assoc]
  split
  · next h => exact iff_of_true ⟨_, rfl⟩ (.inl h)
  · next h =>
    split
    · next hnan => exact iff_of_true ⟨_, rfl⟩ (.inr hnan)
    · next hnan => exact iff_of_false (by rintro ⟨x, ⟨⟩⟩) (not_or.mpr ⟨h, hnan⟩)

/-- Every name begins with one of two letters. -/
theorem toLower_of_mem_names {c : Char} {rest : List Char}
    (h : String.ofList ((c :: rest).map Char.toLower) ∈ names) :
    c.toLower = 'i' ∨ c.toLower = 'n' := by
  have hheads : ∀ name ∈ names, name.toList.head? = some 'i' ∨ name.toList.head? = some 'n' := by
    decide +kernel
  have hhead := hheads _ h
  rw [String.toList_ofList, List.map_cons, List.head?_cons, Option.some_inj, Option.some_inj]
    at hhead
  exact hhead

theorem head?_ne_of_mem_names {name : List Char}
    (h : String.ofList (name.map Char.toLower) ∈ names) {mark : Char}
    (hmark : mark.toLower ≠ 'i' ∧ mark.toLower ≠ 'n') : name.head? ≠ some mark := by
  intro hhead
  obtain ⟨rest, rfl⟩ := List.head?_eq_some_iff.mp hhead
  exact (toLower_of_mem_names h).elim hmark.1 hmark.2

theorem splitSign_of_mem_names {sign name : List Char} {negative : Bool}
    (hsign : IsSign sign negative) (hname : String.ofList (name.map Char.toLower) ∈ names) :
    Numeral.splitSign (sign ++ name) = (negative, name) :=
  splitSign_append hsign (head?_ne_of_mem_names hname (by decide))
    (head?_ne_of_mem_names hname (by decide))

theorem isNamed_iff {s : List Char} :
    IsNamed s ↔ ∃ x, named? (Numeral.splitSign s).2 = some x := by
  constructor
  · rintro ⟨hsign, hname⟩
    rw [splitSign_of_mem_names hsign hname]
    exact exists_named?_iff.mpr hname
  · intro h
    obtain ⟨sign, hsign, hs⟩ := exists_isSign s
    rw [hs]
    exact .intro hsign (exists_named?_iff.mp h)

theorem toLower_of_isDigit {c : Char} (h : c.isDigit = true) :
    c.toLower ≠ 'i' ∧ c.toLower ≠ 'n' := by
  have hrange : 48 ≤ c.toNat ∧ c.toNat ≤ 57 := Char.isDigit_iff_toNat.mp h
  have hlower : c.toLower = c := by
    unfold Char.toLower
    split
    · next hupper =>
      have hlow : 65 ≤ c.toNat := hupper.1
      omega
    · rfl
  rw [hlower]
  constructor <;> rintro rfl <;> exact absurd h (by decide)

/-- No name is a number. -/
theorem IsNamed.ofChars?_eq_none {s : List Char} (h : IsNamed s) : ofChars? s = none := by
  obtain ⟨hsign, hname⟩ := h
  rename_i sign name negative
  have hdigit : name.takeWhile Char.isDigit = [] ∧ name.dropWhile Char.isDigit = name := by
    cases name with
    | nil => exact ⟨rfl, rfl⟩
    | cons c rest =>
      have hc : ¬ c.isDigit = true := fun hdigit =>
        head?_ne_of_mem_names hname (toLower_of_isDigit hdigit) rfl
      exact ⟨List.takeWhile_cons_of_neg hc, List.dropWhile_cons_of_neg hc⟩
  unfold ofChars?
  rw [splitSign_of_mem_names hsign hname]
  dsimp only
  rw [hdigit.1, hdigit.2]
  split
  · exact absurd rfl (head?_ne_of_mem_names hname (by decide))
  · rfl

/-! ## The tolerant form -/

/-- Whether a text reports a decimal number. -/
def Reports (s : List Char) (d : Decimal) : Prop :=
  ∃ plain, Numeral.plain? s = some plain ∧ IsWritten plain d

/-- Whether a text reports no number, but one of the names. -/
def ReportsName (s : List Char) : Prop :=
  ∃ plain, Numeral.plain? s = some plain ∧ IsNamed plain

theorem Reports.readFloat?_eq {s : List Char} {d : Decimal} (h : Reports s d) :
    readFloat? s = some d.toFloat := by
  obtain ⟨plain, hplain, hd⟩ := h
  unfold readFloat?
  rw [hplain, Option.bind_eq_bind, Option.bind_some, ofChars?_eq_some_iff.mpr hd]

theorem ReportsName.readFloat?_eq {s : List Char} (h : ReportsName s) :
    ∃ (negative : Bool) (name : List Char) (x : Float), named? name = some x ∧
      readFloat? s = some (if negative then -x else x) := by
  obtain ⟨plain, hplain, hnamed⟩ := h
  obtain ⟨x, hx⟩ := isNamed_iff.mp hnamed
  refine ⟨(Numeral.splitSign plain).1, _, x, hx, ?_⟩
  unfold readFloat?
  rw [hplain, Option.bind_eq_bind, Option.bind_some, hnamed.ofChars?_eq_none]
  dsimp only
  rw [hx, Option.bind_eq_bind, Option.bind_some]

/-- Nothing but numbers and names is read. -/
theorem readFloat?_eq_none_iff {s : List Char} :
    readFloat? s = none ↔ (∀ d, ¬ Reports s d) ∧ ¬ ReportsName s := by
  constructor
  · intro h
    refine ⟨fun d hd => ?_, fun hname => ?_⟩
    · rw [hd.readFloat?_eq] at h
      cases h
    · obtain ⟨negative, name, x, -, hx⟩ := hname.readFloat?_eq
      rw [hx] at h
      cases h
  · rintro ⟨hnumber, hname⟩
    unfold readFloat?
    cases hplain : Numeral.plain? s with
    | none => rfl
    | some plain =>
      rw [Option.bind_eq_bind, Option.bind_some]
      cases hd : ofChars? plain with
      | some d => exact absurd ⟨plain, hplain, ofChars?_eq_some_iff.mp hd⟩ (hnumber d)
      | none =>
        dsimp only
        cases hx : named? (Numeral.splitSign plain).2 with
        | none => rfl
        | some x => exact absurd ⟨plain, hplain, isNamed_iff.mpr ⟨x, hx⟩⟩ hname

end Decimal
end GpuInventory
