import GpuInventory.Proofs.Numeral.Plain

/-!
The tolerant form of a whole number, said without its reader.

A tool may report a number in the digits of any script and may group them with underscores.  The
grammar of such a number is `Digits`: it starts with a digit, and every further digit may have one
underscore before it.  `Reports` adds the sign, the value and the bound on the number of digits.

The reader goes another way.  It maps the digits to those of ASCII, takes the underscores out and
reads the plain form of what is left.  `readInt?_eq_some_iff` says that it takes exactly the numbers
of the grammar, each for its value.
-/

namespace GpuInventory

/-! ## Digits of every script -/

namespace Text

theorem lt_ten_of_digitValue? {c : Char} {d : Nat} (h : digitValue? c = some d) : d < 10 := by
  obtain ⟨first, hfirst, rfl⟩ := Option.map_eq_some_iff.mp h
  have hrange := List.find?_some hfirst
  simp only [Bool.and_eq_true, decide_eq_true_eq] at hrange
  omega

theorem isDigit_digitChar_of_digitValue? {c : Char} {d : Nat} (h : digitValue? c = some d) :
    (Nat.digitChar d).isDigit = true := by
  rw [Nat.isDigit_digitChar, decide_eq_true (lt_ten_of_digitValue? h)]

/-- Among the characters of ASCII its own digits alone have a value. -/
theorem digitValue?_of_ascii {c : Char} (h : c.toNat < 0x80) :
    digitValue? c = if c.isDigit then some (c.toNat - 48) else none := by
  -- All zeros but the first are beyond ASCII.
  have hzeros : digitZeros = 48 :: digitZeros.tail := rfl
  have hothers : ∀ first ∈ digitZeros.tail, 0x80 ≤ first := by decide
  by_cases hc : c.isDigit = true
  · have hrange : 48 ≤ c.toNat ∧ c.toNat ≤ 57 := Char.isDigit_iff_toNat.mp hc
    have hzero : (decide (48 ≤ c.toNat) && decide (c.toNat < 48 + 10)) = true := by
      simp only [Bool.and_eq_true, decide_eq_true_eq]
      omega
    rw [if_pos hc, digitValue?, hzeros]
    simp only [List.find?_cons, hzero, Option.map_some]
  · rw [if_neg hc, digitValue?, Option.map_eq_none_iff, List.find?_eq_none]
    intro first hfirst hin
    simp only [Bool.and_eq_true, decide_eq_true_eq] at hin
    rw [hzeros] at hfirst
    rcases List.mem_cons.mp hfirst with rfl | hfirst
    · have hrange : 48 ≤ c.toNat ∧ c.toNat ≤ 57 := by omega
      exact hc (Char.isDigit_iff_toNat.mpr hrange)
    · have := hothers first hfirst
      omega

theorem asciiDigit_of_digitValue? {c : Char} {d : Nat} (h : digitValue? c = some d) :
    asciiDigit c = Nat.digitChar d := by
  by_cases hc : c.toNat < 0x80
  · rw [digitValue?_of_ascii hc] at h
    split at h
    · next hdigit =>
      cases h
      have hrange : 48 ≤ c.toNat ∧ c.toNat ≤ 57 := Char.isDigit_iff_toNat.mp hdigit
      rw [asciiDigit_of_ascii hc, ← Char.toNat_inj,
        Nat.toNat_digitChar_of_lt_ten (by omega)]
      omega
    · cases h
  · rw [asciiDigit, if_neg hc, h]

theorem asciiDigit_of_digitValue?_eq_none {c : Char} (h : digitValue? c = none) :
    asciiDigit c = c := by
  rw [asciiDigit, h]
  split <;> rfl

/-- The digits that a mapped text holds are the ones it held before. -/
theorem exists_digitValue? {c : Char} (h : (asciiDigit c).isDigit = true) :
    ∃ d, digitValue? c = some d ∧ asciiDigit c = Nat.digitChar d := by
  cases hd : digitValue? c with
  | some d => exact ⟨d, rfl, asciiDigit_of_digitValue? hd⟩
  | none =>
    rw [asciiDigit_of_digitValue?_eq_none hd] at h
    have hrange : 48 ≤ c.toNat ∧ c.toNat ≤ 57 := Char.isDigit_iff_toNat.mp h
    rw [digitValue?_of_ascii (by omega), if_pos h] at hd
    cases hd

/-- A mapped text holds a sign or an underscore where it held it before. -/
theorem asciiDigit_eq_iff {c mark : Char} (hascii : mark.toNat < 0x80)
    (hmark : mark.isDigit = false) : asciiDigit c = mark ↔ c = mark := by
  constructor
  · intro h
    cases hd : digitValue? c with
    | some d =>
      rw [← h, asciiDigit_of_digitValue? hd, isDigit_digitChar_of_digitValue? hd] at hmark
      cases hmark
    | none => exact (asciiDigit_of_digitValue?_eq_none hd).symm.trans h
  · rintro rfl
    exact asciiDigit_of_ascii hascii

end Text

namespace Numeral

/-! ## The grammar -/

/-- What may follow the first digit of a number: more digits, each perhaps after an underscore.  The
list holds their values. -/
inductive Continues : List Char → List Nat → Prop where
  | nil : Continues [] []
  | digit {c : Char} {d : Nat} {rest : List Char} {digits : List Nat}
    (hd : Text.digitValue? c = some d) (hrest : Continues rest digits) :
    Continues (c :: rest) (d :: digits)
  | grouped {c : Char} {d : Nat} {rest : List Char} {digits : List Nat}
    (hd : Text.digitValue? c = some d) (hrest : Continues rest digits) :
    Continues ('_' :: c :: rest) (d :: digits)

/-- A number without a sign, with the values of its digits. -/
inductive Digits : List Char → List Nat → Prop where
  | intro {c : Char} {d : Nat} {rest : List Char} {digits : List Nat}
    (hd : Text.digitValue? c = some d) (hrest : Continues rest digits) :
    Digits (c :: rest) (d :: digits)

/-- The number that digits stand for, the highest one first. -/
def ofDigits (digits : List Nat) : Nat :=
  digits.foldl (fun n d => 10 * n + d) 0

/-- Whether a text reports an integer: its digits are not too many, and there may be a sign. -/
inductive Reports : List Char → Int → Prop where
  | bare {s : List Char} {digits : List Nat} (hs : Digits s digits)
    (hlen : digits.length ≤ maxDigits) : Reports s (ofDigits digits)
  | plus {s : List Char} {digits : List Nat} (hs : Digits s digits)
    (hlen : digits.length ≤ maxDigits) : Reports ('+' :: s) (ofDigits digits)
  | minus {s : List Char} {digits : List Nat} (hs : Digits s digits)
    (hlen : digits.length ≤ maxDigits) : Reports ('-' :: s) (-ofDigits digits)

theorem Continues.lt_ten {s : List Char} {digits : List Nat} (h : Continues s digits) :
    ∀ d ∈ digits, d < 10 := by
  induction h with
  | nil => simp
  | digit hd _ ih => exact List.forall_mem_cons.mpr ⟨Text.lt_ten_of_digitValue? hd, ih⟩
  | grouped hd _ ih => exact List.forall_mem_cons.mpr ⟨Text.lt_ten_of_digitValue? hd, ih⟩

theorem Digits.lt_ten {s : List Char} {digits : List Nat} (h : Digits s digits) :
    ∀ d ∈ digits, d < 10 := by
  obtain ⟨hd, hrest⟩ := h
  exact List.forall_mem_cons.mpr ⟨Text.lt_ten_of_digitValue? hd, hrest.lt_ten⟩

/-- The digits of a number, in ASCII, are what the reader of the plain form asks for. -/
theorem Digits.plain {s : List Char} {digits : List Nat} (h : Digits s digits) :
    digits.map Nat.digitChar ≠ [] ∧ ∀ c ∈ digits.map Nat.digitChar, c.isDigit = true := by
  refine ⟨?_, fun c hc => ?_⟩
  · obtain ⟨-, -⟩ := h
    simp
  · obtain ⟨d, hd, rfl⟩ := List.mem_map.mp hc
    simp [h.lt_ten d hd]

/-! ## Taking the underscores out -/

theorem ungroupAfter_underscore (previous next : Char) (rest : List Char) :
    ungroupAfter previous ('_' :: next :: rest) =
      if previous.isDigit && next.isDigit then (ungroupAfter next rest).map (next :: ·) else none :=
  rfl

theorem ungroupAfter_cons {c : Char} (hc : c ≠ '_') (previous : Char) (rest : List Char) :
    ungroupAfter previous (c :: rest) = (ungroupAfter c rest).map (c :: ·) := by
  rw [ungroupAfter.eq_3 _ _ _ fun _ _ h => absurd h hc, if_neg hc]

/-- Nothing but a digit lets an underscore follow, so a text starts with what is left of it. -/
theorem of_ungroupAfter_eq_cons {previous : Char} (hprevious : previous.isDigit = false)
    {s : List Char} {c : Char} {plain : List Char}
    (h : ungroupAfter previous s = some (c :: plain)) :
    ∃ rest, s = c :: rest ∧ ungroupAfter c rest = some plain := by
  unfold ungroupAfter at h
  split at h
  · cases h
  · rw [hprevious, Bool.false_and, if_neg Bool.false_ne_true] at h
    cases h
  · next head rest _ =>
    split at h
    · cases h
    · obtain ⟨plain, hrest, hcons⟩ := Option.map_eq_some_iff.mp h
      cases hcons
      exact ⟨rest, rfl, hrest⟩

/-- If what is left of a text after a digit is all digits, the text goes on as the grammar says. -/
theorem continues_of_ungroupAfter {previous : Char} (hprevious : previous.isDigit = true)
    {s plain : List Char} (h : ungroupAfter previous (s.map Text.asciiDigit) = some plain)
    (hplain : ∀ c ∈ plain, c.isDigit = true) :
    ∃ digits, Continues s digits ∧ plain = digits.map Nat.digitChar := by
  generalize ht : s.map Text.asciiDigit = t at h
  -- The cases are those of the reader; where it gives up, nothing is left of the text.
  fun_induction ungroupAfter previous t generalizing s plain with
  | case1 previous =>
    cases h
    obtain rfl := List.map_eq_nil_iff.mp ht
    exact ⟨[], .nil, rfl⟩
  | case2 previous next rest _ ih =>
    obtain ⟨plain, hrest, rfl⟩ := Option.map_eq_some_iff.mp h
    obtain ⟨mark, s, rfl, hmark, hs⟩ := List.map_eq_cons_iff.mp ht
    obtain ⟨c, s, rfl, rfl, rfl⟩ := List.map_eq_cons_iff.mp hs
    obtain rfl := (Text.asciiDigit_eq_iff (by decide) (by decide)).mp hmark
    obtain ⟨hc, htail⟩ := List.forall_mem_cons.mp hplain
    obtain ⟨d, hd, heq⟩ := Text.exists_digitValue? hc
    obtain ⟨digits, hs, rfl⟩ := ih hc htail rfl hrest
    exact ⟨d :: digits, .grouped hd hs, by rw [heq, List.map_cons]⟩
  | case3 => cases h
  | case4 => cases h
  | case5 previous c rest _ _ ih =>
    obtain ⟨plain, hrest, rfl⟩ := Option.map_eq_some_iff.mp h
    obtain ⟨c, s, rfl, rfl, rfl⟩ := List.map_eq_cons_iff.mp ht
    obtain ⟨hc, htail⟩ := List.forall_mem_cons.mp hplain
    obtain ⟨d, hd, heq⟩ := Text.exists_digitValue? hc
    obtain ⟨digits, hs, rfl⟩ := ih hc htail rfl hrest
    exact ⟨d :: digits, .digit hd hs, by rw [heq, List.map_cons]⟩

theorem digits_of_ungroupAfter {previous : Char} (hprevious : previous.isDigit = false)
    {s plain : List Char} (h : ungroupAfter previous (s.map Text.asciiDigit) = some plain)
    (hne : plain ≠ []) (hplain : ∀ c ∈ plain, c.isDigit = true) :
    ∃ digits, Digits s digits ∧ plain = digits.map Nat.digitChar := by
  obtain ⟨c, plain, rfl⟩ := List.exists_cons_of_ne_nil hne
  obtain ⟨hc, htail⟩ := List.forall_mem_cons.mp hplain
  obtain ⟨rest, ht, hrest⟩ := of_ungroupAfter_eq_cons hprevious h
  obtain ⟨c, s, rfl, rfl, rfl⟩ := List.map_eq_cons_iff.mp ht
  obtain ⟨d, hd, heq⟩ := Text.exists_digitValue? hc
  obtain ⟨digits, hs, rfl⟩ := continues_of_ungroupAfter hc hrest htail
  exact ⟨d :: digits, .intro hd hs, by rw [heq, List.map_cons]⟩

/-- A digit is taken over, whatever stands before it. -/
theorem ungroupAfter_digit {c : Char} {d : Nat} (hd : Text.digitValue? c = some d)
    (previous : Char) (rest : List Char) :
    ungroupAfter previous (Text.asciiDigit c :: rest) =
      (ungroupAfter (Nat.digitChar d) rest).map (Nat.digitChar d :: ·) := by
  have hc : Nat.digitChar d ≠ '_' := by
    intro h
    have hdigit := Text.isDigit_digitChar_of_digitValue? hd
    rw [h] at hdigit
    exact absurd hdigit (by decide)
  rw [Text.asciiDigit_of_digitValue? hd, ungroupAfter_cons hc]

theorem Continues.ungroupAfter_eq {s : List Char} {digits : List Nat} (h : Continues s digits)
    {previous : Char} (hprevious : previous.isDigit = true) :
    ungroupAfter previous (s.map Text.asciiDigit) = some (digits.map Nat.digitChar) := by
  induction h generalizing previous with
  | nil => rfl
  | @digit c d rest digits hd _ ih =>
    have hdigit := Text.isDigit_digitChar_of_digitValue? hd
    rw [List.map_cons, ungroupAfter_digit hd, ih hdigit, Option.map_some, List.map_cons]
  | @grouped c d rest digits hd _ ih =>
    have hdigit := Text.isDigit_digitChar_of_digitValue? hd
    have hmark : Text.asciiDigit '_' = '_' := Text.asciiDigit_of_ascii (by decide)
    rw [List.map_cons, List.map_cons, hmark, ungroupAfter_underscore,
      Text.asciiDigit_of_digitValue? hd, hprevious, hdigit, Bool.and_self, if_pos rfl, ih hdigit,
      Option.map_some, List.map_cons]

theorem Digits.ungroupAfter_eq {s : List Char} {digits : List Nat} (h : Digits s digits)
    (previous : Char) :
    ungroupAfter previous (s.map Text.asciiDigit) = some (digits.map Nat.digitChar) := by
  cases h with
  | intro hd hrest =>
    rw [List.map_cons, ungroupAfter_digit hd,
      hrest.ungroupAfter_eq (Text.isDigit_digitChar_of_digitValue? hd), Option.map_some,
      List.map_cons]

/-! ## The reader takes the grammar -/

theorem ofDigitChars_map_digitChar {digits : List Nat} (h : ∀ d ∈ digits, d < 10) (n : Nat) :
    Nat.ofDigitChars 10 (digits.map Nat.digitChar) n =
      digits.foldl (fun n d => 10 * n + d) n := by
  induction digits generalizing n with
  | nil => rfl
  | cons d digits ih =>
    obtain ⟨hd, hdigits⟩ := List.forall_mem_cons.mp h
    rw [List.map_cons, Nat.ofDigitChars_cons_digitChar_of_lt_ten hd, ih hdigits, List.foldl_cons]

/-- The value of a numeral that was taken from a number of the grammar. -/
theorem Digits.value_eq_ok_iff {s : List Char} {digits : List Nat} (h : Digits s digits)
    {negative : Bool} {i : Int} :
    Numeral.value { negative, digits := digits.map Nat.digitChar } = .ok i ↔
      digits.length ≤ maxDigits ∧
        i = if negative then -(ofDigits digits : Int) else ofDigits digits := by
  have hmagnitude : Nat.ofDigitChars 10 (digits.map Nat.digitChar) 0 = ofDigits digits :=
    ofDigitChars_map_digitChar h.lt_ten 0
  simp only [value, hmagnitude, List.length_map]
  split
  · next hlong =>
    constructor
    · intro hi
      cases hi
    · rintro ⟨hlen, -⟩
      exact absurd hlong (Nat.not_lt.mpr hlen)
  · next hlen =>
    rw [Except.ok.injEq]
    exact ⟨fun hi => ⟨Nat.le_of_not_lt hlen, hi.symm⟩, fun hi => hi.2.symm⟩

theorem readInt?_eq_some_iff_exists {s : List Char} {i : Int} :
    readInt? s = some i ↔
      ∃ plain n, plain? s = some plain ∧ IsWritten plain n ∧ n.value = .ok i := by
  have hvalue : ∀ n : Numeral, n.value.toOption = some i ↔ n.value = .ok i := by
    intro n
    cases n.value <;> simp [Except.toOption]
  simp only [readInt?, read?, Option.bind_eq_some_iff, ofChars?_eq_some_iff, hvalue]
  constructor
  · rintro ⟨n, ⟨plain, hplain, hn⟩, hi⟩
    exact ⟨plain, n, hplain, hn, hi⟩
  · rintro ⟨plain, n, hplain, hn, hi⟩
    exact ⟨n, ⟨plain, hplain, hn⟩, hi⟩

theorem isDigit_of_lt_zero {mark : Char} (h : mark.toNat < 48) : mark.isDigit = false := by
  cases hdigit : mark.isDigit with
  | false => rfl
  | true =>
    have hrange : 48 ≤ mark.toNat := (Char.isDigit_iff_toNat.mp hdigit).1
    exact absurd h (Nat.not_lt.mpr hrange)

/-- A sign, or any character that comes before the digits in ASCII, is left where it stands, and the
number after it as well. -/
theorem digits_of_plain?_cons {mark : Char} (hmark : mark.toNat < 48) {s plain : List Char}
    (h : plain? s = some (mark :: plain)) (hne : plain ≠ [])
    (hplain : ∀ c ∈ plain, c.isDigit = true) :
    ∃ rest digits, s = mark :: rest ∧ Digits rest digits ∧ plain = digits.map Nat.digitChar := by
  have hdigit : mark.isDigit = false := isDigit_of_lt_zero hmark
  obtain ⟨t, ht, hrest⟩ := of_ungroupAfter_eq_cons (by decide) h
  obtain ⟨c, rest, rfl, hc, rfl⟩ := List.map_eq_cons_iff.mp ht
  obtain rfl := (Text.asciiDigit_eq_iff (by omega) hdigit).mp hc
  obtain ⟨digits, hs, rfl⟩ := digits_of_ungroupAfter hdigit hrest hne hplain
  exact ⟨rest, digits, rfl, hs, rfl⟩

theorem Digits.plain?_cons {s : List Char} {digits : List Nat} (h : Digits s digits)
    {mark : Char} (hmark : mark.toNat < 48) :
    plain? (mark :: s) = some (mark :: digits.map Nat.digitChar) := by
  have hne : mark ≠ '_' := by
    rintro rfl
    exact absurd hmark (by decide)
  rw [plain?, List.map_cons, Text.asciiDigit_of_ascii (by omega), ungroupAfter_cons hne,
    h.ungroupAfter_eq, Option.map_some]

/-- The reader takes exactly the numbers of the grammar, each for its value. -/
theorem readInt?_eq_some_iff {s : List Char} {i : Int} : readInt? s = some i ↔ Reports s i := by
  rw [readInt?_eq_some_iff_exists]
  constructor
  · rintro ⟨plain, n, hplain, hn, hi⟩
    cases hn with
    | bare hne hd =>
      obtain ⟨digits, hs, rfl⟩ := digits_of_ungroupAfter (by decide) hplain hne hd
      obtain ⟨hlen, rfl⟩ := hs.value_eq_ok_iff.mp hi
      exact .bare hs hlen
    | plus hne hd =>
      obtain ⟨rest, digits, rfl, hs, rfl⟩ := digits_of_plain?_cons (by decide) hplain hne hd
      obtain ⟨hlen, rfl⟩ := hs.value_eq_ok_iff.mp hi
      exact .plus hs hlen
    | minus hne hd =>
      obtain ⟨rest, digits, rfl, hs, rfl⟩ := digits_of_plain?_cons (by decide) hplain hne hd
      obtain ⟨hlen, rfl⟩ := hs.value_eq_ok_iff.mp hi
      exact .minus hs hlen
  · intro h
    cases h with
    | bare hs hlen =>
      exact ⟨_, _, hs.ungroupAfter_eq ' ', .bare hs.plain.1 hs.plain.2,
        hs.value_eq_ok_iff.mpr ⟨hlen, rfl⟩⟩
    | plus hs hlen =>
      exact ⟨_, _, hs.plain?_cons (by decide), .plus hs.plain.1 hs.plain.2,
        hs.value_eq_ok_iff.mpr ⟨hlen, rfl⟩⟩
    | minus hs hlen =>
      exact ⟨_, _, hs.plain?_cons (by decide), .minus hs.plain.1 hs.plain.2,
        hs.value_eq_ok_iff.mpr ⟨hlen, rfl⟩⟩

-- The zero is that of another script.
example : readInt? "-٠1_2".toList = some (-12) := by decide

theorem readInt?_eq_none_iff {s : List Char} : readInt? s = none ↔ ∀ i, ¬ Reports s i := by
  rw [Option.eq_none_iff_forall_ne_some]
  exact forall_congr' fun _ => not_congr readInt?_eq_some_iff

end Numeral
end GpuInventory
