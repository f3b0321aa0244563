import GpuInventory.Text.Blank
import GpuInventory.Text.Quoted
import Mathlib.Algebra.Group.Nat.Defs

/-!
Reading quoted text back.

Between its quotes a text never shows a bare backslash or the quote that surrounds it, so a quoted
text ends with its second bare quote, whatever the text holds and whatever stands behind.
`readQuoted` reads one at the front of a text.  An escape says by its letter how many digits belong
to it, and no code point is written in two ways, so every character comes back.

All that stands in a quoted text is printable.  What ends a line is not printable, so a quoted text
stays on the line it is written on.
-/

namespace GpuInventory
namespace Text

/-! ## Code points -/

/-- The code point that a character is escaped by. -/
def codePoint (c : Char) : Nat :=
  (half? c).getD c.toNat

/-- The character that is escaped by a code point. -/
def ofCodePoint (n : Nat) : Char :=
  if isHalf n then standIn n else Char.ofNat n

theorem ofCodePoint_codePoint (c : Char) : ofCodePoint (codePoint c) = c := by
  unfold ofCodePoint codePoint half?
  split
  · next hin =>
    have hhalf : isHalf (c.toNat - 0xF0000) = true := by
      simp only [isHalf, Bool.and_eq_true, decide_eq_true_eq]
      omega
    have hback : c.toNat - 0xF0000 + 0xF0000 = c.toNat := by omega
    rw [Option.getD_some, if_pos hhalf, standIn, hback, Char.ofNat_toNat]
  · next hout =>
    have hvalid : c.toNat.isValidChar := c.valid
    have hhalf : ¬ isHalf c.toNat = true := by
      simp only [isHalf, Bool.and_eq_true, decide_eq_true_eq]
      rcases hvalid with h | h <;> omega
    rw [Option.getD_none, if_neg hhalf, Char.ofNat_toNat]

theorem codePoint_lt (c : Char) : codePoint c < 16 ^ 8 := by
  have hvalid : c.toNat.isValidChar := c.valid
  have hc : c.toNat < 0x110000 := by
    rcases hvalid with h | h <;> omega
  unfold codePoint half?
  split
  · rw [Option.getD_some]
    omega
  · rw [Option.getD_none]
    omega

/-! ## Hexadecimal numbers -/

theorem numberOf_toDigits (n : Nat) : numberOf 16 (Nat.toDigits 16 n) = n := by
  induction n using Nat.base_induction 16 (by decide) with
  | single m hm =>
    rw [Nat.toDigits_of_lt_base hm, ← List.nil_append [m.digitChar], numberOf_concat,
      hexDigit?_digitChar hm]
    exact Nat.zero_add m
  | digit m k hk hm ih =>
    rw [← Nat.toDigits_append_toDigits (by decide) hm hk, Nat.toDigits_of_lt_base hk,
      numberOf_concat, ih, hexDigit?_digitChar hk, Nat.mul_comm]
    rfl

theorem numberOf_hexadecimal (width n : Nat) : numberOf 16 (hexadecimal width n) = n := by
  unfold hexadecimal
  dsimp only
  induction width - (Nat.toDigits 16 n).length with
  | zero => exact numberOf_toDigits n
  | succ k ih => exact ih

theorem length_hexadecimal {width n : Nat} (hwidth : 0 < width) (h : n < 16 ^ width) :
    (hexadecimal width n).length = width := by
  have hdigits := (Nat.length_toDigits_le_iff (by decide) hwidth).mpr h
  rw [hexadecimal, List.length_append, List.length_replicate]
  omega

theorem isPrintable_digitChar {d : Nat} (h : d < 16) : isPrintable d.digitChar = true := by
  have hall : ∀ d < 16, isPrintable d.digitChar = true := by decide +kernel
  exact hall d h

theorem isPrintable_of_mem_toDigits {n : Nat} {c : Char} (h : c ∈ Nat.toDigits 16 n) :
    isPrintable c = true := by
  induction n using Nat.base_induction 16 (by decide) with
  | single m hm =>
    rw [Nat.toDigits_of_lt_base hm] at h
    rw [List.mem_singleton.mp h]
    exact isPrintable_digitChar hm
  | digit m k hk hm ih =>
    rw [← Nat.toDigits_append_toDigits (by decide) hm hk, Nat.toDigits_of_lt_base hk] at h
    rcases List.mem_append.mp h with hmost | hlast
    · exact ih hmost
    · rw [List.mem_singleton.mp hlast]
      exact isPrintable_digitChar hk

theorem isPrintable_of_mem_hexadecimal {width n : Nat} {c : Char} (h : c ∈ hexadecimal width n) :
    isPrintable c = true := by
  rcases List.mem_append.mp h with hzero | hdigit
  · rw [List.eq_of_mem_replicate hzero]
    decide
  · exact isPrintable_of_mem_toDigits hdigit

/-! ## Escapes -/

/-- The character whose code point stands in so many digits, and what follows. -/
def readCodePoint (width : Nat) (s : List Char) : Option (Char × List Char) :=
  if width ≤ s.length then some (ofCodePoint (numberOf 16 (s.take width)), s.drop width)
  else none

/-- The character that an escape stands for, by what follows its backslash, and what follows the
escape. -/
def readEscape : List Char → Option (Char × List Char)
  | [] => none
  | 'x' :: s => readCodePoint 2 s
  | 'u' :: s => readCodePoint 4 s
  | 'U' :: s => readCodePoint 8 s
  | 't' :: s => some ('\t', s)
  | 'n' :: s => some ('\n', s)
  | 'r' :: s => some ('\r', s)
  | c :: s => some (c, s)

theorem length_readCodePoint {width : Nat} {s rest : List Char} {c : Char}
    (h : readCodePoint width s = some (c, rest)) : rest.length ≤ s.length := by
  unfold readCodePoint at h
  split at h
  · cases h
    rw [List.length_drop]
    omega
  · cases h

theorem length_readEscape {s rest : List Char} {c : Char} (h : readEscape s = some (c, rest)) :
    rest.length < s.length := by
  unfold readEscape at h
  split at h
  · cases h
  · exact Nat.lt_succ_of_le (length_readCodePoint h)
  · exact Nat.lt_succ_of_le (length_readCodePoint h)
  · exact Nat.lt_succ_of_le (length_readCodePoint h)
  · cases h
    exact Nat.lt_succ_self _
  · cases h
    exact Nat.lt_succ_self _
  · cases h
    exact Nat.lt_succ_self _
  · cases h
    exact Nat.lt_succ_self _

theorem readCodePoint_hexadecimal {width : Nat} {c : Char} (hwidth : 0 < width)
    (h : codePoint c < 16 ^ width) (s : List Char) :
    readCodePoint width (hexadecimal width (codePoint c) ++ s) = some (c, s) := by
  have hlength := length_hexadecimal hwidth h
  have hwide : width ≤ (hexadecimal width (codePoint c) ++ s).length := by
    rw [List.length_append, hlength]
    exact Nat.le_add_right _ _
  rw [readCodePoint, if_pos hwide, List.take_left' hlength, List.drop_left' hlength,
    numberOf_hexadecimal, ofCodePoint_codePoint]

theorem readEscape_codeEscape (c : Char) : ∃ e, codeEscape c = '\\' :: e ∧
    (∀ d ∈ e, isPrintable d = true) ∧ ∀ s, readEscape (e ++ s) = some (c, s) := by
  have hprintable {letter : Char} (hletter : isPrintable letter = true) (width : Nat) :
      ∀ d ∈ letter :: hexadecimal width (codePoint c), isPrintable d = true :=
    List.forall_mem_cons.mpr ⟨hletter, fun d hd => isPrintable_of_mem_hexadecimal hd⟩
  show ∃ e, (if codePoint c < 0x100 then '\\' :: 'x' :: hexadecimal 2 (codePoint c)
    else if codePoint c < 0x10000 then '\\' :: 'u' :: hexadecimal 4 (codePoint c)
    else '\\' :: 'U' :: hexadecimal 8 (codePoint c)) = '\\' :: e ∧ _
  split
  · next h =>
    exact ⟨_, rfl, hprintable (by decide) 2, readCodePoint_hexadecimal (by decide) h⟩
  · split
    · next h =>
      exact ⟨_, rfl, hprintable (by decide) 4, readCodePoint_hexadecimal (by decide) h⟩
    · exact ⟨_, rfl, hprintable (by decide) 8,
        readCodePoint_hexadecimal (by decide) (codePoint_lt c)⟩

/-- A quote that may surround a text. -/
def IsMark (quote : Char) : Prop :=
  quote = '\'' ∨ quote = '"'

theorem readEscape_bare {quote c : Char} (hquote : IsMark quote) (hc : c = quote ∨ c = '\\') :
    isPrintable c = true ∧ ∀ s, readEscape (c :: s) = some (c, s) := by
  have hbare : c = '\'' ∨ c = '"' ∨ c = '\\' := by
    rcases hc with rfl | rfl
    · exact hquote.imp_right .inl
    · exact .inr (.inr rfl)
  rcases hbare with rfl | rfl | rfl
  · exact ⟨by decide, fun _ => rfl⟩
  · exact ⟨by decide, fun _ => rfl⟩
  · exact ⟨by decide, fun _ => rfl⟩

/-- A character stands between quotes as itself or behind a backslash, and comes back either way. -/
theorem escape_cases {quote : Char} (hquote : IsMark quote) (c : Char) :
    (escape quote c = [c] ∧ c ≠ quote ∧ c ≠ '\\' ∧ isPrintable c = true) ∨
      ∃ e, escape quote c = '\\' :: e ∧ (∀ d ∈ e, isPrintable d = true) ∧
        ∀ s, readEscape (e ++ s) = some (c, s) := by
  have hletter {letter : Char} (h : isPrintable letter = true) :
      ∀ d ∈ [letter], isPrintable d = true :=
    List.forall_mem_singleton.mpr h
  unfold escape
  split
  · next hbare =>
    obtain ⟨hprintable, hread⟩ := readEscape_bare hquote hbare
    exact .inr ⟨[c], rfl, hletter hprintable, hread⟩
  · next hother =>
    rw [not_or] at hother
    split
    · next htab =>
      subst htab
      exact .inr ⟨['t'], rfl, hletter (by decide), fun _ => rfl⟩
    · split
      · next hfeed =>
        subst hfeed
        exact .inr ⟨['n'], rfl, hletter (by decide), fun _ => rfl⟩
      · split
        · next hreturn =>
          subst hreturn
          exact .inr ⟨['r'], rfl, hletter (by decide), fun _ => rfl⟩
        · split
          · next hprintable => exact .inl ⟨rfl, hother.1, hother.2, hprintable⟩
          · exact .inr (readEscape_codeEscape c)

/-! ## Quoted texts -/

/-- Reads up to the quote that closes a text. -/
def readUpToQuote (quote : Char) : List Char → Option (List Char × List Char)
  | [] => none
  | c :: s =>
    if c = quote then some ([], s)
    else if c = '\\' then
      match _h : readEscape s with
      | none => none
      | some (c, rest) => (readUpToQuote quote rest).map fun (text, rest) => (c :: text, rest)
    else (readUpToQuote quote s).map fun (text, rest) => (c :: text, rest)
termination_by s => s.length
decreasing_by
  · exact Nat.lt_succ_of_lt (length_readEscape _h)
  · exact Nat.lt_succ_self _

/-- The text that stands quoted at the front of another one, and what follows it. -/
def readQuoted : List Char → Option (List Char × List Char)
  | [] => none
  | quote :: s => if quote = '\'' ∨ quote = '"' then readUpToQuote quote s else none

theorem readUpToQuote_bare {quote c : Char} (hc : c ≠ quote) (hslash : c ≠ '\\') (s : List Char) :
    readUpToQuote quote (c :: s) =
      (readUpToQuote quote s).map fun (text, rest) => (c :: text, rest) := by
  rw [readUpToQuote.eq_def]
  dsimp only
  rw [if_neg hc, if_neg hslash]

theorem readUpToQuote_escaped {quote c : Char} {e s : List Char} (hquote : quote ≠ '\\')
    (hread : readEscape e = some (c, s)) :
    readUpToQuote quote ('\\' :: e) =
      (readUpToQuote quote s).map fun (text, rest) => (c :: text, rest) := by
  rw [readUpToQuote.eq_def]
  dsimp only
  rw [if_neg hquote.symm, if_pos rfl]
  split
  · next heq =>
    rw [hread] at heq
    cases heq
  · next heq =>
    rw [hread] at heq
    cases heq
    rfl

theorem readUpToQuote_escape {quote : Char} (hquote : IsMark quote) (c : Char) (s : List Char) :
    readUpToQuote quote (escape quote c ++ s) =
      (readUpToQuote quote s).map fun (text, rest) => (c :: text, rest) := by
  have hslash : quote ≠ '\\' := by
    rcases hquote with rfl | rfl <;> decide
  rcases escape_cases hquote c with ⟨he, hc, hc', -⟩ | ⟨e, he, -, hread⟩
  · rw [he]
    exact readUpToQuote_bare hc hc' s
  · rw [he]
    exact readUpToQuote_escaped hslash (hread s)

theorem readUpToQuote_flatMap {quote : Char} (hquote : IsMark quote) (text rest : List Char) :
    readUpToQuote quote (text.flatMap (escape quote) ++ quote :: rest) = some (text, rest) := by
  induction text with
  | nil =>
    show readUpToQuote quote (quote :: rest) = _
    rw [readUpToQuote.eq_def]
    exact if_pos rfl
  | cons c text ih =>
    rw [List.flatMap_cons, List.append_assoc, readUpToQuote_escape hquote, ih]
    rfl

theorem toList_quotedString (s : String) : (quotedString s).toList = quoted s.toList :=
  String.toList_ofList

/-- What was quoted comes back, whatever follows. -/
theorem readQuoted_quoted (text rest : List Char) :
    readQuoted (quoted text ++ rest) = some (text, rest) := by
  have hmark : IsMark (quoteMark text) := quoteMark_eq text
  have happend : quoted text ++ rest = quoteMark text ::
      (text.flatMap (escape (quoteMark text)) ++ quoteMark text :: rest) := by
    simp [quoted]
  rw [happend]
  exact (if_pos hmark).trans (readUpToQuote_flatMap hmark text rest)

theorem isPrintable_of_mem_quoted {text : List Char} {c : Char} (h : c ∈ quoted text) :
    isPrintable c = true := by
  have hmark : isPrintable (quoteMark text) = true := by
    rcases quoteMark_eq text with hquote | hquote <;> rw [hquote] <;> decide
  simp only [quoted, List.cons_append, List.mem_cons, List.mem_append, List.mem_flatMap,
    List.not_mem_nil, or_false] at h
  rcases h with rfl | ⟨d, -, hd⟩ | rfl
  · exact hmark
  · rcases escape_cases (quoteMark_eq text) d with ⟨he, -, -, hprintable⟩ | ⟨e, he, hprintable, -⟩
    · rw [he] at hd
      rw [List.mem_singleton.mp hd]
      exact hprintable
    · rw [he] at hd
      rcases List.mem_cons.mp hd with rfl | hd
      · decide
      · exact hprintable c hd
  · exact hmark

/-! ## Lines -/

theorem isLineEnd_of_isPrintable {c : Char} (h : isPrintable c = true) : isLineEnd c = false := by
  cases hend : isLineEnd c with
  | false => rfl
  | true =>
    have hseparators : ∀ n ∈ [0x85, 0x2028, 0x2029], inRanges unprintableRanges n = true := by
      decide +kernel
    simp only [isLineEnd, Bool.or_eq_true, Bool.and_eq_true, decide_eq_true_eq, beq_iff_eq] at hend
    unfold isPrintable at h
    dsimp only at h
    split at h
    · next hascii =>
      rw [Bool.and_eq_true, decide_eq_true_eq, decide_eq_true_eq] at h
      omega
    · next hbeyond =>
      have hmem : c.toNat ∈ [0x85, 0x2028, 0x2029] := by
        simp only [List.mem_cons, List.not_mem_nil, or_false]
        omega
      rw [hseparators _ hmem] at h
      cases h

end Text
end GpuInventory
