import GpuInventory.Proofs.Xml.Continuation.Markup
import GpuInventory.Xml.Document
import Mathlib.Data.List.DropRight

/-!
What stands before the element of a document stays as it was read, too: the version line, remarks,
and the tokens of a declaration.

Each of these has an end of its own, but before it is known what a part is, its opening has to be
complete.  A document that is cut within an opening is read as if something else stood there, so
the statements about remarks ask for the beginning of one of the other parts behind them.
-/

namespace GpuInventory
namespace Xml

/-- A name starts with none of the marks that other markup starts with. -/
theorem ne_mark_of_isNameStart {c : Char} (h : isNameStart c = true) : c ≠ '?' ∧ c ≠ '!' := by
  constructor <;> rintro rfl <;> cases h

/-! ## Tokens -/

namespace Token

theorem readRun_append {s rest : List Char} {t : Token} (h : readRun s = some (t, rest))
    (more : List Char) : readRun (s ++ more) = some (t, rest ++ more) := by
  unfold readRun at h ⊢
  dsimp only at h ⊢
  split at h
  · cases h
  · next c r hend =>
    simp only [dropWhile_append_of_cons hend, takeWhile_append_of_cons hend]
    split at h
    · cases h
    · next hrun =>
      rw [if_neg hrun]
      by_cases hmark : isMark c = true
      · rw [if_pos hmark] at h ⊢
        split at h
        · cases h
        · next htoken =>
          cases h
          rw [if_neg htoken]
      · rw [if_neg hmark] at h ⊢
        split at h
        · next hstop =>
          cases h
          rw [if_pos hstop]
          rfl
        · cases h

theorem readKeyword_append {s rest : List Char} {t : Token} (h : readKeyword s = some (t, rest))
    (more : List Char) : readKeyword (s ++ more) = some (t, rest ++ more) := by
  unfold readKeyword at h
  split at h
  · next text c r hname =>
    split at h
    · next hstop =>
      cases h
      simp only [readKeyword, readName_append hname more, if_pos hstop, List.cons_append]
    · cases h
  · cases h

theorem readLiteral_append {s rest : List Char} {t : Token} (h : readLiteral s = some (t, rest))
    (more : List Char) : readLiteral (s ++ more) = some (t, rest ++ more) := by
  unfold readLiteral at h
  split at h
  · next chars c r hquoted =>
    split at h
    · next hstop =>
      cases h
      simp only [readLiteral, readQuoted_append hquoted more, List.cons_append, if_pos hstop]
    · cases h
  · cases h

theorem readClosing_append {s rest : List Char} {t : Token} (h : readClosing s = some (t, rest))
    (more : List Char) : readClosing (s ++ more) = some (t, rest ++ more) := by
  cases s with
  | nil => cases h
  | cons c s =>
    rw [List.cons_append]
    simp only [readClosing] at h ⊢
    split at h
    · next hmark =>
      cases h
      rw [if_pos hmark]
    · next hmark =>
      rw [if_neg hmark]
      split at h
      · next hstop =>
        cases h
        rw [if_pos hstop]
        rfl
      · cases h

theorem read_append {s rest : List Char} {t : Token} (h : read s = some (t, rest))
    (more : List Char) : read (s ++ more) = some (t, rest ++ more) := by
  cases s with
  | nil => cases h
  | cons c s =>
    rw [List.cons_append]
    simp only [read] at h ⊢
    split at h
    · cases h
      rfl
    · exact readClosing_append h more
    · cases h
      rfl
    · cases h
      rfl
    · exact readKeyword_append h more
    · cases s with
      | nil => cases h
      | cons d s =>
        split at h
        · next hspace =>
          cases h
          exact if_pos hspace
        · cases h
    · exact readLiteral_append h more
    · exact readLiteral_append h more
    · exact readRun_append h more

theorem readAll_append {before ts : List Token} {s rest : List Char} {bracket : Char}
    (h : readAll before s = some (ts, bracket, rest)) (more : List Char) :
    readAll before (s ++ more) = some (ts, bracket, rest ++ more) := by
  fun_induction readAll before s with
  | case1 => cases h
  | case2 before s r hend =>
    cases h
    rw [readAll.eq_def, skipSpace_append hend]
    rfl
  | case3 before s r hend =>
    cases h
    rw [readAll.eq_def, skipSpace_append hend]
    rfl
  | case4 => cases h
  | case5 before s c r hangle hsquare hskip t r' hread ih =>
    have hskip' := skipSpace_append hskip more
    have hread' := read_append hread more
    rw [List.cons_append] at hread'
    rw [readAll.eq_def, hskip']
    split
    · next heq => cases heq
    · next heq => exact absurd (List.cons.inj heq).1 hangle
    · next heq => exact absurd (List.cons.inj heq).1 hsquare
    · next heq =>
      obtain ⟨rfl, rfl⟩ := List.cons.inj heq
      split
      · next heq =>
        rw [hread'] at heq
        cases heq
      · next heq =>
        rw [hread'] at heq
        cases heq
        exact ih h

end Token

theorem readDeclaration_append {s rest : List Char} {d : List Char × List Token}
    (h : readDeclaration s = some (d, rest)) (more : List Char) :
    readDeclaration (s ++ more) = some (d, rest ++ more) := by
  unfold readDeclaration at h
  split at h
  · cases h
  · next c after hkeyword =>
    split at h
    · next hspace =>
      split at h
      · next ts r htokens =>
        cases h
        simp only [readDeclaration, dropWhile_append_of_cons hkeyword,
          takeWhile_append_of_cons hkeyword, if_pos hspace, Token.readAll_append htokens more]
      · cases h
    · cases h

/-- A declaration is no comment: no hyphen stands where its keyword does. -/
theorem ne_hyphen_of_readDeclaration {s rest : List Char} {d : List Char × List Token}
    (h : readDeclaration s = some (d, rest)) (r : List Char) : s ≠ '-' :: r := by
  rintro rfl
  simp [readDeclaration, isSpace] at h

/-! ## The version line -/

theorem readSetting_append {s rest : List Char} {setting : String × List Char}
    (h : readSetting s = some (setting, rest)) (more : List Char) :
    readSetting (s ++ more) = some (setting, rest ++ more) := by
  unfold readSetting at h
  split at h
  · cases h
  · next c s =>
    split at h
    · next hspace =>
      split at h
      · next name value after hread =>
        split at h
        · next hvalue =>
          cases h
          obtain ⟨d, tail, hhead, -⟩ := head_of_readAttribute hread
          have hread' := readAttribute_append hread more
          rw [hhead, List.cons_append] at hread'
          simp only [readSetting, List.cons_append, if_pos hspace, skipSpace_append hhead more,
            hread', if_pos hvalue]
        · cases h
      · cases h
    · cases h

theorem head_of_readSetting {s rest : List Char} {setting : String × List Char}
    (h : readSetting s = some (setting, rest)) :
    ∃ c tail, skipSpace s = c :: tail ∧ isNameStart c = true := by
  unfold readSetting at h
  split at h
  · cases h
  · next c s =>
    split at h
    · next hspace =>
      split at h
      · next name value after hread =>
        rw [skipSpace, List.dropWhile_cons_of_pos hspace]
        exact head_of_readAttribute hread
      · cases h
    · cases h

/-- Where a setting stands the version line does not end, and does not end there either when more
follows. -/
theorem skipSpace_append_of_readSetting {s rest : List Char} {setting : String × List Char}
    (h : readSetting s = some (setting, rest)) (more : List Char) :
    ∃ c tail, skipSpace (s ++ more) = c :: tail ∧ c ≠ '?' := by
  obtain ⟨c, tail, hhead, hstart⟩ := head_of_readSetting h
  exact ⟨c, tail ++ more, skipSpace_append hhead more, (ne_mark_of_isNameStart hstart).1⟩

theorem readSettings_append {s rest : List Char} {settings : List (String × List Char)}
    (h : readSettings s = some (settings, rest)) (more : List Char) :
    readSettings (s ++ more) = some (settings, rest ++ more) := by
  unfold readSettings at h
  split at h
  · next hend =>
    cases h
    simp only [readSettings, skipSpace_append hend more, List.cons_append]
  · obtain ⟨⟨first, s₁⟩, hfirst, h⟩ := Option.bind_eq_some_iff.mp h
    obtain ⟨c₁, tail₁, hskip₁, hc₁⟩ := skipSpace_append_of_readSetting hfirst more
    dsimp only at h
    split at h
    · next hend =>
      cases h
      simp [readSettings, hskip₁, hc₁, readSetting_append hfirst more, skipSpace_append hend more]
    · obtain ⟨⟨second, s₂⟩, hsecond, h⟩ := Option.bind_eq_some_iff.mp h
      obtain ⟨c₂, tail₂, hskip₂, hc₂⟩ := skipSpace_append_of_readSetting hsecond more
      dsimp only at h
      split at h
      · next hend =>
        cases h
        simp [readSettings, hskip₁, hc₁, readSetting_append hfirst more, hskip₂, hc₂,
          readSetting_append hsecond more, skipSpace_append hend more]
      · obtain ⟨⟨third, s₃⟩, hthird, h⟩ := Option.bind_eq_some_iff.mp h
        obtain ⟨c₃, tail₃, hskip₃, hc₃⟩ := skipSpace_append_of_readSetting hthird more
        dsimp only at h
        split at h
        · next hend =>
          cases h
          simp [readSettings, hskip₁, hc₁, readSetting_append hfirst more, hskip₂, hc₂,
            readSetting_append hsecond more, hskip₃, hc₃, readSetting_append hthird more,
            skipSpace_append hend more]
        · cases h

/-- A document whose beginning may not yet be the opening of a version line is left out. -/
theorem readVersion_append {s rest : List Char} {alone : Bool}
    (h : readVersion s = some (alone, rest)) (hs : ¬ s <+: "<?xml".toList) (more : List Char) :
    readVersion (s ++ more) = some (alone, rest ++ more) := by
  unfold readVersion at h
  split at h
  · next c after hopening =>
    have hopening' := after?_append hopening more
    simp only [readVersion, hopening', List.cons_append]
    split at h
    · next hline =>
      obtain ⟨⟨settings, rest'⟩, hsettings, h⟩ := Option.bind_eq_some_iff.mp h
      obtain ⟨alone', halone, h⟩ := Option.bind_eq_some_iff.mp h
      cases h
      have hsettings' := readSettings_append hsettings more
      rw [List.cons_append] at hsettings'
      rw [if_pos hline, hsettings']
      simp [halone]
    · next hline =>
      cases h
      rw [if_neg hline]
  · next hopening =>
    cases h
    have hnone : after? "<?xml".toList s = none := by
      cases hafter : after? "<?xml".toList s with
      | none => rfl
      | some after =>
        cases after with
        | nil =>
          obtain rfl := after?_eq_some_iff.mp hafter
          exact absurd (List.prefix_refl _) hs
        | cons c after => exact absurd hafter (hopening c after)
    simp only [readVersion, after?_append_eq_none hnone hs more]

/-! ## Remarks -/

theorem afterRemarks?_of_comment {s r : List Char} (h : skipSpace s = '<' :: '!' :: '-' :: '-' :: r) :
    afterRemarks? s = (afterComment? r).bind afterRemarks? := by
  rw [afterRemarks?.eq_def, h]
  split
  · next heq =>
    cases heq
    split
    · next hafter => rw [hafter, Option.bind_none]
    · next hafter => rw [hafter, Option.bind_some]
  · next heq => cases heq
  · next hother _ => exact absurd rfl (hother r)

theorem afterRemarks?_of_instruction {s r : List Char} (h : skipSpace s = '<' :: '?' :: r) :
    afterRemarks? s = (afterInstruction? r).bind afterRemarks? := by
  rw [afterRemarks?.eq_def, h]
  split
  · next heq => cases heq
  · next heq =>
    cases heq
    split
    · next hafter => rw [hafter, Option.bind_none]
    · next hafter => rw [hafter, Option.bind_some]
  · next hother => exact absurd rfl (hother r)

theorem afterRemarks?_of_neither {s : List Char}
    (hcomment : ∀ r, skipSpace s ≠ '<' :: '!' :: '-' :: '-' :: r)
    (hinstruction : ∀ r, skipSpace s ≠ '<' :: '?' :: r) :
    afterRemarks? s = some (skipSpace s) := by
  rw [afterRemarks?.eq_def]
  split
  · next r heq => exact absurd heq (hcomment r)
  · next r heq => exact absurd heq (hinstruction r)
  · rfl

/-- Behind remarks no remark stands. -/
theorem afterRemarks?_self {s rest : List Char} (h : afterRemarks? s = some rest) :
    afterRemarks? rest = some rest := by
  fun_induction afterRemarks? s with
  | case1 => cases h
  | case2 s r hskip after hread ih => exact ih h
  | case3 => cases h
  | case4 s r hskip after hread ih => exact ih h
  | case5 s hcomment hinstruction =>
    cases h
    have hskip : skipSpace (skipSpace s) = skipSpace s := List.dropWhile_idempotent isSpace s
    rw [afterRemarks?_of_neither, hskip]
    · rw [hskip]
      exact hcomment
    · rw [hskip]
      exact hinstruction

/-- One of the two parts of a document that remarks may stand before begins here: its element, or
the declaration of its type. -/
def BeginsPart (s : List Char) : Prop :=
  (∃ c tail, s = '<' :: c :: tail ∧ isNameStart c = true) ∨ ∃ tail, s = "<!DOCTYPE".toList ++ tail

theorem BeginsPart.append {s : List Char} (h : BeginsPart s) (more : List Char) :
    BeginsPart (s ++ more) := by
  rcases h with ⟨c, tail, rfl, hstart⟩ | ⟨tail, rfl⟩
  · exact .inl ⟨c, tail ++ more, rfl, hstart⟩
  · exact .inr ⟨tail ++ more, List.append_assoc _ _ _⟩

theorem BeginsPart.ne_nil {s : List Char} (h : BeginsPart s) : s ≠ [] := by
  rcases h with ⟨c, tail, rfl, -⟩ | ⟨tail, rfl⟩ <;> simp

/-- No remark begins where another part does. -/
theorem BeginsPart.ne_remark {s : List Char} (h : BeginsPart s) (r : List Char) :
    s ≠ '<' :: '!' :: '-' :: '-' :: r ∧ s ≠ '<' :: '?' :: r := by
  rcases h with ⟨c, tail, rfl, hstart⟩ | ⟨tail, rfl⟩
  · obtain ⟨hquestion, hexclamation⟩ := ne_mark_of_isNameStart hstart
    constructor
    · intro heq
      exact hexclamation (List.cons.inj (List.cons.inj heq).2).1
    · intro heq
      exact hquestion (List.cons.inj (List.cons.inj heq).2).1
  · simp

theorem afterRemarks?_append {s rest : List Char} (h : afterRemarks? s = some rest)
    (hrest : BeginsPart rest) (more : List Char) :
    afterRemarks? (s ++ more) = some (rest ++ more) := by
  fun_induction afterRemarks? s with
  | case1 => cases h
  | case2 s r hskip after hread ih =>
    have hskip' : skipSpace (s ++ more) = '<' :: '!' :: '-' :: '-' :: (r ++ more) :=
      skipSpace_append hskip more
    rw [afterRemarks?_of_comment hskip', afterComment?_append hread]
    exact ih h
  | case3 => cases h
  | case4 s r hskip after hread ih =>
    have hskip' : skipSpace (s ++ more) = '<' :: '?' :: (r ++ more) := skipSpace_append hskip more
    rw [afterRemarks?_of_instruction hskip', afterInstruction?_append hread]
    exact ih h
  | case5 s hcomment hinstruction =>
    cases h
    obtain ⟨c, tail, hs⟩ := List.exists_cons_of_ne_nil hrest.ne_nil
    have hskip : skipSpace (s ++ more) = skipSpace s ++ more := by
      rw [skipSpace_append hs, hs, List.cons_append]
    have hmore := (hrest.append more).ne_remark
    rw [← hskip] at hmore ⊢
    exact afterRemarks?_of_neither (fun r => (hmore r).1) fun r => (hmore r).2

end Xml
end GpuInventory
