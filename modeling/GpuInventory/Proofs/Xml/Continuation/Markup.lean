import GpuInventory.Xml.Item
import GpuInventory.Xml.Token

/-!
Markup is read from the left: what was read stays read, whatever more the document turns out to
hold.

A reader that has come to an end of its own, a quote, a bracket or a semicolon, gives the same when
more text follows, and leaves that text.  A name or a run of blanks ends with whatever does not
belong to it, so for these something has to be left behind them already.  That is why a name at the
very end of a text is the one thing that more text can change.
-/

namespace GpuInventory
namespace Xml

/-! ## Runs of characters -/

theorem dropWhile_append_of_cons {p : Char → Bool} {s rest : List Char} {c : Char}
    (h : s.dropWhile p = c :: rest) (more : List Char) :
    (s ++ more).dropWhile p = c :: (rest ++ more) := by
  rw [List.dropWhile_append, h]
  rfl

theorem takeWhile_append_of_cons {p : Char → Bool} {s rest : List Char} {c : Char}
    (h : s.dropWhile p = c :: rest) (more : List Char) :
    (s ++ more).takeWhile p = s.takeWhile p := by
  rw [List.takeWhile_append, if_neg]
  intro hlength
  have hsplit := congrArg List.length (List.takeWhile_append_dropWhile (l := s) (p := p))
  rw [List.length_append, h, hlength, List.length_cons] at hsplit
  omega

theorem skipSpace_append {s rest : List Char} {c : Char} (h : skipSpace s = c :: rest)
    (more : List Char) : skipSpace (s ++ more) = c :: (rest ++ more) :=
  dropWhile_append_of_cons h more

theorem startsWithSpace_append {s : List Char} (h : startsWithSpace s = true) (more : List Char) :
    startsWithSpace (s ++ more) = true := by
  cases s with
  | nil => cases h
  | cons c s => exact h

/-! ## Words and stops -/

theorem after?_eq_some_iff {word s rest : List Char} :
    after? word s = some rest ↔ s = word ++ rest := by
  unfold after?
  by_cases h : word <+: s
  · rw [if_pos (List.isPrefixOf_iff_prefix.mpr h)]
    obtain ⟨rest', rfl⟩ := h
    simp
  · rw [if_neg (fun hp => h (List.isPrefixOf_iff_prefix.mp hp))]
    constructor
    · intro hnone
      cases hnone
    · rintro rfl
      exact absurd (List.prefix_append word rest) h

theorem after?_append {word s rest : List Char} (h : after? word s = some rest)
    (more : List Char) : after? word (s ++ more) = some (rest ++ more) := by
  rw [after?_eq_some_iff] at h ⊢
  rw [h, List.append_assoc]

/-- A text that is no beginning of a word does not become one. -/
theorem after?_append_eq_none {word s : List Char} (h : after? word s = none)
    (hs : ¬ s <+: word) (more : List Char) : after? word (s ++ more) = none := by
  rw [Option.eq_none_iff_forall_ne_some] at h ⊢
  intro rest hrest
  rw [after?_eq_some_iff] at hrest
  rcases List.append_eq_append_iff.mp hrest with ⟨between, hword, -⟩ | ⟨between, hs', -⟩
  · exact hs ⟨between, hword.symm⟩
  · exact h between (after?_eq_some_iff.mpr hs')

theorem length_le_of_readUpTo? {stop before s t rest : List Char}
    (h : readUpTo? stop before s = some (t, rest)) : stop.length ≤ s.length := by
  induction s generalizing before with
  | nil => cases h
  | cons c s ih =>
    simp only [readUpTo?] at h
    split at h
    · next r hr =>
      rw [after?_eq_some_iff] at hr
      rw [hr, List.length_append]
      omega
    · split at h
      · have := ih h
        rw [List.length_cons]
        omega
      · cases h

theorem readUpTo?_append {stop before s t rest : List Char}
    (h : readUpTo? stop before s = some (t, rest)) (more : List Char) :
    readUpTo? stop before (s ++ more) = some (t, rest ++ more) := by
  induction s generalizing before with
  | nil => cases h
  | cons c s ih =>
    rw [List.cons_append]
    simp only [readUpTo?] at h ⊢
    split at h
    · next r hr =>
      cases h
      rw [← List.cons_append, after?_append hr more]
    · next hnone =>
      split at h
      · next hc =>
        -- The stop is still to come, so what is left is too long to be its beginning.
        have hlong := length_le_of_readUpTo? h
        have hs : ¬ c :: s <+: stop := by
          intro hp
          have := hp.length_le
          rw [List.length_cons] at this
          omega
        rw [← List.cons_append, after?_append_eq_none hnone hs more, if_pos hc]
        exact ih h
      · cases h

theorem readQuoted_append {s t rest : List Char} (h : readQuoted s = some (t, rest))
    (more : List Char) : readQuoted (s ++ more) = some (t, rest ++ more) := by
  cases s with
  | nil => cases h
  | cons c s =>
    rw [List.cons_append]
    simp only [readQuoted] at h ⊢
    split at h
    · next hc =>
      rw [if_pos hc]
      exact readUpTo?_append h more
    · cases h

/-! ## Names -/

theorem readName_append {s rest : List Char} {n : String} {c : Char}
    (h : readName s = some (n, c :: rest)) (more : List Char) :
    readName (s ++ more) = some (n, c :: (rest ++ more)) := by
  cases s with
  | nil => cases h
  | cons d s =>
    rw [List.cons_append]
    simp only [readName] at h ⊢
    split at h
    · next hd =>
      obtain ⟨hn, hrest⟩ := Prod.mk.inj (Option.some.inj h)
      rw [if_pos hd, takeWhile_append_of_cons hrest, dropWhile_append_of_cons hrest, hn]
    · cases h

theorem head_of_readName {s rest : List Char} {n : String} (h : readName s = some (n, rest)) :
    ∃ c tail, s = c :: tail ∧ isNameStart c = true := by
  cases s with
  | nil => cases h
  | cons c tail =>
    simp only [readName] at h
    split at h
    · next hc => exact ⟨c, tail, rfl, hc⟩
    · cases h

theorem readQName_append {s rest : List Char} {n : QName} {c : Char}
    (h : readQName s = some (n, c :: rest)) (more : List Char) :
    readQName (s ++ more) = some (n, c :: (rest ++ more)) := by
  unfold readQName at h
  split at h
  · cases h
  · next first r hfirst =>
    split at h
    · cases h
    · next second after hsecond =>
      cases h
      simp only [readQName, readName_append hfirst more, readName_append hsecond more]
  · next first r hcolon hfirst =>
    cases h
    rw [readQName, readName_append hfirst]
    split
    · next heq => cases heq
    · next heq =>
      cases heq
      exact absurd rfl (hcolon rest)
    · next heq =>
      cases heq
      rfl

theorem head_of_readQName {s rest : List Char} {n : QName} (h : readQName s = some (n, rest)) :
    ∃ c tail, s = c :: tail ∧ isNameStart c = true := by
  unfold readQName at h
  split at h
  · cases h
  · next hfirst => exact head_of_readName hfirst
  · next hfirst => exact head_of_readName hfirst

/-! ## Remarks and references -/

theorem afterComment?_append {s rest : List Char} (h : afterComment? s = some rest)
    (more : List Char) : afterComment? (s ++ more) = some (rest ++ more) := by
  unfold afterComment? at h
  split at h
  · next text r hread =>
    cases h
    rw [afterComment?, readUpTo?_append hread]
    rfl
  · cases h

theorem afterInstruction?_append {s rest : List Char} (h : afterInstruction? s = some rest)
    (more : List Char) : afterInstruction? (s ++ more) = some (rest ++ more) := by
  unfold afterInstruction? at h
  split at h
  · cases h
  · next target after hname =>
    split at h
    · cases h
    · next hreserved =>
      split at h
      · cases h
        rw [afterInstruction?, readName_append hname]
        simp [hreserved]
      · next c r hclosing =>
        split at h
        · next hc =>
          obtain ⟨⟨text, r'⟩, hread, he⟩ := Option.map_eq_some_iff.mp h
          obtain rfl : r' = rest := he
          have hmark : c ≠ '?' := by
            rintro rfl
            cases hc
          have htext := readUpTo?_append hread more
          simp only [afterInstruction?, readName_append hname more, if_neg hreserved]
          split
          · next heq => exact absurd (List.cons.inj heq).1 hmark
          · next heq =>
            obtain ⟨rfl, rfl⟩ := List.cons.inj heq
            rw [if_pos hc, htext]
            rfl
          · next heq => cases heq
        · cases h
      · cases h

theorem readCode_append {isDigit : Char → Bool} {base : Nat} {s rest : List Char} {r : Reference}
    (h : readCode isDigit base s = some (r, rest))
    (more : List Char) :
    readCode isDigit base (s ++ more) = some (r, rest ++ more) := by
  unfold readCode at h ⊢
  dsimp only at h ⊢
  split at h
  · next after hend =>
    simp only [dropWhile_append_of_cons hend, takeWhile_append_of_cons hend]
    split at h
    · cases h
    · next hdigits =>
      obtain ⟨c, hc, he⟩ := Option.map_eq_some_iff.mp h
      cases he
      rw [if_neg hdigits, hc]
      rfl
  · cases h

theorem readReference_append {s rest : List Char} {r : Reference}
    (h : readReference s = some (r, rest)) (more : List Char) :
    readReference (s ++ more) = some (r, rest ++ more) := by
  unfold readReference at h
  split at h
  · exact readCode_append h more
  · next s hx =>
    -- A digit was read, so the character after the number sign is there.
    cases s with
    | nil => cases h
    | cons c s =>
      have hc : c ≠ 'x' := by
        rintro rfl
        exact hx s rfl
      rw [readReference.eq_def]
      split
      · next heq =>
        cases heq
        exact absurd rfl hc
      · next heq =>
        cases heq
        exact readCode_append h more
      · next heq => exact absurd rfl (heq _)
  · next hnumber _ =>
    split at h
    · next name after hname =>
      cases h
      obtain ⟨c, tail, rfl, hstart⟩ := head_of_readName hname
      have hc : c ≠ '#' := by
        rintro rfl
        cases hstart
      have hmore := readName_append hname more
      rw [List.cons_append] at hmore ⊢
      simp [readReference, hc, hmore]
    · cases h

/-! ## Tags and text -/

theorem readAttribute_append {s rest : List Char} {a : RawAttribute}
    (h : readAttribute s = some (a, rest)) (more : List Char) :
    readAttribute (s ++ more) = some (a, rest ++ more) := by
  unfold readAttribute at h
  split at h
  · cases h
  · next name after hname =>
    split at h
    · next value hsign =>
      obtain ⟨⟨text, r⟩, hquoted, he⟩ := Option.map_eq_some_iff.mp h
      cases he
      -- There is a sign behind the name and a quote behind the sign, so both have come to an end.
      cases after with
      | nil => cases hsign
      | cons c after =>
        cases hskip : skipSpace value with
        | nil =>
          rw [hskip] at hquoted
          cases hquoted
        | cons d quoted =>
          have hsign' := skipSpace_append hsign more
          have hquoted' := readQuoted_append hquoted more
          rw [hskip] at hquoted'
          rw [List.cons_append] at hsign' hquoted'
          simp only [readAttribute, readQName_append hname more, hsign',
            skipSpace_append hskip more, hquoted', Option.map_some]
    · cases h

theorem head_of_readAttribute {s rest : List Char} {a : RawAttribute}
    (h : readAttribute s = some (a, rest)) : ∃ c tail, s = c :: tail ∧ isNameStart c = true := by
  unfold readAttribute at h
  split at h
  · cases h
  · next hname => exact head_of_readQName hname

theorem readAttributes_append {before attributes : List RawAttribute} {closed : Bool}
    {s rest : List Char} (h : readAttributes before s = some (attributes, closed, rest))
    (more : List Char) :
    readAttributes before (s ++ more) = some (attributes, closed, rest ++ more) := by
  fun_induction readAttributes before s with
  | case1 before s r hend =>
    cases h
    rw [readAttributes.eq_def, skipSpace_append hend]
    rfl
  | case2 before s r hend =>
    cases h
    rw [readAttributes.eq_def, skipSpace_append hend]
    rfl
  | case3 => cases h
  | case4 before s hspace a r hread _ _ ih =>
    obtain ⟨c, tail, hhead, hstart⟩ := head_of_readAttribute hread
    have hread' := readAttribute_append hread more
    rw [hhead, List.cons_append] at hread'
    have hskip := skipSpace_append hhead more
    have hbracket : c ≠ '>' := by
      rintro rfl
      cases hstart
    have hslash : c ≠ '/' := by
      rintro rfl
      cases hstart
    rw [readAttributes.eq_def]
    simp only [hskip]
    split
    · next heq => exact absurd (List.cons.inj heq).1 hbracket
    · next heq => exact absurd (List.cons.inj heq).1 hslash
    · rw [dif_pos (startsWithSpace_append hspace more)]
      split
      · next heq =>
        rw [hskip, hread'] at heq
        cases heq
      · next heq =>
        rw [hskip, hread'] at heq
        cases heq
        exact ih h
  | case5 => cases h

theorem readStartTag_append {s rest : List Char} {i : Item}
    (h : readStartTag s = some (i, rest)) (more : List Char) :
    readStartTag (s ++ more) = some (i, rest ++ more) := by
  unfold readStartTag at h
  split at h
  · cases h
  · next name after hname =>
    obtain ⟨⟨attributes, closed, r⟩, hread, he⟩ := Option.map_eq_some_iff.mp h
    cases he
    have hread' := readAttributes_append hread more
    cases after with
    | nil =>
      have := length_readAttributes hread
      simp at this
    | cons c after =>
      rw [List.cons_append] at hread'
      simp only [readStartTag, readQName_append hname more, hread', Option.map_some]

theorem readEndTag_append {s rest : List Char} {i : Item} (h : readEndTag s = some (i, rest))
    (more : List Char) : readEndTag (s ++ more) = some (i, rest ++ more) := by
  unfold readEndTag at h
  split at h
  · cases h
  · next name after hname =>
    split at h
    · next r hend =>
      cases h
      have hend' := skipSpace_append hend more
      cases after with
      | nil => cases hend
      | cons c after =>
        rw [List.cons_append] at hend'
        simp only [readEndTag, readQName_append hname more, hend']
    · cases h

theorem readText_append {s rest : List Char} {i : Item} {c : Char}
    (h : readText s = some (i, c :: rest)) (more : List Char) :
    readText (s ++ more) = some (i, c :: (rest ++ more)) := by
  unfold readText at h ⊢
  dsimp only at h ⊢
  split at h
  · cases h
  · next hproper =>
    obtain ⟨hi, hrest⟩ := Prod.mk.inj (Option.some.inj h)
    rw [takeWhile_append_of_cons hrest, dropWhile_append_of_cons hrest, if_neg hproper, hi]

theorem head_of_readStartTag {s rest : List Char} {i : Item}
    (h : readStartTag s = some (i, rest)) : ∃ c tail, s = c :: tail ∧ isNameStart c = true := by
  unfold readStartTag at h
  split at h
  · cases h
  · next hname => exact head_of_readQName hname

/-- A bracket with the start of a name behind it begins a tag. -/
theorem readItem_of_isNameStart {c : Char} (h : isNameStart c = true) (tail : List Char) :
    readItem ('<' :: c :: tail) = readStartTag (c :: tail) := by
  have hslash : c ≠ '/' := by
    rintro rfl
    cases h
  have hquestion : c ≠ '?' := by
    rintro rfl
    cases h
  have hexclamation : c ≠ '!' := by
    rintro rfl
    cases h
  simp [readItem, hslash, hquestion, hexclamation]

/-- Text alone goes on when more of it follows. -/
theorem readItem_append {s rest : List Char} {i : Item} (h : readItem s = some (i, rest))
    (hi : rest ≠ [] ∨ ∀ chars, i ≠ .text chars) (more : List Char) :
    readItem (s ++ more) = some (i, rest ++ more) := by
  unfold readItem at h
  split at h
  · exact readEndTag_append h more
  · obtain ⟨r, hread, he⟩ := Option.map_eq_some_iff.mp h
    cases he
    exact congrArg (Option.map _) (afterInstruction?_append hread more)
  · obtain ⟨r, hread, he⟩ := Option.map_eq_some_iff.mp h
    cases he
    exact congrArg (Option.map _) (afterComment?_append hread more)
  · split at h
    · cases h
    · next literal hopening =>
      obtain ⟨⟨text, r⟩, hread, he⟩ := Option.map_eq_some_iff.mp h
      cases he
      obtain rfl := after?_eq_some_iff.mp hopening
      exact congrArg (Option.map _) (readUpTo?_append hread more)
  · obtain ⟨c, tail, rfl, hstart⟩ := head_of_readStartTag h
    rw [List.cons_append, List.cons_append, readItem_of_isNameStart hstart]
    exact readStartTag_append h more
  · split at h
    · cases h
    · next c r hread =>
      cases h
      rw [List.cons_append, readItem, readReference_append hread]
    · next name r hread =>
      cases h
      rw [List.cons_append, readItem, readReference_append hread]
  · next hbracket hampersand =>
    cases s with
    | nil => cases h
    | cons d s =>
      cases rest with
      | nil =>
        -- Text up to the end of the document is a text, which the hypothesis leaves out.
        simp only [readText] at h
        split at h
        · cases h
        · obtain ⟨hi', -⟩ := Prod.mk.inj (Option.some.inj h)
          rcases hi with hne | hi
          · exact absurd rfl hne
          · exact absurd hi'.symm (hi _)
      | cons c rest =>
        have hd : d ≠ '<' := by
          rintro rfl
          exact hbracket s rfl
        have hd' : d ≠ '&' := by
          rintro rfl
          exact hampersand s rfl
        have h' := readText_append h more
        rw [List.cons_append] at h' ⊢
        simp [readItem, hd, hd', h']

end Xml
end GpuInventory
