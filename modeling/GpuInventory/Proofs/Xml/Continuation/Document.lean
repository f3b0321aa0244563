import GpuInventory.Proofs.Xml.Continuation.Content
import GpuInventory.Proofs.Xml.Continuation.Prolog
import Mathlib.Data.List.Infix

/-!
A document whose element has been read to its end keeps that element when more follows.

So nothing is an element before its end: a text that stops short of the end of the element of a
document has no element of its own, whatever its remarks, declarations, attribute values and
replacement texts look like.
-/

namespace GpuInventory
namespace Xml

/-! ## The declaration of the type -/

namespace Dtd

theorem readSubset_of_reference {dtd : Dtd} {s r after : List Char} {name : String}
    (hs : skipSpace s = '%' :: r) (hname : readName r = some (name, ';' :: after)) :
    dtd.readSubset s = dtd.skipPart.readSubset after := by
  rw [readSubset.eq_def, hs]
  split
  · next heq => cases heq
  · next heq =>
    cases heq
    split
    · next heq =>
      rw [hname] at heq
      cases heq
      rfl
    · next hother => exact absurd hname (hother name after)
  · next heq => cases heq
  · next heq => cases heq
  · next heq => cases heq
  · next hother _ _ _ => exact absurd rfl (hother r)

theorem readSubset_of_instruction {dtd : Dtd} {s r : List Char} (hs : skipSpace s = '<' :: '?' :: r) :
    dtd.readSubset s = (afterInstruction? r).bind dtd.readSubset := by
  rw [readSubset.eq_def, hs]
  split
  · next heq => cases heq
  · next heq => cases heq
  · next heq =>
    cases heq
    split
    · next hafter => rw [hafter, Option.bind_some]
    · next hafter => rw [hafter, Option.bind_none]
  · next heq => cases heq
  · next heq => cases heq
  · next hother _ _ => exact absurd rfl (hother r)

theorem readSubset_of_comment {dtd : Dtd} {s r : List Char}
    (hs : skipSpace s = '<' :: '!' :: '-' :: '-' :: r) :
    dtd.readSubset s = (afterComment? r).bind dtd.readSubset := by
  rw [readSubset.eq_def, hs]
  split
  · next heq => cases heq
  · next heq => cases heq
  · next heq => cases heq
  · next heq =>
    cases heq
    split
    · next hafter => rw [hafter, Option.bind_some]
    · next hafter => rw [hafter, Option.bind_none]
  · next hother heq =>
    cases heq
    exact absurd rfl (hother r)
  · next hother _ => exact absurd rfl (hother r)

theorem readSubset_of_declaration {dtd : Dtd} {s r after keyword : List Char} {ts : List Token}
    (hs : skipSpace s = '<' :: '!' :: r) (hread : readDeclaration r = some ((keyword, ts), after)) :
    dtd.readSubset s =
      ({ dtd with volume := dtd.volume.upTo after }.declare? keyword ts).bind fun dtd =>
        dtd.readSubset after := by
  rw [readSubset.eq_def, hs]
  split
  · next heq => cases heq
  · next heq => cases heq
  · next heq => cases heq
  · next r' heq => exact absurd (by cases heq; rfl) (ne_hyphen_of_readDeclaration hread ('-' :: r'))
  · next heq =>
    cases heq
    split
    · next heq =>
      rw [hread] at heq
      cases heq
    · next heq =>
      rw [hread] at heq
      cases heq
      cases Dtd.declare? { dtd with volume := dtd.volume.upTo after } keyword ts <;> rfl
  · next hother => exact absurd rfl (hother r)

theorem readSubset_of_bracket {dtd : Dtd} {s r : List Char} (hs : skipSpace s = ']' :: r) :
    dtd.readSubset s = some (dtd, r) := by
  rw [readSubset.eq_def, hs]
  rfl

theorem readSubset_append {dtd last : Dtd} {s rest : List Char}
    (h : dtd.readSubset s = some (last, rest)) (more : List Char) :
    (dtd.followedBy more).readSubset (s ++ more) = some (last.followedBy more, rest ++ more) := by
  fun_induction Dtd.readSubset dtd s with
  | case1 dtd s r hskip =>
    cases h
    exact readSubset_of_bracket (skipSpace_append hskip more)
  | case2 dtd s r hskip name after hname ih =>
    rw [readSubset_of_reference (skipSpace_append hskip more) (readName_append hname more),
      skipPart_followedBy]
    exact ih h
  | case4 dtd s r hskip after hread ih =>
    have hskip' : skipSpace (s ++ more) = '<' :: '?' :: (r ++ more) := skipSpace_append hskip more
    rw [readSubset_of_instruction hskip', afterInstruction?_append hread]
    exact ih h
  | case6 dtd s r hskip after hread ih =>
    have hskip' : skipSpace (s ++ more) = '<' :: '!' :: '-' :: '-' :: (r ++ more) :=
      skipSpace_append hskip more
    rw [readSubset_of_comment hskip', afterComment?_append hread]
    exact ih h
  | case10 dtd s r hother hskip keyword ts after hread declared hdeclare ih =>
    have hskip' : skipSpace (s ++ more) = '<' :: '!' :: (r ++ more) := skipSpace_append hskip more
    have hdeclare' := declare?_followedBy hdeclare more
    rw [readSubset_of_declaration hskip' (readDeclaration_append hread more)]
    exact Option.bind_eq_some_iff.mpr ⟨declared.followedBy more, hdeclare', ih h⟩
  | _ => cases h

end Dtd

/-- A document whose beginning may not yet be the opening of the declaration is left out. -/
theorem readType_append {alone : Bool} {volume : Volume} {s rest : List Char} {dtd : Dtd}
    (h : readType alone volume s = some (dtd, rest)) (hs : ¬ s <+: "<!DOCTYPE".toList)
    (more : List Char) :
    readType alone (volume.followedBy more) (s ++ more) =
      some (dtd.followedBy more, rest ++ more) := by
  unfold readType at h
  split at h
  · next hopening =>
    cases h
    rw [readType, after?_append_eq_none hopening hs]
    rfl
  · cases h
  · next c after hopening =>
    rw [readType, after?_append hopening more]
    split at h
    · next hspace =>
      obtain ⟨⟨ts, bracket, declared⟩, htokens, h⟩ := Option.bind_eq_some_iff.mp h
      obtain ⟨incomplete, hexternal, h⟩ := Option.bind_eq_some_iff.mp h
      dsimp only [List.cons_append]
      rw [if_pos hspace]
      refine Option.bind_eq_some_iff.mpr ⟨_, Token.readAll_append htokens more, ?_⟩
      refine Option.bind_eq_some_iff.mpr ⟨incomplete, hexternal, ?_⟩
      dsimp only at h ⊢
      split at h
      · next hbracket =>
        obtain ⟨⟨last, subset⟩, hsubset, h⟩ := Option.bind_eq_some_iff.mp h
        obtain ⟨closing, hclosing, h⟩ := Option.bind_eq_some_iff.mp h
        cases h
        rw [if_pos hbracket]
        refine Option.bind_eq_some_iff.mpr ⟨_, Dtd.readSubset_append hsubset more, ?_⟩
        refine Option.bind_eq_some_iff.mpr ⟨rest ++ more, ?_, rfl⟩
        have hend := after?_eq_some_iff.mp hclosing
        exact after?_eq_some_iff.mpr (skipSpace_append hend more)
      · next hbracket =>
        cases h
        rw [if_neg hbracket]
        rfl
    · cases h

/-- Either no type is declared and nothing was read, or the whole opening was there. -/
theorem opening_of_readType {alone : Bool} {volume : Volume} {s rest : List Char} {dtd : Dtd}
    (h : readType alone volume s = some (dtd, rest)) :
    (rest = s ∧ after? "<!DOCTYPE".toList s = none) ∨
      ∃ c tail, s = "<!DOCTYPE".toList ++ c :: tail := by
  unfold readType at h
  split at h
  · next hnone =>
    cases h
    exact .inl ⟨rfl, hnone⟩
  · cases h
  · next c tail hopening => exact .inr ⟨c, tail, after?_eq_some_iff.mp hopening⟩

/-! ## The element -/

theorem head_of_startTag {s rest : List Char} {name : QName} {attributes : List RawAttribute}
    {closed : Bool} (h : readItem s = some (.startTag name attributes closed, rest)) :
    ∃ c tail, s = '<' :: c :: tail ∧ isNameStart c = true := by
  unfold readItem at h
  split at h
  · unfold readEndTag at h
    split at h
    · cases h
    · split at h <;> cases h
  · obtain ⟨r, -, he⟩ := Option.map_eq_some_iff.mp h
    cases he
  · obtain ⟨r, -, he⟩ := Option.map_eq_some_iff.mp h
    cases he
  · split at h
    · cases h
    · obtain ⟨r, -, he⟩ := Option.map_eq_some_iff.mp h
      cases he
  · obtain ⟨c, tail, rfl, hstart⟩ := head_of_readStartTag h
    exact ⟨c, tail, rfl, hstart⟩
  · split at h <;> cases h
  · unfold readText at h
    dsimp only at h
    split at h <;> cases h

theorem head_of_readRoot {dtd : Dtd} {s : List Char} {root : Element × Volume × List Char}
    (h : readRoot dtd s = some root) : ∃ c tail, s = '<' :: c :: tail ∧ isNameStart c = true := by
  unfold readRoot at h
  split at h
  · next hread => exact head_of_startTag hread
  · cases h

theorem readRoot_append {dtd : Dtd} {s rest : List Char} {root : Element} {left : Volume}
    (h : readRoot dtd s = some (root, left, rest)) (more : List Char) :
    readRoot (dtd.followedBy more) (s ++ more) = some (root, left.followedBy more, rest ++ more) := by
  unfold readRoot at h
  split at h
  · next name attributes closed after hread =>
    have hread' := readItem_append hread (by simp) more
    split at h
    · cases h
    · next first volume hstart =>
      have hstart' := OpenElement.start?_followedBy hstart more
      have hvolume : (dtd.followedBy more).volume.upTo (after ++ more) =
          (dtd.volume.upTo after).followedBy more := rfl
      simp only [readRoot, hread', hvolume, hstart']
      split at h
      · next hclosed =>
        cases h
        rw [if_pos hclosed]
      · next hclosed =>
        rw [if_neg hclosed]
        have hinner : ∀ p ∈ ([⟨none, after, 0⟩] : List Passage), p.IsInner := by
          intro p hp
          obtain rfl := List.mem_singleton.mp hp
          intro hentity
          cases hentity
        exact readContent_append h hinner more
  · cases h

/-! ## Documents -/

/-- What remarks stand before is the element, or the declaration that is followed by it. -/
theorem beginsPart_of_afterRemarks? {alone : Bool} {volume : Volume} {s t u v : List Char}
    {dtd : Dtd} (hremarks : afterRemarks? s = some t)
    (htype : readType alone volume t = some (dtd, u)) (hremarks' : afterRemarks? u = some v)
    (hroot : ∃ c tail, v = '<' :: c :: tail ∧ isNameStart c = true) : BeginsPart t := by
  rcases opening_of_readType htype with ⟨rfl, -⟩ | ⟨c, tail, rfl⟩
  · rw [afterRemarks?_self hremarks] at hremarks'
    cases hremarks'
    exact .inl hroot
  · exact .inr ⟨c :: tail, rfl⟩

theorem not_prefix_of_readType {alone : Bool} {volume : Volume} {t u : List Char} {dtd : Dtd}
    (htype : readType alone volume t = some (dtd, u)) (ht : BeginsPart t) :
    ¬ t <+: "<!DOCTYPE".toList := by
  intro hprefix
  rcases opening_of_readType htype with ⟨rfl, hnone⟩ | ⟨c, tail, rfl⟩
  · rcases ht with ⟨c, tail, rfl, hstart⟩ | ⟨tail, rfl⟩
    · obtain ⟨rest, hrest⟩ := hprefix
      exact (ne_mark_of_isNameStart hstart).2 (List.cons.inj (List.cons.inj hrest).2).1
    · rw [after?_eq_some_iff.mpr rfl] at hnone
      cases hnone
  · have hlength := hprefix.length_le
    rw [List.length_append, List.length_cons] at hlength
    omega

/-- Nothing is behind the remarks of a text that breaks off within the opening of the version
line. -/
theorem not_prefix_of_readVersion {alone : Bool} {s t u : List Char}
    (hversion : readVersion s = some (alone, t)) (hremarks : afterRemarks? t = some u)
    (hu : BeginsPart u) : ¬ s <+: "<?xml".toList := by
  intro hs
  have ht : t = s := by
    unfold readVersion at hversion
    split at hversion
    · next c r hopening =>
      have hlength := hs.length_le
      rw [after?_eq_some_iff.mp hopening, List.length_append, List.length_cons] at hlength
      omega
    · cases hversion
      rfl
  subst ht
  have hinits : t ∈ "<?xml".toList.inits := (List.mem_inits _ _).mpr hs
  simp only [String.reduceToList, List.inits, List.map, List.mem_cons, List.not_mem_nil, or_false]
    at hinits
  rcases hinits with rfl | rfl | rfl | rfl | rfl | rfl
  · rw [afterRemarks?_of_neither (by simp [skipSpace]) (by simp [skipSpace])] at hremarks
    cases hremarks
    exact hu.ne_nil rfl
  · rw [afterRemarks?_of_neither (by simp [skipSpace, isSpace]) (by simp [skipSpace, isSpace])]
      at hremarks
    cases hremarks
    rcases hu with ⟨c, tail, heq, -⟩ | ⟨tail, heq⟩ <;> cases heq
  · rw [afterRemarks?_of_instruction rfl] at hremarks
    cases hremarks
  · rw [afterRemarks?_of_instruction rfl] at hremarks
    cases hremarks
  · rw [afterRemarks?_of_instruction rfl] at hremarks
    cases hremarks
  · rw [afterRemarks?_of_instruction rfl] at hremarks
    cases hremarks

theorem skipByteOrderMark_append {s : List Char} (hs : s ≠ []) (more : List Char) :
    skipByteOrderMark (s ++ more) = skipByteOrderMark s ++ more := by
  cases s with
  | nil => exact absurd rfl hs
  | cons c s =>
    by_cases hc : c = '\uFEFF'
    · subst hc
      rfl
    · simp [skipByteOrderMark, hc]

/-- More text behind the element of a document leaves the element as it is. -/
theorem readElement_append {s rest : List Char} {root : Element} {left : Volume}
    (h : readElement s = some (root, left, rest)) (more : List Char) :
    readElement (s ++ more) = some (root, left.followedBy more, rest ++ more) := by
  obtain ⟨⟨alone, s₁⟩, hversion, h⟩ := Option.bind_eq_some_iff.mp h
  obtain ⟨s₂, hremarks, h⟩ := Option.bind_eq_some_iff.mp h
  obtain ⟨⟨dtd, s₃⟩, htype, h⟩ := Option.bind_eq_some_iff.mp h
  obtain ⟨s₄, hremarks', h⟩ := Option.bind_eq_some_iff.mp h
  have hs₂ := beginsPart_of_afterRemarks? hremarks htype hremarks' (head_of_readRoot h)
  have hs₄ : BeginsPart s₄ := .inl (head_of_readRoot h)
  have hopening := not_prefix_of_readVersion hversion hremarks hs₂
  have hversion' := readVersion_append hversion hopening more
  have htype' := readType_append htype (not_prefix_of_readType htype hs₂) more
  have hmark : skipByteOrderMark (s ++ more) = skipByteOrderMark s ++ more := by
    refine skipByteOrderMark_append ?_ more
    rintro rfl
    exact hopening List.nil_prefix
  rw [← Volume.start_append] at htype'
  rw [← hmark] at hversion'
  refine Option.bind_eq_some_iff.mpr ⟨_, hversion', ?_⟩
  refine Option.bind_eq_some_iff.mpr ⟨_, afterRemarks?_append hremarks hs₂ more, ?_⟩
  refine Option.bind_eq_some_iff.mpr ⟨_, htype', ?_⟩
  refine Option.bind_eq_some_iff.mpr ⟨_, afterRemarks?_append hremarks' hs₄ more, ?_⟩
  exact readRoot_append h more

/-! ## Documents that are cut short -/

theorem readElement_of_readDocument {s : List Char} {root : Element}
    (h : readDocument s = some root) : ∃ volume rest, readElement s = some (root, volume, rest) := by
  obtain ⟨⟨root', volume, rest⟩, hread, h⟩ := Option.bind_eq_some_iff.mp h
  obtain ⟨rest', -, h⟩ := Option.bind_eq_some_iff.mp h
  split at h
  · cases h
    exact ⟨volume, rest, hread⟩
  · cases h

/-- A document that is the beginning of another one has the element of that one. -/
theorem readDocument_eq_of_prefix {s t : List Char} {root root' : Element}
    (h : readDocument t = some root) (h' : readDocument s = some root') (hs : s <+: t) :
    root' = root := by
  obtain ⟨more, rfl⟩ := hs
  obtain ⟨volume, rest, hread⟩ := readElement_of_readDocument h
  obtain ⟨volume', rest', hread'⟩ := readElement_of_readDocument h'
  rw [readElement_append hread' more] at hread
  cases hread
  rfl

/-- Before the end of an element nothing is the element of a document. -/
theorem readElement_eq_none_of_prefix {s t : List Char} {root : Element} {volume : Volume}
    (h : readElement t = some (root, volume, [])) (hs : s <+: t) (hne : s ≠ t) :
    readElement s = none := by
  obtain ⟨more, rfl⟩ := hs
  cases hread : readElement s with
  | none => rfl
  | some earlier =>
    obtain ⟨root', volume', rest⟩ := earlier
    have hmore := readElement_append hread more
    rw [h] at hmore
    cases Prod.mk.inj (Option.some.inj hmore) with
    | intro hroot hrest =>
      obtain ⟨-, rfl⟩ := List.append_eq_nil_iff.mp (Prod.mk.inj hrest).2.symm
      exact absurd (List.append_nil s).symm hne

end Xml
end GpuInventory
