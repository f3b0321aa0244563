import GpuInventory.Proofs.Xml.Continuation.Markup
import GpuInventory.Proofs.Xml.Continuation.Volume
import GpuInventory.Xml.Content

/-!
The element of a document is known once its end tag has been read, and more of the document does not
change it.

Of the passages that are being read only the document's goes on when the document does, and it is
always the one the outermost element ends in: what an entity opens it has to close, so its passage
began within an element that it cannot close.  `Passage.IsInner` is the invariant that says so.
-/

namespace GpuInventory
namespace Xml

/-! ## Passages -/

namespace Passage

/-- The same place in a document that goes on longer.  Replacement texts do not. -/
def followedBy (p : Passage) (more : List Char) : Passage :=
  { p with rest := if p.entity.isSome then p.rest else p.rest ++ more }

theorem names_followedBy (p : Passage) (around : List Passage) (more : List Char) :
    names (p.followedBy more :: around.map (·.followedBy more)) = names (p :: around) := by
  show List.filterMap Passage.entity (List.map (·.followedBy more) (p :: around)) = _
  rw [List.filterMap_map]
  rfl

/-- A replacement text is read within an element. -/
def IsInner (p : Passage) : Prop :=
  p.entity.isSome = true → 0 < p.depth

theorem isInner_behind {entity : Option String} {s rest : List Char} {depth : Nat}
    {around : List Passage}
    (h : ∀ p ∈ (⟨entity, s, depth⟩ :: around : List Passage), p.IsInner) :
    ∀ p ∈ (⟨entity, rest, depth⟩ :: around : List Passage), p.IsInner := by
  obtain ⟨hfirst, haround⟩ := List.forall_mem_cons.mp h
  exact List.forall_mem_cons.mpr ⟨hfirst, haround⟩

end Passage

theorem volumeAfter?_followedBy {volume seen : Volume} {entity : Option String} {rest : List Char}
    {depth : Nat} (h : volumeAfter? volume entity rest = some seen) (more : List Char) :
    volumeAfter? (volume.followedBy more) entity
        (Passage.followedBy ⟨entity, rest, depth⟩ more).rest =
      some (seen.followedBy more) := by
  obtain ⟨hsome, hborne⟩ := Option.filter_eq_some_iff.mp h
  cases hsome
  refine Option.filter_eq_some_iff.mpr ⟨congrArg some ?_, ?_⟩
  · unfold Passage.followedBy
    split <;> rfl
  · rw [Volume.isBorne_followedBy]
    exact hborne

/-! ## Items -/

/-- How reading goes on behind an item of the innermost passage. -/
def readBehind (dtd : Dtd) (seen : Volume) (p : Passage) (around : List Passage)
    (current : OpenElement) (parents : List OpenElement) :
    Item → Option (Element × Volume × List Char)
  | .remark => readContent dtd seen (p :: around) current parents
  | .text chars =>
    readContent dtd seen (p :: around) (current.addText (passageText p.entity chars)) parents
  | .char c => readContent dtd seen (p :: around) (current.addText (String.singleton c)) parents
  | .startTag name attributes closed =>
    (OpenElement.start? dtd current.scope (Passage.names (p :: around)) seen name attributes
      closed).bind fun (child, after) =>
        if closed then
          readContent dtd after (p :: around) (current.addChild child.close) parents
        else readContent dtd after (p :: around) child (current :: parents)
  | .endTag name =>
    if name == current.name && (p.depth == 0 || p.depth < parents.length + 1) then
      match parents with
      | [] => some (current.close, seen, p.rest)
      | parent :: parents =>
        readContent dtd seen (p :: around) (parent.addChild current.close) parents
    else none
  | .entity name =>
    match predefined? name with
    | some c =>
      readContent dtd seen.addNamed (p :: around) (current.addText (String.singleton c)) parents
    | none =>
      match dtd.entity? name with
      | some (some []) => readContent dtd seen (p :: around) current parents
      | some (some (d :: text)) =>
        if name ∈ Passage.names (p :: around) then none
        else
          (seen.replace? (d :: text)).bind fun after =>
            readContent dtd after (⟨some name, d :: text, parents.length + 1⟩ :: p :: around)
              current parents
      | _ => none

theorem readContent_of_item {dtd : Dtd} {volume seen : Volume} {entity : Option String}
    {s rest : List Char} {depth : Nat} {around : List Passage} {current : OpenElement}
    {parents : List OpenElement} {item : Item} (hitem : readItem s = some (item, rest))
    (hseen : volumeAfter? volume entity rest = some seen) :
    readContent dtd volume (⟨entity, s, depth⟩ :: around) current parents =
      readBehind dtd seen ⟨entity, rest, depth⟩ around current parents item := by
  cases s with
  | nil => cases hitem
  | cons c s =>
    rw [readContent.eq_def]
    dsimp only
    split
    · next heq =>
      rw [hitem] at heq
      cases heq
    · next heq =>
      rw [hitem] at heq
      cases heq
      split
      · next heq =>
        rw [hseen] at heq
        cases heq
      · next heq =>
        rw [hseen] at heq
        cases heq
        cases item with
        | startTag name attributes closed =>
          dsimp only [readBehind]
          split
          · next heq =>
            rw [heq]
            rfl
          · next heq =>
            rw [heq]
            rfl
        | entity name =>
          dsimp only [readBehind]
          cases predefined? name with
          | some c => rfl
          | none =>
            dsimp only
            cases dtd.entity? name with
            | none => rfl
            | some replacement =>
              cases replacement with
              | none => rfl
              | some text =>
                cases text with
                | nil => rfl
                | cons d text =>
                  dsimp only
                  split
                  · rfl
                  · split
                    · next heq =>
                      rw [heq]
                      rfl
                    · next heq =>
                      rw [heq]
                      rfl
        | remark | text | char | endTag => rfl

/-- Text up to the end of a passage is the only item that more of the passage changes. -/
theorem readItem_followedBy {entity : Option String} {s rest : List Char} {depth : Nat} {item : Item}
    (h : readItem s = some (item, rest))
    (hitem : entity.isSome = true ∨ rest ≠ [] ∨ ∀ chars, item ≠ .text chars) (more : List Char) :
    readItem (Passage.followedBy ⟨entity, s, depth⟩ more).rest =
      some (item, (Passage.followedBy ⟨entity, rest, depth⟩ more).rest) := by
  unfold Passage.followedBy
  split
  · exact h
  · next hdocument => exact readItem_append h (hitem.resolve_left hdocument) more

/-! ## Content -/

theorem readContent_followedBy {dtd : Dtd} {volume seen : Volume} {entity : Option String}
    {s rest : List Char} {depth : Nat} {around : List Passage} {current : OpenElement}
    {parents : List OpenElement} {item : Item} (hitem : readItem s = some (item, rest))
    (htext : entity.isSome = true ∨ rest ≠ [] ∨ ∀ chars, item ≠ .text chars)
    (hseen : volumeAfter? volume entity rest = some seen) (more : List Char) :
    readContent (dtd.followedBy more) (volume.followedBy more)
        ((⟨entity, s, depth⟩ :: around).map (·.followedBy more)) current parents =
      readBehind (dtd.followedBy more) (seen.followedBy more)
        (Passage.followedBy ⟨entity, rest, depth⟩ more) (around.map (·.followedBy more)) current
        parents item :=
  readContent_of_item (readItem_followedBy hitem htext more) (volumeAfter?_followedBy hseen more)

/-- The document cannot end with text of an element that is open. -/
theorem ne_nil_of_readContent {dtd : Dtd} {volume : Volume} {p : Passage} {around : List Passage}
    {current : OpenElement} {parents : List OpenElement} {root : Element × Volume × List Char}
    (h : readContent dtd volume (p :: around) current parents = some root) :
    p.entity.isSome = true ∨ p.rest ≠ [] := by
  obtain ⟨entity, rest, depth⟩ := p
  cases rest with
  | cons c rest => exact .inr (List.cons_ne_nil c rest)
  | nil =>
    rw [readContent] at h
    split at h
    · next hentity => exact .inl hentity.1
    · cases h

/-- What an entity opened has to be closed, so the outermost element ends in the document. -/
theorem followedBy_of_isInner {p : Passage} (hinner : p.IsInner) (hdepth : p.depth = 0)
    (more : List Char) : (p.followedBy more).rest = p.rest ++ more := by
  have hdocument : ¬ p.entity.isSome = true := fun h => by
    have := hinner h
    omega
  exact if_neg hdocument

theorem readContent_append {dtd : Dtd} {volume left : Volume} {passages : List Passage}
    {current : OpenElement} {parents : List OpenElement} {root : Element} {rest : List Char}
    (h : readContent dtd volume passages current parents = some (root, left, rest))
    (hinner : ∀ p ∈ passages, p.IsInner) (more : List Char) :
    readContent (dtd.followedBy more) (volume.followedBy more)
      (passages.map (·.followedBy more)) current parents =
        some (root, left.followedBy more, rest ++ more) := by
  fun_induction readContent dtd volume passages current parents with
  | case2 volume current parents entity depth around hentity ih =>
    have hend : Passage.followedBy ⟨entity, [], depth⟩ more = ⟨entity, [], depth⟩ := by
      simp [Passage.followedBy, hentity.1]
    rw [List.map_cons, hend, readContent, if_pos hentity]
    exact ih h fun p hp => hinner p (List.mem_cons_of_mem _ hp)
  | case6 volume current parents entity c s depth around behind seen hseen _ hitem ih =>
    rw [readContent_followedBy hitem (by simp) hseen]
    exact ih h (Passage.isInner_behind hinner)
  | case7 volume current parents entity c s depth around behind seen hseen chars _ hitem ih =>
    rw [readContent_followedBy hitem ((ne_nil_of_readContent h).imp_right .inl) hseen]
    exact ih h (Passage.isInner_behind hinner)
  | case8 volume current parents entity c s depth around behind seen hseen char _ hitem ih =>
    rw [readContent_followedBy hitem (by simp) hseen]
    exact ih h (Passage.isInner_behind hinner)
  | case10 volume current parents entity c s depth around behind seen hseen name attributes child
      after hitem hstart _ ih =>
    rw [readContent_followedBy hitem (by simp) hseen,
      readBehind, Passage.names_followedBy, OpenElement.start?_followedBy hstart]
    exact ih h (Passage.isInner_behind hinner)
  | case11 volume current parents entity c s depth around behind seen hseen name attributes closed
      hitem child after hstart hopen _ ih =>
    rw [readContent_followedBy hitem (by simp) hseen,
      readBehind, Passage.names_followedBy, OpenElement.start?_followedBy hstart]
    exact (if_neg hopen).trans (ih h (Passage.isInner_behind hinner))
  | case12 volume current entity c s depth around behind seen hseen name hitem hname _ =>
    rw [readContent_followedBy hitem (by simp) hseen,
      readBehind]
    cases h
    have hdepth : depth = 0 := by
      rw [Bool.and_eq_true, Bool.or_eq_true, beq_iff_eq, decide_eq_true_eq] at hname
      simp only [beq_iff_eq, List.length_nil] at hname
      omega
    have hlast : Passage.IsInner ⟨entity, rest, depth⟩ := (List.forall_mem_cons.mp hinner).1
    have hend := followedBy_of_isInner hlast hdepth more
    refine (if_pos hname).trans ?_
    rw [hend]
  | case13 volume current entity c s depth around behind seen hseen name hitem parent parents hname
      _ ih =>
    rw [readContent_followedBy hitem (by simp) hseen,
      readBehind]
    exact (if_pos hname).trans (ih h (Passage.isInner_behind hinner))
  | case15 volume current parents entity c s depth around behind seen hseen name hitem char hnamed
      _ ih =>
    rw [readContent_followedBy hitem (by simp) hseen,
      readBehind, hnamed]
    exact ih h (Passage.isInner_behind hinner)
  | case16 volume current parents entity c s depth around behind seen hseen name hitem hnamed hempty
      _ ih =>
    rw [readContent_followedBy hitem (by simp) hseen,
      readBehind, hnamed, Dtd.entity?_followedBy, hempty]
    exact ih h (Passage.isInner_behind hinner)
  | case19 volume current parents entity c s depth around behind seen hseen name hitem hnamed d text
      hentity hfree after hreplace _ ih =>
    rw [readContent_followedBy hitem (by simp) hseen,
      readBehind, hnamed, Dtd.entity?_followedBy, hentity]
    dsimp only
    rw [Passage.names_followedBy, if_neg hfree, Volume.replace?_followedBy hreplace]
    have htext : Passage.IsInner ⟨some name, d :: text, parents.length + 1⟩ :=
      fun _ => Nat.succ_pos _
    exact ih h (List.forall_mem_cons.mpr ⟨htext, Passage.isInner_behind hinner⟩)
  | _ => cases h

end Xml
end GpuInventory
