import GpuInventory.Xml.Declaration
import GpuInventory.Xml.Element

/-!
What is read is measured against the document as far as it was read, so it does not matter for the
measure that more of the document follows.

`Volume.followedBy` is the volume of a longer document at the same place.  It allows what the volume
of the shorter one allows; the bound on replacement texts, which grows with the document, only gets
wider.  So attribute values, start tags and declarations that could be read still can.
-/

namespace GpuInventory
namespace Xml

theorem addSize_eq (size : Nat) (s : List Char) : addSize size s = size + byteSize s := by
  induction s generalizing size with
  | nil => rfl
  | cons c s ih =>
    have hhead : byteSize (c :: s) = addSize (0 + c.utf8Size) s := rfl
    show addSize (size + c.utf8Size) s = _
    rw [hhead, ih, ih]
    omega

theorem byteSize_append (s t : List Char) : byteSize (s ++ t) = byteSize s + byteSize t := by
  induction s with
  | nil => simp [byteSize, addSize]
  | cons c s ih =>
    show addSize (0 + c.utf8Size) (s ++ t) = addSize (0 + c.utf8Size) s + byteSize t
    rw [addSize_eq, addSize_eq, ih]
    omega

/-! ## Volumes -/

namespace Volume

/-- The same place in a document that goes on longer. -/
def followedBy (v : Volume) (more : List Char) : Volume :=
  { v with total := v.total + byteSize more, unread := v.unread ++ more }

theorem start_append (s more : List Char) : start (s ++ more) = (start s).followedBy more := by
  simp [start, followedBy, byteSize_append]

@[simp] theorem addNamed_followedBy (v : Volume) (more : List Char) :
    (v.followedBy more).addNamed = v.addNamed.followedBy more := rfl

@[simp] theorem direct_followedBy (v : Volume) (more : List Char) :
    (v.followedBy more).direct = v.direct := by
  simp only [direct, followedBy, byteSize_append]
  omega

@[simp] theorem isBorne_followedBy (v : Volume) (more : List Char) :
    (v.followedBy more).isBorne = v.isBorne := by
  rw [Bool.eq_iff_iff, isBorne_iff, isBorne_iff, direct_followedBy]
  rfl

theorem bound_le_followedBy (v : Volume) (more : List Char) :
    v.bound ≤ (v.followedBy more).bound := by
  simp only [bound, followedBy]
  omega

theorem replace?_eq_some_iff {v w : Volume} {text : List Char} :
    v.replace? text = some w ↔
      w = { v with replaced := v.replaced + byteSize text } ∧
        w.replaced ≤ w.bound ∧ w.isBorne = true := by
  unfold replace?
  dsimp only
  split
  · next h =>
    constructor
    · intro hw
      cases hw
      exact ⟨rfl, h⟩
    · rintro ⟨rfl, -⟩
      rfl
  · next h =>
    constructor
    · intro hw
      cases hw
    · rintro ⟨rfl, hw⟩
      exact absurd hw h

theorem replace?_followedBy {v w : Volume} {text : List Char} (h : v.replace? text = some w)
    (more : List Char) : (v.followedBy more).replace? text = some (w.followedBy more) := by
  rw [replace?_eq_some_iff] at h ⊢
  obtain ⟨hw, hbound, hborne⟩ := h
  refine ⟨?_, Nat.le_trans hbound (bound_le_followedBy w more), ?_⟩
  · rw [hw]
    rfl
  · rw [isBorne_followedBy, hborne]

theorem revisit?_followedBy {v w : Volume} {within : Bool} {text : List Char}
    (h : v.revisit? within text = some w) (more : List Char) :
    (v.followedBy more).revisit? within text = some (w.followedBy more) := by
  unfold revisit? at h ⊢
  cases within with
  | true => exact replace?_followedBy h more
  | false =>
    cases h
    rfl

end Volume

/-! ## Declarations so far -/

namespace Dtd

/-- The same declarations at the same place in a document that goes on longer. -/
def followedBy (dtd : Dtd) (more : List Char) : Dtd :=
  { dtd with volume := dtd.volume.followedBy more }

@[simp] theorem entity?_followedBy (dtd : Dtd) (more : List Char) :
    (dtd.followedBy more).entity? = dtd.entity? := rfl

@[simp] theorem mayDeclareElsewhere_followedBy (dtd : Dtd) (more : List Char) :
    (dtd.followedBy more).mayDeclareElsewhere = dtd.mayDeclareElsewhere := rfl

@[simp] theorem isTokenized_followedBy (dtd : Dtd) (more : List Char) :
    (dtd.followedBy more).isTokenized = dtd.isTokenized := rfl

@[simp] theorem skipPart_followedBy (dtd : Dtd) (more : List Char) :
    (dtd.followedBy more).skipPart = dtd.skipPart.followedBy more := rfl

theorem declareEntity_followedBy (dtd : Dtd) (name : String) (replacement : Option (List Char))
    (more : List Char) :
    (dtd.followedBy more).declareEntity name replacement =
      (dtd.declareEntity name replacement).followedBy more := by
  unfold declareEntity
  rw [entity?_followedBy]
  by_cases h : (predefined? name).isSome ∨ (dtd.entity? name).isSome
  · rw [if_pos h, if_pos h]
  · rw [if_neg h, if_neg h]
    rfl

theorem declareAttribute_followedBy (dtd : Dtd) (a : AttributeDeclaration) (more : List Char) :
    (dtd.followedBy more).declareAttribute a = (dtd.declareAttribute a).followedBy more := by
  unfold declareAttribute
  by_cases h : (dtd.attribute? a.element a.name).isSome
  · rw [if_pos h]
    exact if_pos h
  · rw [if_neg h]
    exact if_neg h

end Dtd

/-! ## Attribute values -/

namespace AttributeValue

theorem expand_followedBy {dtd : Dtd} {tokenized : Bool} {outer : List String}
    {volume left : Volume} {passages : List Passage} {value out : List Char}
    (h : expand dtd tokenized outer volume passages value = some (out, left)) (more : List Char) :
    expand (dtd.followedBy more) tokenized outer (volume.followedBy more) passages value =
      some (out, left.followedBy more) := by
  fun_induction expand dtd tokenized outer volume passages value with
  | case1 =>
    cases h
    rw [expand]
  | case2 _ _ _ _ _ ih =>
    rw [expand]
    exact ih h
  | case3 | case7 | case8 | case10 | case11 | case13 => cases h
  | case4 | case5 | case6 | case9 =>
    -- A reference that takes nothing from the volume but, at most, the room for one character.
    rw [expand.eq_def]
    simp only [if_true]
    split <;> simp_all
  | case12 volume value entity rest depth passages name rest' hread hnamed d text hentity around
      hfree after hreplace ih =>
    have hreplace' := Volume.replace?_followedBy hreplace more
    rw [expand.eq_def]
    simp only [if_true]
    split
    · simp_all
    · simp_all
    · next heq =>
      rw [hread] at heq
      cases heq
      simp only [hnamed, Dtd.entity?_followedBy, hentity]
      rw [if_neg hfree]
      split
      · next heq =>
        rw [hreplace'] at heq
        cases heq
      · next heq =>
        rw [hreplace'] at heq
        cases heq
        exact ih h
  | case14 | case15 =>
    rw [expand.eq_def]
    simp_all

theorem read?_followedBy {dtd : Dtd} {tokenized : Bool} {outer : List String}
    {volume left : Volume} {text value : List Char}
    (h : read? dtd tokenized outer volume text = some (value, left)) (more : List Char) :
    read? (dtd.followedBy more) tokenized outer (volume.followedBy more) text =
      some (value, left.followedBy more) := by
  obtain ⟨⟨out, left'⟩, hexpand, he⟩ := Option.map_eq_some_iff.mp h
  cases he
  exact congrArg (Option.map _) (expand_followedBy hexpand more)

end AttributeValue

/-! ## Start tags -/

theorem lookOver?_followedBy {outer : List String} {closed : Bool} {volume left : Volume}
    {text : List Char} (h : lookOver? outer closed volume text = some left) (more : List Char) :
    lookOver? outer closed (volume.followedBy more) text = some (left.followedBy more) := by
  unfold lookOver? at h ⊢
  split at h
  · next hsettled =>
    cases h
    exact if_pos hsettled
  · next hsettled =>
    rw [if_neg hsettled]
    exact Volume.revisit?_followedBy h more

theorem attributeValues?_followedBy {dtd : Dtd} {element : String} {outer : List String}
    {closed : Bool} {volume left : Volume} {attributes : List RawAttribute}
    {values : List (QName × String)}
    (h : attributeValues? dtd element outer closed volume attributes = some (values, left))
    (more : List Char) :
    attributeValues? (dtd.followedBy more) element outer closed (volume.followedBy more) attributes =
      some (values, left.followedBy more) := by
  induction attributes generalizing volume values with
  | nil =>
    cases h
    rfl
  | cons a attributes ih =>
    obtain ⟨name, text⟩ := a
    obtain ⟨seen, hseen, h⟩ := Option.bind_eq_some_iff.mp h
    obtain ⟨⟨value, after⟩, hvalue, h⟩ := Option.bind_eq_some_iff.mp h
    obtain ⟨⟨others, last⟩, hothers, h⟩ := Option.bind_eq_some_iff.mp h
    cases h
    simp [attributeValues?, lookOver?_followedBy hseen more,
      AttributeValue.read?_followedBy hvalue more, ih hothers]

theorem OpenElement.start?_followedBy {dtd : Dtd} {scope : Scope} {outer : List String}
    {volume left : Volume} {name : QName} {attributes : List RawAttribute} {closed : Bool}
    {e : OpenElement}
    (h : OpenElement.start? dtd scope outer volume name attributes closed = some (e, left))
    (more : List Char) :
    OpenElement.start? (dtd.followedBy more) scope outer (volume.followedBy more) name attributes
      closed = some (e, left.followedBy more) := by
  obtain ⟨u, hnodup, h⟩ := Option.bind_eq_some_iff.mp h
  obtain ⟨⟨given, after⟩, hvalues, h⟩ := Option.bind_eq_some_iff.mp h
  obtain ⟨scope', hscope, h⟩ := Option.bind_eq_some_iff.mp h
  obtain ⟨tag, htag, h⟩ := Option.bind_eq_some_iff.mp h
  obtain ⟨expanded, hexpanded, h⟩ := Option.bind_eq_some_iff.mp h
  obtain ⟨u', hdistinct, h⟩ := Option.bind_eq_some_iff.mp h
  cases h
  refine Option.bind_eq_some_iff.mpr ⟨u, hnodup, ?_⟩
  refine Option.bind_eq_some_iff.mpr ⟨_, attributeValues?_followedBy hvalues more, ?_⟩
  refine Option.bind_eq_some_iff.mpr ⟨scope', hscope, ?_⟩
  refine Option.bind_eq_some_iff.mpr ⟨tag, htag, ?_⟩
  refine Option.bind_eq_some_iff.mpr ⟨expanded, hexpanded, ?_⟩
  exact Option.bind_eq_some_iff.mpr ⟨u', hdistinct, rfl⟩

/-! ## Declarations -/

theorem Dtd.declareWritten?_followedBy {dtd after : Dtd} {element : String} {name : QName}
    {tokenized : Bool} {written : Option (List Char)}
    (h : dtd.declareWritten? element name tokenized written = some after) (more : List Char) :
    (dtd.followedBy more).declareWritten? element name tokenized written =
      some (after.followedBy more) := by
  cases written with
  | none =>
    cases h
    exact congrArg some (declareAttribute_followedBy dtd _ more)
  | some chars =>
    obtain ⟨⟨value, volume⟩, hread, h⟩ := Option.bind_eq_some_iff.mp h
    cases h
    refine Option.bind_eq_some_iff.mpr ⟨_, AttributeValue.read?_followedBy hread more, ?_⟩
    exact congrArg some (declareAttribute_followedBy { dtd with volume } _ more)

theorem Dtd.declareAttributes?_cons {dtd : Dtd} {element : String} {t : Token}
    {ts afterType rest : List Token} {name : QName} {tokenized : Bool}
    {written : Option (List Char)} (hname : t.qualifiedName? = some name)
    (htype : readAttributeType ts = some (tokenized, afterType))
    (hwritten : readAttributeDefault afterType = some (written, rest)) :
    dtd.declareAttributes? element (t :: ts) =
      if dtd.closed then dtd.declareAttributes? element rest
      else (dtd.declareWritten? element name tokenized written).bind fun dtd =>
        dtd.declareAttributes? element rest := by
  rw [Dtd.declareAttributes?.eq_def]
  dsimp only
  split
  · next hname' htype' =>
    rw [hname] at hname'
    rw [htype] at htype'
    cases hname'
    cases htype'
    split
    · next heq =>
      rw [hwritten] at heq
      cases heq
    · next heq =>
      rw [hwritten] at heq
      cases heq
      by_cases hclosed : dtd.closed = true
      · rw [if_pos hclosed, if_pos hclosed]
      · rw [if_neg hclosed, if_neg hclosed]
        cases dtd.declareWritten? element name tokenized written <;> rfl
  · next hnone => exact absurd htype (hnone name tokenized afterType hname)

theorem Dtd.declareAttributes?_followedBy {dtd after : Dtd} {element : String} {ts : List Token}
    (h : dtd.declareAttributes? element ts = some after) (more : List Char) :
    (dtd.followedBy more).declareAttributes? element ts = some (after.followedBy more) := by
  fun_induction Dtd.declareAttributes? dtd element ts with
  | case1 =>
    cases h
    rw [Dtd.declareAttributes?]
  | case3 dtd t ts name tokenized afterType htype hname written rest hwritten hclosed ih =>
    have hclosed' : (dtd.followedBy more).closed = true := hclosed
    rw [declareAttributes?_cons hname htype hwritten, if_pos hclosed']
    exact ih h
  | case5 dtd t ts name tokenized afterType htype hname written rest hwritten hopen one hone ih =>
    have hopen' : ¬ (dtd.followedBy more).closed = true := hopen
    rw [declareAttributes?_cons hname htype hwritten, if_neg hopen',
      declareWritten?_followedBy hone more]
    exact ih h
  | case2 | case4 | case6 => cases h

theorem Dtd.declareEntity?_followedBy {dtd after : Dtd} {ts : List Token}
    (h : dtd.declareEntity? ts = some after) (more : List Char) :
    (dtd.followedBy more).declareEntity? ts = some (after.followedBy more) := by
  have hclosed : (dtd.followedBy more).closed = dtd.closed := rfl
  unfold Dtd.declareEntity? at h ⊢
  rw [hclosed]
  split at h
  · next name chars =>
    split at h
    · next hopen =>
      cases h
      rw [if_pos hopen]
    · next hopen =>
      obtain ⟨text, htext, he⟩ := Option.map_eq_some_iff.mp h
      cases he
      rw [if_neg hopen, htext]
      exact congrArg some (declareEntity_followedBy dtd name _ more)
  · split at h
    · next hopen =>
      cases h
      rw [if_pos hopen]
    · next hopen =>
      obtain ⟨text, htext, he⟩ := Option.map_eq_some_iff.mp h
      cases he
      rw [if_neg hopen, htext]
      rfl
  · split at h
    · next hexternal =>
      cases h
      rw [if_pos hexternal]
    · cases h
  · next name ts _ =>
    have hdeclared : (if dtd.closed then dtd.followedBy more
        else (dtd.followedBy more).declareEntity name none) =
        (if dtd.closed then dtd else dtd.declareEntity name none).followedBy more := by
      rw [declareEntity_followedBy]
      exact (apply_ite (Dtd.followedBy · more) _ _ _).symm
    split at h
    · cases h
      exact congrArg some hdeclared
    · cases h
      exact congrArg some hdeclared
    · cases h
  · cases h

theorem Dtd.declare?_followedBy {dtd after : Dtd} {keyword : List Char} {ts : List Token}
    (h : dtd.declare? keyword ts = some after) (more : List Char) :
    (dtd.followedBy more).declare? keyword ts = some (after.followedBy more) := by
  unfold Dtd.declare? at h ⊢
  split at h
  · next hkeyword =>
    exact declareEntity?_followedBy h more
  · next hkeyword =>
    split at h
    · next hname =>
      exact declareAttributes?_followedBy h more
    · cases h
  · next hkeyword =>
    split at h
    · next hmodel =>
      cases h
      exact if_pos hmodel
    · cases h
  · next hkeyword =>
    split at h
    · next hnotation =>
      cases h
      exact if_pos hnotation
    · cases h
  · cases h

end Xml
end GpuInventory
