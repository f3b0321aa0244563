import GpuInventory.Proofs.Xml.Continuation.Content
import GpuInventory.Proofs.Xml.Continuation.Prolog
import Mathlib.Data.Option.Basic

/-!
Documents in the plain form.

An element is written plainly as a tag, its text, its children and the tag that closes it, with no
attribute, no reference, and nothing between a child and the markup behind it.  What is written so
is read back, `readDocument_written`, so whatever holds of all texts holds of all plain elements.
-/

namespace GpuInventory
namespace Xml

/-! ## The form -/

/-- Whether a text is a name without a colon. -/
def isPlainName : List Char → Bool
  | [] => false
  | c :: rest => isNameStart c && rest.all isNameChar

/-- Whether a character stands for itself in the text of an element, wherever it does. -/
def isPlainChar (c : Char) : Bool :=
  isChar c && c != '<' && c != '&' && c != ']' && c != '\r'

mutual

/-- Whether an element can be written plainly. -/
def Element.isPlain : Element → Bool
  | ⟨tag, attributes, text, children, tail⟩ =>
    isPlainName tag.toList && attributes.isEmpty && text.toList.all isPlainChar &&
      Element.arePlain children && tail.isEmpty

/-- Whether all of some elements can be written plainly. -/
def Element.arePlain : List Element → Bool
  | [] => true
  | e :: rest => e.isPlain && Element.arePlain rest

end

mutual

/-- An element as it is written, before another text. -/
def Element.written : Element → List Char → List Char
  | ⟨tag, _, text, children, _⟩, rest =>
    '<' :: (tag.toList ++ '>' :: (text.toList ++
      Element.writtenAll children ('<' :: '/' :: (tag.toList ++ '>' :: rest))))

/-- Elements as they are written, before another text. -/
def Element.writtenAll : List Element → List Char → List Char
  | [], rest => rest
  | e :: elements, rest => e.written (Element.writtenAll elements rest)

end

theorem of_isPlain {tag text tail : String} {attributes : List (String × String)}
    {children : List Element}
    (h : Element.isPlain ⟨tag, attributes, text, children, tail⟩ = true) :
    isPlainName tag.toList = true ∧ attributes = [] ∧ text.toList.all isPlainChar = true ∧
      Element.arePlain children = true ∧ tail = "" := by
  rw [Element.isPlain] at h
  simpa [and_assoc] using h

/-- An element with nothing but text in it. -/
def Element.leaf (tag text : String) : Element :=
  { tag, attributes := [], text, children := [], tail := "" }

/-- An element with nothing but elements in it. -/
def Element.node (tag : String) (children : List Element) : Element :=
  { tag, attributes := [], text := "", children, tail := "" }

/-! ## Tags and texts -/

theorem exists_of_isPlainName {name : List Char} (h : isPlainName name = true) :
    ∃ c rest, name = c :: rest ∧ isNameStart c = true ∧ ∀ d ∈ rest, isNameChar d = true := by
  cases name with
  | nil => cases h
  | cons c rest =>
    rw [isPlainName, Bool.and_eq_true, List.all_eq_true] at h
    exact ⟨c, rest, rfl, h⟩

theorem readQName_of_isPlainName {name : List Char} (h : isPlainName name = true)
    (rest : List Char) :
    readQName (name ++ '>' :: rest) = some (⟨none, String.ofList name⟩, '>' :: rest) := by
  obtain ⟨c, more, rfl, hc, hmore⟩ := exists_of_isPlainName h
  have hend : ¬ isNameChar '>' = true := by decide
  have hname : readName (c :: more ++ '>' :: rest) =
      some (String.ofList (c :: more), '>' :: rest) := by
    rw [List.cons_append, readName, if_pos hc, List.takeWhile_append_of_pos hmore,
      List.dropWhile_append_of_pos hmore, List.takeWhile_cons_of_neg hend,
      List.dropWhile_cons_of_neg hend, List.append_nil]
  unfold readQName
  rw [hname]
  rfl

theorem readItem_startTag {name : List Char} (h : isPlainName name = true) (rest : List Char) :
    readItem ('<' :: (name ++ '>' :: rest)) =
      some (.startTag ⟨none, String.ofList name⟩ [] false, rest) := by
  have hattributes : readAttributes [] ('>' :: rest) = some ([], false, rest) := by
    rw [readAttributes]
    rfl
  have hstart : readItem ('<' :: (name ++ '>' :: rest)) = readStartTag (name ++ '>' :: rest) := by
    obtain ⟨c, more, rfl, hc, -⟩ := exists_of_isPlainName h
    exact readItem_of_isNameStart hc _
  rw [hstart, readStartTag, readQName_of_isPlainName h]
  dsimp only
  rw [hattributes]
  rfl

theorem readItem_endTag {name : List Char} (h : isPlainName name = true) (rest : List Char) :
    readItem ('<' :: '/' :: (name ++ '>' :: rest)) =
      some (.endTag ⟨none, String.ofList name⟩, rest) := by
  rw [readItem, readEndTag, readQName_of_isPlainName h]
  rfl

theorem not_closesSection {text : List Char} (h : ∀ c ∈ text, c ≠ ']') :
    closesSection text = false := by
  induction text with
  | nil => rfl
  | cons c rest ih =>
    obtain ⟨hc, hrest⟩ := List.forall_mem_cons.mp h
    rw [closesSection, ih hrest]
    exact fun s heq _ => hc heq

theorem unifyLineEnds_eq_self {text : List Char} (h : ∀ c ∈ text, c ≠ '\r') :
    unifyLineEnds text = text := by
  induction text with
  | nil => rfl
  | cons c rest ih =>
    obtain ⟨hc, hrest⟩ := List.forall_mem_cons.mp h
    rw [unifyLineEnds, ih hrest]
    · exact fun s heq _ => hc heq
    · exact hc

theorem of_isPlainChar {c : Char} (h : isPlainChar c = true) :
    isChar c = true ∧ c ≠ '<' ∧ c ≠ '&' ∧ c ≠ ']' ∧ c ≠ '\r' := by
  simpa [isPlainChar, and_assoc] using h

theorem readItem_text {text : List Char} (hne : text ≠ []) (h : ∀ c ∈ text, isPlainChar c = true)
    (rest : List Char) :
    readItem (text ++ '<' :: rest) = some (.text text, '<' :: rest) := by
  have hmarkup : ∀ c ∈ text, (c != '<' && c != '&') = true := by
    intro c hc
    obtain ⟨-, hbracket, hampersand, -⟩ := of_isPlainChar (h c hc)
    rw [Bool.and_eq_true, bne_iff_ne, bne_iff_ne]
    exact ⟨hbracket, hampersand⟩
  have hchars : text.all isChar = true :=
    List.all_eq_true.mpr fun c hc => (of_isPlainChar (h c hc)).1
  have hsection : closesSection text = false :=
    not_closesSection fun c hc => (of_isPlainChar (h c hc)).2.2.2.1
  have hread : readText (text ++ '<' :: rest) = some (.text text, '<' :: rest) := by
    unfold readText
    dsimp only
    rw [List.takeWhile_append_of_pos hmarkup, List.dropWhile_append_of_pos hmarkup,
      List.takeWhile_cons_of_neg (by decide), List.dropWhile_cons_of_neg (by decide),
      List.append_nil, hchars, hsection]
    simp [hne]
  obtain ⟨c, more, rfl⟩ := List.exists_cons_of_ne_nil hne
  obtain ⟨-, hbracket, hampersand, -⟩ := of_isPlainChar (h c List.mem_cons_self)
  rw [List.cons_append] at hread ⊢
  simp [readItem, hbracket, hampersand, hread]

/-! ## Elements -/

/-- An element that a plain tag has opened, with the text and the children that were read so far. -/
def opened (tag text : String) (children : List Element) : OpenElement :=
  { name := ⟨none, tag⟩, scope := {}, tag, attributes := [], text, children := children.reverse }

theorem start?_plain {dtd : Dtd} (hdtd : dtd.attributes = []) (outer : List String) (volume : Volume)
    (tag : String) :
    OpenElement.start? dtd {} outer volume ⟨none, tag⟩ [] false =
      some (opened tag "" [], volume) := by
  have hdefault : defaultAttributes dtd tag [] = [] := by
    rw [defaultAttributes, Dtd.attributesOf, hdtd]
    rfl
  have hname : Scope.elementName? {} ⟨none, tag⟩ = some tag := rfl
  have hexpand : Scope.expandAll? {} [] = some [] := rfl
  simp [OpenElement.start?, attributeValues?, QName.text, hdefault, Scope.bindAll?, hname, hexpand,
    opened]

theorem addText_opened (tag text : String) :
    (opened tag "" []).addText text = opened tag text [] := by
  show { opened tag "" [] with text := "" ++ text } = _
  rw [String.empty_append]
  rfl

theorem addChild_opened (tag text : String) (children : List Element) (e : Element) :
    (opened tag text children).addChild e = opened tag text (children ++ [e]) := by
  rw [opened, opened, List.reverse_append]
  rfl

theorem close_opened (tag text : String) (children : List Element) :
    (opened tag text children).close = ⟨tag, [], text, children, ""⟩ := by
  rw [opened, OpenElement.close, List.reverse_reverse]

/-- Markup follows the text of a plain element. -/
theorem exists_writtenAll_eq (elements : List Element) (rest : List Char) :
    ∃ markup, Element.writtenAll elements ('<' :: rest) = '<' :: markup := by
  cases elements with
  | nil => exact ⟨rest, rfl⟩
  | cons e elements =>
    cases e
    exact ⟨_, rfl⟩

/-- As long as there are no replacement texts, any volume is borne. -/
theorem volumeAfter?_of_replaced {volume : Volume} (h : volume.replaced = 0) (rest : List Char) :
    volumeAfter? volume none rest = some (volume.upTo rest) := by
  refine Option.filter_eq_some_iff.mpr ⟨rfl, ?_⟩
  exact Volume.isBorne_iff.mpr (.inl h)

/-! ## Content -/

section Content

variable {dtd : Dtd} {volume : Volume} {parents : List OpenElement}

/-- How reading goes on, without a type and with nothing replaced, where a text is left. -/
def readOn (dtd : Dtd) (volume : Volume) (rest : List Char) (current : OpenElement)
    (parents : List OpenElement) : Option (Element × Volume × List Char) :=
  readContent dtd (volume.upTo rest) [⟨none, rest, 0⟩] current parents

theorem readOn_of_item {s rest : List Char} {current : OpenElement} {item : Item}
    (hvolume : volume.replaced = 0) (hitem : readItem s = some (item, rest)) :
    readOn dtd volume s current parents =
      readBehind dtd (volume.upTo rest) ⟨none, rest, 0⟩ [] current parents item :=
  readContent_of_item hitem (volumeAfter?_of_replaced hvolume rest)

theorem readOn_startTag (hdtd : dtd.attributes = []) (hvolume : volume.replaced = 0) {tag : String}
    (htag : isPlainName tag.toList = true) {current : OpenElement} (hscope : current.scope = {})
    (rest : List Char) :
    readOn dtd volume ('<' :: (tag.toList ++ '>' :: rest)) current parents =
      readOn dtd volume rest (opened tag "" []) (current :: parents) := by
  rw [readOn_of_item hvolume (readItem_startTag htag rest), readBehind, hscope,
    String.ofList_toList, start?_plain hdtd]
  rfl

theorem readOn_text (hvolume : volume.replaced = 0) {text : List Char}
    (htext : ∀ c ∈ text, isPlainChar c = true) (tag : String) (rest : List Char) :
    readOn dtd volume (text ++ '<' :: rest) (opened tag "" []) parents =
      readOn dtd volume ('<' :: rest) (opened tag (String.ofList text) []) parents := by
  by_cases hne : text = []
  · rw [hne]
    rfl
  · have hcarriage : ∀ c ∈ text, c ≠ '\r' := fun c hc => (of_isPlainChar (htext c hc)).2.2.2.2
    have hpassage : passageText none text = String.ofList text :=
      congrArg String.ofList (unifyLineEnds_eq_self hcarriage)
    rw [readOn_of_item hvolume (readItem_text hne htext rest), readBehind, hpassage, addText_opened]
    rfl

/-- How reading goes on once an element inside others has been read. -/
def readOnBehind (dtd : Dtd) (volume : Volume) (rest : List Char) (e : Element) :
    List OpenElement → Option (Element × Volume × List Char)
  | [] => some (e, volume.upTo rest, rest)
  | parent :: parents => readOn dtd volume rest (parent.addChild e) parents

theorem readOn_endTag (hvolume : volume.replaced = 0) {tag : String}
    (htag : isPlainName tag.toList = true) (text : String) (children : List Element)
    (rest : List Char) :
    readOn dtd volume ('<' :: '/' :: (tag.toList ++ '>' :: rest)) (opened tag text children)
        parents = readOnBehind dtd volume rest ⟨tag, [], text, children, ""⟩ parents := by
  rw [readOn_of_item hvolume (readItem_endTag htag rest), String.ofList_toList]
  unfold readBehind
  dsimp only
  rw [if_pos (by simp [opened]), close_opened]
  cases parents <;> rfl

/-- Behind its first tag an element is read to its end if its children are. -/
theorem readOn_body (hvolume : volume.replaced = 0) {tag text : String} {children : List Element}
    (htag : isPlainName tag.toList = true) (htext : text.toList.all isPlainChar = true)
    (hchildren : ∀ rest, readOn dtd volume (Element.writtenAll children rest) (opened tag text [])
      parents = readOn dtd volume rest (opened tag text children) parents) (rest : List Char) :
    readOn dtd volume (text.toList ++
        Element.writtenAll children ('<' :: '/' :: (tag.toList ++ '>' :: rest)))
        (opened tag "" []) parents =
      readOnBehind dtd volume rest ⟨tag, [], text, children, ""⟩ parents := by
  obtain ⟨markup, hmarkup⟩ := exists_writtenAll_eq children ('/' :: (tag.toList ++ '>' :: rest))
  rw [hmarkup, readOn_text hvolume (List.all_eq_true.mp htext), ← hmarkup, String.ofList_toList,
    hchildren, readOn_endTag hvolume htag]

mutual

/-- A plain element is read back inside another one. -/
theorem readOn_written (hdtd : dtd.attributes = []) (hvolume : volume.replaced = 0) :
    ∀ (e : Element), e.isPlain = true → ∀ (current : OpenElement), current.scope = {} →
      ∀ (parents : List OpenElement) (rest : List Char),
        readOn dtd volume (e.written rest) current parents =
          readOnBehind dtd volume rest e (current :: parents)
  | ⟨tag, attributes, text, children, tail⟩, he, current, hscope, parents, rest => by
    obtain ⟨htag, rfl, htext, hchildren, rfl⟩ := of_isPlain he
    rw [Element.written, readOn_startTag hdtd hvolume htag hscope]
    exact readOn_body hvolume htag htext
      (readOn_writtenAll hdtd hvolume children hchildren tag text [] (current :: parents)) rest

theorem readOn_writtenAll (hdtd : dtd.attributes = []) (hvolume : volume.replaced = 0) :
    ∀ (elements : List Element), Element.arePlain elements = true →
      ∀ (tag text : String) (before : List Element) (parents : List OpenElement)
        (rest : List Char),
        readOn dtd volume (Element.writtenAll elements rest) (opened tag text before) parents =
          readOn dtd volume rest (opened tag text (before ++ elements)) parents
  | [], _, tag, text, before, parents, rest => by
    rw [List.append_nil, Element.writtenAll]
  | e :: elements, he, tag, text, before, parents, rest => by
    rw [Element.arePlain, Bool.and_eq_true] at he
    rw [Element.writtenAll, readOn_written hdtd hvolume e he.1 _ rfl, readOnBehind, addChild_opened,
      readOn_writtenAll hdtd hvolume elements he.2, List.append_assoc]
    rfl

end

end Content

/-! ## Documents -/

section Opening

variable {c : Char} (hc : isNameStart c = true) (tail : List Char)

include hc

theorem afterRemarks?_of_isNameStart :
    afterRemarks? ('<' :: c :: tail) = some ('<' :: c :: tail) := by
  have hremark := BeginsPart.ne_remark (.inl ⟨c, tail, rfl, hc⟩)
  exact afterRemarks?_of_neither (fun r => (hremark r).1) (fun r => (hremark r).2)

theorem after?_eq_none_of_isNameStart {word : List Char} {mark : Char}
    (hmark : mark = '?' ∨ mark = '!') : after? ('<' :: mark :: word) ('<' :: c :: tail) = none := by
  rw [Option.eq_none_iff_forall_ne_some]
  intro rest heq
  obtain ⟨rfl, -⟩ := List.cons.inj (List.cons.inj (after?_eq_some_iff.mp heq)).2
  obtain ⟨hquestion, hexclamation⟩ := ne_mark_of_isNameStart hc
  exact hmark.elim hquestion hexclamation

/-- A document that begins with a tag has neither a version nor a type. -/
theorem readElement_of_isNameStart :
    readElement ('<' :: c :: tail) =
      readRoot { volume := .start ('<' :: c :: tail) } ('<' :: c :: tail) := by
  have hversion : readVersion ('<' :: c :: tail) = some (false, '<' :: c :: tail) := by
    unfold readVersion
    rw [show "<?xml".toList = '<' :: '?' :: "xml".toList from rfl,
      after?_eq_none_of_isNameStart hc tail (.inl rfl)]
  have htype : readType false (.start ('<' :: c :: tail)) ('<' :: c :: tail) =
      some ({ volume := .start ('<' :: c :: tail) }, '<' :: c :: tail) := by
    unfold readType
    rw [show "<!DOCTYPE".toList = '<' :: '!' :: "DOCTYPE".toList from rfl,
      after?_eq_none_of_isNameStart hc tail (.inr rfl)]
  have hmark : skipByteOrderMark ('<' :: c :: tail) = '<' :: c :: tail := rfl
  rw [readElement, hmark, hversion]
  simp only [Option.bind_eq_bind, Option.bind_some, afterRemarks?_of_isNameStart hc tail, htype]

end Opening

/-- A document that begins with a plain tag is read on behind it. -/
theorem readElement_of_startTag {tag : String} (htag : isPlainName tag.toList = true)
    (rest : List Char) :
    let document := '<' :: (tag.toList ++ '>' :: rest)
    readElement document =
      readOn { volume := .start document } (.start document) rest (opened tag "" []) [] := by
  intro document
  have hroot : readElement document = readRoot { volume := .start document } document := by
    obtain ⟨c, more, hname, hc, -⟩ := exists_of_isPlainName htag
    show readElement ('<' :: (tag.toList ++ '>' :: rest)) = readRoot
      { volume := .start ('<' :: (tag.toList ++ '>' :: rest)) } ('<' :: (tag.toList ++ '>' :: rest))
    rw [hname]
    exact readElement_of_isNameStart hc _
  rw [hroot, readRoot, readItem_startTag htag]
  dsimp only
  rw [String.ofList_toList, start?_plain rfl]
  rfl

theorem readElement_written {e : Element} (he : e.isPlain = true) :
    readElement (e.written []) = some (e, (Volume.start (e.written [])).upTo [], []) := by
  obtain ⟨tag, attributes, text, children, tail⟩ := e
  obtain ⟨htag, rfl, htext, hchildren, rfl⟩ := of_isPlain he
  rw [Element.written, readElement_of_startTag htag]
  exact readOn_body rfl htag htext (readOn_writtenAll rfl rfl children hchildren tag text [] []) []

/-- A text is a document if it ends with its element and nothing in it was replaced. -/
theorem readDocument_of_readElement {document : List Char} {root : Element} {volume : Volume}
    (h : readElement document = some (root, volume, [])) (hvolume : volume.replaced = 0) :
    readDocument document = some root := by
  have hremarks : afterRemarks? [] = some [] := by
    rw [afterRemarks?]
    rfl
  rw [readDocument, h]
  simp only [Option.bind_eq_bind, Option.bind_some, hremarks]
  exact if_pos ⟨rfl, Volume.isBorne_iff.mpr (.inl hvolume)⟩

/-- A plain element is what the text that it is written as is read as. -/
theorem readDocument_written {e : Element} (he : e.isPlain = true) :
    readDocument (e.written []) = some e :=
  readDocument_of_readElement (readElement_written he) rfl

end Xml
end GpuInventory
