import GpuInventory.Xml.Markup
import GpuInventory.Xml.Reference

/-!
The items that the content of an element is made of, read one at a time: tags, text, references to
characters and to entities, and remarks (comments and processing instructions), which stand for
nothing.

Text goes as far as the next markup.  It may not hold the closing of a literal section.  Text,
literal sections and the values of attributes are left as they are written.  In the text of a
document a line end is one line feed, however it is written.  Before each attribute of a tag stands
a blank.
-/

namespace GpuInventory
namespace Xml

abbrev RawAttribute := QName × List Char

inductive Item where
  | startTag (name : QName) (attributes : List RawAttribute) (closed : Bool)
  | endTag (name : QName)
  /-- Text as it is written, where its line ends count as such. -/
  | text (chars : List Char)
  /-- A character that was given by its code point. -/
  | char (c : Char)
  | entity (name : String)
  | remark
deriving DecidableEq, Repr

/-- A text with each line end as one line feed. -/
def unifyLineEnds : List Char → List Char
  | [] => []
  | '\r' :: '\n' :: s => '\n' :: unifyLineEnds s
  | '\r' :: s => '\n' :: unifyLineEnds s
  | c :: s => c :: unifyLineEnds s

/-- Whether the closing of a literal section stands in a text. -/
def closesSection : List Char → Bool
  | [] => false
  | ']' :: ']' :: '>' :: _ => true
  | _ :: s => closesSection s

def readAttribute (s : List Char) : Option (RawAttribute × List Char) :=
  match readQName s with
  | none => none
  | some (name, rest) =>
    match skipSpace rest with
    | '=' :: rest => (readQuoted (skipSpace rest)).map fun (value, rest) => ((name, value), rest)
    | _ => none

theorem length_readAttribute {s rest : List Char} {a : RawAttribute}
    (h : readAttribute s = some (a, rest)) : rest.length < s.length := by
  unfold readAttribute at h
  split at h
  · exact absurd h (by simp)
  · next name r hr =>
    have hname := length_readQName hr
    have hskip : (skipSpace r).length ≤ r.length := (List.dropWhile_suffix isSpace).length_le
    split at h
    · next r' hr' =>
      obtain ⟨⟨value, r''⟩, hv, he⟩ := Option.map_eq_some_iff.1 h
      have hskip' : (skipSpace r').length ≤ r'.length := (List.dropWhile_suffix isSpace).length_le
      have hquoted := length_readQuoted hv
      obtain ⟨-, rfl⟩ : _ ∧ r'' = rest := by simpa using he
      rw [hr', List.length_cons] at hskip
      omega
    · exact absurd h (by simp)

/-- The attributes of a tag, whether the tag closes its element at once, and what follows it.  The
attributes read before, latest first, are in `before`. -/
def readAttributes (before : List RawAttribute) (s : List Char) :
    Option (List RawAttribute × Bool × List Char) :=
  match skipSpace s with
  | '>' :: rest => some (before.reverse, false, rest)
  | '/' :: '>' :: rest => some (before.reverse, true, rest)
  | _ =>
    if _hs : startsWithSpace s then
      match _h : readAttribute (skipSpace s) with
      | none => none
      | some (a, rest) => readAttributes (a :: before) rest
    else none
termination_by s.length
decreasing_by
  have := length_skipSpace_lt _hs
  have := length_readAttribute _h
  omega

theorem length_readAttributes {before as : List RawAttribute} {closed : Bool}
    {s rest : List Char} (h : readAttributes before s = some (as, closed, rest)) :
    rest.length < s.length := by
  fun_induction readAttributes before s with
  | case1 before s r hr =>
    have : (skipSpace s).length ≤ s.length := (List.dropWhile_suffix isSpace).length_le
    obtain ⟨-, h⟩ := Prod.mk.inj (Option.some.inj h)
    obtain ⟨-, rfl⟩ := Prod.mk.inj h
    rw [hr, List.length_cons] at this
    omega
  | case2 before s r hr =>
    have : (skipSpace s).length ≤ s.length := (List.dropWhile_suffix isSpace).length_le
    obtain ⟨-, h⟩ := Prod.mk.inj (Option.some.inj h)
    obtain ⟨-, rfl⟩ := Prod.mk.inj h
    rw [hr, List.length_cons, List.length_cons] at this
    omega
  | case3 => simp at h
  | case4 before s hs a r hr _ _ ih =>
    have := ih h
    have := length_skipSpace_lt hs
    have := length_readAttribute hr
    omega
  | case5 => simp at h

def readStartTag (s : List Char) : Option (Item × List Char) :=
  match readQName s with
  | none => none
  | some (name, rest) =>
    (readAttributes [] rest).map fun (attributes, closed, rest) =>
      (.startTag name attributes closed, rest)

def readEndTag (s : List Char) : Option (Item × List Char) :=
  match readQName s with
  | none => none
  | some (name, rest) =>
    match skipSpace rest with
    | '>' :: rest => some (.endTag name, rest)
    | _ => none

def readText (s : List Char) : Option (Item × List Char) :=
  let isText (c : Char) : Bool := c != '<' && c != '&'
  let text := s.takeWhile isText
  if text.isEmpty || !text.all isChar || closesSection text then none
  else some (.text text, s.dropWhile isText)

def readItem : List Char → Option (Item × List Char)
  | '<' :: '/' :: s => readEndTag s
  | '<' :: '?' :: s => (afterInstruction? s).map fun rest => (.remark, rest)
  | '<' :: '!' :: '-' :: '-' :: s => (afterComment? s).map fun rest => (.remark, rest)
  | '<' :: '!' :: s =>
    match after? "[CDATA[".toList s with
    | none => none
    | some s => (readUpTo? "]]>".toList [] s).map fun (text, rest) => (.text text, rest)
  | '<' :: s => readStartTag s
  | '&' :: s =>
    match readReference s with
    | none => none
    | some (.char c, rest) => some (.char c, rest)
    | some (.entity name, rest) => some (.entity name, rest)
  | s => readText s

theorem length_readStartTag {s rest : List Char} {i : Item}
    (h : readStartTag s = some (i, rest)) : rest.length < s.length := by
  unfold readStartTag at h
  split at h
  · exact absurd h (by simp)
  · next name r hr =>
    have := length_readQName hr
    obtain ⟨⟨as, closed, r'⟩, ha, he⟩ := Option.map_eq_some_iff.1 h
    have := length_readAttributes ha
    obtain ⟨-, rfl⟩ : _ ∧ r' = rest := by simpa using he
    omega

theorem length_readEndTag {s rest : List Char} {i : Item}
    (h : readEndTag s = some (i, rest)) : rest.length < s.length := by
  unfold readEndTag at h
  split at h
  · exact absurd h (by simp)
  · next name r hr =>
    have hname := length_readQName hr
    have hskip : (skipSpace r).length ≤ r.length := (List.dropWhile_suffix isSpace).length_le
    split at h
    · next r' hr' =>
      obtain ⟨-, rfl⟩ : _ ∧ r' = rest := by simpa using h
      rw [hr', List.length_cons] at hskip
      omega
    · exact absurd h (by simp)

theorem length_readText {s rest : List Char} {i : Item}
    (h : readText s = some (i, rest)) : rest.length < s.length := by
  simp only [readText] at h
  split at h
  · exact absurd h (by simp)
  · next hne =>
    obtain ⟨-, rfl⟩ := Prod.mk.inj (Option.some.inj h)
    have hsplit := congrArg List.length
      (List.takeWhile_append_dropWhile (l := s) (p := fun c => c != '<' && c != '&'))
    rw [List.length_append] at hsplit
    have : 0 < (s.takeWhile fun c => c != '<' && c != '&').length := by
      apply List.length_pos_iff.2
      intro hnil
      simp [hnil] at hne
    omega

theorem length_readItem {s rest : List Char} {i : Item} (h : readItem s = some (i, rest)) :
    rest.length < s.length := by
  unfold readItem at h
  split at h
  · have := length_readEndTag h
    simp only [List.length_cons]
    omega
  · obtain ⟨r, hr, he⟩ := Option.map_eq_some_iff.1 h
    have := length_afterInstruction? hr
    obtain ⟨-, rfl⟩ : _ ∧ r = rest := by simpa using he
    simp only [List.length_cons]
    omega
  · obtain ⟨r, hr, he⟩ := Option.map_eq_some_iff.1 h
    have := length_afterComment? hr
    obtain ⟨-, rfl⟩ : _ ∧ r = rest := by simpa using he
    simp only [List.length_cons]
    omega
  · split at h
    · exact absurd h (by simp)
    · next r hr =>
      have := length_after? hr (by decide)
      obtain ⟨⟨t, r'⟩, ht, he⟩ := Option.map_eq_some_iff.1 h
      have := length_readUpTo? (by decide) ht
      obtain ⟨-, rfl⟩ : _ ∧ r' = rest := by simpa using he
      simp only [List.length_cons]
      omega
  · have := length_readStartTag h
    simp only [List.length_cons]
    omega
  · split at h
    · exact absurd h (by simp)
    · next c r hr =>
      have := length_readReference hr
      obtain ⟨-, rfl⟩ : _ ∧ r = rest := by simpa using h
      simp only [List.length_cons]
      omega
    · next name r hr =>
      have := length_readReference hr
      obtain ⟨-, rfl⟩ : _ ∧ r = rest := by simpa using h
      simp only [List.length_cons]
      omega
  · exact length_readText h

end Xml
end GpuInventory
