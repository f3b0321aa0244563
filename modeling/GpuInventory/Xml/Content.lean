import GpuInventory.Xml.Element

/-!
The content of elements: from the tag that opens an element to the one that closes it.

An entity is read where it is referred to, as if its replacement text stood there, but what it opens
it has to close, and it cannot close what was open before.  The line ends in it stay as they are.
It has to be declared within the document, and is not used within its own replacement text.
-/

namespace GpuInventory
namespace Xml

/-- Text of a passage as it counts: only the document has line ends to be unified. -/
def passageText (entity : Option String) (chars : List Char) : String :=
  String.ofList (if entity.isSome then chars else unifyLineEnds chars)

/-- How much was read, once an item of a passage was read up to a rest, if that is borne. -/
def volumeAfter? (volume : Volume) (entity : Option String) (rest : List Char) : Option Volume :=
  (some (if entity.isSome then volume else volume.upTo rest)).filter (·.isBorne)

theorem follows_volumeAfter? {volume after : Volume} {entity : Option String} {rest : List Char}
    (h : volumeAfter? volume entity rest = some after) : volume.Follows after := by
  obtain ⟨hsome, -⟩ := Option.filter_eq_some_iff.1 h
  obtain rfl := Option.some.inj hsome
  split
  · exact .refl _
  · exact volume.follows_upTo rest

/-- Reads on within the element `current`, inside `parents` (the nearest first), from passages of
which the innermost comes first, to the end of the outermost element; gives that element, how much
was read, and what follows. -/
def readContent (dtd : Dtd) (volume : Volume) (passages : List Passage) (current : OpenElement)
    (parents : List OpenElement) : Option (Element × Volume × List Char) :=
  match passages with
  | [] => none
  | ⟨entity, [], depth⟩ :: around =>
    if entity.isSome ∧ depth = parents.length + 1 then
      readContent dtd volume around current parents
    else none
  | ⟨entity, c :: s, depth⟩ :: around =>
    match _h : readItem (c :: s) with
    | none => none
    | some (item, rest) =>
      match _hv : volumeAfter? volume entity rest with
      | none => none
      | some seen =>
        match item with
        | .remark =>
          readContent dtd seen (⟨entity, rest, depth⟩ :: around) current parents
        | .text chars =>
          readContent dtd seen (⟨entity, rest, depth⟩ :: around)
            (current.addText (passageText entity chars)) parents
        | .char c =>
          readContent dtd seen (⟨entity, rest, depth⟩ :: around)
            (current.addText (String.singleton c)) parents
        | .startTag name attributes closed =>
          match _hs : OpenElement.start? dtd current.scope
              (Passage.names (⟨entity, rest, depth⟩ :: around)) seen name attributes closed with
          | none => none
          | some (child, after) =>
            if closed then
              readContent dtd after (⟨entity, rest, depth⟩ :: around)
                (current.addChild child.close) parents
            else
              readContent dtd after (⟨entity, rest, depth⟩ :: around) child (current :: parents)
        | .endTag name =>
          if name == current.name && (depth == 0 || depth < parents.length + 1) then
            match parents with
            | [] => some (current.close, seen, rest)
            | parent :: parents =>
              readContent dtd seen (⟨entity, rest, depth⟩ :: around)
                (parent.addChild current.close) parents
          else none
        | .entity name =>
          match predefined? name with
          | some c =>
            readContent dtd seen.addNamed (⟨entity, rest, depth⟩ :: around)
              (current.addText (String.singleton c)) parents
          | none =>
            match dtd.entity? name with
            | some (some []) =>
              readContent dtd seen (⟨entity, rest, depth⟩ :: around) current parents
            | some (some (d :: text)) =>
              if name ∈ Passage.names (⟨entity, rest, depth⟩ :: around) then none
              else
                match _hr : seen.replace? (d :: text) with
                | none => none
                | some after =>
                  readContent dtd after
                    (⟨some name, d :: text, parents.length + 1⟩ :: ⟨entity, rest, depth⟩ :: around)
                    current parents
            | _ => none
termination_by (volume.left, Passage.size passages)
decreasing_by
  · apply Volume.lex_of_follows (.refl _)
    simp only [Passage.size_cons, List.length_nil]
    omega
  all_goals
    have hseen := follows_volumeAfter? _hv
    have hrest := length_readItem _h
    first
      | exact Prod.Lex.left _ _
          (Nat.lt_of_lt_of_le (Volume.left_replace?_lt _hr (by simp)) hseen.left_le)
      | (refine Volume.lex_of_follows
          (by first
            | exact hseen
            | exact hseen.trans seen.follows_addNamed
            | exact hseen.trans (OpenElement.follows_start? _hs)) ?_
         simp only [Passage.size_cons, List.length_cons] at hrest ⊢
         omega)

/-- The outermost element of a document, how much was read, and what follows. -/
def readRoot (dtd : Dtd) (s : List Char) : Option (Element × Volume × List Char) :=
  match readItem s with
  | some (.startTag name attributes closed, rest) =>
    match OpenElement.start? dtd {} [] (dtd.volume.upTo rest) name attributes closed with
    | none => none
    | some (root, volume) =>
      if closed then some (root.close, volume, rest)
      else readContent dtd volume [⟨none, rest, 0⟩] root []
  | _ => none

end Xml
end GpuInventory
