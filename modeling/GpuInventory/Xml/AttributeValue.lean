import GpuInventory.Xml.Dtd

/-!
The value of an attribute from the text between its quotes.

References stand for what they name, every blank for a space, and a line end of two characters for
one, unless it is part of a replacement text, where line ends have nothing special.  A space that is
written as a reference stays in the value like any other character.  A tokenized value has no space
at its ends and no two in a row.  A value may not hold the opening of markup, not even through an
entity; an entity may not be used within its own replacement text.
-/

namespace GpuInventory
namespace Xml

/-- A text that is being read: that of the document, or the replacement text of an entity. -/
structure Passage where
  entity : Option String
  rest : List Char
  /-- How many elements were open where its reading began. -/
  depth : Nat := 0
deriving DecidableEq, Repr

namespace Passage

def names (passages : List Passage) : List String :=
  passages.filterMap (·.entity)

def size : List Passage → Nat
  | [] => 0
  | p :: passages => p.rest.length + 1 + size passages

@[simp] theorem size_nil : size [] = 0 := rfl

@[simp] theorem size_cons (p : Passage) (passages : List Passage) :
    size (p :: passages) = p.rest.length + 1 + size passages := rfl

end Passage

namespace AttributeValue

def addSpace (tokenized : Bool) (value : List Char) : List Char :=
  if tokenized && (value.isEmpty || value.head? == some ' ') then value else ' ' :: value

/-- A value, latest character first, with one more character that a reference stands for. -/
def addReferenced (tokenized : Bool) (c : Char) (value : List Char) : List Char :=
  if c = ' ' then addSpace tokenized value else c :: value

/-- What follows a blank: a line end of the document may be two characters. -/
def afterBlank (isReplacement : Bool) (c : Char) (rest : List Char) : List Char :=
  match isReplacement, c, rest with
  | false, '\r', '\n' :: rest => rest
  | _, _, rest => rest

theorem length_afterBlank_le (isReplacement : Bool) (c : Char) (rest : List Char) :
    (afterBlank isReplacement c rest).length ≤ rest.length := by
  unfold afterBlank
  split <;> simp

/-- Reads passages, the innermost first, into a value, latest character first.  The entities in
`outer` are being read around the value.  Gives how much was read in the end, too. -/
def expand (dtd : Dtd) (tokenized : Bool) (outer : List String) (volume : Volume)
    (passages : List Passage) (value : List Char) : Option (List Char × Volume) :=
  match passages with
  | [] => some (value, volume)
  | ⟨_, [], _⟩ :: passages => expand dtd tokenized outer volume passages value
  | ⟨entity, c :: rest, depth⟩ :: passages =>
    if c = '&' then
      match _h : readReference rest with
      | none => none
      | some (.char c, rest) =>
        expand dtd tokenized outer volume (⟨entity, rest, depth⟩ :: passages)
          (addReferenced tokenized c value)
      | some (.entity name, rest) =>
        match predefined? name with
        | some c =>
          expand dtd tokenized outer volume.addNamed (⟨entity, rest, depth⟩ :: passages)
            (c :: value)
        | none =>
          match dtd.entity? name with
          | none =>
            if dtd.mayDeclareElsewhere then
              expand dtd tokenized outer volume (⟨entity, rest, depth⟩ :: passages) value
            else none
          | some none => none
          | some (some []) =>
            expand dtd tokenized outer volume (⟨entity, rest, depth⟩ :: passages) value
          | some (some (d :: text)) =>
            let around := (⟨entity, rest, depth⟩ :: passages : List Passage)
            if name ∈ outer ∨ name ∈ Passage.names around then none
            else
              match _hv : volume.replace? (d :: text) with
              | none => none
              | some volume =>
                expand dtd tokenized outer volume (⟨some name, d :: text, 0⟩ :: around) value
    else if c = '<' || !isChar c then none
    else if isSpace c then
      expand dtd tokenized outer volume
        (⟨entity, afterBlank (entity.isSome || !outer.isEmpty) c rest, depth⟩ :: passages)
        (addSpace tokenized value)
    else expand dtd tokenized outer volume (⟨entity, rest, depth⟩ :: passages) (c :: value)
termination_by (volume.left, Passage.size passages)
decreasing_by
  all_goals first
    | exact Prod.Lex.left _ _ (Volume.left_replace?_lt _hv (by simp))
    | (apply Volume.lex_of_follows (by first | exact .refl _ | exact volume.follows_addNamed)
       try have := length_readReference _h
       try have := length_afterBlank_le (entity.isSome || !outer.isEmpty) c rest
       simp_all only [Passage.size_cons, List.length_cons, List.length_nil]
       omega)

/-- The value of an attribute whose quotes hold this text, and how much was read in the end. -/
def read? (dtd : Dtd) (tokenized : Bool) (outer : List String) (volume : Volume)
    (text : List Char) : Option (List Char × Volume) :=
  (expand dtd tokenized outer volume [⟨none, text, 0⟩] []).map fun (value, volume) =>
    ((if tokenized && value.head? == some ' ' then value.tail else value).reverse, volume)

/-- Whether a text is the value of an attribute as it stands: it holds no reference and no blank but
single spaces between other characters.  The character before it is `previous`. -/
def isSettledAfter (previous : Char) : List Char → Bool
  | [] => previous != ' '
  | c :: s => c != '&' && (c == ' ' || !isSpace c) && !(c == ' ' && previous == ' ') &&
      isSettledAfter c s

def isSettled (text : List Char) : Bool :=
  text.isEmpty || isSettledAfter ' ' text

theorem follows_expand {dtd : Dtd} {tokenized : Bool} {outer : List String}
    {volume left : Volume} {passages : List Passage} {value out : List Char}
    (h : expand dtd tokenized outer volume passages value = some (out, left)) :
    volume.Follows left := by
  fun_induction expand dtd tokenized outer volume passages value with
  | case1 =>
    obtain ⟨-, rfl⟩ := Prod.mk.inj (Option.some.inj h)
    exact .refl _
  | case5 =>
    rename_i ih
    exact (Volume.follows_addNamed _).trans (ih h)
  | case12 =>
    rename_i hv ih
    exact (Volume.follows_replace? hv).trans (ih h)
  | _ => simp_all

theorem follows_read? {dtd : Dtd} {tokenized : Bool} {outer : List String}
    {volume left : Volume} {text out : List Char}
    (h : read? dtd tokenized outer volume text = some (out, left)) : volume.Follows left := by
  obtain ⟨⟨value, left'⟩, hv, he⟩ := Option.map_eq_some_iff.1 h
  obtain ⟨-, rfl⟩ : _ ∧ left' = left := by simpa using he
  exact follows_expand hv

end AttributeValue
end Xml
end GpuInventory
