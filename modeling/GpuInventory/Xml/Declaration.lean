import GpuInventory.Xml.AttributeValue
import GpuInventory.Xml.Item
import GpuInventory.Xml.Token

/-!
The declarations of a document type: what their tokens have to be, and what they add.

Entities and attributes are taken in; declarations of elements and notations are only checked.  Once
declarations are no longer taken in, values are not looked at either, but the tokens are.
-/

namespace GpuInventory
namespace Xml

def isPublicId (chars : List Char) : Bool :=
  chars.all fun c => c.isAlphanum || " \r\n-'()+,./:=?;!*#@$_%".toList.contains c

/-- The tokens after the identifier of something outside the document. -/
def afterExternalId? : List Token → Option (List Token)
  | .name "SYSTEM" :: .quoted _ :: rest => some rest
  | .name "PUBLIC" :: .quoted p :: .quoted _ :: rest => if isPublicId p then some rest else none
  | _ => none

/-- The replacement text of an entity from the text between its quotes, whose line ends are line
feeds: characters are put for the references to them, references to entities stay. -/
def replacementText? : List Char → Option (List Char)
  | [] => some []
  | c :: s =>
    if c = '%' then none
    else if c = '&' then
      match _h : readReference s with
      | none => none
      | some (.char c, rest) => (replacementText? rest).map (c :: ·)
      | some (.entity name, rest) =>
        (replacementText? rest).map fun text => '&' :: name.toList ++ ';' :: text
    else (replacementText? s).map (c :: ·)
termination_by s => s.length
decreasing_by
  · have := length_readReference _h
    simp only [List.length_cons]
    omega
  · have := length_readReference _h
    simp only [List.length_cons]
    omega
  · simp

/-! ## Attributes -/

/-- Whether tokens are alternatives, with bars between them. -/
def isAlternatives (isMember : Token → Bool) : List Token → Bool
  | [t] => isMember t
  | t :: .bar :: rest => isMember t && isAlternatives isMember rest
  | _ => false

def Token.isName : Token → Bool
  | .name _ => true
  | _ => false

/-- Whether a token is made of characters of names and colons. -/
def Token.isRun : Token → Bool
  | .name _ | .qualified _ | .nameless => true
  | _ => false

def Token.qualifiedName? : Token → Option QName
  | .name text => some ⟨none, text⟩
  | .qualified n => some n
  | _ => none

/-- The tokens after alternatives in parentheses, of which the first is open. -/
def afterAlternatives? (isMember : Token → Bool) (ts : List Token) : Option (List Token) :=
  if isAlternatives isMember (ts.takeWhile (· != .parenClose none)) then
    some (ts.dropWhile (· != .parenClose none)).tail
  else none

/-- The types of attributes, other than alternatives, whose values are tokenized. -/
def tokenizedTypes : List String :=
  ["ID", "IDREF", "IDREFS", "ENTITY", "ENTITIES", "NMTOKEN", "NMTOKENS"]

/-- Whether the type of an attribute is tokenized, and the tokens after the type. -/
def readAttributeType : List Token → Option (Bool × List Token)
  | .name "CDATA" :: rest => some (false, rest)
  | .name "NOTATION" :: .parenOpen :: rest =>
    (afterAlternatives? Token.isName rest).map fun rest => (true, rest)
  | .name type :: rest => if tokenizedTypes.contains type then some (true, rest) else none
  | .parenOpen :: rest => (afterAlternatives? Token.isRun rest).map fun rest => (true, rest)
  | _ => none

/-- The default of an attribute, if it has one, and the tokens after it. -/
def readAttributeDefault : List Token → Option (Option (List Char) × List Token)
  | .keyword "IMPLIED" :: rest => some (none, rest)
  | .keyword "REQUIRED" :: rest => some (none, rest)
  | .keyword "FIXED" :: .quoted chars :: rest => some (some chars, rest)
  | .quoted chars :: rest => some (some chars, rest)
  | _ => none

theorem length_afterAlternatives?_le {isMember : Token → Bool} {ts rest : List Token}
    (h : afterAlternatives? isMember ts = some rest) : rest.length ≤ ts.length := by
  unfold afterAlternatives? at h
  split at h
  · obtain rfl := Option.some.inj h
    have := (List.dropWhile_suffix (l := ts) (· != Token.parenClose none)).length_le
    rw [List.length_tail]
    omega
  · exact absurd h (by simp)

theorem length_readAttributeType_le {ts rest : List Token} {tokenized : Bool}
    (h : readAttributeType ts = some (tokenized, rest)) : rest.length ≤ ts.length := by
  unfold readAttributeType at h
  split at h
  · obtain ⟨-, rfl⟩ := Prod.mk.inj (Option.some.inj h)
    simp
  · obtain ⟨r, hr, he⟩ := Option.map_eq_some_iff.1 h
    have := length_afterAlternatives?_le hr
    obtain ⟨-, rfl⟩ := Prod.mk.inj he
    simp only [List.length_cons]
    omega
  · split at h
    · obtain ⟨-, rfl⟩ := Prod.mk.inj (Option.some.inj h)
      simp
    · exact absurd h (by simp)
  · obtain ⟨r, hr, he⟩ := Option.map_eq_some_iff.1 h
    have := length_afterAlternatives?_le hr
    obtain ⟨-, rfl⟩ := Prod.mk.inj he
    simp only [List.length_cons]
    omega
  · exact absurd h (by simp)

theorem length_readAttributeDefault_le {ts rest : List Token} {default : Option (List Char)}
    (h : readAttributeDefault ts = some (default, rest)) : rest.length ≤ ts.length := by
  unfold readAttributeDefault at h
  split at h
  · obtain ⟨-, rfl⟩ := Prod.mk.inj (Option.some.inj h)
    simp
  · obtain ⟨-, rfl⟩ := Prod.mk.inj (Option.some.inj h)
    simp
  · obtain ⟨-, rfl⟩ := Prod.mk.inj (Option.some.inj h)
    simp only [List.length_cons]
    omega
  · obtain ⟨-, rfl⟩ := Prod.mk.inj (Option.some.inj h)
    simp
  · exact absurd h (by simp)

/-- Takes in an attribute with its default as it is written, whose value counts from now on. -/
def Dtd.declareWritten? (dtd : Dtd) (element : String) (name : QName) (tokenized : Bool) :
    Option (List Char) → Option Dtd
  | none => some (dtd.declareAttribute ⟨element, name, tokenized, none⟩)
  | some chars => do
    let (value, volume) ← AttributeValue.read? dtd tokenized [] dtd.volume chars
    return { dtd with volume }.declareAttribute ⟨element, name, tokenized, some value⟩

def Dtd.declareAttributes? (dtd : Dtd) (element : String) (ts : List Token) : Option Dtd :=
  match ts with
  | [] => some dtd
  | t :: ts =>
    match t.qualifiedName?, _ht : readAttributeType ts with
    | some name, some (tokenized, ts) =>
      match _hd : readAttributeDefault ts with
      | none => none
      | some (default, ts) =>
        if dtd.closed then dtd.declareAttributes? element ts
        else
          match dtd.declareWritten? element name tokenized default with
          | none => none
          | some dtd => dtd.declareAttributes? element ts
    | _, _ => none
termination_by ts.length
decreasing_by
  all_goals
    have := length_readAttributeType_le _ht
    have := length_readAttributeDefault_le _hd
    simp only [List.length_cons]
    omega

/-! ## Elements -/

/-- Whether tokens go on with the content of open groups, the innermost first, each with the mark
between its parts if it has more than one: either a part comes next, or what follows one. -/
def isGroup : (partNext : Bool) → List (Option Token) → List Token → Bool
  | true, groups, .parenOpen :: ts => isGroup true (none :: groups) ts
  | true, groups, t :: ts => (t.qualifiedName?.isSome || t == .repeated) && isGroup false groups ts
  | false, _ :: groups, .parenClose _ :: ts =>
    if groups.isEmpty then ts.isEmpty else isGroup false groups ts
  | false, mark :: groups, t :: ts =>
    (t == .bar || t == .comma) && (mark.isNone || mark == some t) &&
      isGroup true (some t :: groups) ts
  | _, _, _ => false

/-- Whether tokens after that for text name the elements it may be mixed with. -/
def isMixed : List Token → Bool
  | [.parenClose (some '*')] => true
  | .bar :: t :: ts => t.qualifiedName?.isSome && isMixed ts
  | _ => false

def isContentModel : List Token → Bool
  | [.name "EMPTY"] | [.name "ANY"] => true
  | [.parenOpen, .keyword "PCDATA", .parenClose none] => true
  | .parenOpen :: .keyword "PCDATA" :: ts => isMixed ts
  | .parenOpen :: ts => isGroup true [none] ts
  | _ => false

/-! ## Declarations by their keywords -/

def Dtd.declareEntity? (dtd : Dtd) : List Token → Option Dtd
  | [.name name, .quoted chars] =>
    if dtd.closed then some dtd
    else (replacementText? (unifyLineEnds chars)).map fun text =>
      dtd.declareEntity name (some text)
  | [.percent, .name _, .quoted chars] =>
    if dtd.closed then some dtd
    else (replacementText? (unifyLineEnds chars)).map fun _ => dtd
  | .percent :: .name _ :: ts => if afterExternalId? ts = some [] then some dtd else none
  | .name name :: ts =>
    match afterExternalId? ts with
    | some [] | some [.name "NDATA", .name _] =>
      some (if dtd.closed then dtd else dtd.declareEntity name none)
    | _ => none
  | _ => none

def isNotation : List Token → Bool
  | [.name _, .name "PUBLIC", .quoted p] => isPublicId p
  | .name _ :: ts => afterExternalId? ts == some []
  | _ => false

def Dtd.declare? (dtd : Dtd) (keyword : List Char) (ts : List Token) : Option Dtd :=
  match String.ofList keyword, ts with
  | "ENTITY", ts => dtd.declareEntity? ts
  | "ATTLIST", t :: ts =>
    match t.qualifiedName? with
    | some element => dtd.declareAttributes? element.text ts
    | none => none
  | "ELEMENT", t :: ts =>
    if t.qualifiedName?.isSome && isContentModel ts then some dtd else none
  | "NOTATION", ts => if isNotation ts then some dtd else none
  | _, _ => none

end Xml
end GpuInventory
