import GpuInventory.Xml.Content
import GpuInventory.Xml.Declaration

/-!
Documents: an optional line that says which version of the format they are in, an optional
declaration of their type, and one element.  Remarks and blanks may stand between these parts and at
the end, but nothing may stand before the line with the version, save for one byte order mark.

A document that ends with its element is no document any more when any end of it is missing.
-/

namespace GpuInventory
namespace Xml

/-! ## The version line -/

def isVersionChar (c : Char) : Bool :=
  c.isAlphanum || c == '.' || c == '-' || c == '_'

def readSetting (s : List Char) : Option ((String × List Char) × List Char) :=
  match s with
  | [] => none
  | c :: s =>
    if isSpace c then
      match readAttribute (skipSpace s) with
      | some ((⟨none, name⟩, value), rest) =>
        if value.all isVersionChar then some ((name, value), rest) else none
      | _ => none
    else none

def readSettings (s : List Char) : Option (List (String × List Char) × List Char) :=
  match skipSpace s with
  | '?' :: '>' :: rest => some ([], rest)
  | _ => do
    let (first, s) ← readSetting s
    match skipSpace s with
    | '?' :: '>' :: rest => return ([first], rest)
    | _ =>
      let (second, s) ← readSetting s
      match skipSpace s with
      | '?' :: '>' :: rest => return ([first, second], rest)
      | _ =>
        let (third, s) ← readSetting s
        match skipSpace s with
        | '?' :: '>' :: rest => return ([first, second, third], rest)
        | _ => none

/-- Whether a document with this setting stands alone. -/
def standsAlone? (value : List Char) : Option Bool :=
  if value = "yes".toList then some true
  else if value = "no".toList then some false
  else none

/-- Whether a text may name an encoding.  Which one it is does not matter. -/
def isEncoding (value : List Char) : Bool :=
  (value.head?.map Char.isAlpha).getD false

/-- What the settings of the version line say about standing alone.  The version comes first, and
each setting is given once, in a fixed order. -/
def standalone? : List (String × List Char) → Option Bool
  | [("version", _)] => some false
  | [("version", _), ("encoding", e)] => if isEncoding e then some false else none
  | [("version", _), ("standalone", s)] => standsAlone? s
  | [("version", _), ("encoding", e), ("standalone", s)] =>
    if isEncoding e then standsAlone? s else none
  | _ => none

/-- Whether the document stands alone, by the version line at its start if there is one, and what
follows the line. -/
def readVersion (s : List Char) : Option (Bool × List Char) :=
  match after? "<?xml".toList s with
  | some (c :: rest) =>
    if isSpace c || c == '?' then do
      let (settings, rest) ← readSettings (c :: rest)
      return (← standalone? settings, rest)
    else some (false, s)
  | _ => some (false, s)

/-! ## The declaration of the type -/

/-- The tokens of a declaration after its bracket and exclamation mark, with its keyword. -/
def readDeclaration (s : List Char) : Option ((List Char × List Token) × List Char) :=
  match s.dropWhile Char.isAlpha with
  | [] => none
  | c :: rest =>
    if isSpace c then
      match Token.readAll [] rest with
      | some (ts, '>', rest) => some ((s.takeWhile Char.isAlpha, ts), rest)
      | _ => none
    else none

theorem length_readDeclaration {s rest : List Char} {d : List Char × List Token}
    (h : readDeclaration s = some (d, rest)) : rest.length < s.length := by
  have hdrop := (List.dropWhile_suffix Char.isAlpha (l := s)).length_le
  unfold readDeclaration at h
  split at h
  · exact absurd h (by simp)
  · next c r hr =>
    rw [hr, List.length_cons] at hdrop
    split at h
    · split at h
      · next ts r' ht =>
        have := Token.length_readAll ht
        obtain ⟨-, rfl⟩ := Prod.mk.inj (Option.some.inj h)
        omega
      · exact absurd h (by simp)
    · exact absurd h (by simp)

/-- Takes in the declarations up to the closing square bracket. -/
def Dtd.readSubset (dtd : Dtd) (s : List Char) : Option (Dtd × List Char) :=
  match _hs : skipSpace s with
  | ']' :: rest => some (dtd, rest)
  | '%' :: rest =>
    match _h : readName rest with
    | some (_, ';' :: after) => dtd.skipPart.readSubset after
    | _ => none
  | '<' :: '?' :: rest =>
    match _h : afterInstruction? rest with
    | some after => dtd.readSubset after
    | none => none
  | '<' :: '!' :: '-' :: '-' :: rest =>
    match _h : afterComment? rest with
    | some after => dtd.readSubset after
    | none => none
  | '<' :: '!' :: rest =>
    match _h : readDeclaration rest with
    | none => none
    | some ((keyword, ts), after) =>
      match { dtd with volume := dtd.volume.upTo after }.declare? keyword ts with
      | none => none
      | some dtd => dtd.readSubset after
  | _ => none
termination_by s.length
decreasing_by
  all_goals
    have hskip : (skipSpace s).length ≤ s.length := (List.dropWhile_suffix isSpace).length_le
    rw [_hs] at hskip
    simp only [List.length_cons] at hskip
    first
      | have := length_readName _h
        simp only [List.length_cons] at this
        omega
      | have := length_afterInstruction? _h
        omega
      | have := length_afterComment? _h
        omega
      | have := length_readDeclaration _h
        omega

def isExternalType? : List Token → Option Bool
  | t :: ts =>
    if t.qualifiedName?.isNone then none
    else if ts.isEmpty then some false
    else if afterExternalId? ts = some [] then some true
    else none
  | [] => none

def readType (standalone : Bool) (volume : Volume) (s : List Char) : Option (Dtd × List Char) :=
  match after? "<!DOCTYPE".toList s with
  | none => some ({ standalone, volume }, s)
  | some [] => none
  | some (c :: rest) =>
    if isSpace c then do
      let (ts, bracket, rest) ← Token.readAll [] rest
      let incomplete ← isExternalType? ts
      let dtd : Dtd := { standalone, incomplete, volume }
      if bracket = '[' then
        let (dtd, rest) ← dtd.readSubset rest
        let rest ← after? ['>'] (skipSpace rest)
        return (dtd, rest)
      else return (dtd, rest)
    else none

/-! ## Documents -/

def skipByteOrderMark : List Char → List Char
  | '\uFEFF' :: s => s
  | s => s

/-- The element of a document, how much was read up to its end, and what follows it. -/
def readElement (document : List Char) : Option (Element × Volume × List Char) := do
  let (standalone, s) ← readVersion (skipByteOrderMark document)
  let s ← afterRemarks? s
  let (dtd, s) ← readType standalone (.start document) s
  let s ← afterRemarks? s
  readRoot dtd s

def readDocument (document : List Char) : Option Element := do
  let (root, volume, rest) ← readElement document
  let rest ← afterRemarks? rest
  if rest.isEmpty ∧ (volume.upTo []).isBorne then some root else none

end Xml
end GpuInventory
