import GpuInventory.Xml.Markup

/-!
The tokens that declarations are made of, up to the bracket that ends a declaration.

Blanks separate tokens and vanish.  They may be left out next to the marks, but a name, a quoted
text and a closing parenthesis each have to be followed by something that cannot belong to them.
-/

namespace GpuInventory
namespace Xml

inductive Token where
  /-- A name without a colon. -/
  | name (text : String)
  /-- A name with a qualifier, whose second part may start with any character of names. -/
  | qualified (name : QName)
  /-- Any other run of characters of names and colons. -/
  | nameless
  /-- A name with the mark of how often it may occur. -/
  | repeated
  /-- A name after a number sign. -/
  | keyword (text : String)
  | quoted (chars : List Char)
  | percent
  | parenOpen
  /-- A closing parenthesis, perhaps with the mark of how often its group may occur. -/
  | parenClose (mark : Option Char)
  | bar
  | comma
deriving DecidableEq, Repr

namespace Token

/-- Whether a character is a mark of how often something may occur. -/
def isMark (c : Char) : Bool :=
  c == '?' || c == '*' || c == '+'

def ofRun (run : List Char) : Token :=
  match run.takeWhile (· != ':'), run.dropWhile (· != ':') with
  | c :: first, [] => if isNameStart c then .name (String.ofList (c :: first)) else .nameless
  | c :: first, ':' :: d :: second =>
    if isNameStart c && !(d :: second).contains ':' then
      .qualified ⟨some (String.ofList (c :: first)), String.ofList (d :: second)⟩
    else .nameless
  | _, _ => .nameless

/-- A token that starts with a character of names or a colon. -/
def readRun (s : List Char) : Option (Token × List Char) :=
  let isRun (c : Char) : Bool := isNameChar c || c == ':'
  let token := ofRun (s.takeWhile isRun)
  match s.dropWhile isRun with
  | [] => none
  | c :: rest =>
    if (s.takeWhile isRun).isEmpty then none
    else if isMark c then if token = .nameless then none else some (.repeated, rest)
    else if isSpace c || [')', ',', '>', '[', '|'].contains c then some (token, c :: rest)
    else none

/-- A name after a number sign. -/
def readKeyword (s : List Char) : Option (Token × List Char) :=
  match readName s with
  | some (text, c :: rest) =>
    if isSpace c || [')', '>', '|'].contains c then some (.keyword text, c :: rest) else none
  | _ => none

def readLiteral (s : List Char) : Option (Token × List Char) :=
  match readQuoted s with
  | some (chars, c :: rest) =>
    if isSpace c || ['>', '['].contains c then some (.quoted chars, c :: rest) else none
  | _ => none

/-- A closing parenthesis, which was read, and its mark. -/
def readClosing : List Char → Option (Token × List Char)
  | [] => none
  | c :: rest =>
    if isMark c then some (.parenClose (some c), rest)
    else if isSpace c || [')', ',', '>', '|'].contains c then some (.parenClose none, c :: rest)
    else none

def read : List Char → Option (Token × List Char)
  | [] => none
  | c :: s =>
    match c with
    | '(' => some (.parenOpen, s)
    | ')' => readClosing s
    | '|' => some (.bar, s)
    | ',' => some (.comma, s)
    | '#' => readKeyword s
    | '%' => if (s.head?.map isSpace).getD false then some (.percent, s) else none
    | '"' | '\'' => readLiteral (c :: s)
    | _ => readRun (c :: s)

theorem length_readRun {s rest : List Char} {t : Token} (h : readRun s = some (t, rest)) :
    rest.length < s.length := by
  have hsplit := congrArg List.length
    (List.takeWhile_append_dropWhile (l := s) (p := fun c => isNameChar c || c == ':'))
  rw [List.length_append] at hsplit
  simp only [readRun] at h
  split at h
  · exact absurd h (by simp)
  · next c r hr =>
    rw [hr, List.length_cons] at hsplit
    split at h
    · exact absurd h (by simp)
    · next hne =>
      have : 0 < (s.takeWhile fun c => isNameChar c || c == ':').length := by
        apply List.length_pos_iff.2
        intro hnil
        simp [hnil] at hne
      split at h
      · split at h
        · exact absurd h (by simp)
        · obtain ⟨-, rfl⟩ : _ ∧ r = rest := by simpa using h
          omega
      · split at h
        · obtain ⟨-, rfl⟩ : _ ∧ c :: r = rest := by simpa using h
          simp only [List.length_cons]
          omega
        · exact absurd h (by simp)

theorem length_readKeyword {s rest : List Char} {t : Token} (h : readKeyword s = some (t, rest)) :
    rest.length < s.length := by
  unfold readKeyword at h
  split at h
  · next text c r hr =>
    have := length_readName hr
    split at h
    · obtain ⟨-, rfl⟩ : _ ∧ c :: r = rest := by simpa using h
      exact this
    · exact absurd h (by simp)
  · exact absurd h (by simp)

theorem length_readLiteral {s rest : List Char} {t : Token} (h : readLiteral s = some (t, rest)) :
    rest.length < s.length := by
  unfold readLiteral at h
  split at h
  · next chars c r hr =>
    have := length_readQuoted hr
    split at h
    · obtain ⟨-, rfl⟩ : _ ∧ c :: r = rest := by simpa using h
      exact this
    · exact absurd h (by simp)
  · exact absurd h (by simp)

theorem length_readClosing_le {s rest : List Char} {t : Token}
    (h : readClosing s = some (t, rest)) : rest.length ≤ s.length := by
  cases s with
  | nil => simp [readClosing] at h
  | cons c s =>
    simp only [readClosing] at h
    split at h
    · obtain ⟨-, rfl⟩ : _ ∧ s = rest := by simpa using h
      simp
    · split at h
      · obtain ⟨-, rfl⟩ : _ ∧ c :: s = rest := by simpa using h
        simp
      · exact absurd h (by simp)

theorem length_read {s rest : List Char} {t : Token} (h : read s = some (t, rest)) :
    rest.length < s.length := by
  cases s with
  | nil => simp [read] at h
  | cons c s =>
    simp only [read] at h
    split at h
    · obtain ⟨-, rfl⟩ : _ ∧ s = rest := by simpa using h
      simp
    · have := length_readClosing_le h
      simp only [List.length_cons]
      omega
    · obtain ⟨-, rfl⟩ : _ ∧ s = rest := by simpa using h
      simp
    · obtain ⟨-, rfl⟩ : _ ∧ s = rest := by simpa using h
      simp
    · have := length_readKeyword h
      simp only [List.length_cons]
      omega
    · split at h
      · obtain ⟨-, rfl⟩ : _ ∧ s = rest := by simpa using h
        simp
      · exact absurd h (by simp)
    · exact length_readLiteral h
    · exact length_readLiteral h
    · exact length_readRun h

/-- The tokens up to a closing angle bracket or an opening square bracket, that bracket, and what
follows it.  The tokens read before, latest first, are in `before`. -/
def readAll (before : List Token) (s : List Char) : Option (List Token × Char × List Char) :=
  match _hs : skipSpace s with
  | [] => none
  | '>' :: rest => some (before.reverse, '>', rest)
  | '[' :: rest => some (before.reverse, '[', rest)
  | c :: rest =>
    match _h : read (c :: rest) with
    | none => none
    | some (t, rest) => readAll (t :: before) rest
termination_by s.length
decreasing_by
  have := length_read _h
  have : (skipSpace s).length ≤ s.length := (List.dropWhile_suffix isSpace).length_le
  rw [_hs] at this
  omega

theorem length_readAll {before ts : List Token} {c : Char} {s rest : List Char}
    (h : readAll before s = some (ts, c, rest)) : rest.length < s.length := by
  fun_induction readAll before s with
  | case1 => simp at h
  | case2 before s r hr =>
    have : (skipSpace s).length ≤ s.length := (List.dropWhile_suffix isSpace).length_le
    obtain ⟨-, h⟩ := Prod.mk.inj (Option.some.inj h)
    obtain ⟨-, rfl⟩ := Prod.mk.inj h
    rw [hr, List.length_cons] at this
    omega
  | case3 before s r hr =>
    have : (skipSpace s).length ≤ s.length := (List.dropWhile_suffix isSpace).length_le
    obtain ⟨-, h⟩ := Prod.mk.inj (Option.some.inj h)
    obtain ⟨-, rfl⟩ := Prod.mk.inj h
    rw [hr, List.length_cons] at this
    omega
  | case4 => simp at h
  | case5 before s c' r _ _ hr t r' ht ih =>
    have := ih h
    have := length_read ht
    have : (skipSpace s).length ≤ s.length := (List.dropWhile_suffix isSpace).length_le
    rw [hr] at this
    omega

end Token
end Xml
end GpuInventory
