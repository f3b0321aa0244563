import GpuInventory.Text.Character

/-!
UTF-8: the bytes of a text, and the text of some bytes.

Bytes are read piece by piece.  A piece is either the bytes of one character, or a run of bytes that
begins none: a byte that cannot start a character, or the start of a character up to the byte that
does not continue it.  A text is the encoding of something exactly if all of its pieces are
characters; `decode` refuses any other at its first bad piece, and `decodeLossy` puts one
replacement character in the place of each.

The byte after the first is bounded more narrowly after some first bytes.  That keeps out the longer
encodings of a character that has a shorter one, the surrogates, and all beyond the last code point.
-/

namespace GpuInventory
namespace Utf8

def encodeChar (c : Char) : List UInt8 :=
  let n := c.toNat
  if n < 0x80 then [n.toUInt8]
  else if n < 0x800 then [(0xC0 + n / 0x40).toUInt8, (0x80 + n % 0x40).toUInt8]
  else if n < 0x10000 then
    [(0xE0 + n / 0x1000).toUInt8, (0x80 + n / 0x40 % 0x40).toUInt8, (0x80 + n % 0x40).toUInt8]
  else
    [(0xF0 + n / 0x40000).toUInt8, (0x80 + n / 0x1000 % 0x40).toUInt8,
      (0x80 + n / 0x40 % 0x40).toUInt8, (0x80 + n % 0x40).toUInt8]

def encode (s : List Char) : List UInt8 :=
  s.flatMap encodeChar

/-- Why some bytes are no character. -/
inductive Fault where
  /-- The first byte starts no character. -/
  | start
  /-- A byte stands where it cannot continue the character. -/
  | continuation
  /-- The bytes end within the character. -/
  | truncated
deriving DecidableEq, Repr

def Fault.reason : Fault → String
  | .start => "invalid start byte"
  | .continuation => "invalid continuation byte"
  | .truncated => "unexpected end of data"

/-- A run of bytes, and the character that they are or the reason why they are none. -/
structure Piece where
  bytes : List UInt8
  meaning : Except Fault Char

/-- What a first byte says of the ones after it: their number, the bounds of the first of them, and
the bits that it gives to the code point. -/
structure Lead where
  tails : Nat
  low : Nat
  high : Nat
  bits : Nat

def lead? (b : Nat) : Option Lead :=
  if b < 0x80 then some ⟨0, 0x80, 0xBF, b⟩
  else if b < 0xC2 then none
  else if b < 0xE0 then some ⟨1, 0x80, 0xBF, b - 0xC0⟩
  else if b = 0xE0 then some ⟨2, 0xA0, 0xBF, 0⟩
  else if b = 0xED then some ⟨2, 0x80, 0x9F, 0xD⟩
  else if b < 0xF0 then some ⟨2, 0x80, 0xBF, b - 0xE0⟩
  else if b = 0xF0 then some ⟨3, 0x90, 0xBF, 0⟩
  else if b < 0xF4 then some ⟨3, 0x80, 0xBF, b - 0xF0⟩
  else if b = 0xF4 then some ⟨3, 0x80, 0x8F, 4⟩
  else none

/-- Reads the bytes after the first: how many of them belong to the character, and the code point
or the reason why there is none. -/
def readTails (tails low high bits : Nat) (taken : Nat) : List UInt8 → Nat × Except Fault Char
  | [] => (taken, if tails = 0 then .ok (Char.ofNat bits) else .error .truncated)
  | b :: rest =>
    match tails with
    | 0 => (taken, .ok (Char.ofNat bits))
    | tails + 1 =>
      let n := b.toNat
      if low ≤ n ∧ n ≤ high then
        readTails tails 0x80 0xBF (bits * 0x40 + n % 0x40) (taken + 1) rest
      else (taken, .error .continuation)

def piece (b : UInt8) (rest : List UInt8) : Piece :=
  match lead? b.toNat with
  | none => ⟨[b], .error .start⟩
  | some l =>
    let (taken, meaning) := readTails l.tails l.low l.high l.bits 0 rest
    ⟨b :: rest.take taken, meaning⟩

def pieces : List UInt8 → List Piece
  | [] => []
  | b :: rest =>
    let p := piece b rest
    p :: pieces (rest.drop (p.bytes.length - 1))
termination_by bytes => bytes.length
decreasing_by simp only [List.length_drop, List.length_cons]; omega

/-- Where and why some bytes are not the encoding of a text. -/
structure Error where
  position : Nat
  bytes : List UInt8
  fault : Fault
deriving DecidableEq, Repr

def Error.message (e : Error) : String :=
  let place := match e.bytes with
    | [b] =>
      "byte 0x" ++ String.ofList (Text.hexadecimal 2 b.toNat) ++ " in position " ++
        Nat.repr e.position
    | bytes =>
      "bytes in position " ++ Nat.repr e.position ++ "-" ++
        Nat.repr (e.position + bytes.length - 1)
  "'utf-8' codec can't decode " ++ place ++ ": " ++ e.fault.reason

/-- The text of some pieces, the first of which stands at a position. -/
def textOf (position : Nat) : List Piece → Except Error (List Char)
  | [] => .ok []
  | p :: rest =>
    match p.meaning with
    | .error fault => .error ⟨position, p.bytes, fault⟩
    | .ok c =>
      match textOf (position + p.bytes.length) rest with
      | .error e => .error e
      | .ok s => .ok (c :: s)

def decode (bytes : List UInt8) : Except Error (List Char) :=
  textOf 0 (pieces bytes)

/-- The character of a piece, or the one that stands in the place of bytes that are none. -/
def Piece.shown (p : Piece) : Char :=
  match p.meaning with
  | .ok c => c
  | .error _ => '\uFFFD'

/-- The text of some bytes, whatever they are. -/
def decodeLossy (bytes : List UInt8) : List Char :=
  (pieces bytes).map Piece.shown

/-- A text that can be decoded is decoded alike by both readers. -/
theorem map_shown_of_textOf {position : Nat} {ps : List Piece} {s : List Char}
    (h : textOf position ps = .ok s) : ps.map Piece.shown = s := by
  induction ps generalizing position s with
  | nil => simpa [textOf] using h
  | cons p rest ih =>
    unfold textOf at h
    split at h
    · exact absurd h (by simp)
    · next c hc =>
      split at h
      · exact absurd h (by simp)
      · next t ht =>
        obtain rfl : c :: t = s := by simpa using h
        simp [Piece.shown, hc, ih ht]

theorem decodeLossy_of_decode {bytes : List UInt8} {s : List Char} (h : decode bytes = .ok s) :
    decodeLossy bytes = s :=
  map_shown_of_textOf h

end Utf8
end GpuInventory
