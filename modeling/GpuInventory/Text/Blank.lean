/-!
Blank characters, and what the readers of this library do with them: trimming a text, taking its
first word, and breaking it into lines.

A blank is a character that Unicode counts as white space or as a separator of fields, lines or
paragraphs.  The zero-width space and the byte order mark are not blanks: they are invisible, but
they separate nothing.
-/

namespace GpuInventory
namespace Text

/-- White space and separators: the ASCII blanks, the four information separators, the next-line
control, the no-break space and the spaces of the other scripts. -/
def isBlank (c : Char) : Bool :=
  let n := c.toNat
  (9 ≤ n && n ≤ 13) || (28 ≤ n && n ≤ 32) || n == 0x85 || n == 0xA0 || n == 0x1680 ||
    (0x2000 ≤ n && n ≤ 0x200A) || n == 0x2028 || n == 0x2029 || n == 0x202F || n == 0x205F ||
    n == 0x3000

def trimEnd (s : List Char) : List Char :=
  (s.reverse.dropWhile isBlank).reverse

def trim (s : List Char) : List Char :=
  trimEnd (s.dropWhile isBlank)

/-- The leading run of characters of a text that are not blank, after the blanks before it. -/
def firstWord (s : List Char) : List Char :=
  (s.dropWhile isBlank).takeWhile (fun c => !isBlank c)

/-- The characters that end a line by themselves.  A carriage return is one of them, and one that
a line feed follows ends the line together with it. -/
def isLineEnd (c : Char) : Bool :=
  let n := c.toNat
  (10 ≤ n && n ≤ 13) || (28 ≤ n && n ≤ 30) || n == 0x85 || n == 0x2028 || n == 0x2029

/-- The lines of a text, with `line` holding, in reverse, what was read of the current one.  The
end of the text ends the last line only if something stands on it. -/
def linesFrom (line : List Char) : List Char → List (List Char)
  | [] => if line.isEmpty then [] else [line.reverse]
  | '\r' :: '\n' :: rest => line.reverse :: linesFrom [] rest
  | c :: rest =>
    if isLineEnd c then line.reverse :: linesFrom [] rest else linesFrom (c :: line) rest

def lines (s : List Char) : List (List Char) :=
  linesFrom [] s

theorem trim_nil : trim [] = [] := rfl

end Text
end GpuInventory
