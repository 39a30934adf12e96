/-!
White space of all scripts, and line ends of all systems, which become line feeds.
-/

namespace Shorthand.Text

/-- Whether the character is white space: a space of any width, a control that separates lines or
parts, or a mark of the end of a line or paragraph. -/
def isBlank (c : Char) : Bool :=
  let n := c.toNat
  (0x09 ≤ n && n ≤ 0x0d) || (0x1c ≤ n && n ≤ 0x20) || n = 0x85 || n = 0xa0 || n = 0x1680 ||
    (0x2000 ≤ n && n ≤ 0x200a) || n = 0x2028 || n = 0x2029 || n = 0x202f || n = 0x205f ||
    n = 0x3000

/-- White space that does not end a line; lines end with a line feed. -/
def isInlineBlank (c : Char) : Bool := isBlank c && c ≠ '\n'

/-- The text without the white space at its end. -/
def trimEnd (s : List Char) : List Char := (s.reverse.dropWhile isBlank).reverse

/-- The text without the white space at its ends. -/
def trim (s : List Char) : List Char := trimEnd (s.dropWhile isBlank)

/-- Turns a carriage return, with or without a line feed behind it, into a line feed. `done` is the
text turned so far, the last character first. -/
def unifyNewlinesOnto (done : List Char) : List Char → List Char
  | [] => done.reverse
  | c :: s =>
    if c = '\r' then
      match s with
      | [] => ('\n' :: done).reverse
      | d :: rest =>
        if d = '\n' then unifyNewlinesOnto ('\n' :: done) rest
        else unifyNewlinesOnto ('\n' :: done) (d :: rest)
    else unifyNewlinesOnto (c :: done) s

def unifyNewlines (s : List Char) : List Char := unifyNewlinesOnto [] s

end Shorthand.Text
