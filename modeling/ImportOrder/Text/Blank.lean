/-!
# ImportOrder.Text.Blank

Blank characters and the trims that remove them.

A text is the list of its characters. A character is blank when it has the Unicode property
White_Space; the zero-width space, the byte order mark and the information separators do not
have it.
-/

namespace ImportOrder
namespace Text

/-- The White_Space characters. -/
def isBlank (c : Char) : Bool :=
  let n := c.toNat
  (0x9 ≤ n && n ≤ 0xD) || n == 0x20 || n == 0x85 || n == 0xA0 || n == 0x1680 ||
    (0x2000 ≤ n && n ≤ 0x200A) || n == 0x2028 || n == 0x2029 || n == 0x202F || n == 0x205F ||
    n == 0x3000

/-- Space, tab, line feed, form feed and carriage return. -/
def isAsciiBlank (c : Char) : Bool :=
  c == ' ' || c == '\t' || c == '\n' || c == '\x0c' || c == '\r'

/-- Space and tab: what an indentation is made of. -/
def isIndent (c : Char) : Bool :=
  c == ' ' || c == '\t'

def trimStart (s : List Char) : List Char :=
  s.dropWhile isBlank

/-- Removes the longest run of characters with property `p` at the end. -/
def dropEndWhile (p : Char → Bool) (s : List Char) : List Char :=
  (s.reverse.dropWhile p).reverse

def trimEnd (s : List Char) : List Char :=
  dropEndWhile isBlank s

def trim (s : List Char) : List Char :=
  trimEnd (trimStart s)

/-- A text of blank characters only, the empty text included. -/
def allBlank (s : List Char) : Bool :=
  s.all isBlank

/-- What follows the last newline, the whole text if it has none. -/
def afterLastNewline (s : List Char) : List Char :=
  (s.reverse.takeWhile (· != '\n')).reverse

/-- Drops the blank lines at the start and keeps the indentation of the first line that holds
something. Blanks before the first content of an already open line are dropped altogether. -/
def dropBlankLines (s : List Char) : List Char :=
  let lead := s.takeWhile isBlank
  if '\n' ∈ lead then afterLastNewline lead ++ trimStart s else trimStart s

theorem takeWhile_append_trimStart (s : List Char) : s.takeWhile isBlank ++ trimStart s = s :=
  List.takeWhile_append_dropWhile

end Text
end ImportOrder
