import ImportOrder.Text.Blank
import ImportOrder.Text.Lines

/-!
# ImportOrder.Comment

Comments around import statements, told line by line: a line is a comment when its trimmed form
opens or closes one. Whether a comment marker stands inside a string is not looked at.

* `trailing?` takes the comment behind a statement on the same line.
* `attachedLines` counts the comment lines right above a statement.
-/

namespace ImportOrder
namespace Comment

open Text

def isLineComment (trimmed : List Char) : Bool :=
  ['/', '/'].isPrefixOf trimmed

def opensBlock (trimmed : List Char) : Bool :=
  ['/', '*'].isPrefixOf trimmed

def hasOpener (s : List Char) : Bool :=
  occursIn ['/', '*'] s

def hasCloser (s : List Char) : Bool :=
  occursIn ['*', '/'] s

/-- A trimmed line that starts a comment, or closes one anywhere. -/
def looksLikeComment (trimmed : List Char) : Bool :=
  isLineComment trimmed || opensBlock trimmed || hasCloser trimmed

/-- A trimmed line that is one whole block comment and nothing else. -/
def isClosedBlock (trimmed : List Char) : Bool :=
  opensBlock trimmed && ['*', '/'].isSuffixOf trimmed && 4 ≤ trimmed.length &&
    !hasCloser ((trimmed.drop 2).take (trimmed.length - 4))

/-- A trimmed line that is a comment by itself. -/
def isWholeComment (trimmed : List Char) : Bool :=
  isLineComment trimmed || isClosedBlock trimmed

/-- The comment that makes up the rest of a statement's line, with the blanks before it. -/
def trailing? (rest : List Char) : Option (List Char) :=
  if isWholeComment (trim rest) then some (trimEnd rest) else none

/-- A trimmed line that ends a block begun above: its only closer stands at its very end, and it
opens nothing. -/
def closesBlock (trimmed : List Char) : Bool :=
  ['*', '/'].isSuffixOf trimmed && !hasOpener trimmed && !hasCloser trimmed.dropLast

/-- The number of lines up to and including the one that opens the block. The lines are given
nearest first. A closer on the way means that the block opened elsewhere. -/
def linesToOpener? : List (List Char) → Option Nat
  | [] => none
  | line :: above =>
    if hasCloser (trim line) then none
    else if opensBlock (trim line) then some 1
    else (linesToOpener? above).map (· + 1)

/-- The number of comment lines at the head of `above`, whose lines are given nearest first. -/
def runAbove : List (List Char) → Nat
  | [] => 0
  | line :: above =>
    if isWholeComment (trim line) then 1 + runAbove above
    else if closesBlock (trim line) then
      match linesToOpener? above with
      | some k => 1 + k + runAbove (above.drop k)
      | none => 0
    else 0
termination_by above => above.length

/-- How many lines at the end of `lines` form the comment right above the next statement: `//`
lines and whole block comments, up to a blank line, code, or a block whose opener is not seen. -/
def attachedLines (lines : List (List Char)) : Nat :=
  runAbove lines.reverse

end Comment
end ImportOrder
