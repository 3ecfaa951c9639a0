import ImportOrder.Comment
import ImportOrder.Group
import ImportOrder.Statement.Reading
import ImportOrder.Statement.Scan

/-!
# ImportOrder.Block

A text cut around its imports. Comments right above a statement and behind it on its line belong to
it; other text between two statements is set aside, to be put behind the sorted statements.
-/

namespace ImportOrder

open Text

/-- A statement with the comments that belong to it. -/
structure Entry where
  /-- The path of the module, which the entry is sorted by. -/
  path : List Char
  /-- The comment lines above, without the indentation of the block. -/
  leading : List (List Char)
  text : List Char
  /-- The comment behind it, with the blanks before that; empty if there is none. -/
  trailing : List Char
  deriving Repr, DecidableEq

structure Block where
  /-- What stands before the first statement and its comments. -/
  before : List Char
  /-- The indentation of the first statement, which all statements get. -/
  indent : List Char
  newline : List Char
  entries : List Entry
  /-- Text from between the statements, in source order. -/
  displaced : List (List Char)
  /-- What stands behind the last statement and its comment. -/
  after : List Char
  deriving Repr, DecidableEq

namespace Block

/-- Takes the comment that fills the rest of a statement's line. -/
def cutComment (gap : List Char) : List Char × List Char :=
  let (line, rest) := splitLine gap
  match Comment.trailing? line with
  | some comment => (comment, rest)
  | none => ([], gap)

/-- A line without the newline characters at its end. -/
def bareLine (line : List Char) : List Char :=
  dropEndWhile (fun c => c == '\n' || c == '\r') line

/-- A comment line without the indentation of the block, or else without any. -/
def dropIndent (indent line : List Char) : List Char :=
  match indent.isPrefixOf? line with
  | some rest => rest
  | none => trimStart line

/-- Cuts the comment lines at the end of a gap off what stands before them. -/
def cutAttached (gap indent : List Char) : List Char × List (List Char) :=
  let all := lines gap
  let run := Comment.attachedLines (all.map bareLine)
  let keep := all.length - run
  ((all.take keep).flatten, (all.drop keep).map fun line => dropIndent indent (bareLine line))

/-- What is kept of the text between two statements. -/
def residue (gap : List Char) : List Char :=
  trimEnd (dropBlankLines gap)

/-- The entries from `current` on, with what was set aside between them and what stands behind. -/
def collect (indent : List Char) (current : Entry) :
    List Statement.Occurrence → List Char → List Entry × List (List Char) × List Char
  | [], tail =>
    let (comment, after) := cutComment tail
    ([{ current with trailing := comment }], [], after)
  | o :: more, tail =>
    let (comment, gap) := cutComment o.gap
    let (between, leading) := cutAttached gap indent
    let next : Entry := ⟨Statement.path o.text, leading, o.text, []⟩
    let (entries, displaced, after) := collect indent next more tail
    let kept := residue between
    ({ current with trailing := comment } :: entries,
      if kept.isEmpty then displaced else kept :: displaced, after)

/-- The newline that a text uses: the two-character one if it stands anywhere. -/
def newlineOf (text : List Char) : List Char :=
  if occursIn ['\r', '\n'] text then ['\r', '\n'] else ['\n']

/-- Cuts a text around its imports; nothing if it has none. -/
def ofText? (text : List Char) : Option Block :=
  match Statement.scan text with
  | ⟨[], _⟩ => none
  | ⟨first :: more, tail⟩ =>
    let (before, leading) := cutAttached first.gap first.indent
    let entry : Entry := ⟨Statement.path first.text, leading, first.text, []⟩
    let (entries, displaced, after) := collect first.indent entry more tail
    some ⟨before, first.indent, newlineOf text, entries, displaced, after⟩

def renderEntry (b : Block) (e : Entry) : List Char :=
  (e.leading.map fun comment => comment ++ b.newline ++ b.indent).flatten ++ e.text ++ e.trailing

/-- The entries behind one of group `previous`, each on a line of its own. -/
def renderMore (b : Block) (separation : Bool) (groupOf : Entry → Nat) (previous : Nat) :
    List Entry → List Char
  | [] => []
  | e :: more =>
    b.newline ++ (if separation && previous != groupOf e then b.newline else []) ++ b.indent ++
      b.renderEntry e ++ renderMore b separation groupOf (groupOf e) more

def renderEntries (b : Block) (separation : Bool) (groupOf : Entry → Nat) : List Char :=
  match b.entries with
  | [] => []
  | e :: more => b.renderEntry e ++ b.renderMore separation groupOf (groupOf e) more

/-- The text behind the entries. Blank text is kept as it is; other text is set off by a blank
line. -/
def renderAfter (b : Block) : List Char :=
  if allBlank b.after then b.after else b.newline ++ b.newline ++ dropBlankLines b.after

def render (b : Block) (separation : Bool) (groupOf : Entry → Nat) : List Char :=
  b.before ++ b.indent ++ b.renderEntries separation groupOf ++
    (b.displaced.map fun segment => b.newline ++ b.newline ++ segment).flatten ++ b.renderAfter

end Block
end ImportOrder
