import ImportOrder.Text.Lines
import ImportOrder.Text.Search

/-!
# ImportOrder.Path

File paths as texts: their components, their extension, and the kinds of file told by it.
-/

namespace ImportOrder
namespace Path

open Text

/-- The components of a path. A slash too many and a `.` between slashes name nothing. -/
def components (path : List Char) : List (List Char) :=
  (splitWhere (· == '/') path).filter fun c => !c.isEmpty && c != ['.']

/-- The last component, unless it leads upward. -/
def fileName? (path : List Char) : Option (List Char) :=
  (components path).getLast?.filter (· != ['.', '.'])

/-- What follows the last dot of the file name. A dot at its start does not count. -/
def extension? (path : List Char) : Option (List Char) :=
  match fileName? path with
  | none => none
  | some name =>
    let extension := (name.reverse.takeWhile (· != '.')).reverse
    if extension.length + 1 < name.length then some extension else none

/-- The extension of components, which may be written in either case. -/
def componentExtension : List Char := ['s', 'v', 'e', 'l', 't', 'e']

def isComponent (path : List Char) : Bool :=
  (extension? path).any fun e => sameIgnoringCase e componentExtension

def scriptEndings : List (List Char) :=
  [['j', 's'], ['j', 's', 'x'], ['m', 'j', 's'], ['c', 'j', 's'],
   ['t', 's'], ['t', 's', 'x'], ['m', 't', 's'], ['c', 't', 's']]

def isScript (path : List Char) : Bool :=
  (extension? path).any scriptEndings.contains

/-- A file whose imports can be sorted. -/
def mayHoldImports (path : List Char) : Bool :=
  isComponent path || isScript path

end Path
end ImportOrder
