import ImportOrder.Markup.Region
import ImportOrder.Sort

/-!
# ImportOrder.Component

Sorting the imports of a component: each script region is sorted by itself, and all other text of
the document stays.

Regions are replaced from the last to the first, so that the offsets of those still to come stay
right while the document changes its length.
-/

namespace ImportOrder
namespace Component

open Markup Text

/-- Gives the sorted content the newlines at its start and end that the content had. -/
def keepEdgeNewlines (content sorted : List Char) : List Char :=
  let sorted :=
    if content.head? = some '\n' && sorted.head? != some '\n' then '\n' :: sorted else sorted
  if content.getLast? = some '\n' && sorted.getLast? != some '\n' then sorted ++ ['\n'] else sorted

/-- Sorts one region in the document. -/
def spliceRegion (s : Sorter) (document : Sorted) (r : Region) : Sorted :=
  let sorted := s.sort r.content
  if sorted.changed then
    ⟨replaceSlice r.start r.stop (keepEdgeNewlines r.content sorted.code) document.code, true⟩
  else document

/-- Sorts the imports of a document, region by region. -/
def sort (s : Sorter) (document : List Char) : Sorted :=
  (regions document).reverse.foldl (spliceRegion s) ⟨document, false⟩

end Component
end ImportOrder
