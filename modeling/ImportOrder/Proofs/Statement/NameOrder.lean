import ImportOrder.Proofs.Sorting.Laws
import ImportOrder.Proofs.Statement.Names

/-!
# ImportOrder.Proofs.Statement.NameOrder

What sorting the names of a statement comes to. Only the first block in braces is looked at. If it
holds entries and no comments, the same statement is written with these entries in the order of their
names, those with the same name as they stood; otherwise the statement stays. Sorting a second time
changes nothing: `sortNames_projects`.
-/

namespace ImportOrder
namespace Statement

open Text Sorting

/-- A statement with its first block in braces, and what stands before and behind that block. -/
structure FirstBlock (s before block after : List Char) : Prop where
  text_eq : s = before ++ '\x7b' :: (block ++ '\x7d' :: after)
  opening : '\x7b' ∉ before
  closing : '\x7d' ∉ block

theorem firstBlock_iff {s before block after : List Char} :
    FirstBlock s before block after ↔ splitBraces? s = some (before, block, after) := by
  constructor
  · rintro ⟨rfl, hbefore, hblock⟩
    exact splitBraces?_append hbefore hblock after
  · intro h
    obtain ⟨htext, hbefore, hblock⟩ := splitBraces?_eq_some h
    exact ⟨htext, hbefore, hblock⟩

/-- A block that sorting writes anew. -/
def Sortable (block : List Char) : Prop :=
  hasComment block = false ∧ entries block ≠ []

def compareEntries (ignoreCase : Bool) (a b : List Char) : Ordering :=
  natural ignoreCase (nameOf a) (nameOf b)

/-- The names that the entries of a statement's first block go by. -/
def blockNames (s : List Char) : List (List Char) :=
  match splitBraces? s with
  | none => []
  | some (_, block, _) => (entries block).map nameOf

theorem stablySorted_entries_iff {ignoreCase : Bool} {block : List Char}
    (htrans : TransOn (natural ignoreCase) ((entries block).map nameOf)) {names : List (List Char)} :
    StablySorted (compareEntries ignoreCase) (entries block) names ↔
      names = sortedEntries ignoreCase block :=
  stablySorted_iff (fun a b => natural_swap ignoreCase (nameOf a) (nameOf b)) htrans.of_map

/-- Sorting the names of a statement twice is sorting them once. A statement that changes has a first
block that can be sorted. With such a block the statement is written as it stood up to the brace and
behind it, and between the commas of its first block there now stand, blanks apart, the entries of the
old one in the stable order of their names. -/
theorem sortNames_projects (ignoreCase : Bool) (s : List Char)
    (htrans : ignoreCase = false → TransOn (natural false) (blockNames s)) :
    sortNames ignoreCase (sortNames ignoreCase s) = sortNames ignoreCase s ∧
    (sortNames ignoreCase s ≠ s →
      ∃ before block after, FirstBlock s before block after ∧ Sortable block) ∧
    ∀ before block after, FirstBlock s before block after → Sortable block →
      ∃ sorted, FirstBlock (sortNames ignoreCase s) before sorted after ∧
        ∀ names, StablySorted (compareEntries ignoreCase) (entries block) names ↔
          names = (splitWhere (· == ',') sorted).map trim := by
  refine ⟨sortNames_sortNames ignoreCase s, fun hchanged => ?_, ?_⟩
  · rcases sortNames_eq ignoreCase s with hsame | ⟨before, block, after, hsplit, hcomment, hne, -⟩
    · exact absurd hsame hchanged
    · exact ⟨before, block, after, firstBlock_iff.2 hsplit, hcomment, hne⟩
  · rintro before block after hfirst ⟨hcomment, hne⟩
    have hsplit := firstBlock_iff.1 hfirst
    have hnames : blockNames s = (entries block).map nameOf := by
      rw [blockNames, hsplit]
    have hpieces : (splitWhere (· == ',') (joined (sortedEntries ignoreCase block))).map trim =
        sortedEntries ignoreCase block :=
      pieces_joined (fun e he => (mem_sortedEntries he).2) (sortedEntries_ne_nil hne)
    refine ⟨joined (sortedEntries ignoreCase block),
      ⟨sortNames_of_block hsplit hcomment hne ignoreCase, hfirst.opening,
        closing_not_mem_joined hfirst.closing⟩, fun names => ?_⟩
    rw [hpieces]
    exact stablySorted_entries_iff (transOn_of_case fun hcase => hnames ▸ htrans hcase)

/-- Two entries of one name stay as they stood; the modifier `type` and the comma at the end do not
count. -/
theorem sortNames_projects_equal_names :
    TransOn (natural false) (blockNames "import \x7b b as y, type B,\n a, b, \x7d from 'x'".toList) ∧
    sortNames false "import \x7b b as y, type B,\n a, b, \x7d from 'x'".toList =
      "import \x7b a, b as y, b, type B \x7d from 'x'".toList ∧
    ∃ before block after, FirstBlock "import \x7b b as y, type B,\n a, b, \x7d from 'x'".toList
        before block after ∧ Sortable block ∧
      ∃ sorted, FirstBlock "import \x7b a, b as y, b, type B \x7d from 'x'".toList before sorted after ∧
        ∀ names, StablySorted (compareEntries false) (entries block) names ↔
          names = (splitWhere (· == ',') sorted).map trim := by
  have htrans : TransOn (natural false)
      (blockNames "import \x7b b as y, type B,\n a, b, \x7d from 'x'".toList) := by
    decide +kernel
  have hwritten : sortNames false "import \x7b b as y, type B,\n a, b, \x7d from 'x'".toList =
      "import \x7b a, b as y, b, type B \x7d from 'x'".toList := by
    decide +kernel
  obtain ⟨-, hchanged, hsorted⟩ := sortNames_projects false _ fun _ => htrans
  obtain ⟨before, block, after, hfirst, hsortable⟩ := hchanged (by decide +kernel)
  obtain ⟨sorted, hagain, hstable⟩ := hsorted before block after hfirst hsortable
  exact ⟨htrans, hwritten, before, block, after, hfirst, hsortable, sorted, hwritten ▸ hagain, hstable⟩

end Statement
end ImportOrder
