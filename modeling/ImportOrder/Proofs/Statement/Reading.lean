import ImportOrder.Proofs.Statement.Names
import ImportOrder.Statement.Reading

/-!
# ImportOrder.Proofs.Statement.Reading

The path of a statement whose names are sorted. Up to the first closing brace a text without quotes
holds no path (`path_append`), so sorting the names there does not change which path is read
(`path_sortNames`).
-/

namespace ImportOrder
namespace Statement

open Text

theorem quotedBehind?_append {keyword : List Char} (hkeyword : '\x7d' ∉ keyword) {x : List Char}
    (hx : ∀ c ∈ x, isQuote c = false) (after : List Char) :
    quotedBehind? keyword (x ++ '\x7d' :: after) = none := by
  cases h : quotedBehind? keyword (x ++ '\x7d' :: after) with
  | none => rfl
  | some value =>
    simp only [quotedBehind?, Option.bind_eq_bind, Option.bind_eq_some_iff, Option.pure_def] at h
    obtain ⟨s, hword, r, hblanks, ⟨v, rest⟩, hquoted, -⟩ := h
    obtain ⟨y, rfl, rfl⟩ := append_cons_eq_append hkeyword (dropWord?_eq_some hword)
    obtain ⟨run, heq, hrun, -⟩ := many1?_eq_some hblanks
    have hbrace : '\x7d' ∉ run := fun hm => absurd (hrun.all _ hm) (by decide)
    obtain ⟨z, rfl, rfl⟩ := append_cons_eq_append hbrace heq
    -- the quote would have to stand in the text, or be the brace
    cases z with
    | nil => simp [quoted?, quote?, show isQuote '\x7d' = false from rfl] at hquoted
    | cons c z =>
      have hc := hx c (by simp)
      simp [quoted?, quote?, hc] at hquoted

theorem path_append {x : List Char} (hx : ∀ c ∈ x, isQuote c = false) (after : List Char) :
    path (x ++ '\x7d' :: after) = path ('\x7d' :: after) := by
  induction x with
  | nil => rfl
  | cons c x ih =>
    have hfrom := quotedBehind?_append (show '\x7d' ∉ fromWord by decide) hx after
    have himport := quotedBehind?_append (show '\x7d' ∉ importWord by decide) hx after
    rw [List.cons_append] at hfrom himport ⊢
    rw [path, hfrom, himport]
    exact ih fun d hd => hx d (List.mem_cons_of_mem c hd)

/-- No quote stands before the end of the first block in braces. -/
def NamesUnquoted (t : List Char) : Prop :=
  ∀ parts ∈ splitBraces? t, ∀ c ∈ parts.1 ++ parts.2.1, isQuote c = false

instance (t : List Char) : Decidable (NamesUnquoted t) :=
  inferInstanceAs
    (Decidable (∀ parts ∈ splitBraces? t, ∀ c ∈ parts.1 ++ parts.2.1, isQuote c = false))

theorem path_sortNames {t : List Char} (h : NamesUnquoted t) (ignoreCase : Bool) :
    path (sortNames ignoreCase t) = path t := by
  rcases sortNames_eq ignoreCase t with heq | ⟨before, block, after, hsplit, -, -, heq⟩
  · rw [heq]
  · have hquotes := h _ hsplit
    simp only [List.mem_append] at hquotes
    have hpath : ∀ names : List Char, (∀ c ∈ names, isQuote c = false) →
        path (before ++ '\x7b' :: (names ++ '\x7d' :: after)) = path ('\x7d' :: after) := by
      intro names hnames
      have := path_append (x := before ++ '\x7b' :: names) (fun c hc => ?_) after
      · simpa using this
      · simp only [List.mem_append, List.mem_cons] at hc
        rcases hc with hc | rfl | hc
        · exact hquotes c (.inl hc)
        · rfl
        · exact hnames c hc
    rw [heq, hpath _ fun c hc => ?_, (splitBraces?_eq_some hsplit).1,
      hpath block fun c hc => hquotes c (.inr hc)]
    rcases mem_joined_sortedEntries hc with rfl | rfl | hc
    · rfl
    · rfl
    · exact hquotes c (.inr hc)

end Statement
end ImportOrder
