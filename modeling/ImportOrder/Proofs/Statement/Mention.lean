import ImportOrder.Proofs.Statement.Names
import ImportOrder.Statement.Reading

/-!
# ImportOrder.Proofs.Statement.Mention

What the search for a module path stops at. An `Opening` is `from` or `import`, blanks and a quote;
with a quoted value behind it, it is a `Mention` of that value. The path of a text is the value of
its first mention (`path_of_mention`, `path_append_of_first`, `path_append_of_not`).

In front of a mention there is an earlier one exactly if there is an opening that no quote follows
at once (`exists_firstMention_iff`). An opening holds neither comma nor brace and is not blank at its
ends, so it stands in one entry of a block, and sorting the entries keeps it (`opens_joined`).
-/

namespace ImportOrder
namespace Statement

open Text

/-! ## Openings and mentions -/

/-- `from` or `import`, blanks and a quote. -/
inductive Opening : List Char → Prop
  | quote {word a : List Char} {q : Char} (hword : word = fromWord ∨ word = importWord)
      (ha : RunOf isBlank a) (hq : isQuote q = true) : Opening (word ++ (a ++ [q]))

/-- The text starts with an opening, and the value runs from there to the next quote. -/
inductive Mention (value : List Char) : List Char → Prop
  | quoted {opening rest : List Char} {q : Char} (hopening : Opening opening)
      (hvalue : RunOf (!isQuote ·) value) (hq : isQuote q = true) :
      Mention value (opening ++ (value ++ q :: rest))

theorem quoted?_eq_some_iff {s value rest : List Char} :
    quoted? s = some (value, rest) ↔
      ∃ q q', isQuote q = true ∧ isQuote q' = true ∧ RunOf (!isQuote ·) value ∧
        s = q :: (value ++ q' :: rest) := by
  constructor
  · intro h
    simp only [quoted?, Option.bind_eq_bind, Option.bind_eq_some_iff] at h
    obtain ⟨u, hu, h⟩ := h
    obtain ⟨q, hq, rfl⟩ := quote?_eq_some hu
    split at h
    · cases h
    · rename_i hne
      simp only [Option.pure_def, Option.bind_eq_some_iff, Option.some.injEq, Prod.mk.injEq] at h
      obtain ⟨r, hr, rfl, rfl⟩ := h
      obtain ⟨q', hq', hdrop⟩ := quote?_eq_some hr
      have hvalue : RunOf (!isQuote ·) (u.takeWhile (!isQuote ·)) :=
        ⟨by simpa using hne, fun c hc => List.mem_takeWhile_imp (p := (!isQuote ·)) hc⟩
      refine ⟨q, q', hq, hq', hvalue, ?_⟩
      rw [← hdrop, List.takeWhile_append_dropWhile]
  · rintro ⟨q, q', hq, hq', hvalue, rfl⟩
    have htake : (value ++ q' :: rest).takeWhile (!isQuote ·) = value := by
      rw [List.takeWhile_append_of_pos hvalue.all]
      simp [hq']
    have hdrop := dropWhile_append_of_stops (r := q' :: rest) hvalue.all (by simp [hq'])
    have hne : value.isEmpty = false := List.isEmpty_eq_false_iff.2 hvalue.nonempty
    simp only [quoted?, quote?, hq, hq', htake, hdrop, hne, if_true, Option.bind_eq_bind,
      Option.bind_some, Bool.false_eq_true, if_false, Option.pure_def]

theorem quotedBehind?_eq_some_iff {word s value : List Char} :
    quotedBehind? word s = some value ↔
      ∃ a q rest, RunOf isBlank a ∧ isQuote q = true ∧ ∃ q', isQuote q' = true ∧
        RunOf (!isQuote ·) value ∧ s = word ++ (a ++ q :: (value ++ q' :: rest)) := by
  constructor
  · intro h
    simp only [quotedBehind?, Option.bind_eq_bind, Option.bind_eq_some_iff, Option.pure_def,
      Option.some.injEq] at h
    obtain ⟨u, hu, v, hv, ⟨w, rest⟩, hquoted, rfl⟩ := h
    obtain ⟨a, rfl, ha, -⟩ := many1?_eq_some hv
    obtain ⟨q, q', hq, hq', hvalue, rfl⟩ := quoted?_eq_some_iff.1 hquoted
    exact ⟨a, q, rest, ha, hq, q', hq', hvalue, dropWord?_eq_some hu⟩
  · rintro ⟨a, q, rest, ha, hq, q', hq', hvalue, rfl⟩
    have hblanks := many1?_append ha (r := q :: (value ++ q' :: rest))
      (by simp [isBlank_of_isQuote hq])
    have hquoted : quoted? (q :: (value ++ q' :: rest)) = some (value, rest) :=
      quoted?_eq_some_iff.2 ⟨q, q', hq, hq', hvalue, rfl⟩
    simp [quotedBehind?, blanks1?, hblanks, hquoted]

/-- The search stops at the mentions. -/
theorem mention_iff {s value : List Char} :
    (quotedBehind? fromWord s <|> quotedBehind? importWord s) = some value ↔
      Mention value s := by
  rw [Option.orElse_eq_orElse, Option.orElse_eq_or, Option.or_eq_some_iff]
  constructor
  · have mention : ∀ {word : List Char}, word = fromWord ∨ word = importWord →
        quotedBehind? word s = some value → Mention value s := by
      intro word hword h
      obtain ⟨a, q, rest, ha, hq, q', hq', hvalue, rfl⟩ := quotedBehind?_eq_some_iff.1 h
      have hmention : Mention value ((word ++ (a ++ [q])) ++ (value ++ q' :: rest)) :=
        .quoted (.quote hword ha hq) hvalue hq'
      simpa using hmention
    rintro (h | ⟨-, h⟩)
    · exact mention (.inl rfl) h
    · exact mention (.inr rfl) h
  · rintro ⟨⟨hword, ha, hq⟩, hvalue, hq'⟩
    rename_i rest q' word a q
    have hread : quotedBehind? word (word ++ (a ++ q :: (value ++ q' :: rest))) = some value :=
      quotedBehind?_eq_some_iff.2 ⟨a, q, rest, ha, hq, q', hq', hvalue, rfl⟩
    simp only [List.append_assoc, List.cons_append, List.nil_append]
    rcases hword with rfl | rfl
    · exact .inl hread
    · exact .inr ⟨by simp [quotedBehind?, fromWord, importWord, dropWord?], hread⟩

theorem Mention.ne_nil {value s : List Char} (h : Mention value s) : s ≠ [] := by
  obtain ⟨⟨-, -, -⟩, -, -⟩ := h
  simp

theorem path_of_mention {value s : List Char} (h : Mention value s) : path s = value := by
  cases s with
  | nil => exact absurd rfl h.ne_nil
  | cons c s => rw [path, mention_iff.2 h]

theorem path_cons_of_not {c : Char} {s : List Char} (h : ∀ value, ¬ Mention value (c :: s)) :
    path (c :: s) = path s := by
  have hnone : (quotedBehind? fromWord (c :: s) <|> quotedBehind? importWord (c :: s)) = none :=
    Option.eq_none_iff_forall_ne_some.2 fun value hread => h value (mention_iff.1 hread)
  rw [path, hnone]

/-- The first mention that begins in a text, with `rest` behind it, quotes `value`. -/
inductive FirstMention (rest value : List Char) : List Char → Prop
  | here {s : List Char} (hne : s ≠ []) (h : Mention value (s ++ rest)) : FirstMention rest value s
  | later {c : Char} {s : List Char} (hnot : ∀ other, ¬ Mention other (c :: (s ++ rest)))
      (h : FirstMention rest value s) : FirstMention rest value (c :: s)

section Path

variable {rest value s : List Char}

theorem path_append_of_first (h : FirstMention rest value s) : path (s ++ rest) = value := by
  induction h with
  | here hne h => exact path_of_mention h
  | later hnot h ih => rw [List.cons_append, path_cons_of_not hnot, ih]

theorem path_append_of_not (h : ∀ other, ¬ FirstMention rest other s) :
    path (s ++ rest) = path rest := by
  induction s with
  | nil => rfl
  | cons c s ih =>
    have hnot : ∀ other, ¬ Mention other (c :: (s ++ rest)) :=
      fun other hother => h other (.here (by simp) hother)
    rw [List.cons_append, path_cons_of_not hnot]
    exact ih fun other hother => h other (.later hnot hother)

end Path

/-! ## Where an opening stands -/

theorem isQuote_of_isBlank {c : Char} (h : isBlank c = true) : isQuote c = false := by
  cases hc : isQuote c with
  | false => rfl
  | true => rw [isBlank_of_isQuote hc] at h; cases h

theorem Opening.eq_append {t : List Char} (h : Opening t) :
    ∃ front q, t = front ++ [q] ∧ isQuote q = true ∧ ∀ c ∈ front, isQuote c = false := by
  obtain ⟨hword, ha, hq⟩ := h
  rename_i word a q
  refine ⟨word ++ a, q, by rw [List.append_assoc], hq, fun c hc => ?_⟩
  rcases List.mem_append.1 hc with hc | hc
  · have hall : word.all (fun c => !isQuote c) = true := by
      rcases hword with rfl | rfl <;> rfl
    simpa using List.all_eq_true.1 hall c hc
  · exact isQuote_of_isBlank (ha.all c hc)

theorem Opening.head? {t : List Char} (h : Opening t) :
    t.head? = some 'f' ∨ t.head? = some 'i' := by
  obtain ⟨hword, -, -⟩ := h
  rcases hword with rfl | rfl
  · exact .inl rfl
  · exact .inr rfl

/-- A character that is no letter of the two words, not blank and no quote. -/
def Separates (c : Char) : Prop :=
  c ∉ fromWord ∧ c ∉ importWord ∧ isBlank c = false ∧ isQuote c = false

instance (c : Char) : Decidable (Separates c) :=
  inferInstanceAs (Decidable (_ ∧ _ ∧ _ ∧ _))

theorem Opening.not_mem {t : List Char} (h : Opening t) {c : Char} (hc : Separates c) : c ∉ t := by
  obtain ⟨hfrom, himport, hblank, hquote⟩ := hc
  obtain ⟨hword, ha, hq⟩ := h
  rename_i word a q
  intro hm
  rcases List.mem_append.1 hm with hm | hm
  · rcases hword with rfl | rfl
    · exact hfrom hm
    · exact himport hm
  · rcases List.mem_append.1 hm with hm | hm
    · rw [ha.all c hm] at hblank
      cases hblank
    · rw [List.mem_singleton.1 hm, hq] at hquote
      cases hquote

theorem Opening.eq_nil {y t : List Char} (h : Opening (y ++ t)) (ht : Opening t) : y = [] := by
  generalize hs : y ++ t = s at h
  obtain ⟨hword, ha, hq⟩ := h
  rename_i word a q
  obtain ⟨hword', ha', hq'⟩ := ht
  rename_i word' a' q'
  -- without their quotes and blanks the two texts end in their words
  simp only [← List.append_assoc] at hs
  obtain ⟨hfront, -⟩ := List.append_inj' hs rfl
  have hwords : y ++ word' = word := by
    have hends : ∀ {w : List Char}, w = fromWord ∨ w = importWord →
        ∀ {x b : List Char}, (∀ c ∈ b, isBlank c = true) → trimEnd (x ++ w ++ b) = x ++ w := by
      intro w hw x b hb
      have hvisible : EndsVisible w := by
        rcases hw with rfl | rfl
        · exact ⟨['f', 'r', 'o'], 'm', rfl, rfl⟩
        · exact ⟨['i', 'm', 'p', 'o', 'r'], 't', rfl, rfl⟩
      have hself : trimEnd (x ++ w) = x ++ w := by
        have := trimEnd_append (hvisible.prepend x) []
        rwa [List.append_nil, show trimEnd ([] : List Char) = [] from rfl, List.append_nil] at this
      rw [trimEnd_append_of_blank hb, hself]
    have := congrArg trimEnd hfront
    rw [hends hword' ha'.all] at this
    rw [this]
    exact hends (x := []) hword ha.all
  have hlength := congrArg List.length hwords
  rcases hword with rfl | rfl <;> rcases hword' with rfl | rfl
  · exact List.length_eq_zero_iff.1 (by simpa using hlength)
  · simp [fromWord, importWord] at hlength
  · have hlast := congrArg List.getLast? hwords
    simp [fromWord, importWord] at hlast
  · exact List.length_eq_zero_iff.1 (by simpa using hlength)

/-- Two texts that agree up to a quote in each agree up to the first quote. -/
theorem eq_of_append_quote {a b x y : List Char} {q q' : Char}
    (ha : ∀ c ∈ a, isQuote c = false) (hb : ∀ c ∈ b, isQuote c = false) (hq : isQuote q = true)
    (hq' : isQuote q' = true) (h : a ++ q :: x = b ++ q' :: y) : a = b := by
  have htake : ∀ {a x : List Char} {q : Char}, (∀ c ∈ a, isQuote c = false) → isQuote q = true →
      (a ++ q :: x).takeWhile (!isQuote ·) = a := by
    intro a x q ha hq
    rw [List.takeWhile_append_of_pos (by simpa using ha)]
    simp [hq]
  rw [← htake ha hq (x := x), h, htake hb hq']

/-- An opening that begins before another one ends before it. -/
theorem Opening.isPrefix {y t other x r : List Char} (h : Opening t) (hother : Opening other)
    (hy : y ≠ []) (heq : y ++ (other ++ r) = t ++ x) : ∃ z, y = t ++ z := by
  rcases List.append_eq_append_iff.1 heq with ⟨w, rfl, hw⟩ | ⟨z, hz, -⟩
  · cases w using List.reverseRecOn with
    | nil => exact ⟨[], by simp⟩
    | append_singleton w q =>
      obtain ⟨front, q', hfront, hq', hunquoted⟩ := h.eq_append
      obtain ⟨front', q'', rfl, hq'', hunquoted'⟩ := hother.eq_append
      rw [← List.append_assoc] at hfront
      obtain ⟨hyw, hlast⟩ := List.append_inj' hfront rfl
      cases hlast
      -- the quote of the first opening is that of the second
      have hw' : w = front' := by
        refine eq_of_append_quote (x := x) (y := r) (fun c hc => hunquoted c ?_) hunquoted' hq' hq'' ?_
        · rw [← hyw]
          exact List.mem_append_right _ hc
        · simpa using hw.symm
      subst hw'
      have hsame : q = q'' := by
        rw [List.append_assoc, List.append_assoc] at hw
        exact (List.cons.inj (List.append_cancel_left hw)).1.symm
      subst hsame
      exact absurd (h.eq_nil hother) hy
  · exact ⟨z, hz⟩

/-! ## Texts with an opening -/

/-- Somewhere in the text stands an opening that no quote follows at once. -/
def Opens (s : List Char) : Prop :=
  ∃ before opening rest, s = before ++ (opening ++ rest) ∧ Opening opening ∧ Stops isQuote rest

theorem not_opens_of_unquoted {s : List Char} (h : ∀ c ∈ s, isQuote c = false) : ¬ Opens s := by
  rintro ⟨before, opening, rest, rfl, hopening, -⟩
  obtain ⟨front, q, rfl, hq, -⟩ := hopening.eq_append
  rw [h q (by simp)] at hq
  cases hq

theorem Opening.stops {t : List Char} (h : Opening t) (r : List Char) : Stops isQuote (t ++ r) := by
  rcases t with _ | ⟨c, t⟩
  · rcases h.head? with hhead | hhead <;> cases hhead
  · rcases h.head? with hhead | hhead
    · cases hhead
      exact stops_cons.2 rfl
    · cases hhead
      exact stops_cons.2 rfl

/-- Up to its first quote a text is a value, unless it starts with that quote. -/
theorem exists_value {s : List Char} (hs : Stops isQuote s) {q : Char} (hq : isQuote q = true)
    (hmem : q ∈ s) :
    ∃ value q' rest, s = value ++ q' :: rest ∧ RunOf (!isQuote ·) value ∧ isQuote q' = true := by
  have hsplit : s.takeWhile (!isQuote ·) ++ s.dropWhile (!isQuote ·) = s :=
    List.takeWhile_append_dropWhile
  cases hdrop : s.dropWhile (!isQuote ·) with
  | nil =>
    have := List.dropWhile_eq_nil_iff.1 hdrop q hmem
    simp [hq] at this
  | cons q' rest =>
    have hq' := List.head?_dropWhile_not (!isQuote ·) s
    rw [hdrop] at hq' hsplit
    refine ⟨_, q', rest, hsplit.symm, ⟨fun hnil => ?_, fun c hc =>
      List.mem_takeWhile_imp (p := (!isQuote ·)) hc⟩, by simpa using hq'⟩
    rw [hnil, List.nil_append] at hsplit
    rw [← hsplit, stops_cons] at hs
    simp [hs] at hq'

/-- In front of a mention, an opening that no quote follows at once makes a mention of its own. -/
theorem exists_mention {opening rest origin module : List Char} (hopening : Opening opening)
    (hrest : Stops isQuote rest) (horigin : Mention module origin) :
    ∃ value, Mention value (opening ++ (rest ++ origin)) := by
  obtain ⟨hother, -, -⟩ := horigin
  rename_i other tail q
  obtain ⟨front, q', hfront, hq', -⟩ := hother.eq_append
  have hstops : Stops isQuote (rest ++ (other ++ (module ++ q :: tail))) := by
    cases rest with
    | nil => exact hother.stops _
    | cons c rest => exact stops_cons.2 (stops_cons.1 hrest)
  have hmem : q' ∈ rest ++ (other ++ (module ++ q :: tail)) := by simp [hfront]
  obtain ⟨value, q'', more, heq, hvalue, hq''⟩ := exists_value hstops hq' hmem
  exact ⟨value, heq ▸ .quoted hopening hvalue hq''⟩

/-- In front of a mention, an earlier one is the same as an opening that no quote follows at
once. -/
theorem exists_firstMention_iff {s origin module : List Char} (horigin : Mention module origin) :
    (∃ value, FirstMention origin value s) ↔ Opens s := by
  constructor
  · rintro ⟨value, h⟩
    induction h with
    | here hne h =>
      rename_i s
      generalize htext : s ++ origin = text at h
      obtain ⟨hopening, hvalue, -⟩ := h
      rename_i opening rest q
      obtain ⟨hother, -, -⟩ := horigin
      obtain ⟨z, rfl⟩ := hopening.isPrefix hother hne htext
      refine ⟨[], opening, z, rfl, hopening, ?_⟩
      rw [List.append_assoc] at htext
      have hbehind := List.append_cancel_left htext
      cases z with
      | nil => exact stops_nil _
      | cons c z =>
        have hstops := hvalue.stops (p := isQuote) (by simp)
        rw [← stops_append hvalue.nonempty (r := q :: rest), ← hbehind] at hstops
        exact stops_cons.2 (stops_cons.1 hstops)
    | later hnot h ih =>
      obtain ⟨before, opening, rest, rfl, hopening⟩ := ih
      exact ⟨_ :: before, opening, rest, rfl, hopening⟩
  · rintro ⟨before, opening, rest, rfl, hopening, hrest⟩
    induction before with
    | nil =>
      obtain ⟨value, h⟩ := exists_mention hopening hrest horigin
      refine ⟨value, .here ?_ (by simpa using h)⟩
      obtain ⟨front, q, rfl, -⟩ := hopening.eq_append
      simp
    | cons c before ih =>
      obtain ⟨value, h⟩ := ih
      by_cases hhere : ∃ other, Mention other (c :: (before ++ (opening ++ rest) ++ origin))
      · obtain ⟨other, hother⟩ := hhere
        exact ⟨other, .here (by simp) hother⟩
      · exact ⟨value, .later (fun other hother => hhere ⟨other, hother⟩) h⟩

/-! ## Openings in the entries of a block -/

/-- An opening stands on one side of a character that it cannot hold. -/
theorem opens_append_cons {s r : List Char} {c : Char} (hc : Separates c) :
    Opens (s ++ c :: r) ↔ Opens s ∨ Opens r := by
  constructor
  · rintro ⟨before, opening, rest, heq, hopening, hrest⟩
    rcases List.append_eq_append_iff.1 heq with ⟨w, rfl, hw⟩ | ⟨w, rfl, hw⟩
    · cases w with
      | nil =>
        obtain ⟨front, q, rfl, -⟩ := hopening.eq_append
        obtain ⟨d, more, hmore⟩ : ∃ d more, front ++ [q] = d :: more :=
          List.exists_cons_of_ne_nil (by simp)
        rw [hmore, List.nil_append, List.cons_append, List.cons.injEq] at hw
        exact absurd (by rw [hmore, hw.1]; simp) (hopening.not_mem hc)
      | cons d w =>
        rw [List.cons_append, List.cons.injEq] at hw
        exact .inr ⟨w, opening, rest, hw.2, hopening, hrest⟩
    · obtain ⟨z, rfl, rfl⟩ := append_cons_eq_append (hopening.not_mem hc) hw.symm
      refine .inl ⟨before, opening, z, rfl, hopening, ?_⟩
      cases z with
      | nil => exact stops_nil _
      | cons d z => exact stops_cons.2 (stops_cons.1 hrest)
  · rintro (⟨before, opening, rest, rfl, hopening, hrest⟩ |
      ⟨before, opening, rest, rfl, hopening, hrest⟩)
    · refine ⟨before, opening, rest ++ c :: r, by simp, hopening, ?_⟩
      cases rest with
      | nil => exact stops_cons.2 hc.2.2.2
      | cons d rest => exact stops_cons.2 (stops_cons.1 hrest)
    · exact ⟨s ++ c :: before, opening, rest, by simp, hopening, hrest⟩

theorem opens_cons_blank {c : Char} (hc : isBlank c = true) {s : List Char} :
    Opens (c :: s) ↔ Opens s := by
  constructor
  · rintro ⟨before, opening, rest, heq, hopening, hrest⟩
    cases before with
    | nil =>
      obtain ⟨d, more, hmore⟩ : ∃ d more, opening = d :: more := by
        obtain ⟨front, q, rfl, -⟩ := hopening.eq_append
        exact List.exists_cons_of_ne_nil (by simp)
      subst hmore
      rw [List.nil_append, List.cons_append, List.cons.injEq] at heq
      rcases hopening.head? with hhead | hhead
      · cases hhead
        rw [heq.1] at hc
        exact absurd hc (by decide)
      · cases hhead
        rw [heq.1] at hc
        exact absurd hc (by decide)
    | cons d before =>
      exact ⟨before, opening, rest, (List.cons.inj heq).2, hopening, hrest⟩
  · rintro ⟨before, opening, rest, rfl, hopening, hrest⟩
    exact ⟨c :: before, opening, rest, rfl, hopening, hrest⟩

theorem opens_append_blank {c : Char} (hc : isBlank c = true) {s : List Char} :
    Opens (s ++ [c]) ↔ Opens s := by
  constructor
  · rintro ⟨before, opening, rest, heq, hopening, hrest⟩
    cases rest using List.reverseRecOn with
    | nil =>
      obtain ⟨front, q, rfl, hq, -⟩ := hopening.eq_append
      rw [List.append_nil, ← List.append_assoc] at heq
      have hlast := (List.append_inj' heq rfl).2
      rw [← (List.cons.inj hlast).1, isQuote_of_isBlank hc] at hq
      cases hq
    | append_singleton rest d =>
      simp only [← List.append_assoc] at heq
      refine ⟨before, opening, rest, ?_, hopening, ?_⟩
      · rw [(List.append_inj' heq rfl).1, List.append_assoc]
      · cases rest with
        | nil => exact stops_nil _
        | cons e rest => exact stops_cons.2 (stops_cons.1 hrest)
  · rintro ⟨before, opening, rest, rfl, hopening, hrest⟩
    refine ⟨before, opening, rest ++ [c], by simp, hopening, ?_⟩
    cases rest with
    | nil => exact stops_cons.2 (isQuote_of_isBlank hc)
    | cons e rest => exact stops_cons.2 (stops_cons.1 hrest)

theorem opens_trim (s : List Char) : Opens (trim s) ↔ Opens s := by
  obtain ⟨a, b, ha, hb, heq⟩ := exists_trim_append s
  generalize trim s = t at heq
  subst heq
  have hback : Opens (t ++ b) ↔ Opens t := by
    induction b using List.reverseRecOn with
    | nil => rw [List.append_nil]
    | append_singleton b c ih =>
      simp only [allBlank, List.all_append, Bool.and_eq_true, List.all_cons, List.all_nil,
        Bool.and_true] at hb
      rw [← List.append_assoc, opens_append_blank hb.2, ih hb.1]
  rw [← hback]
  induction a with
  | nil => rfl
  | cons c a ih =>
    simp only [allBlank, List.all_cons, Bool.and_eq_true] at ha
    rw [List.cons_append, opens_cons_blank ha.1]
    exact ih ha.2

theorem separates_comma : Separates ',' := by decide

theorem opens_splitWhere (s : List Char) :
    Opens s ↔ ∃ piece ∈ splitWhere (· == ',') s, Opens piece := by
  induction s using splitInduction (· == ',') with
  | last a ha => rw [splitWhere_of_not ha]; simp
  | cut a x s ha hx ih =>
    rw [splitWhere_append ha hx, beq_iff_eq.1 hx, opens_append_cons separates_comma, ih]
    simp

theorem opens_iff_entries (block : List Char) : Opens block ↔ ∃ e ∈ entries block, Opens e := by
  rw [opens_splitWhere]
  constructor
  · rintro ⟨piece, hmem, h⟩
    have htrim := (opens_trim piece).2 h
    refine ⟨trim piece, List.mem_filter.2 ⟨List.mem_map_of_mem hmem, ?_⟩, htrim⟩
    rw [Bool.not_eq_true', List.isEmpty_eq_false_iff]
    intro hnil
    rw [hnil] at htrim
    exact not_opens_of_unquoted (by simp) htrim
  · rintro ⟨e, hmem, h⟩
    obtain ⟨piece, hpiece, rfl⟩ := List.mem_map.1 (List.mem_filter.1 hmem).1
    exact ⟨piece, hpiece, (opens_trim piece).1 h⟩

/-- Sorting the entries of a block makes no opening and takes none away. -/
theorem opens_joined {block : List Char} (hne : entries block ≠ []) (ignoreCase : Bool) :
    Opens (joined (sortedEntries ignoreCase block)) ↔ Opens block := by
  have hsorted : sortedEntries ignoreCase block ≠ [] := sortedEntries_ne_nil hne
  have hentries := entries_joined (fun e he => (mem_sortedEntries he).2) hsorted
  have hperm : (sortedEntries ignoreCase block).Perm (entries block) :=
    Sorting.sortBy_perm _ _
  rw [opens_iff_entries, hentries, opens_iff_entries]
  exact exists_congr fun e => and_congr_left' hperm.mem_iff

end Statement
end ImportOrder
