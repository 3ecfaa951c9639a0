import ImportOrder.Proofs.Text.Lines
import ImportOrder.Text.Search

/-!
# ImportOrder.Proofs.Text.Search

The search for a word. `Holds` says that a word stands somewhere in a text, folding apart; `place?`
looks at every place in turn. The search that skips to places where the word can start finds the
same (`findFrom?_eq_place?`).

A word that stands in two texts put together stands in one of them or lies across the joint
(`holds_append`). Where a character that is not in the word stands at the joint it cannot lie
across, so texts free of the word can be joined there (`Joins`, `Free.append`).
-/

namespace ImportOrder
namespace Text

section Find

variable {α : Type} [BEq α] [LawfulBEq α] (fold : α → α)

/-- The word stands at the start of the list, folding apart. -/
def standsAt (word s : List α) : Bool :=
  (s.take word.length).map fold == word.map fold

/-- The first place of a word, looked for at every place. -/
def place? (word : List α) : List α → Option Nat
  | [] => none
  | x :: xs => if standsAt fold word (x :: xs) then some 0 else (place? word xs).map (· + 1)

variable {fold}

theorem standsAt_iff {word s : List α} :
    standsAt fold word s = true ↔ (s.take word.length).map fold = word.map fold := by
  rw [standsAt, beq_iff_eq]

theorem length_le_of_standsAt {word s : List α} (h : standsAt fold word s = true) :
    word.length ≤ s.length := by
  have := congrArg List.length (standsAt_iff.1 h)
  simp only [List.length_map, List.length_take] at this
  omega

theorem standsAt_cons {x y : α} {word ys : List α}
    (h : standsAt fold (x :: word) (y :: ys) = true) : fold y = fold x := by
  have := standsAt_iff.1 h
  simp only [List.length_cons, List.take_succ_cons, List.map_cons, List.cons.injEq] at this
  exact this.1

theorem place?_eq_none_of_length {word s : List α} (h : s.length < word.length) :
    place? fold word s = none := by
  induction s with
  | nil => rfl
  | cons x xs ih =>
    have hnot : ¬ standsAt fold word (x :: xs) = true := fun hs => by
      have := length_le_of_standsAt hs
      omega
    rw [List.length_cons] at h
    rw [place?, if_neg hnot, ih (by omega)]
    rfl

theorem place?_of_skipTo?_none {first : α} {word s : List α}
    (h : skipTo? fold first s = none) : place? fold (first :: word) s = none := by
  induction s with
  | nil => rfl
  | cons y ys ih =>
    rw [skipTo?] at h
    split at h
    · cases h
    · rename_i hy
      have hnot : ¬ standsAt fold (first :: word) (y :: ys) = true := fun hs =>
        hy (by rw [standsAt_cons hs]; simp)
      rw [place?, if_neg hnot, ih (by simpa using h)]
      rfl

theorem place?_of_skipTo? {first : α} {word s rest : List α} {k : Nat}
    (h : skipTo? fold first s = some (k, rest)) :
    place? fold (first :: word) s = (place? fold (first :: word) rest).map (k + ·) := by
  induction s generalizing k with
  | nil => simp [skipTo?] at h
  | cons y ys ih =>
    rw [skipTo?] at h
    split at h
    · cases h
      simp
    · rename_i hy
      obtain ⟨⟨j, r⟩, hr, he⟩ := Option.map_eq_some_iff.1 h
      cases he
      have hnot : ¬ standsAt fold (first :: word) (y :: ys) = true := fun hs =>
        hy (by rw [standsAt_cons hs]; simp)
      rw [place?, if_neg hnot, ih hr, Option.map_map]
      congr 1
      funext n
      simp only [Function.comp_apply]
      omega

/-- Skipping to the places where the word can start misses none. -/
theorem findFrom?_eq_place? {first : α} {word : List α} (rest : List α) (pos : Nat) :
    findFrom? fold first (first :: word) rest pos =
      (place? fold (first :: word) rest).map (pos + ·) := by
  fun_induction findFrom? fold first (first :: word) rest pos with
  | case1 rest pos hlen => rw [place?_eq_none_of_length hlen]; rfl
  | case2 rest pos hlen hskip => rw [place?_of_skipTo?_none hskip]; rfl
  | case3 rest pos hlen k hskip => rw [place?_of_skipTo? hskip]; rfl
  | case4 rest pos hlen k x more hskip hmore =>
    rw [place?_of_skipTo? hskip, place?_eq_none_of_length hmore]
    rfl
  | case5 rest pos hlen k x more hskip hmore hmatch =>
    have hs : standsAt fold (first :: word) (x :: more) = true := by simpa [standsAt] using hmatch
    rw [place?_of_skipTo? hskip, place?, if_pos hs, ← standsAt, if_pos hs]
    rfl
  | case6 rest pos hlen k x more hskip hmore hmatch ih =>
    have hs : ¬ standsAt fold (first :: word) (x :: more) = true := by
      simpa [standsAt] using hmatch
    rw [ih, place?_of_skipTo? hskip, place?, if_neg hs, ← standsAt, if_neg hs, Option.map_map,
      Option.map_map]
    congr 1
    funext n
    simp only [Function.comp_apply]
    omega

theorem find?_eq_map_place? {word : List α} (hne : word ≠ []) (s : List α) (start : Nat) :
    find? fold s word start = (place? fold word (s.drop start)).map (start + ·) := by
  cases word with
  | nil => exact absurd rfl hne
  | cons first word => rw [find?, findFrom?_eq_place?]

theorem find?_eq_place? {word : List α} (hne : word ≠ []) (s : List α) :
    find? fold s word 0 = place? fold word s := by
  rw [find?_eq_map_place? hne, List.drop_zero]
  simp

end Find

section Words

variable {α : Type} {fold : α → α}

/-- The word stands somewhere in the list, folding apart. -/
def Holds (fold : α → α) (word s : List α) : Prop :=
  ∃ t, t <:+: s ∧ t.map fold = word.map fold

/-- The word stands nowhere in the list. -/
def Free (fold : α → α) (word s : List α) : Prop :=
  ¬ Holds fold word s

theorem holds_id_iff {word s : List α} : Holds id word s ↔ word <:+: s := by
  simp only [Holds, List.map_id]
  constructor
  · rintro ⟨t, ht, rfl⟩
    exact ht
  · intro h
    exact ⟨word, h, rfl⟩

theorem free_id_iff {word s : List α} : Free id word s ↔ ¬ word <:+: s :=
  not_congr holds_id_iff

theorem Free.of_isInfix {word s t : List α} (h : Free fold word s) (ht : t <:+: s) :
    Free fold word t := by
  rintro ⟨u, hu, hfold⟩
  exact h ⟨u, hu.trans ht, hfold⟩

theorem free_nil {word : List α} (hne : word ≠ []) : Free fold word [] := by
  rintro ⟨t, ht, hfold⟩
  rw [List.infix_nil.1 ht] at hfold
  exact hne (List.map_eq_nil_iff.1 hfold.symm)

/-- A text that holds a word can be cut before the first place where it stands. -/
theorem Holds.exists_first {word s : List α} (hne : word ≠ []) (h : Holds id word s) :
    ∃ front back, s = front ++ (word ++ back) ∧ Free id word front := by
  rw [holds_id_iff] at h
  induction s with
  | nil => exact absurd (List.infix_nil.1 h) hne
  | cons x xs ih =>
    by_cases hpre : word <+: x :: xs
    · obtain ⟨back, hback⟩ := hpre
      exact ⟨[], back, hback.symm, free_nil hne⟩
    · obtain ⟨front, back, rfl, hfree⟩ := ih ((List.infix_cons_iff.1 h).resolve_left hpre)
      refine ⟨x :: front, back, rfl, free_id_iff.2 fun hin => ?_⟩
      rcases List.infix_cons_iff.1 hin with hstart | hin
      · exact hpre (hstart.trans (List.prefix_append (x :: front) _))
      · exact free_id_iff.1 hfree hin

/-- Where a word is found it stands, and not in what comes before. -/
theorem place?_eq_some [BEq α] [LawfulBEq α] {word s : List α} {n : Nat}
    (h : place? fold word s = some n) :
    standsAt fold word (s.drop n) = true ∧ (word ≠ [] → Free fold word (s.take n)) := by
  induction s generalizing n with
  | nil => cases h
  | cons x xs ih =>
    rw [place?] at h
    split at h
    · rename_i hstands
      cases h
      exact ⟨hstands, fun hne => free_nil hne⟩
    · rename_i hnot
      obtain ⟨m, hm, rfl⟩ := Option.map_eq_some_iff.1 h
      obtain ⟨hstands, hfree⟩ := ih hm
      refine ⟨hstands, fun hne => ?_⟩
      rintro ⟨t, ht, hfold⟩
      rw [List.take_succ_cons] at ht
      rcases List.infix_cons_iff.1 ht with hpre | hin
      · have hlen : t.length = word.length := by simpa using congrArg List.length hfold
        have hwhole : t <+: x :: xs := by
          rw [← List.take_succ_cons] at hpre
          exact hpre.trans (List.take_prefix _ _)
        refine hnot (standsAt_iff.2 ?_)
        rw [← hlen, ← List.prefix_iff_eq_take.1 hwhole]
        exact hfold
      · exact hfree hne ⟨t, hin, hfold⟩

/-- A word in two texts put together stands in one of them or lies across the joint. -/
theorem holds_append {word a b : List α} (h : Holds fold word (a ++ b)) :
    Holds fold word a ∨ Holds fold word b ∨
      ∃ x y, x ≠ [] ∧ y ≠ [] ∧ x <:+ a ∧ y <+: b ∧ (x ++ y).map fold = word.map fold := by
  obtain ⟨t, ⟨front, back, ht⟩, hfold⟩ := h
  rw [List.append_assoc] at ht
  rcases List.append_eq_append_iff.1 ht with ⟨u, ha, hb⟩ | ⟨u, hf, hb⟩
  · rcases List.append_eq_append_iff.1 hb with ⟨v, hu, hv⟩ | ⟨v, hu, hv⟩
    · -- the word ends inside `a`
      exact .inl ⟨t, ⟨front, v, by rw [ha, hu, List.append_assoc]⟩, hfold⟩
    · by_cases hx : u = []
      · subst hx
        exact .inr (.inl ⟨t, ⟨[], back, by rw [hu, hv]; simp⟩, hfold⟩)
      · by_cases hy : v = []
        · subst hy
          rw [List.append_nil] at hu
          exact .inl ⟨t, ⟨front, [], by rw [ha, hu, List.append_nil]⟩, hfold⟩
        · exact .inr (.inr ⟨u, v, hx, hy, ⟨front, ha.symm⟩, ⟨back, hv.symm⟩, by rw [← hu, hfold]⟩)
  · exact .inr (.inl ⟨t, ⟨u, back, by rw [hb, List.append_assoc]⟩, hfold⟩)

/-- No element folds like one of the word. -/
def Apart (fold : α → α) (word : List α) (x : α) : Prop :=
  fold x ∉ word.map fold

/-- The word cannot lie across the joint of the two texts. -/
def Joins (fold : α → α) (word a b : List α) : Prop :=
  ∀ x y, x ≠ [] → y ≠ [] → x <:+ a → y <+: b → (x ++ y).map fold ≠ word.map fold

theorem Free.append {word a b : List α} (ha : Free fold word a) (hb : Free fold word b)
    (hj : Joins fold word a b) : Free fold word (a ++ b) := by
  intro h
  rcases holds_append h with h | h | ⟨x, y, hx, hy, hxa, hyb, hfold⟩
  · exact ha h
  · exact hb h
  · exact hj x y hx hy hxa hyb hfold

theorem joins_of_head {word a b : List α} (h : ∀ x, b.head? = some x → Apart fold word x) :
    Joins fold word a b := by
  rintro u v - hv - ⟨w, rfl⟩ hfold
  cases v with
  | nil => exact hv rfl
  | cons x v =>
    refine h x rfl ?_
    rw [← hfold]
    simp

theorem joins_of_last {word a b : List α} (h : ∀ x, a.getLast? = some x → Apart fold word x) :
    Joins fold word a b := by
  rintro u v hu - ⟨w, rfl⟩ - hfold
  obtain ⟨x, hlast⟩ : ∃ x, u.getLast? = some x :=
    Option.isSome_iff_exists.1 (List.getLast?_isSome.2 hu)
  refine h x (by rw [List.getLast?_append, hlast]; rfl) ?_
  rw [← hfold, List.map_append]
  exact List.mem_append_left _ (List.mem_map_of_mem (List.mem_of_getLast? hlast))

/-- A word of two elements lies across a joint only if its first element ends the first text. -/
theorem joins_of_pair {first second : α} {a : List α} (h : a.getLast? ≠ some first) (b : List α) :
    Joins id [first, second] a b := by
  rintro u v hu hv ⟨w, rfl⟩ - hfold
  rw [List.map_id, List.map_id] at hfold
  cases u with
  | nil => exact hu rfl
  | cons x u =>
    cases u with
    | nil =>
      rw [List.singleton_append, List.cons.injEq] at hfold
      refine h ?_
      rw [hfold.1, List.getLast?_concat]
    | cons y u =>
      have hlen := congrArg List.length hfold
      cases v with
      | nil => exact hv rfl
      | cons z v =>
        simp only [List.cons_append, List.length_cons, List.length_append, List.length_nil] at hlen
        omega

theorem free_of_apart {word s : List α} (hne : word ≠ []) (h : ∀ x ∈ s, Apart fold word x) :
    Free fold word s := by
  rintro ⟨t, ht, hfold⟩
  cases t with
  | nil => exact hne (List.map_eq_nil_iff.1 hfold.symm)
  | cons x t =>
    refine h x (ht.subset List.mem_cons_self) ?_
    rw [← hfold]
    simp

theorem free_of_not_mem {first : α} {word s : List α} (h : first ∉ s) : Free id (first :: word) s :=
  free_id_iff.2 fun hin => h (hin.subset List.mem_cons_self)

/-- Texts free of a word can be joined by elements that are apart from it. -/
theorem Free.join {word a m b : List α} (ha : Free fold word a) (hm : ∀ x ∈ m, Apart fold word x)
    (hm' : m ≠ []) (hb : Free fold word b) : Free fold word (a ++ (m ++ b)) := by
  obtain ⟨x, m, rfl⟩ := List.exists_cons_of_ne_nil hm'
  by_cases hne : word = []
  · -- the empty word stands in every text
    subst hne
    exact absurd ⟨[], List.nil_infix, rfl⟩ hb
  · have hback := (free_of_apart hne hm).append hb
      (joins_of_last fun y hy => hm y (List.mem_of_getLast? hy))
    refine ha.append hback (joins_of_head fun y hy => ?_)
    cases hy
    exact hm x List.mem_cons_self

/-- Behind a text that is free of a word, the word is found where it stands. Its first element
stands nowhere else in it, so it cannot have begun before. -/
theorem place?_append [BEq α] [LawfulBEq α] {first : α} {word s rest : List α}
    (hfirst : ∀ y ∈ word, fold y ≠ fold first) (hs : Free fold (first :: word) s)
    (hrest : standsAt fold (first :: word) rest = true) :
    place? fold (first :: word) (s ++ rest) = some s.length := by
  obtain ⟨r, more, rfl⟩ : ∃ r more, rest = r :: more := by
    cases rest with
    | nil => simp [standsAt] at hrest
    | cons r more => exact ⟨r, more, rfl⟩
  induction s with
  | nil => rw [List.nil_append, place?, if_pos hrest]; rfl
  | cons c s ih =>
    have hnot : ¬ standsAt fold (first :: word) (c :: s ++ r :: more) = true := by
      intro hstands
      have heq := standsAt_iff.1 hstands
      by_cases hlen : (first :: word).length ≤ (c :: s).length
      · rw [List.take_append_of_le_length hlen] at heq
        exact hs ⟨_, (List.take_prefix _ _).isInfix, heq⟩
      · -- the place behind `c :: s` would hold both the first element and a later one
        have hget : (List.map fold _)[(c :: s).length]? = (List.map fold _)[(c :: s).length]? :=
          congrArg (·[(c :: s).length]?) heq
        rw [List.getElem?_map, List.getElem?_take_of_lt (Nat.lt_of_not_le hlen), List.getElem?_map,
          List.getElem?_append_right (Nat.le_refl _)] at hget
        simp only [List.length_cons, Nat.sub_self, List.getElem?_cons_zero, Option.map_some,
          List.getElem?_cons_succ] at hget
        obtain ⟨y, hy, hfold⟩ := Option.map_eq_some_iff.1 hget.symm
        exact hfirst y (List.mem_of_getElem? hy) (hfold.trans (standsAt_cons hrest))
    rw [List.cons_append, place?, ← List.cons_append, if_neg hnot,
      ih (hs.of_isInfix (List.suffix_cons c s).isInfix)]
    rfl

end Words

end Text
end ImportOrder
