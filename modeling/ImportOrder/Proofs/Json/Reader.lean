import ImportOrder.Json.Reader

/-!
# ImportOrder.Proofs.Json.Reader

What the readers of JSON leave of a text, and that their bounds on calls are never met.

A reader that succeeds leaves less than it was given. So a value that is read within some number of
calls is read the same within every number from `fuelFor` on, and `Reads` need not name one.
-/

namespace ImportOrder
namespace Json

open Text

section Leaving

variable {ε α β : Type}

theorem bind_eq_ok_iff {x : Except ε α} {f : α → Except ε β} {b : β} :
    x >>= f = .ok b ↔ ∃ a, x = .ok a ∧ f a = .ok b := by
  cases x with
  | error e => simp [bind, Except.bind]
  | ok a => simp [bind, Except.bind]

/-- A reader that succeeds leaves fewer than `n` characters. -/
def LeavesBelow (n : Nat) (r : Except ε (α × List Char)) : Prop :=
  ∀ a rest, r = .ok (a, rest) → rest.length < n

theorem LeavesBelow.error {n : Nat} {e : ε} :
    LeavesBelow n (.error e : Except ε (α × List Char)) := by
  intro a rest h
  cases h

theorem LeavesBelow.ok {n : Nat} {a : α} {rest : List Char} (h : rest.length < n) :
    LeavesBelow n (.ok (a, rest) : Except ε (α × List Char)) := by
  intro _ _ e
  cases e
  exact h

theorem LeavesBelow.mono {m n : Nat} {r : Except ε (α × List Char)} (h : LeavesBelow m r)
    (hmn : m ≤ n) : LeavesBelow n r :=
  fun a rest e => Nat.lt_of_lt_of_le (h a rest e) hmn

theorem LeavesBelow.bind {m n : Nat} {r : Except ε (α × List Char)}
    {f : α × List Char → Except ε (β × List Char)} (h : LeavesBelow m r)
    (hf : ∀ a rest, rest.length < m → LeavesBelow n (f (a, rest))) : LeavesBelow n (r >>= f) := by
  intro b rest e
  obtain ⟨⟨a, middle⟩, hr, hb⟩ := bind_eq_ok_iff.1 e
  exact hf a middle (h a middle hr) b rest hb

end Leaving

theorem length_skipSpace_le (s : List Char) : (skipSpace s).length ≤ s.length :=
  (List.dropWhile_sublist _).length_le

/-! ## Words and numbers -/

theorem leavesBelow_readWord (ws s : List Char) : LeavesBelow (s.length + 1) (readWord ws s) := by
  induction ws generalizing s with
  | nil => exact .ok (Nat.lt_succ_self _)
  | cons w ws ih =>
    cases s with
    | nil => exact .error
    | cons c s =>
      simp only [readWord]
      split
      · exact (ih s).mono (by simp)
      · exact .error

theorem leavesBelow_readDigits (s : List Char) : LeavesBelow s.length (readDigits s) := by
  cases s with
  | nil => exact .error
  | cons c s =>
    simp only [readDigits]
    split
    · exact .ok (Nat.lt_succ_of_le (List.dropWhile_sublist _).length_le)
    · exact .error

theorem leavesBelow_readInteger (s : List Char) : LeavesBelow s.length (readInteger s) := by
  unfold readInteger
  split
  · split
    · exact .error
    · exact .ok (by simp)
  · exact leavesBelow_readDigits _

theorem leavesBelow_readFraction (s : List Char) :
    LeavesBelow (s.length + 1) (readFraction s) := by
  unfold readFraction
  split
  · exact (leavesBelow_readDigits _).mono (by simp only [List.length_cons]; omega)
  · exact .ok (Nat.lt_succ_self _)

theorem leavesBelow_readExponent (s : List Char) :
    LeavesBelow (s.length + 1) (readExponent s) := by
  cases s with
  | nil => exact .ok (Nat.lt_succ_self _)
  | cons c s =>
    unfold readExponent
    split
    next h =>
      cases h
      split
      · split
        next negative t ht =>
          have hlen : t.length ≤ s.length := by
            split at ht <;> (cases ht; simp)
          split
          next digits rest h =>
            have := leavesBelow_readDigits t _ _ h
            exact .ok (by simp only [List.length_cons]; omega)
          · exact .error
      · exact .ok (Nat.lt_succ_self _)
    next h => cases h

theorem leavesBelow_readNumber (s : List Char) : LeavesBelow s.length (readNumber s) := by
  unfold readNumber
  split
  next negative t ht =>
    have hlen : t.length ≤ s.length := by
      split at ht <;> (cases ht; simp)
    refine .bind ((leavesBelow_readInteger t).mono hlen) fun whole s₁ h₁ => ?_
    refine .bind (leavesBelow_readFraction s₁) fun fraction s₂ h₂ => ?_
    refine .bind (leavesBelow_readExponent s₂) fun exponent s₃ h₃ => ?_
    dsimp only
    split
    · exact .error
    · exact .ok (by omega)

/-! ## Strings -/

theorem leavesBelow_readUnit (s : List Char) : LeavesBelow (s.length + 1) (readUnit s) := by
  unfold readUnit
  dsimp only
  split
  · exact .error
  · split
    · exact .error
    · split
      · exact .ok (by simp only [List.length_drop]; omega)
      · exact .error

theorem leavesBelow_readCodePoint (s : List Char) :
    LeavesBelow (s.length + 1) (readCodePoint s) := by
  refine .bind (leavesBelow_readUnit s) fun high s₁ h₁ => ?_
  dsimp only
  split
  · exact .error
  · split
    · refine .bind (leavesBelow_readWord _ s₁) fun _ s₂ h₂ => ?_
      refine .bind (leavesBelow_readUnit s₂) fun low s₃ h₃ => ?_
      dsimp only
      split
      · exact .ok (by omega)
      · exact .error
    · exact .ok h₁

theorem leavesBelow_readEscape (s : List Char) : LeavesBelow s.length (readEscape s) := by
  unfold readEscape
  split
  all_goals first
    | exact .error
    | exact .ok (Nat.lt_succ_self _)
    | exact leavesBelow_readCodePoint _

theorem leavesBelow_readChars (fuel : Nat) (s : List Char) :
    LeavesBelow s.length (readChars fuel s) := by
  induction fuel generalizing s with
  | zero => exact .error
  | succ fuel ih =>
    cases s with
    | nil => exact .error
    | cons c s =>
      unfold readChars
      split
      · exact .ok (Nat.lt_succ_self _)
      · split
        · refine .bind (leavesBelow_readEscape s) fun d s₁ h₁ => ?_
          refine .bind (ih s₁) fun cs s₂ h₂ => .ok ?_
          simp only [List.length_cons]
          omega
        · split
          · exact .error
          · refine .bind (ih s) fun cs s₁ h₁ => .ok ?_
            simp only [List.length_cons]
            omega

theorem leavesBelow_readString (s : List Char) : LeavesBelow s.length (readString s) :=
  .bind (leavesBelow_readChars _ s) fun _ _ h => .ok h

/-! ## Scalars, items and keys -/

theorem leavesBelow_readScalar (s : List Char) : LeavesBelow s.length (readScalar s) := by
  unfold readScalar
  split
  · exact .error
  · exact .bind (leavesBelow_readWord _ _) fun _ _ h => .ok h
  · exact .bind (leavesBelow_readWord _ _) fun _ _ h => .ok h
  · exact .bind (leavesBelow_readWord _ _) fun _ _ h => .ok h
  · exact .bind (leavesBelow_readString _) fun _ _ h => .ok (Nat.lt_succ_of_lt h)
  · split
    · exact leavesBelow_readNumber _
    · exact .error

theorem readScalar_ne_object {s rest : List Char} {fields : List (String × Json)} :
    readScalar s ≠ .ok (.object fields, rest) := by
  intro h
  unfold readScalar at h
  split at h
  · cases h
  iterate 4
    · obtain ⟨_, -, h⟩ := bind_eq_ok_iff.1 h
      cases h
  · split at h
    · simp only [readNumber, bind_eq_ok_iff] at h
      obtain ⟨_, -, _, -, _, -, h⟩ := h
      split at h <;> cases h
    · cases h

theorem length_lt_of_nextItem_inr {isFirst : Bool} {s rest : List Char}
    (h : nextItem isFirst s = .ok (.inr rest)) : rest.length < s.length := by
  have hs := length_skipSpace_le s
  unfold nextItem at h
  split at h
  · cases h
  next t ht =>
    cases h
    rw [ht] at hs
    exact hs
  · split at h
    · cases h
    · split at h
      · split at h <;> cases h
      · cases h

theorem length_le_of_nextItem_inl {isFirst : Bool} {s t : List Char}
    (h : nextItem isFirst s = .ok (.inl t)) : t.length ≤ s.length := by
  have hs := length_skipSpace_le s
  unfold nextItem at h
  split at h
  · cases h
  · cases h
  next c u _ hu =>
    rw [hu] at hs
    split at h
    · cases h
      exact hs
    · split at h
      · split at h
        · cases h
        · cases h
        · cases h
          have := length_skipSpace_le u
          simp only [List.length_cons] at hs
          omega
      · cases h

section Keys

variable {ε : Type} (lift : ReadFault → ε) (accept : String → Except ε Unit)

theorem key_of_readString {u v t : List Char} {name : String} (hu : readString u = .ok (name, v))
    (hv : skipSpace v = ':' :: t) :
    nextKey.key lift accept ('"' :: u) = (accept name).map fun _ => .inl (name, t) := by
  simp only [nextKey.key, hu, hv]
  cases accept name <;> rfl

theorem exists_of_key {s : List Char} {r : (String × List Char) ⊕ List Char}
    (h : nextKey.key id (fun _ => .ok ()) s = .ok r) :
    ∃ u name v t, s = '"' :: u ∧ readString u = .ok (name, v) ∧ skipSpace v = ':' :: t ∧
      r = .inl (name, t) := by
  unfold nextKey.key at h
  split at h
  · cases h
  next u =>
    cases hu : readString u with
    | error e =>
      simp only [hu] at h
      cases h
    | ok p =>
      obtain ⟨name, v⟩ := p
      simp only [hu] at h
      split at h
      · cases h
      next t hv =>
        cases h
        exact ⟨u, name, v, t, rfl, hu, hv, rfl⟩
      · cases h
  · cases h

theorem nextKey_of_skipSpace {isFirst : Bool} {s u : List Char} {c : Char}
    (hs : skipSpace s = c :: u) (hc : c ≠ '\x7d') :
    nextKey lift accept isFirst s =
      if isFirst then nextKey.key lift accept (c :: u)
      else if c = ',' then nextKey.key lift accept (skipSpace u)
      else .error (lift .malformed) := by
  unfold nextKey
  split
  next h => cases hs.symm.trans h
  next t h =>
    cases hs.symm.trans h
    exact (hc rfl).elim
  next h =>
    cases hs.symm.trans h
    rfl

/-- What a reader of keys finds: the end of the object, or a key with the text behind its colon.
Whether it fails there is up to its own check. -/
theorem nextKey_cases {isFirst : Bool} {s : List Char} {r : (String × List Char) ⊕ List Char}
    (h : nextKey id (fun _ => .ok ()) isFirst s = .ok r) :
    (∃ rest, r = .inr rest ∧ rest.length < s.length ∧
      nextKey lift accept isFirst s = .ok (.inr rest)) ∨
    ∃ name t, r = .inl (name, t) ∧ t.length < s.length ∧
      nextKey lift accept isFirst s = (accept name).map fun _ => .inl (name, t) := by
  have hs := length_skipSpace_le s
  -- A key that starts at `t` is found the same by both readers.
  have found {t : List Char} (ht : t.length ≤ s.length)
      (hk : nextKey.key id (fun _ => .ok ()) t = .ok r)
      (heq : nextKey lift accept isFirst s = nextKey.key lift accept t) :
      ∃ name t, r = .inl (name, t) ∧ t.length < s.length ∧
        nextKey lift accept isFirst s = (accept name).map fun _ => .inl (name, t) := by
    obtain ⟨u, name, v, w, rfl, hu, hv, rfl⟩ := exists_of_key hk
    refine ⟨name, w, rfl, ?_, heq.trans (key_of_readString lift accept hu hv)⟩
    have := leavesBelow_readString u _ _ hu
    have := length_skipSpace_le v
    simp only [hv, List.length_cons] at this ht
    omega
  cases hsp : skipSpace s with
  | nil =>
    simp only [nextKey, hsp] at h
    cases h
  | cons c u =>
    rw [hsp, List.length_cons] at hs
    by_cases hc : c = '\x7d'
    · subst hc
      simp only [nextKey, hsp] at h
      cases h
      exact .inl ⟨u, rfl, hs, by simp only [nextKey, hsp]⟩
    · rw [nextKey_of_skipSpace _ _ hsp hc] at h
      have heq : nextKey lift accept isFirst s = _ := nextKey_of_skipSpace lift accept hsp hc
      split at h
      next hfirst => exact .inr (found (t := c :: u) hs h (by rw [heq, if_pos hfirst]))
      next hfirst =>
        split at h
        next hcomma =>
          refine .inr (found ?_ h (by rw [heq, if_neg hfirst, if_pos hcomma]))
          have := length_skipSpace_le u
          omega
        · cases h

end Keys

/-! ## Values -/

/-- A reading that ends within `fuel` calls leaves less than its text, and ends the same within
every number of calls from `bound` on. -/
def Settled {α : Type} (read : Nat → List Char → Except ReadFault (α × List Char)) (bound : Nat)
    (s : List Char) (fuel : Nat) : Prop :=
  ∀ a rest, read fuel s = .ok (a, rest) →
    rest.length < s.length ∧ ∀ m, bound ≤ m → read m s = .ok (a, rest)

/-- A value and what a loop reads behind it, as items and fields are read. -/
def readCons {α : Type} (loop : Nat → List Char → Except ReadFault (List α × List Char))
    (f : Json → α) (fuel depth : Nat) (s : List Char) : Except ReadFault (List α × List Char) := do
  let (v, s) ← readValue fuel depth s
  let (more, s) ← loop fuel s
  return (f v :: more, s)

section Step

variable {n d : Nat} (hv : ∀ d s, Settled (readValue · d ·) (fuelFor s) s n)
include hv

theorem settled_readCons {α : Type}
    {loop : Nat → List Char → Except ReadFault (List α × List Char)} {f : Json → α}
    (hl : ∀ s, Settled loop (fuelFor s + 1) s n) (s : List Char) :
    Settled (readCons loop f · d ·) (fuelFor s) s n := by
  intro xs rest h
  obtain ⟨⟨v, t₁⟩, h₁, h⟩ := bind_eq_ok_iff.1 h
  obtain ⟨⟨more, t₂⟩, h₂, h⟩ := bind_eq_ok_iff.1 h
  cases h
  obtain ⟨hlen₁, hm₁⟩ := hv d s _ _ h₁
  obtain ⟨hlen₂, hm₂⟩ := hl t₁ _ _ h₂
  refine ⟨Nat.lt_trans hlen₂ hlen₁, fun m hm => ?_⟩
  simp only [fuelFor] at hm hm₁ hm₂
  refine bind_eq_ok_iff.2 ⟨_, hm₁ m (by omega), ?_⟩
  exact bind_eq_ok_iff.2 ⟨_, hm₂ m (by omega), rfl⟩

theorem settled_readItems_succ (hi : ∀ s, Settled (readItems · d false ·) (fuelFor s + 1) s n)
    (isFirst : Bool) (s : List Char) :
    Settled (readItems · d isFirst ·) (fuelFor s + 1) s (n + 1) := by
  intro items rest h
  simp only [readItems] at h
  obtain ⟨found, hf, h⟩ := bind_eq_ok_iff.1 h
  cases found with
  | inr t =>
    cases h
    refine ⟨length_lt_of_nextItem_inr hf, fun m hm => ?_⟩
    obtain ⟨m, rfl⟩ := Nat.exists_eq_add_of_le' (Nat.le_of_add_left_le hm)
    simp only [readItems, hf]
    rfl
  | inl t =>
    have ht := length_le_of_nextItem_inl hf
    obtain ⟨hlen, hread⟩ := settled_readCons hv hi (f := id) t _ _ h
    refine ⟨Nat.lt_of_lt_of_le hlen ht, fun m hm => ?_⟩
    obtain ⟨m, rfl⟩ := Nat.exists_eq_add_of_le' (Nat.le_of_add_left_le hm)
    simp only [readItems, hf]
    exact hread m (by simp only [fuelFor] at hm ⊢; omega)

theorem settled_readFields_succ (hi : ∀ s, Settled (readFields · d false ·) (fuelFor s + 1) s n)
    (isFirst : Bool) (s : List Char) :
    Settled (readFields · d isFirst ·) (fuelFor s + 1) s (n + 1) := by
  intro fields rest h
  simp only [readFields] at h
  obtain ⟨found, hf, h⟩ := bind_eq_ok_iff.1 h
  obtain ⟨t, rfl, ht, -⟩ | ⟨name, t, rfl, ht, -⟩ := nextKey_cases id (fun _ => .ok ()) hf
  · cases h
    refine ⟨ht, fun m hm => ?_⟩
    obtain ⟨m, rfl⟩ := Nat.exists_eq_add_of_le' (Nat.le_of_add_left_le hm)
    simp only [readFields, hf]
    rfl
  · obtain ⟨hlen, hread⟩ := settled_readCons hv hi (f := (name, ·)) t _ _ h
    refine ⟨Nat.lt_trans hlen ht, fun m hm => ?_⟩
    obtain ⟨m, rfl⟩ := Nat.exists_eq_add_of_le' (Nat.le_of_add_left_le hm)
    simp only [readFields, hf]
    exact hread m (by simp only [fuelFor] at hm ⊢; omega)

end Step

theorem settled_readValue_succ {n : Nat}
    (hi : ∀ d s, Settled (readItems · d true ·) (fuelFor s + 1) s n)
    (hf : ∀ d s, Settled (readFields · d true ·) (fuelFor s + 1) s n) (d : Nat) (s : List Char) :
    Settled (readValue · d ·) (fuelFor s) s (n + 1) := by
  have hs := length_skipSpace_le s
  intro v rest h
  simp only [readValue] at h
  split at h
  next t ht =>
    rw [ht, List.length_cons] at hs
    split at h
    · cases h
    next hd =>
      obtain ⟨⟨items, t₁⟩, h₁, h⟩ := bind_eq_ok_iff.1 h
      cases h
      obtain ⟨hlen, hm₁⟩ := hi _ t _ _ h₁
      refine ⟨Nat.lt_of_lt_of_le (Nat.lt_succ_of_lt hlen) hs, fun m hm => ?_⟩
      simp only [fuelFor] at hm hm₁
      obtain ⟨m, rfl⟩ : ∃ k, m = k + 1 := ⟨m - 1, by omega⟩
      simp only [readValue, ht, if_neg hd]
      exact bind_eq_ok_iff.2 ⟨_, hm₁ m (by omega), rfl⟩
  next t ht =>
    rw [ht, List.length_cons] at hs
    split at h
    · cases h
    next hd =>
      obtain ⟨⟨fields, t₁⟩, h₁, h⟩ := bind_eq_ok_iff.1 h
      cases h
      obtain ⟨hlen, hm₁⟩ := hf _ t _ _ h₁
      refine ⟨Nat.lt_of_lt_of_le (Nat.lt_succ_of_lt hlen) hs, fun m hm => ?_⟩
      simp only [fuelFor] at hm hm₁
      obtain ⟨m, rfl⟩ : ∃ k, m = k + 1 := ⟨m - 1, by omega⟩
      simp only [readValue, ht, if_neg hd]
      exact bind_eq_ok_iff.2 ⟨_, hm₁ m (by omega), rfl⟩
  next hitems hfields =>
    refine ⟨Nat.lt_of_lt_of_le (leavesBelow_readScalar _ _ _ h) hs, fun m hm => ?_⟩
    obtain ⟨m, rfl⟩ : ∃ k, m = k + 1 := ⟨m - 1, by simp only [fuelFor] at hm; omega⟩
    simpa only [readValue] using h

/-- By induction on the calls: each reader hands on fewer calls than it has, and to a text that is
shorter by as much as the bounds need. -/
theorem settled (n : Nat) :
    (∀ d s, Settled (readValue · d ·) (fuelFor s) s n) ∧
      (∀ d isFirst s, Settled (readItems · d isFirst ·) (fuelFor s + 1) s n) ∧
      ∀ d isFirst s, Settled (readFields · d isFirst ·) (fuelFor s + 1) s n := by
  induction n with
  | zero =>
    refine ⟨?_, ?_, ?_⟩
    all_goals
      intros
      intro _ _ h
      simp [readValue, readItems, readFields] at h
  | succ n ih =>
    obtain ⟨hv, hi, hf⟩ := ih
    exact ⟨settled_readValue_succ (hi · true) (hf · true),
      fun d => settled_readItems_succ hv (hi d false),
      fun d => settled_readFields_succ hv (hf d false)⟩

theorem length_lt_of_readValue {n d : Nat} {s rest : List Char} {v : Json}
    (h : readValue n d s = .ok (v, rest)) : rest.length < s.length :=
  ((settled n).1 d s v rest h).1

theorem readValue_fuelFor {n d : Nat} {s rest : List Char} {v : Json}
    (h : readValue n d s = .ok (v, rest)) : readValue (fuelFor s) d s = .ok (v, rest) :=
  ((settled n).1 d s v rest h).2 _ (Nat.le_refl _)

/-- The text is that of the value, with nothing but spaces around it. -/
def Reads (text : List Char) (v : Json) : Prop :=
  ∃ rest, readValue (fuelFor text) depthLimit text = .ok (v, rest) ∧ (skipSpace rest).isEmpty

end Json
end ImportOrder
