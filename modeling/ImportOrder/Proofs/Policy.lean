import ImportOrder.Policy
import Mathlib.Data.List.Nodup
import Mathlib.Data.List.Perm.Basic

/-!
# ImportOrder.Proofs.Policy

A policy is its settings: `get` tells policies apart, `set?` changes one setting and no other. What
`ofFields?` reads follows from the fields with the name of each setting alone, so neither the order
of the fields nor a field of another name counts.
-/

namespace ImportOrder
namespace Json

@[simp] theorem bool?_eq_some_iff {v : Json} {b : Bool} : v.bool? = some b ↔ v = .bool b := by
  cases v <;> simp [bool?]

@[simp] theorem strings?_eq_some_iff {v : Json} {ss : List String} :
    v.strings? = some ss ↔ v = ofStrings ss := by
  cases v with
  | array items =>
    simp only [strings?, ofStrings, array.injEq]
    induction items generalizing ss with
    | nil => cases ss <;> simp
    | cons item items ih =>
      cases item with
      | string s => cases ss <;> simp [Option.bind_eq_some_iff, ih, and_comm]
      | _ => cases ss <;> simp
  | _ => simp [strings?, ofStrings]

@[simp] theorem ofStrings_inj {ss ts : List String} : ofStrings ss = ofStrings ts ↔ ss = ts := by
  rw [ofStrings, ofStrings, array.injEq, List.map_inj_right fun _ _ => string.inj]

section Named

variable {fields more extra : List (String × Json)} {name : String}

theorem length_filter_name_le_one (h : (fields.map (·.1)).Nodup) :
    (fields.filter (·.1 == name)).length ≤ 1 := by
  have hcount := List.nodup_iff_count_le_one.1 h name
  rwa [List.count, List.countP_map, List.countP_eq_length_filter] at hcount

/-- A name that is given once at most is given the same by every order of the fields, also among
fields of other names. -/
theorem filter_name_eq_of_perm (hone : (fields.filter (·.1 == name)).length ≤ 1)
    (hperm : more.Perm (fields ++ extra)) (hextra : ∀ field ∈ extra, field.1 ≠ name) :
    more.filter (·.1 == name) = fields.filter (·.1 == name) := by
  have hnone : extra.filter (·.1 == name) = [] := by
    simpa [List.filter_eq_nil_iff] using hextra
  have h := hperm.filter (·.1 == name)
  rw [List.filter_append, hnone, List.append_nil] at h
  generalize fields.filter (·.1 == name) = named at hone h ⊢
  match named, hone with
  | [], _ => exact List.perm_nil.1 h
  | [field], _ => exact List.perm_singleton.1 h

end Named

end Json

namespace Setting

theorem mem_all (s : Setting) : s ∈ all := by
  cases s <;> decide

theorem nodup_all : all.Nodup := by
  decide

theorem name_inj {s t : Setting} : s.name = t.name ↔ s = t := by
  cases s <;> cases t <;> simp [name]

end Setting

namespace Policy

theorem eq_of_get {p q : Policy} (h : ∀ s, p.get s = q.get s) : p = q := by
  have h₁ := h .order
  have h₂ := h .separation
  have h₃ := h .ignoreCase
  have h₄ := h .sortNames
  have h₅ := h .groupNamespaces
  have h₆ := h .parserPlugins
  have h₇ := h .exclude
  simp only [get, Json.ofStrings_inj, Json.bool.injEq] at h₁ h₂ h₃ h₄ h₅ h₆ h₇
  cases p
  cases q
  simp_all

theorem get_of_set? {p q : Policy} {s : Setting} {v : Json} (h : p.set? s v = some q) :
    q.get s = v := by
  cases s <;>
  · simp only [set?, Option.map_eq_some_iff, Json.bool?_eq_some_iff,
      Json.strings?_eq_some_iff] at h
    obtain ⟨x, rfl, rfl⟩ := h
    rfl

theorem get_of_set?_of_ne {p q : Policy} {s t : Setting} {v : Json} (h : p.set? s v = some q)
    (hts : t ≠ s) : q.get t = p.get t := by
  cases s <;>
  · simp only [set?, Option.map_eq_some_iff] at h
    obtain ⟨x, -, rfl⟩ := h
    cases t <;> simp_all [get]

theorem exists_set? (p q : Policy) (s : Setting) : ∃ r, p.set? s (q.get s) = some r := by
  cases s <;> simp [set?, get]

theorem set?_eq_some_iff {p q : Policy} {s : Setting} {v : Json} :
    p.set? s v = some q ↔ q.get s = v ∧ ∀ t, t ≠ s → q.get t = p.get t := by
  constructor
  · intro h
    exact ⟨get_of_set? h, fun _ => get_of_set?_of_ne h⟩
  · rintro ⟨rfl, hq⟩
    obtain ⟨r, hr⟩ := exists_set? p q s
    have hrq : r = q := eq_of_get fun t => by
      by_cases hts : t = s
      · rw [hts, get_of_set? hr]
      · rw [get_of_set?_of_ne hr hts, hq t hts]
    rw [hr, hrq]

/-- The value may be given to the setting. -/
def Fits (s : Setting) (v : Json) : Prop :=
  ∃ p : Policy, p.get s = v

theorem fits_iff_isSome_set? (p : Policy) {s : Setting} {v : Json} :
    Fits s v ↔ (p.set? s v).isSome := by
  constructor
  · rintro ⟨q, rfl⟩
    exact Option.isSome_iff_exists.2 (exists_set? p q s)
  · intro h
    obtain ⟨q, hq⟩ := Option.isSome_iff_exists.1 h
    exact ⟨q, get_of_set? hq⟩

theorem exists_get {f : Setting → Json} (h : ∀ s, Fits s (f s)) :
    ∃ p : Policy, ∀ s, p.get s = f s := by
  obtain ⟨p₁, h₁⟩ := h .order
  obtain ⟨p₂, h₂⟩ := h .separation
  obtain ⟨p₃, h₃⟩ := h .ignoreCase
  obtain ⟨p₄, h₄⟩ := h .sortNames
  obtain ⟨p₅, h₅⟩ := h .groupNamespaces
  obtain ⟨p₆, h₆⟩ := h .parserPlugins
  obtain ⟨p₇, h₇⟩ := h .exclude
  refine ⟨⟨p₁.order, p₂.separation, p₃.ignoreCase, p₄.sortNames, p₅.groupNamespaces,
    p₆.parserPlugins, p₇.exclude⟩, fun s => ?_⟩
  cases s <;> assumption

/-! ## Reading fields -/

/-- The value that the fields give to a setting: its own if it has none, nothing if there are
several. -/
def given? (fields : List (String × Json)) (s : Setting) : Option Json :=
  match fields.filter (·.1 == s.name) with
  | [] => some (absent.get s)
  | [(_, v)] => some v
  | _ => none

/-- One setting read into a policy. -/
def take? (fields : List (String × Json)) (p : Policy) (s : Setting) : Option Policy :=
  match fields.filter (·.1 == s.name) with
  | [] => some p
  | [(_, v)] => p.set? s v
  | _ => none

theorem take?_eq_some_iff {fields : List (String × Json)} {p q : Policy} {s : Setting}
    (hp : p.get s = absent.get s) :
    take? fields p s = some q ↔
      given? fields s = some (q.get s) ∧ ∀ t, t ≠ s → q.get t = p.get t := by
  unfold take? given?
  split
  · rw [← hp, Option.some.injEq, Option.some.injEq]
    constructor
    · rintro rfl
      exact ⟨rfl, fun _ _ => rfl⟩
    · rintro ⟨h, ht⟩
      exact eq_of_get fun t => (Decidable.em (t = s)).elim (fun e => e ▸ h) fun e => (ht t e).symm
  · rw [set?_eq_some_iff, Option.some.injEq, eq_comm]
  · simp

theorem foldlM_take?_eq_some_iff {fields : List (String × Json)} {ss : List Setting}
    (hss : ss.Nodup) {p q : Policy} (hp : ∀ s ∈ ss, p.get s = absent.get s) :
    ss.foldlM (take? fields) p = some q ↔
      (∀ s ∈ ss, given? fields s = some (q.get s)) ∧ ∀ s, s ∉ ss → q.get s = p.get s := by
  induction ss generalizing p with
  | nil =>
    simp only [List.foldlM_nil, Option.pure_def, Option.some.injEq, List.not_mem_nil, false_implies,
      implies_true, not_false_eq_true, true_implies, true_and]
    exact ⟨fun h s => h ▸ rfl, fun h => (eq_of_get h).symm⟩
  | cons s ss ih =>
    obtain ⟨hs, hss⟩ := List.nodup_cons.1 hss
    rw [List.foldlM_cons, Option.bind_eq_bind, Option.bind_eq_some_iff]
    constructor
    · rintro ⟨r, hr, hq⟩
      obtain ⟨hgiven, hkept⟩ := (take?_eq_some_iff (hp s List.mem_cons_self)).1 hr
      have hrest (t : Setting) (ht : t ∈ ss) : r.get t = absent.get t :=
        (hkept t fun e => hs (e ▸ ht)).trans (hp t (List.mem_cons_of_mem _ ht))
      obtain ⟨hq₁, hq₂⟩ := (ih hss hrest).1 hq
      refine ⟨List.forall_mem_cons.2 ⟨(hq₂ s hs).symm ▸ hgiven, hq₁⟩, fun t ht => ?_⟩
      obtain ⟨hts, ht⟩ := not_or.1 (mt List.mem_cons.2 ht)
      exact (hq₂ t ht).trans (hkept t hts)
    · rintro ⟨hgiven, hkept⟩
      obtain ⟨hgiven, hgivens⟩ := List.forall_mem_cons.1 hgiven
      obtain ⟨r, hr⟩ := exists_set? p q s
      obtain ⟨hrs, hrt⟩ := set?_eq_some_iff.1 hr
      refine ⟨r, (take?_eq_some_iff (hp s List.mem_cons_self)).2 ⟨hrs ▸ hgiven, hrt⟩, ?_⟩
      have hrest (t : Setting) (ht : t ∈ ss) : r.get t = absent.get t :=
        (hrt t fun e => hs (e ▸ ht)).trans (hp t (List.mem_cons_of_mem _ ht))
      refine (ih hss hrest).2 ⟨hgivens, fun t ht => ?_⟩
      by_cases hts : t = s
      · rw [hts, hrs]
      · rw [hrt t hts, hkept t (List.not_mem_cons_of_ne_of_not_mem hts ht)]

theorem ofFields?_eq_some_iff {fields : List (String × Json)} {p : Policy} :
    ofFields? fields = some p ↔ ∀ s, given? fields s = some (p.get s) := by
  refine (foldlM_take?_eq_some_iff Setting.nodup_all fun _ _ => rfl).trans ?_
  simp [Setting.mem_all]

theorem length_filter_le_one_of_given? {fields : List (String × Json)} {s : Setting} {v : Json}
    (h : given? fields s = some v) : (fields.filter (·.1 == s.name)).length ≤ 1 := by
  unfold given? at h
  split at h
  next hf => rw [hf]; simp
  next hf => rw [hf]; simp
  · cases h

theorem given?_eq_of_not_mem {fields : List (String × Json)} {s : Setting}
    (h : s.name ∉ fields.map (·.1)) : given? fields s = some (absent.get s) := by
  have hnone : fields.filter (·.1 == s.name) = [] := by
    simp only [List.filter_eq_nil_iff, beq_iff_eq]
    exact fun field hfield e => h (e ▸ List.mem_map_of_mem hfield)
  rw [given?, hnone]

theorem given?_eq_of_mem {fields : List (String × Json)} {s : Setting} {v : Json}
    (hn : (fields.map (·.1)).Nodup) (h : (s.name, v) ∈ fields) : given? fields s = some v := by
  have hmem : (s.name, v) ∈ fields.filter (·.1 == s.name) := List.mem_filter.2 ⟨h, by simp⟩
  have hone : (fields.filter (·.1 == s.name)).length ≤ 1 := Json.length_filter_name_le_one hn
  unfold given?
  generalize fields.filter (·.1 == s.name) = named at hmem hone ⊢
  match named, hone with
  | [], _ => cases hmem
  | [field], _ => rw [← List.mem_singleton.1 hmem]

end Policy
end ImportOrder
