import ImportOrder.Config
import ImportOrder.Proofs.Json.Reader
import ImportOrder.Proofs.Options
import Mathlib.Data.List.Permutation

/-!
# ImportOrder.Proofs.Config

The configuration as a JSON value. `Config.read` takes a configuration from its text while it reads
it; `ofJson?` takes it from the value of the text, and the two agree on every text that is JSON.

On values, what a configuration is written as is read back, the schema accepts it, and a setting
that is not given has the default that the schema states.
-/

namespace ImportOrder

namespace Config

open Json

/-! ## Configurations as values -/

/-- The schema reference in a value: a string or null. -/
def referenceOf? : Json → Option (Option String)
  | .null => some none
  | .string text => some (some text)
  | _ => none

/-- The schema reference that the fields give, which may be none. -/
def reference? (fields : List (String × Json)) : Option (Option String) :=
  match fields.filter (·.1 == Options.schemaKey) with
  | [] => some none
  | [(_, v)] => referenceOf? v
  | _ => none

/-- The configuration that the fields give. -/
def ofFields? (fields : List (String × Json)) : Option Config := do
  let schema ← reference? fields
  let policy ← Policy.ofFields? (fields.filter (·.1 != Options.schemaKey))
  return ⟨schema, policy⟩

def ofJson? : Json → Option Config
  | .object fields => ofFields? fields
  | _ => none

/-! ## Reading fields one by one -/

/-- Adds a field to a draft. -/
def Draft.add? (draft : Draft) (field : String × Json) : Option Draft :=
  if field.1 = Options.schemaKey then
    if draft.schema.isSome then none
    else (referenceOf? field.2).map fun reference => { draft with schema := some reference }
  else some { draft with fields := draft.fields ++ [field] }

theorem readReference_eq {n d : Nat} {s rest : List Char} {v : Json}
    (h : readValue n d s = .ok (v, rest)) :
    readReference s = (referenceOf? v).elim (.error .wrongShape) fun r => .ok (r, rest) := by
  cases n with
  | zero => cases h
  | succ n =>
    simp only [readValue] at h
    split at h
    next t ht =>
      split at h
      · cases h
      · obtain ⟨⟨items, t⟩, -, h⟩ := bind_eq_ok_iff.1 h
        cases h
        simp only [readReference, ht]
        rfl
    next t ht =>
      split at h
      · cases h
      · obtain ⟨⟨fields, t⟩, -, h⟩ := bind_eq_ok_iff.1 h
        cases h
        simp only [readReference, ht]
        rfl
    next hitems hfields =>
      simp only [readReference, h]
      cases v <;> rfl

/-- What is read of the fields of a text is what the fields of its value add to the draft, one
after the other. By induction on the calls of the reader of values. -/
theorem readFields_eq {n m : Nat} {isFirst : Bool} {draft : Draft} {s rest : List Char}
    {fields : List (String × Json)} (hm : s.length < m)
    (h : Json.readFields n (depthLimit - 1) isFirst s = .ok (fields, rest)) :
    readFields m isFirst draft s =
      (fields.foldlM Draft.add? draft).elim (.error .wrongShape) fun d => .ok (d, rest) := by
  induction n generalizing m isFirst draft s fields with
  | zero => cases h
  | succ n ih =>
    obtain ⟨m, rfl⟩ : ∃ k, m = k + 1 := ⟨m - 1, by omega⟩
    simp only [Json.readFields] at h
    obtain ⟨found, hfound, h⟩ := bind_eq_ok_iff.1 h
    obtain ⟨t, rfl, -, hkey⟩ | ⟨name, t, rfl, ht, hkey⟩ :=
      nextKey_cases faultOf (acceptKey draft) hfound
    · cases h
      simp only [readFields, hkey]
      rfl
    · obtain ⟨⟨v, t₁⟩, h₁, h⟩ := bind_eq_ok_iff.1 h
      obtain ⟨⟨more, t₂⟩, h₂, h⟩ := bind_eq_ok_iff.1 h
      cases h
      have hlen : t₁.length < m := by
        have := length_lt_of_readValue h₁
        omega
      rw [List.foldlM_cons]
      simp only [readFields, hkey]
      by_cases hname : name = Options.schemaKey
      · by_cases hdraft : draft.schema.isSome
        · simp [acceptKey, Draft.add?, hname, hdraft, Except.map]
        · have haccept : acceptKey draft name = .ok () := by simp [acceptKey, hdraft]
          simp only [haccept, Except.map, Draft.add?, if_pos hname, if_neg hdraft,
            readReference_eq h₁]
          cases referenceOf? v with
          | none => rfl
          | some r => exact ih hlen h₂
      · have haccept : acceptKey draft name = .ok () := by simp [acceptKey, hname]
        simp only [haccept, Except.map, Draft.add?, if_neg hname, readValue_fuelFor h₁]
        exact ih hlen h₂

theorem foldlM_add?_some (fields others : List (String × Json)) (r : Option String) :
    fields.foldlM Draft.add? ⟨some r, others⟩ =
      if fields.filter (·.1 == Options.schemaKey) = [] then
        some ⟨some r, others ++ fields.filter (·.1 != Options.schemaKey)⟩
      else none := by
  induction fields generalizing others with
  | nil => simp
  | cons field fields ih =>
    rw [List.foldlM_cons]
    by_cases hname : field.1 = Options.schemaKey
    · simp [Draft.add?, hname]
    · have hnamed : (field :: fields).filter (·.1 == Options.schemaKey) =
          fields.filter (·.1 == Options.schemaKey) := by simp [hname]
      rw [hnamed, Draft.add?, if_neg hname, Option.bind_eq_bind, Option.bind_some, ih]
      simp [hname]

theorem reference?_cons_of_eq {field : String × Json} {fields : List (String × Json)}
    (h : field.1 = Options.schemaKey) :
    reference? (field :: fields) =
      if fields.filter (·.1 == Options.schemaKey) = [] then referenceOf? field.2 else none := by
  cases hf : fields.filter (·.1 == Options.schemaKey) <;> simp [reference?, h, hf]

theorem foldlM_add?_none (fields others : List (String × Json)) :
    (fields.foldlM Draft.add? ⟨none, others⟩).map (fun d => (d.schema.join, d.fields)) =
      (reference? fields).map (·, others ++ fields.filter (·.1 != Options.schemaKey)) := by
  induction fields generalizing others with
  | nil => simp [reference?]
  | cons field fields ih =>
    rw [List.foldlM_cons]
    by_cases hname : field.1 = Options.schemaKey
    · rw [reference?_cons_of_eq hname]
      simp only [Draft.add?, hname]
      cases referenceOf? field.2 with
      | none => simp
      | some r => simp [foldlM_add?_some, hname]
    · have hcons : reference? (field :: fields) = reference? fields := by
        simp [reference?, hname]
      rw [hcons, Draft.add?, if_neg hname, Option.bind_eq_bind, Option.bind_some, ih]
      simp [hname]

/-- Reading the fields one by one into a draft gives the configuration of the fields. -/
theorem bind_ofDraft_eq (fields : List (String × Json)) :
    (fields.foldlM Draft.add? ⟨none, []⟩).elim (.error .wrongShape) ofDraft =
      (ofFields? fields).elim (.error .wrongShape) .ok := by
  have hfold := foldlM_add?_none fields []
  simp only [ofFields?, Option.bind_eq_bind]
  cases hd : fields.foldlM Draft.add? ⟨none, []⟩ with
  | none =>
    rw [hd, Option.map_none, eq_comm, Option.map_eq_none_iff] at hfold
    rw [hfold]
    rfl
  | some d =>
    rw [hd, Option.map_some, eq_comm, Option.map_eq_some_iff] at hfold
    obtain ⟨reference, hreference, hd⟩ := hfold
    rw [Prod.mk.injEq, List.nil_append] at hd
    rw [hreference, Option.bind_some, hd.2, hd.1, Option.elim_some, ofDraft]
    cases Policy.ofFields? d.fields <;> rfl

/-- Reading a configuration from a text is reading the JSON value and then the configuration. -/
theorem read_eq {text : List Char} {v : Json} (h : Reads text v) :
    read text = (ofJson? v).elim (.error .wrongShape) .ok := by
  obtain ⟨rest, h, hrest⟩ := h
  rw [fuelFor] at h
  simp only [readValue] at h
  unfold read
  split at h
  next t ht =>
    obtain ⟨⟨items, t⟩, -, h⟩ := bind_eq_ok_iff.1 h
    cases h
    simp only [ht]
    rfl
  next t ht =>
    obtain ⟨⟨fields, t⟩, hfields, h⟩ := bind_eq_ok_iff.1 h
    cases h
    simp only [ht, readFields_eq (Nat.lt_succ_self _) hfields, ofJson?, ← bind_ofDraft_eq]
    cases fields.foldlM Draft.add? ⟨none, []⟩ with
    | none => rfl
    | some d =>
      simp only [Option.elim_some]
      cases ofDraft d <;> simp [hrest]
  next hitems hfields =>
    simp only [h]
    cases v with
    | object fields => exact (readScalar_ne_object h).elim
    | _ => rfl

/-! ## What a configuration is written as -/

theorem given?_filter_ne (fields : List (String × Json)) (s : Setting) :
    Policy.given? (fields.filter (·.1 != Options.schemaKey)) s = Policy.given? fields s := by
  have hfilter : (fields.filter (·.1 != Options.schemaKey)).filter (·.1 == s.name) =
      fields.filter (·.1 == s.name) := by
    rw [List.filter_filter]
    refine List.filter_congr fun field _ => ?_
    by_cases hname : field.1 = s.name
    · simp [hname, Options.name_ne_schemaKey s]
    · simp [hname]
  rw [Policy.given?, hfilter, Policy.given?]

theorem ofFields?_eq_some_iff {fields : List (String × Json)} {c : Config} :
    ofFields? fields = some c ↔
      reference? fields = some c.schema ∧ ∀ s, Policy.given? fields s = some (c.policy.get s) := by
  simp only [← given?_filter_ne fields, ← Policy.ofFields?_eq_some_iff, ofFields?]
  cases c
  simp [Option.bind_eq_some_iff]

theorem nodup_names_toFields (c : Config) : (c.toFields.map (·.1)).Nodup := by
  have hnames : c.policy.toFields.map (·.1) = Setting.all.map Setting.name := by
    simp [Policy.toFields]
  have hall : (Options.schemaKey :: Setting.all.map Setting.name).Nodup := by decide
  rw [toFields, List.map_append, hnames]
  cases c.schema with
  | none => exact hall.of_cons
  | some text => exact hall

theorem ofFields?_toFields (c : Config) : ofFields? c.toFields = some c := by
  refine ofFields?_eq_some_iff.2 ⟨?_, fun s => ?_⟩
  · have hnone : c.policy.toFields.filter (·.1 == Options.schemaKey) = [] := by
      simp [Policy.toFields, Options.name_ne_schemaKey]
    rw [reference?, toFields, List.filter_append, hnone]
    cases c.schema <;> simp [referenceOf?]
  · refine Policy.given?_eq_of_mem c.nodup_names_toFields (List.mem_append_right _ ?_)
    exact List.mem_map.2 ⟨s, s.mem_all, rfl⟩

theorem accepts_toJson (c : Config) : accepts Options.schema c.toJson := by
  refine Options.accepts_schema_iff.2 ⟨c.toFields, rfl, fun field hfield => ?_⟩
  rcases List.mem_append.1 hfield with hfield | hfield
  · rw [Option.mem_toList, Option.map_eq_some_iff] at hfield
    obtain ⟨text, -, rfl⟩ := hfield
    exact .inl ⟨rfl, text, rfl⟩
  · obtain ⟨s, -, rfl⟩ := List.mem_map.1 hfield
    exact .inr ⟨s, rfl, c.policy, rfl⟩

/-! ## What the schema accepts -/

theorem exists_ofFields? {fields : List (String × Json)} (hn : (fields.map (·.1)).Nodup)
    (h : ∀ field ∈ fields, Options.FieldFits field) : ∃ c, ofFields? fields = some c := by
  have hreference : ∃ r, reference? fields = some r := by
    have hone : (fields.filter (·.1 == Options.schemaKey)).length ≤ 1 :=
      length_filter_name_le_one hn
    unfold reference?
    have hfits (field : String × Json)
        (hfield : field ∈ fields.filter (·.1 == Options.schemaKey)) :
        ∃ text, field.2 = .string text := by
      obtain ⟨hmem, hname⟩ := List.mem_filter.1 hfield
      obtain ⟨-, htext⟩ | ⟨s, hs, -⟩ := h field hmem
      · exact htext
      · exact absurd (hs.symm.trans (beq_iff_eq.1 hname)) (Options.name_ne_schemaKey s)
    generalize fields.filter (·.1 == Options.schemaKey) = named at hone hfits ⊢
    match named, hone with
    | [], _ => exact ⟨none, rfl⟩
    | [field], _ =>
      obtain ⟨text, htext⟩ := hfits field List.mem_cons_self
      exact ⟨some text, by simp only [htext, referenceOf?]⟩
  have hgiven (s : Setting) : ∃ v, Policy.given? fields s = some v ∧ Policy.Fits s v := by
    by_cases hs : s.name ∈ fields.map (·.1)
    · obtain ⟨⟨name, v⟩, hfield, rfl⟩ := List.mem_map.1 hs
      refine ⟨v, Policy.given?_eq_of_mem hn hfield, ?_⟩
      obtain ⟨hname, -⟩ | ⟨t, hname, hfits⟩ := h _ hfield
      · exact absurd hname (Options.name_ne_schemaKey s)
      · exact Setting.name_inj.1 hname ▸ hfits
    · exact ⟨_, Policy.given?_eq_of_not_mem hs, .absent, rfl⟩
  choose f hf hfits using hgiven
  obtain ⟨r, hr⟩ := hreference
  obtain ⟨p, hp⟩ := Policy.exists_get hfits
  exact ⟨⟨r, p⟩, ofFields?_eq_some_iff.2 ⟨hr, fun s => by rw [hf, hp]⟩⟩

theorem length_filter_le_one_of_reference? {fields : List (String × Json)} {r : Option String}
    (h : reference? fields = some r) : (fields.filter (·.1 == Options.schemaKey)).length ≤ 1 := by
  unfold reference? at h
  split at h
  next hf => rw [hf]; simp
  next hf => rw [hf]; simp
  · cases h

theorem ofFields?_of_perm {fields more extra : List (String × Json)} {c : Config}
    (h : ofFields? fields = some c) (hperm : more.Perm (fields ++ extra))
    (hextra : ∀ field ∈ extra, field.1 ≠ Options.schemaKey ∧ ∀ s : Setting, field.1 ≠ s.name) :
    ofFields? more = some c := by
  obtain ⟨hreference, hgiven⟩ := ofFields?_eq_some_iff.1 h
  refine ofFields?_eq_some_iff.2 ⟨?_, fun s => ?_⟩
  · rw [reference?, filter_name_eq_of_perm (length_filter_le_one_of_reference? hreference) hperm
      fun field hfield => (hextra field hfield).1]
    exact hreference
  · rw [Policy.given?, filter_name_eq_of_perm
      (Policy.length_filter_le_one_of_given? (hgiven s)) hperm
      fun field hfield => (hextra field hfield).2 s]
    exact hgiven s

/-- The reader and the schema of configurations agree. On texts the reader does what `ofJson?` does
on their values. Each configuration is written as an object that the schema accepts and that reads
back as the configuration. Each object that the schema accepts is read, and a setting it does not
give has the default that the schema states. Neither the order of the fields nor a field that is no
setting and no schema reference counts. -/
theorem codec_agrees_with_schema :
    (∀ text v, Reads text v → read text = (ofJson? v).elim (.error .wrongShape) .ok) ∧
      (∀ c : Config, (c.toFields.map (·.1)).Nodup ∧ accepts Options.schema c.toJson ∧
        ofJson? c.toJson = some c) ∧
      (∀ fields, (fields.map (·.1)).Nodup → accepts Options.schema (.object fields) →
        ∃ c, ofJson? (.object fields) = some c ∧ ∀ s : Setting, s.name ∉ fields.map (·.1) →
          advertised? Options.schema s.name = some (c.policy.get s)) ∧
      ∀ fields c, ofJson? (.object fields) = some c → ∀ more extra, more.Perm (fields ++ extra) →
        (∀ field ∈ extra, field.1 ≠ Options.schemaKey ∧ ∀ s : Setting, field.1 ≠ s.name) →
        ofJson? (.object more) = some c := by
  refine ⟨fun _ _ => read_eq, fun c => ?_, fun fields hn hfields => ?_,
    fun _ _ h _ _ => ofFields?_of_perm h⟩
  · exact ⟨c.nodup_names_toFields, c.accepts_toJson, ofFields?_toFields c⟩
  · obtain ⟨_, h, hfits⟩ := Options.accepts_schema_iff.1 hfields
    cases object.inj h
    obtain ⟨c, hc⟩ := exists_ofFields? hn hfits
    refine ⟨c, hc, fun s hs => ?_⟩
    have hgiven := (ofFields?_eq_some_iff.1 hc).2 s
    rw [Policy.given?_eq_of_not_mem hs] at hgiven
    rw [Options.advertised?_schema, hgiven]

/-- The fields of a configuration with two settings. -/
def twoSettings : List (String × Json) :=
  [("importOrder", .ofStrings ["^@"]), ("importOrderSeparation", .bool true)]

/-- Two settings, read from their text, and read in the other order with one more field. -/
theorem codec_agrees_with_schema_twoSettings :
    Reads "\x7b\"importOrder\": [\"^@\"], \"importOrderSeparation\": true\x7d".toList
        (.object twoSettings) ∧
      accepts Options.schema (.object twoSettings) ∧
      ∃ c, read "\x7b\"importOrder\": [\"^@\"], \"importOrderSeparation\": true\x7d".toList =
          .ok c ∧
        ofJson? (.object (twoSettings.reverse ++ [("other", .null)])) = some c ∧
        advertised? Options.schema "importOrderExclude" = some (c.policy.get .exclude) := by
  have hreads : Reads
      "\x7b\"importOrder\": [\"^@\"], \"importOrderSeparation\": true\x7d".toList
      (.object twoSettings) := by
    refine ⟨[], ?_, rfl⟩
    cbv
  have haccepts : accepts Options.schema (.object twoSettings) := by
    refine Options.accepts_schema_iff.2 ⟨_, rfl, ?_⟩
    simp only [twoSettings, List.forall_mem_cons]
    exact ⟨.inr ⟨.order, rfl, { order := ["^@"] }, rfl⟩,
      .inr ⟨.separation, rfl, { separation := true }, rfl⟩, by simp⟩
  have hextra (field : String × Json) (h : field ∈ [("other", Json.null)]) :
      field.1 ≠ Options.schemaKey ∧ ∀ s : Setting, field.1 ≠ s.name := by
    rw [List.mem_singleton.1 h]
    exact ⟨by decide, fun s => by cases s <;> decide⟩
  obtain ⟨hread, -, hschema, hperm⟩ := codec_agrees_with_schema
  obtain ⟨c, hc, hdefault⟩ := hschema _ (by decide) haccepts
  have hmore := hperm _ _ hc _ _ (twoSettings.reverse_perm.append_right _) hextra
  refine ⟨hreads, haccepts, c, ?_, hmore, hdefault .exclude (by decide)⟩
  rw [hread _ _ hreads, hc]
  rfl

end Config
end ImportOrder
