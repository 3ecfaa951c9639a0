import ImportOrder.Options
import ImportOrder.Proofs.Json.Schema
import ImportOrder.Proofs.Policy
import Mathlib.Data.Set.List

/-!
# ImportOrder.Proofs.Options

The options of a host and the settings of a policy are two tables of the same names, defaults and
kinds of values, line by line. So the schema accepts the objects whose fields are settings with
values that fit them, and states the default of each setting.
-/

namespace ImportOrder

open Json

/-- The option stands for the setting: in its name, its default and the values it takes. -/
structure HostOption.Describes (o : HostOption) (s : Setting) : Prop where
  name : o.name = s.name
  default : o.default = Policy.absent.get s
  accepts : ∀ v, accepts o.schema v ↔ Policy.Fits s v

namespace Options

theorem accepts_boolean {name description : String} {v : Json} :
    accepts (HostOption.boolean name description).schema v ↔ ∃ b, v = .bool b := by
  cases v <;>
    simp [HostOption.schema, HostOption.boolean, OptionKind.schemaFields, accepts, acceptsAll,
      hasType]

theorem accepts_string {v : Json} :
    accepts (.object [("type", .string "string")]) v ↔ v ∈ Set.range Json.string := by
  cases v <;> simp [accepts, acceptsAll, hasType]

theorem accepts_paths {name description : String} {default : List String} {v : Json} :
    accepts (HostOption.paths name default description).schema v ↔ ∃ ss, v = .ofStrings ss := by
  cases v with
  | array items =>
    have hitems : accepts (HostOption.paths name default description).schema (.array items) =
        items.all fun item => accepts (.object [("type", .string "string")]) item := by
      simp [HostOption.schema, HostOption.paths, OptionKind.schemaFields, accepts, acceptsAll,
        hasType, Json.items]
    have hrange := Set.ext_iff.1 (Set.range_list_map Json.string) items
    rw [hitems, List.all_eq_true]
    simp only [accepts_string, ofStrings, array.injEq]
    exact hrange.symm.trans (exists_congr fun ss => eq_comm)
  | _ =>
    simp [HostOption.schema, HostOption.paths, OptionKind.schemaFields, accepts, acceptsAll,
      hasType, ofStrings]

theorem describes_boolean {description : String} {s : Setting}
    (h : Policy.absent.get s = .bool false)
    (hs : ∀ v, Policy.Fits s v ↔ ∃ b, v = .bool b) :
    (HostOption.boolean s.name description).Describes s :=
  ⟨rfl, h.symm, fun v => accepts_boolean.trans (hs v).symm⟩

theorem describes_paths {description : String} {default : List String} {s : Setting}
    (h : Policy.absent.get s = .ofStrings default)
    (hs : ∀ v, Policy.Fits s v ↔ ∃ ss, v = .ofStrings ss) :
    (HostOption.paths s.name default description).Describes s :=
  ⟨rfl, h.symm, fun v => accepts_paths.trans (hs v).symm⟩

theorem describes : List.Forall₂ HostOption.Describes all Setting.all := by
  refine .cons (describes_paths (s := .order) rfl ?_) <|
    .cons (describes_boolean (s := .separation) rfl ?_) <|
    .cons (describes_boolean (s := .ignoreCase) rfl ?_) <|
    .cons (describes_boolean (s := .sortNames) rfl ?_) <|
    .cons (describes_boolean (s := .groupNamespaces) rfl ?_) <|
    .cons (describes_paths (s := .parserPlugins) rfl ?_) <|
    .cons (describes_paths (s := .exclude) rfl ?_) .nil
  all_goals
    intro v
    simp [Policy.fits_iff_isSome_set? .absent, Policy.set?, Option.isSome_iff_exists]

theorem exists_mem_of_forall₂ {α β : Type} {R : α → β → Prop} {as : List α} {bs : List β}
    (h : List.Forall₂ R as bs) : ∀ b ∈ bs, ∃ a ∈ as, R a b := by
  induction h with
  | nil => simp
  | cons hab _ ih =>
    rw [List.forall_mem_cons]
    refine ⟨⟨_, List.mem_cons_self, hab⟩, fun b hb => ?_⟩
    obtain ⟨a, ha, h⟩ := ih b hb
    exact ⟨a, List.mem_cons_of_mem _ ha, h⟩

theorem exists_describes (s : Setting) : ∃ o ∈ all, o.Describes s :=
  exists_mem_of_forall₂ describes s s.mem_all

theorem exists_described {o : HostOption} (h : o ∈ all) : ∃ s, o.Describes s := by
  obtain ⟨s, -, hs⟩ := exists_mem_of_forall₂ (R := flip HostOption.Describes)
    (List.Forall₂.flip describes) o h
  exact ⟨s, hs⟩

/-- The field may stand in a configuration: a schema reference, or a setting with a value that
fits. -/
def FieldFits (field : String × Json) : Prop :=
  (field.1 = schemaKey ∧ ∃ text, field.2 = .string text) ∨
    ∃ s : Setting, field.1 = s.name ∧ Policy.Fits s field.2

theorem name_ne_schemaKey (s : Setting) : s.name ≠ schemaKey := by
  cases s <;> decide

/-- What the schema has for each name. -/
def namedSchemas : List (String × Json) :=
  (schemaKey, .object
    [("type", .string "string"), ("description", .string "JSON Schema reference")]) ::
    all.map fun o => (o.name, o.schema)

theorem accepts_reference {v : Json} :
    accepts (.object
      [("type", .string "string"), ("description", .string "JSON Schema reference")]) v ↔
      ∃ text, v = .string text := by
  cases v <;> simp [accepts, acceptsAll, hasType]

theorem mem_names_iff {name : String} :
    name ∈ namedSchemas.map (·.1) ↔ name = schemaKey ∨ ∃ o ∈ all, o.name = name := by
  simp only [namedSchemas, List.map_cons, List.map_map, List.mem_cons, List.mem_map,
    Function.comp_apply]

theorem forall_namedSchemas_iff {name : String} {v : Json} :
    (∀ p ∈ namedSchemas, name = p.1 → accepts p.2 v) ↔
      (name = schemaKey → ∃ text, v = .string text) ∧
        ∀ o ∈ all, name = o.name → accepts o.schema v := by
  rw [namedSchemas, List.forall_mem_cons, List.forall_mem_map, accepts_reference]

theorem fieldFits_iff {field : String × Json} :
    FieldFits field ↔ field.1 ∈ namedSchemas.map (·.1) ∧
      ∀ p ∈ namedSchemas, field.1 = p.1 → accepts p.2 field.2 := by
  rw [mem_names_iff, forall_namedSchemas_iff]
  constructor
  · rintro (⟨hname, htext⟩ | ⟨s, hname, hfits⟩)
    · refine ⟨.inl hname, fun _ => htext, fun o ho he => ?_⟩
      obtain ⟨s, hs⟩ := exists_described ho
      exact absurd (hs.name.symm.trans (he.symm.trans hname)) (name_ne_schemaKey s)
    · obtain ⟨o, ho, hs⟩ := exists_describes s
      refine ⟨.inr ⟨o, ho, hs.name.trans hname.symm⟩, fun he => ?_, fun o' ho' he => ?_⟩
      · exact absurd (hname.symm.trans he) (name_ne_schemaKey s)
      · obtain ⟨s', hs'⟩ := exists_described ho'
        have hss : s' = s := Setting.name_inj.1 (hs'.name.symm.trans (he.symm.trans hname))
        exact (hs'.accepts _).2 (hss ▸ hfits)
  · rintro ⟨hname | ⟨o, ho, hname⟩, hreference, hoptions⟩
    · exact .inl ⟨hname, hreference hname⟩
    · obtain ⟨s, hs⟩ := exists_described ho
      exact .inr ⟨s, hname.symm.trans hs.name, (hs.accepts _).1 (hoptions o ho hname.symm)⟩

theorem accepts_schema_iff {v : Json} :
    accepts schema v ↔ ∃ fields, v = .object fields ∧ ∀ field ∈ fields, FieldFits field := by
  simp only [fieldFits_iff]
  exact accepts_closed_iff

theorem advertised?_schema (s : Setting) :
    advertised? schema s.name = some (Policy.absent.get s) := by
  cases s <;> rfl

end Options
end ImportOrder
