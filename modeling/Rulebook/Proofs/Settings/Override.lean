import Rulebook.Proofs.Settings.Fields

/-!
# Each field is overridden by itself

The settings of an application come from five sources: the names of the service and of the
environment, three files, and the variables of the environment.

**Theorem (`load_eq_last_given`).** If each file reads, and every source has tables for the sections
and settings of the right kind for the fields (`Layer.Fits`), each field has the value that the last
source gives it which gives it any, whatever the sources give for the other fields. The name under
which lines are logged is then the service's if it is empty.

There is one exception, and it is exact: a mode may be given as a table of one key, tables are
merged, and if those given last name different modes the settings do not load.
-/

namespace Rulebook

open Setting (TablesAgree lay surface)

namespace Layer

/-- Does a layer have tables on the way to a field, and a setting that can be read where it gives
the field one? -/
def FitsField {α : Type} (layer : Layer) (field : Field α) : Prop :=
  layer.LeadsTo field.place ∧ ∀ s ∈ layer.given field.place, (field.read? s).isSome

/-- Does a layer fit all fields? -/
def Fits (layer : Layer) : Prop := ∀ {α : Type} (field : Field α), layer.FitsField field

instance {α : Type} (layer : Layer) (field : Field α) : Decidable (layer.FitsField field) :=
  inferInstanceAs (Decidable (_ ∧ _))

theorem fits_iff {layer : Layer} :
    layer.Fits ↔ (∀ field ∈ Field.texts, layer.FitsField field) ∧ layer.FitsField .caseMode ∧
      layer.FitsField .jsonLogs := by
  constructor
  · exact fun h => ⟨fun field _ => h field, h .caseMode, h .jsonLogs⟩
  · rintro ⟨htexts, hmode, hjson⟩ α field
    cases field with
    | caseMode => exact hmode
    | jsonLogs => exact hjson
    | _ => exact htexts _ (by simp [Field.texts])

instance (layer : Layer) : Decidable layer.Fits := decidable_of_iff _ fits_iff.symm

end Layer

namespace Field

variable {α : Type}

/-- The settings that sources give a field, the first source first. -/
def given (field : Field α) (sources : List Layer) : List Setting :=
  sources.flatMap (·.given field.place)

/-- The value of the setting that is given last, and where none is given the one without. -/
def last? (field : Field α) (sources : List Layer) : Option α :=
  (field.given sources).getLast?.elim (some field.fallback) field.read?

variable {sources : List Layer}

theorem readIn?_layAll {field : Field α} (h : ∀ layer ∈ sources, layer.LeadsTo field.place) :
    field.readIn? (layAll sources) =
      ((field.given sources).foldl lay none).elim (some field.fallback) field.read? := by
  rw [given, ← surface_at?_layAll field.place_ne_nil h, readIn?]
  cases (layAll sources).at? field.place with
  | none => rfl
  | some s => exact (field.read?_surface s).symm

theorem exists_read?_of_mem_given (h : ∀ layer ∈ sources, layer.Fits) (field : Field α) :
    ∀ s ∈ field.given sources, ∃ v, field.read? s = some v := by
  intro s hs
  obtain ⟨layer, hlayer, hs⟩ := List.mem_flatMap.1 hs
  exact Option.isSome_iff_exists.1 ((h layer hlayer field).2 s hs)

theorem exists_last? (h : ∀ layer ∈ sources, layer.Fits) (field : Field α) :
    ∃ v, field.last? sources = some v := by
  rw [last?]
  cases hlast : (field.given sources).getLast? with
  | none => exact ⟨_, rfl⟩
  | some s => exact field.exists_read?_of_mem_given h s (List.mem_of_getLast? hlast)

/-- Only modes are given as tables. -/
theorem tablesAgree_given (h : ∀ layer ∈ sources, layer.Fits)
    (hmode : TablesAgree (caseMode.given sources)) (field : Field α) :
    TablesAgree (field.given sources) := by
  cases field with
  | caseMode => exact hmode
  | _ =>
    refine Setting.tablesAgree_of_not_isTable fun s hs htable => ?_
    obtain ⟨v, hv⟩ := exists_read?_of_mem_given h _ s hs
    obtain ⟨entries, rfl⟩ := Setting.eq_table_of_isTable htable
    cases hv

end Field

/-! ## Sections -/

theorem isTable_of_foldl_lay {given : List Setting} (h : ∀ s ∈ given, s.isTable) {x : Setting}
    (hx : given.foldl lay none = some x) : x.isTable := by
  rcases List.eq_nil_or_concat' given with rfl | ⟨before, s, rfl⟩
  · cases hx
  · have hs := h s (List.mem_append_right _ (List.mem_singleton_self s))
    obtain ⟨entries, rfl⟩ := Setting.eq_table_of_isTable hs
    rw [List.foldl_append] at hx
    cases hx
    rfl

/-- Sources that have tables for a section make up a table. -/
theorem hasSection_layAll {sources : List Layer} {key key' : String}
    (h : ∀ layer ∈ sources, layer.LeadsTo [key, key']) : (layAll sources).HasSection key := by
  intro s hs
  have hleads : ∀ layer ∈ sources, layer.LeadsTo [key] :=
    fun layer hlayer e he => ⟨(h layer hlayer e he).1, fun _ _ _ => trivial⟩
  have htables : ∀ t ∈ sources.flatMap (·.given [key]), t.isTable := by
    intro t ht
    obtain ⟨layer, hlayer, ht⟩ := List.mem_flatMap.1 ht
    obtain ⟨e, he, ht⟩ := List.mem_flatMap.1 ht
    exact Setting.isTable_of_mem_givenAt (h layer hlayer e he) ht
  have hat : (layAll sources).at? [key] = some s := by simp [Setting.at?, hs]
  have hlaid := surface_at?_layAll (List.cons_ne_nil key []) hleads
  rw [hat] at hlaid
  have hsurface := isTable_of_foldl_lay htables hlaid.symm
  cases s <;> first | rfl | simp [surface, Setting.isTable] at hsurface

/-! ## Loading -/

namespace AppSettings

/-- The sources of settings, given the layers of the three files. -/
def sources (vars : List (String × String)) (environment service : String)
    (base staged own : Layer) : List Layer :=
  [[([.key "service_name"], .text service), ([.key "environment"], .text environment)],
    base, staged, own, Layer.ofEnvironment "rules" vars]

theorem fits_arguments (environment service : String) :
    Layer.Fits
      [([.key "service_name"], .text service), ([.key "environment"], .text environment)] := by
  intro α field
  cases field <;>
    simp [Layer.FitsField, Layer.LeadsTo, Layer.given, Field.place, Setting.nest, Setting.LeadsTo,
      Setting.isTable, Setting.givenAt, Setting.entries, Field.read?, Setting.asText?]

theorem load_eq_ofSetting? {files : SettingsFiles} {vars : List (String × String)}
    {environment service : String} {base staged own : Layer}
    (hbase : files.layer? "default" = some base) (hstaged : files.layer? environment = some staged)
    (hown : files.layer? service = some own) :
    load files vars environment service =
      match ofSetting? (layAll (sources vars environment service base staged own)) with
      | some s => .ok s
      | none => .error .setting := by
  rw [load, layers, fileLayer, fileLayer, fileLayer, hbase, hstaged, hown]
  rfl

theorem layer?_eq_some_getD {files : SettingsFiles} {name : String}
    (h : (files.layer? name).isSome) : files.layer? name = some ((files.layer? name).getD []) := by
  obtain ⟨layer, hlayer⟩ := Option.isSome_iff_exists.1 h
  rw [hlayer, Option.getD_some]

/-- **Each field has the value of the last source that gives it one.** The files read as the layers
`base`, `staged` and `own`, and these and the variables fit the fields. Then the settings load with
the value that is given last for each field, and the name of the service stands in for an empty one
to log under (`AppSettings.named`). If the modes that are given last, as tables, do not agree, the
settings do not load. -/
theorem load_eq_last_given (files : SettingsFiles) (vars : List (String × String))
    (environment service : String) {base staged own : Layer}
    (hbase : files.layer? "default" = some base) (hstaged : files.layer? environment = some staged)
    (hown : files.layer? service = some own)
    (hfits : ∀ layer ∈ [base, staged, own, Layer.ofEnvironment "rules" vars], layer.Fits) :
    (TablesAgree (Field.caseMode.given (sources vars environment service base staged own)) →
        ∃ s, (∀ {α : Type} (field : Field α),
            field.last? (sources vars environment service base staged own) = some (field.get s)) ∧
          load files vars environment service = .ok s.named) ∧
      (¬ TablesAgree (Field.caseMode.given (sources vars environment service base staged own)) →
        load files vars environment service = .error .setting) := by
  have hall : ∀ layer ∈ sources vars environment service base staged own, layer.Fits := by
    intro layer hlayer
    rcases List.mem_cons.1 hlayer with rfl | hlayer
    · exact fits_arguments environment service
    · exact hfits layer hlayer
  rw [load_eq_ofSetting? hbase hstaged hown]
  generalize sources vars environment service base staged own = sources at hall
  have hleads {α : Type} (field : Field α) : ∀ layer ∈ sources, layer.LeadsTo field.place :=
    fun layer hlayer => (hall layer hlayer field).1
  have hengine := hasSection_layAll (hleads .caseMode)
  have hlog := hasSection_layAll (hleads .jsonLogs)
  constructor
  · intro hmode
    obtain ⟨s, hs⟩ := Field.exists_settings (Field.exists_last? hall)
    have hread {α : Type} (field : Field α) :
        field.readIn? (layAll sources) = some (field.get s) := by
      rw [Field.readIn?_layAll (hleads field), Field.read?_foldl_lay
        (field.exists_read?_of_mem_given hall) (field.tablesAgree_given hall hmode)]
      exact hs field
    refine ⟨s, hs, ?_⟩
    rw [ofSetting?_eq_some hengine hlog hread]
  · intro hmode
    have hread : Field.caseMode.readIn? (layAll sources) = none := by
      rw [Field.readIn?_layAll (hleads _)]
      exact Field.read?_foldl_lay_eq_none (Field.caseMode.exists_read?_of_mem_given hall) hmode
    rw [ofSetting?_eq_none hengine hread]

/-- A file gives both tags, and a variable gives one of them again. -/
theorem load_eq_last_given_tags :
    ∃ s, load [("default.toml", "engine.start_tag='<'\nengine.end_tag='>'")]
        [("RULES_ENGINE__START_TAG", "[")] "staging" "shop" = .ok s ∧
      s.engine.openingTag = "[" ∧ s.engine.closingTag = ">" ∧ s.log.serviceName = "shop" := by
  have hmissing {files : SettingsFiles} {name : String} (h : files.find? name = none) :
      files.layer? name = some [] := by rw [SettingsFiles.layer?, h]
  have hbase := layer?_eq_some_getD
    (show (SettingsFiles.layer? [("default.toml", "engine.start_tag='<'\nengine.end_tag='>'")]
      "default").isSome by decide +kernel)
  have h := load_eq_last_given _ [("RULES_ENGINE__START_TAG", "[")] "staging" "shop" hbase
    (hmissing (by decide +kernel)) (hmissing (by decide +kernel)) (by decide +kernel)
  obtain ⟨s, hs, hload⟩ := h.1 (by decide +kernel)
  have hopening : some "[" = some s.engine.openingTag := .trans (by decide +kernel) (hs .openingTag)
  have hclosing : some ">" = some s.engine.closingTag := .trans (by decide +kernel) (hs .closingTag)
  have hname : some "shop" = some s.serviceName := .trans (by decide +kernel) (hs .serviceName)
  have hlog : some "" = some s.log.serviceName := .trans (by decide +kernel) (hs .logService)
  refine ⟨s.named, hload, (Option.some.inj hopening).symm, (Option.some.inj hclosing).symm, ?_⟩
  rw [named, if_pos (Option.some.inj hlog).symm]
  exact (Option.some.inj hname).symm

/-- Two files that fit and give different modes as tables do not load. And a file of which the name
is nothing but the ending is no source at all. -/
theorem not_load_eq_last_given :
    ((∃ base staged,
        SettingsFiles.layer? [("default.toml", "engine.comparison_mode.default=1"),
          ("t.toml", "engine.comparison_mode.case_insensitive=1")] "default" = some base ∧
        SettingsFiles.layer? [("default.toml", "engine.comparison_mode.default=1"),
          ("t.toml", "engine.comparison_mode.case_insensitive=1")] "t" = some staged ∧
        base.Fits ∧ staged.Fits ∧ Field.caseMode.last? [base, staged] = some .ignored) ∧
      load [("default.toml", "engine.comparison_mode.default=1"),
        ("t.toml", "engine.comparison_mode.case_insensitive=1")] [] "t" "s" = .error .setting) ∧
    load [(".toml", "engine.start_tag='<'")] [] "" "s" =
      .ok { serviceName := "s", log := { serviceName := "s" } } := by
  refine ⟨⟨⟨_, _, layer?_eq_some_getD (by decide +kernel), layer?_eq_some_getD (by decide +kernel),
    ?_, ?_, ?_⟩, ?_⟩, ?_⟩ <;> decide +kernel

end AppSettings

end Rulebook
