import Mathlib.Data.List.Basic
import Mathlib.Data.List.Induction
import Mathlib.Data.List.TakeWhile
import Rulebook.Settings.App
import Rulebook.Proofs.Settings.Layering

/-!
# The fields of an application's settings

Each field has a place in the settings that are laid together, and is read from what is there.
Settings are read if each field is (`ofSetting?_eq_some`): the two names from the root, the others
in two sections, which are read alike (`Section.readIn?_eq`).

**Theorem (`Field.read?_foldl_lay`).** Where every setting given for a field can be read, what is
laid together from them reads as the last one. One field makes a difference here: a mode may be
given as a table of one key, and such tables are merged, so those given after the last text have to
name the same mode (`Setting.TablesAgree`). If they do not, there is no mode
(`Field.read?_foldl_lay_eq_none`).
-/

namespace Rulebook

open Setting (keys lay surface)

/-- A field that holds a value of a type. -/
inductive Field : Type → Type where
  | serviceName : Field String
  | environment : Field String
  | openingTag : Field String
  | closingTag : Field String
  | caseMode : Field CaseMode
  | logService : Field String
  | logLevel : Field String
  | jsonLogs : Field Bool

namespace Field

variable {α : Type}

/-- The fields that hold a text. -/
def texts : List (Field String) :=
  [serviceName, environment, openingTag, closingTag, logService, logLevel]

/-- The keys that lead to the field. -/
def place : Field α → List String
  | serviceName => ["service_name"]
  | environment => ["environment"]
  | openingTag => ["engine", "start_tag"]
  | closingTag => ["engine", "end_tag"]
  | caseMode => ["engine", "comparison_mode"]
  | logService => ["observability", "service_name"]
  | logLevel => ["observability", "log_level"]
  | jsonLogs => ["observability", "json_logs"]

/-- The value that a setting gives the field. -/
def read? : Field α → Setting → Option α
  | caseMode => Setting.asCaseMode?
  | jsonLogs => Setting.asFlag?
  | serviceName | environment | openingTag | closingTag | logService | logLevel => Setting.asText?

def get (s : AppSettings) : Field α → α
  | serviceName => s.serviceName
  | environment => s.environment
  | openingTag => s.engine.openingTag
  | closingTag => s.engine.closingTag
  | caseMode => s.engine.caseMode
  | logService => s.log.serviceName
  | logLevel => s.log.logLevel
  | jsonLogs => s.log.jsonLogs

/-- The value of the field where it is not given. -/
def fallback (field : Field α) : α := field.get {}

theorem place_ne_nil (field : Field α) : field.place ≠ [] := by
  cases field <;> exact List.cons_ne_nil _ _

/-- Values of all fields make up settings. -/
theorem exists_settings {value? : {α : Type} → Field α → Option α}
    (h : ∀ {α : Type} (field : Field α), ∃ v, value? field = some v) :
    ∃ s, ∀ {α : Type} (field : Field α), value? field = some (field.get s) := by
  obtain ⟨serviceName, hserviceName⟩ := h .serviceName
  obtain ⟨environment, henvironment⟩ := h .environment
  obtain ⟨openingTag, hopeningTag⟩ := h .openingTag
  obtain ⟨closingTag, hclosingTag⟩ := h .closingTag
  obtain ⟨caseMode, hcaseMode⟩ := h .caseMode
  obtain ⟨logService, hlogService⟩ := h .logService
  obtain ⟨logLevel, hlogLevel⟩ := h .logLevel
  obtain ⟨jsonLogs, hjsonLogs⟩ := h .jsonLogs
  refine ⟨⟨serviceName, environment, ⟨openingTag, closingTag, caseMode⟩,
    ⟨logService, logLevel, jsonLogs⟩⟩, fun field => ?_⟩
  cases field <;> assumption

/-- The value of the field in settings laid together. -/
def readIn? (field : Field α) (root : Setting) : Option α :=
  (root.at? field.place).elim (some field.fallback) field.read?

end Field

/-! ## Reading all fields -/

/-- Settings in which the service's name stands for the one under which lines are logged, if this is
empty. -/
def AppSettings.named (s : AppSettings) : AppSettings :=
  { s with log := { s.log with
      serviceName := if s.log.serviceName = "" then s.serviceName else s.log.serviceName } }

/-- Where a section is to be, there is a table or nothing. -/
def Setting.HasSection (root : Setting) (key : String) : Prop :=
  ∀ s, root.get? key = some s → s.isTable

theorem Setting.readKey_eq_elim {α : Type} (s : Setting) (key : String) (fallback : α)
    (read : Setting → Option α) :
    s.readKey key fallback read = (s.get? key).elim (some fallback) read := by
  rw [readKey]
  cases s.get? key <;> rfl

namespace AppSettings

variable {root : Setting}

theorem readIn?_of_key {α : Type} {field : Field α} {key : String} (hplace : field.place = [key]) :
    field.readIn? root = (root.get? key).elim (some field.fallback) field.read? := by
  have hat : root.at? field.place = root.get? key := by
    rw [hplace]
    simp only [Setting.at?]
    cases root.get? key <;> simp
  rw [Field.readIn?, hat]

/-- A field of a section is read from what the section's table has for its key. -/
theorem readIn?_of_section {α : Type} {field : Field α} {sectionKey key : String}
    (hplace : field.place = [sectionKey, key]) :
    field.readIn? root = ((root.get? sectionKey).bind (·.get? key)).elim (some field.fallback)
      field.read? := by
  have hat : root.at? field.place = (root.get? sectionKey).bind (·.get? key) := by
    rw [hplace]
    simp only [Setting.at?]
    cases root.get? sectionKey <;> simp
  rw [Field.readIn?, hat]

end AppSettings

/-- A section of three fields, and how it is read: each field by its key, and without a table by the
order of the keys. -/
structure Section (ρ α β γ : Type) where
  key : String
  key₁ : String
  key₂ : String
  key₃ : String
  field₁ : Field α
  field₂ : Field β
  field₃ : Field γ
  make : α → β → γ → ρ
  read : Setting → Option ρ
  place₁ : field₁.place = [key, key₁]
  place₂ : field₂.place = [key, key₂]
  place₃ : field₃.place = [key, key₃]
  read_eq : ∀ s, read s = do
    let s ← s.asRecord? [key₁, key₂, key₃]
    return make (← s.readKey key₁ field₁.fallback field₁.read?)
      (← s.readKey key₂ field₂.fallback field₂.read?)
      (← s.readKey key₃ field₃.fallback field₃.read?)

namespace Section

def engine : Section EngineSettings String String CaseMode where
  key := "engine"
  key₁ := "start_tag"
  key₂ := "end_tag"
  key₃ := "comparison_mode"
  field₁ := .openingTag
  field₂ := .closingTag
  field₃ := .caseMode
  make := EngineSettings.mk
  read := EngineSettings.ofSetting?
  place₁ := rfl
  place₂ := rfl
  place₃ := rfl
  read_eq _ := rfl

def log : Section LogSettings String String Bool where
  key := "observability"
  key₁ := "service_name"
  key₂ := "log_level"
  key₃ := "json_logs"
  field₁ := .logService
  field₂ := .logLevel
  field₃ := .jsonLogs
  make := LogSettings.mk
  read := LogSettings.ofSetting?
  place₁ := rfl
  place₂ := rfl
  place₃ := rfl
  read_eq _ := rfl

variable {ρ α β γ : Type} {root : Setting}

/-- The section as it is read from settings. -/
def readIn? (sec : Section ρ α β γ) (root : Setting) : Option ρ :=
  root.readKey sec.key
    (sec.make sec.field₁.fallback sec.field₂.fallback sec.field₃.fallback) sec.read

/-- **A section that is a table or missing is read field by field.** -/
theorem readIn?_eq (sec : Section ρ α β γ) (h : root.HasSection sec.key) :
    sec.readIn? root = do
      return sec.make (← sec.field₁.readIn? root) (← sec.field₂.readIn? root)
        (← sec.field₃.readIn? root) := by
  rw [AppSettings.readIn?_of_section sec.place₁, AppSettings.readIn?_of_section sec.place₂,
    AppSettings.readIn?_of_section sec.place₃, readIn?, Setting.readKey_eq_elim]
  cases hroot : root.get? sec.key with
  | none => rfl
  | some x =>
    obtain ⟨es, rfl⟩ := Setting.eq_table_of_isTable (h x hroot)
    simp only [Option.elim_some, sec.read_eq, Setting.asRecord?, Setting.readKey_eq_elim,
      Option.bind_eq_bind, Option.bind_some]

theorem readIn?_eq_some {sec : Section ρ α β γ} {a : α} {b : β} {c : γ}
    (h : root.HasSection sec.key) (ha : sec.field₁.readIn? root = some a)
    (hb : sec.field₂.readIn? root = some b) (hc : sec.field₃.readIn? root = some c) :
    sec.readIn? root = some (sec.make a b c) := by
  rw [sec.readIn?_eq h, ha, hb, hc]
  rfl

/-- Whatever the section is, its fields can be read if it can. -/
theorem exists_readIn?_fields (sec : Section ρ α β γ) {r : ρ} (h : sec.readIn? root = some r) :
    (∃ v, sec.field₁.readIn? root = some v) ∧ (∃ v, sec.field₂.readIn? root = some v) ∧
      ∃ v, sec.field₃.readIn? root = some v := by
  rw [readIn?, Setting.readKey_eq_elim] at h
  rw [AppSettings.readIn?_of_section sec.place₁, AppSettings.readIn?_of_section sec.place₂,
    AppSettings.readIn?_of_section sec.place₃]
  cases hroot : root.get? sec.key with
  | none => exact ⟨⟨_, rfl⟩, ⟨_, rfl⟩, ⟨_, rfl⟩⟩
  | some x =>
    rw [hroot, Option.elim_some, sec.read_eq] at h
    cases x with
    | table es =>
      simp only [Setting.asRecord?, Setting.readKey_eq_elim, Option.bind_eq_bind, Option.bind_some,
        Option.bind_eq_some_iff] at h
      obtain ⟨v₁, h₁, v₂, h₂, v₃, h₃, -⟩ := h
      exact ⟨⟨v₁, h₁⟩, ⟨v₂, h₂⟩, ⟨v₃, h₃⟩⟩
    | list elements => exact ⟨⟨_, rfl⟩, ⟨_, rfl⟩, ⟨_, rfl⟩⟩
    | null | flag | whole | real | text => cases h

end Section

namespace AppSettings

variable {root : Setting}

/-- Settings are read from their two names and their two sections. -/
theorem ofSetting?_eq (root : Setting) :
    ofSetting? root = do
      return (AppSettings.mk (← Field.serviceName.readIn? root) (← Field.environment.readIn? root)
        (← Section.engine.readIn? root) (← Section.log.readIn? root)).named := by
  rw [readIn?_of_key rfl, readIn?_of_key rfl, ofSetting?, Setting.readKey_eq_elim,
    Setting.readKey_eq_elim]
  refine congrArg (Option.bind _) (funext fun name => ?_)
  refine congrArg (Option.bind _) (funext fun environment => ?_)
  refine congrArg (Option.bind _) (funext fun engine => ?_)
  refine congrArg (Option.bind _) (funext fun log => ?_)
  simp only [named]
  split <;> rfl

/-- **Settings are read field by field.** -/
theorem ofSetting?_eq_some {s : AppSettings} (hengine : root.HasSection "engine")
    (hlog : root.HasSection "observability")
    (h : ∀ {α : Type} (field : Field α), field.readIn? root = some (field.get s)) :
    ofSetting? root = some s.named := by
  have hengine' : Section.engine.readIn? root = some s.engine :=
    Section.readIn?_eq_some hengine (h .openingTag) (h .closingTag) (h .caseMode)
  have hlog' : Section.log.readIn? root = some s.log :=
    Section.readIn?_eq_some hlog (h .logService) (h .logLevel) (h .jsonLogs)
  rw [ofSetting?_eq, h .serviceName, h .environment, hengine', hlog']
  rfl

/-- Settings without a mode are not read. -/
theorem ofSetting?_eq_none (hengine : root.HasSection "engine")
    (hmode : Field.caseMode.readIn? root = none) : ofSetting? root = none := by
  have hengine' : Section.engine.readIn? root = none := by
    have hfield : Section.engine.field₃.readIn? root = none := hmode
    rw [Section.engine.readIn?_eq hengine, hfield]
    simp only [Option.bind_eq_bind, Option.bind_none, Option.bind_fun_none]
  rw [ofSetting?_eq, hengine']
  simp only [Option.bind_eq_bind, Option.bind_none, Option.bind_fun_none]

end AppSettings

/-! ## Reading what is laid together -/

namespace Setting

/-- The tables that are given last, the last one first. -/
def lastTables (given : List Setting) : List Setting := given.reverse.takeWhile isTable

/-- Do the tables that are given last all have the same keys? -/
def TablesAgree (given : List Setting) : Prop :=
  ∀ s ∈ lastTables given, ∀ t ∈ lastTables given, keys s.entries = keys t.entries

instance (given : List Setting) : Decidable (TablesAgree given) :=
  inferInstanceAs (Decidable (∀ s ∈ lastTables given, ∀ t ∈ lastTables given, _))

theorem tablesAgree_of_not_isTable {given : List Setting} (h : ∀ s ∈ given, ¬ s.isTable) :
    TablesAgree given := by
  intro s hs
  have hmem : s ∈ given := List.mem_reverse.1 ((List.takeWhile_sublist _).subset hs)
  exact absurd (List.mem_takeWhile_imp hs) (h s hmem)

theorem lastTables_append (given : List Setting) (s : Setting) :
    lastTables (given ++ [s]) = if s.isTable then s :: lastTables given else [] := by
  rw [lastTables, List.reverse_append, List.reverse_singleton, List.singleton_append,
    List.takeWhile_cons]
  rfl

theorem layOver_of_not_isTable {s : Setting} (h : ¬ s.isTable) (under : List (String × Setting)) :
    layOver under s = s := by
  cases s with
  | table => exact absurd rfl h
  | null | flag | whole | real | text | list => rfl

theorem keys_surface (s : Setting) : keys s.surface.entries = keys s.entries := by
  cases s <;> simp [surface, entries, keys]

theorem keys_layOver_of_single {s : Setting} {name : String} (h : keys s.entries = [name])
    (under : List (String × Setting)) :
    keys (layOver under s).entries =
      if name ∈ keys under then keys under else keys under ++ [name] := by
  cases s with
  | table es =>
    obtain ⟨e, rfl, rfl⟩ := List.map_eq_singleton_iff.1 h
    rw [layOver, layEntries, layEntries]
    exact keys_update _ _ _
  | null | flag | whole | real | text | list => simp [entries, keys] at h

/-- The keys that tables of one and the same key make up together. -/
theorem keys_foldl_lay {given : List Setting} {name : String}
    (h : ∀ s ∈ lastTables given, keys s.entries = [name]) :
    keys ((given.foldl lay none).elim [] entries) =
      if lastTables given = [] then [] else [name] := by
  induction given using List.reverseRecOn with
  | nil => rfl
  | append_singleton given s ih =>
    rw [lastTables_append] at h ⊢
    rw [List.foldl_append, List.foldl_cons, List.foldl_nil, lay, Option.elim_some, keys_surface]
    by_cases hs : s.isTable
    · rw [if_pos hs] at h ⊢
      rw [keys_layOver_of_single (h s List.mem_cons_self),
        ih (fun t ht => h t (List.mem_cons_of_mem _ ht))]
      by_cases hlast : lastTables given = [] <;> simp [hlast]
    · rw [if_neg hs, layOver_of_not_isTable hs, if_pos rfl]
      cases s <;> first | rfl | exact absurd rfl hs

theorem mem_keys_layEntries {key : String} {under : List (String × Setting)}
    (entries : List (String × Setting)) :
    key ∈ keys (layEntries under entries) ↔ key ∈ keys under ∨ key ∈ keys entries := by
  induction entries generalizing under with
  | nil => simp [layEntries, keys]
  | cons e entries ih =>
    have hcons : keys (e :: entries) = e.1 :: keys entries := rfl
    have hupdate (s : Setting) :
        key ∈ keys (update e.1 s under) ↔ key ∈ keys under ∨ key = e.1 := by
      rw [keys_update]
      by_cases hmem : e.1 ∈ keys under
      · rw [if_pos hmem]
        exact (or_iff_left_of_imp fun heq => heq ▸ hmem).symm
      · rw [if_neg hmem, List.mem_append, List.mem_singleton]
    rw [layEntries, ih, hupdate, hcons, List.mem_cons, or_assoc]

/-- No key of the tables that are given last is lost. -/
theorem mem_keys_foldl_lay {given : List Setting} {key : String} {s : Setting}
    (hs : s ∈ lastTables given) (hkey : key ∈ keys s.entries) :
    key ∈ keys ((given.foldl lay none).elim [] entries) := by
  induction given using List.reverseRecOn with
  | nil => simp [lastTables] at hs
  | append_singleton given t ih =>
    rw [lastTables_append] at hs
    rw [List.foldl_append, List.foldl_cons, List.foldl_nil, lay, Option.elim_some, keys_surface]
    cases t with
    | table es =>
      refine (mem_keys_layEntries es).2 ?_
      rcases List.mem_cons.1 hs with rfl | hs
      · exact .inr hkey
      · exact .inl (ih hs)
    | null | flag | whole | real | text | list => simp [isTable] at hs

end Setting

namespace Field

open Setting (TablesAgree lastTables)

variable {α : Type} {field : Field α} {given : List Setting}

theorem read?_surface (field : Field α) (s : Setting) : field.read? s.surface = field.read? s := by
  cases field <;> cases s with
  | table es => first | rfl | (cases es with | nil => rfl | cons e es => cases es <;> rfl)
  | null | flag | whole | real | text | list => rfl

/-- A table that can be read has one key. -/
theorem exists_keys_of_read? {s : Setting} {v : α} (h : field.read? s = some v) (hs : s.isTable) :
    ∃ name, keys s.entries = [name] := by
  cases s with
  | table es =>
    cases field with
    | caseMode =>
      match es, h with
      | [(name, _)], _ => exact ⟨name, rfl⟩
    | _ => simp [read?, Setting.asText?, Setting.asFlag?] at h
  | null | flag | whole | real | text | list => simp [Setting.isTable] at hs

/-- **What is laid together is read as what is given last**, if tables that are merged agree. -/
theorem read?_foldl_lay (hread : ∀ s ∈ given, ∃ v, field.read? s = some v)
    (hagree : TablesAgree given) :
    (given.foldl lay none).elim (some field.fallback) field.read? =
      given.getLast?.elim (some field.fallback) field.read? := by
  rcases List.eq_nil_or_concat' given with rfl | ⟨before, s, rfl⟩
  · rfl
  · obtain ⟨v, hv⟩ := hread s (List.mem_append_right _ (List.mem_singleton_self s))
    rw [List.getLast?_concat, Option.elim_some, List.foldl_append, List.foldl_cons, List.foldl_nil,
      lay, Option.elim_some, read?_surface]
    by_cases hs : s.isTable
    · obtain ⟨name, hname⟩ := exists_keys_of_read? hv hs
      have hlast : ∀ t ∈ lastTables before, keys t.entries = [name] := by
        intro t ht
        rw [TablesAgree, Setting.lastTables_append, if_pos hs] at hagree
        exact hname ▸ hagree t (List.mem_cons_of_mem s ht) s List.mem_cons_self
      have hkeys :
          keys (Setting.layOver ((before.foldl lay none).elim [] Setting.entries) s).entries =
            keys s.entries := by
        rw [Setting.keys_layOver_of_single hname, Setting.keys_foldl_lay hlast, hname]
        by_cases hempty : lastTables before = [] <;> simp [hempty]
      cases s with
      | table es =>
        rw [← read?_surface, ← read?_surface field (.table es)]
        exact congrArg field.read? (Setting.surface_table_congr hkeys)
      | null | flag | whole | real | text | list => simp [Setting.isTable] at hs
    · rw [Setting.layOver_of_not_isTable hs]

/-- Tables that do not agree cannot be read. -/
theorem read?_foldl_lay_eq_none (hread : ∀ s ∈ given, ∃ v, field.read? s = some v)
    (hagree : ¬ TablesAgree given) :
    (given.foldl lay none).elim (some field.fallback) field.read? = none := by
  simp only [TablesAgree, not_forall] at hagree
  obtain ⟨s, hs, t, ht, hne⟩ := hagree
  have hsingle {s : Setting} (hs : s ∈ lastTables given) : ∃ name, keys s.entries = [name] := by
    obtain ⟨v, hv⟩ := hread s (List.mem_reverse.1 ((List.takeWhile_sublist _).subset hs))
    exact exists_keys_of_read? hv (List.mem_takeWhile_imp hs)
  obtain ⟨name, hname⟩ := hsingle hs
  obtain ⟨name', hname'⟩ := hsingle ht
  have hmem := Setting.mem_keys_foldl_lay hs (hname ▸ List.mem_singleton_self name)
  have hmem' := Setting.mem_keys_foldl_lay ht (hname' ▸ List.mem_singleton_self name')
  cases hlaid : given.foldl lay none with
  | none => simp [hlaid, keys] at hmem
  | some x =>
    rw [hlaid, Option.elim_some] at hmem hmem'
    rw [Option.elim_some, Option.eq_none_iff_forall_ne_some]
    intro v hv
    have hx : x.isTable := by
      cases x with
      | table => rfl
      | null | flag | whole | real | text | list => simp [Setting.entries, keys] at hmem
    obtain ⟨name'', hkeys⟩ := exists_keys_of_read? hv hx
    rw [hkeys, List.mem_singleton] at hmem hmem'
    exact hne (by rw [hname, hname', hmem, hmem'])

end Field

end Rulebook
