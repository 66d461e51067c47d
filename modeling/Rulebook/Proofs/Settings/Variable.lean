import Rulebook.Proofs.Result
import Rulebook.Proofs.Settings.EnvironmentText
import Rulebook.Proofs.Settings.Override

/-!
# A field given by a variable

Every field has a variable of the environment that gives it.

**Theorem (`load_of_variable`).** If settings load, they also load when the variable of a field that
holds a text is set to one that is not empty. The field then holds what the text of the variable
gives where a text is wanted (`Setting.environmentText`), provided no later variable is about the
same place. That is the text itself if and only if it is plain (`Setting.IsPlain`): words for flags
and numbers are read as such first.

The settings that are laid together with the variable differ from those without it at the place of
the field and nowhere else (`SetAt`). What is laid over both of them afterwards keeps it so.
-/

namespace Rulebook

open Setting (environmentText)

/-! ## Settings that differ at one place -/

/-- The second of two settings has a setting at a place, to which tables lead, and has besides what
the first one has. -/
def SetAt : List String → Setting → Option Setting → Option Setting → Prop
  | [], v, _, t => t = some v
  | key :: place, v, s, t =>
    ∃ entries, t = some (.table entries) ∧
      SetAt place v ((s.elim [] Setting.entries).lookup key) (entries.lookup key) ∧
      ∀ k, k ≠ key → entries.lookup k = (s.elim [] Setting.entries).lookup k

namespace SetAt

variable {place : List String} {v x : Setting} {s t : Option Setting}

theorem exists_eq_some (h : SetAt place v s t) : ∃ t', t = some t' := by
  cases place with
  | nil => exact ⟨v, h⟩
  | cons key place => exact ⟨_, h.choose_spec.1⟩

theorem at?_self (h : SetAt place v s t) : t.bind (Setting.at? place) = some v := by
  induction place generalizing s t with
  | nil => rw [Setting.bind_at?_nil, h]
  | cons key place ih =>
    obtain ⟨entries, rfl, hkey, -⟩ := h
    rw [Setting.bind_at?_cons]
    exact ih hkey

/-- A place that is not on the way, nor beyond, has what it had. -/
theorem at?_other {place' : List String} (h : SetAt place v s t) (hnot : ¬ place <+: place')
    (hnot' : ¬ place' <+: place) :
    t.bind (Setting.at? place') = s.bind (Setting.at? place') := by
  induction place generalizing place' s t with
  | nil => exact absurd List.nil_prefix hnot
  | cons key place ih =>
    obtain ⟨entries, rfl, hkey, hothers⟩ := h
    cases place' with
    | nil => exact absurd List.nil_prefix hnot'
    | cons k place' =>
      rw [Setting.bind_at?_cons, Setting.bind_at?_cons]
      by_cases hk : k = key
      · subst hk
        exact ih hkey (fun h => hnot (List.cons_prefix_cons.2 ⟨rfl, h⟩))
          (fun h => hnot' (List.cons_prefix_cons.2 ⟨rfl, h⟩))
      · exact congrArg (·.bind (Setting.at? place')) (hothers k hk)

/-- Laying a setting at a place. -/
theorem of_put (hv : ¬ v.isTable) :
    SetAt place v s (some ((s.getD default).put (place.map .key) v)) := by
  induction place generalizing s with
  | nil => exact congrArg some (Setting.layOver_of_not_isTable hv _)
  | cons key place ih =>
    rw [List.map_cons, Setting.put_key]
    refine ⟨_, rfl, ?_, fun k hk => Setting.lookup_update_of_ne hk _ _⟩
    rw [Setting.lookup_update_self]
    exact ih

/-- **What is laid elsewhere keeps the difference.** -/
theorem put {path : List Step} {t : Setting} (h : SetAt place v s (some t)) (hx : ¬ x.isTable)
    (hleads : (Setting.nest path x).LeadsTo place)
    (hnone : (Setting.nest path x).givenAt place = []) :
    SetAt place v (some ((s.getD default).put path x)) (some (t.put path x)) := by
  induction place generalizing path s t with
  | nil => cases hnone
  | cons key place ih =>
    obtain ⟨entries, ht, hkey, hothers⟩ := h
    cases ht
    -- what is laid on the way to the place would be a table, so the path begins with a key
    cases path with
    | nil => exact absurd hleads.1 hx
    | cons step path =>
      cases step with
      | index i => exact absurd hleads.1 Bool.false_ne_true
      | key k =>
        have htable := Setting.put_key k path x (some (.table entries))
        rw [Setting.put_key]
        refine ⟨_, congrArg some htable, ?_, fun k' hk' => ?_⟩
        · by_cases hk : k = key
          · subst hk
            obtain ⟨t', ht'⟩ := hkey.exists_eq_some
            have hrest : (Setting.nest path x).givenAt place = [] := by
              simpa [Setting.nest, Setting.givenAt, Setting.entries] using hnone
            have hput := ih (ht' ▸ hkey) (hleads.2 (k, Setting.nest path x) List.mem_cons_self rfl)
              hrest
            simpa [Setting.lookup_update_self, Setting.entries, ht'] using hput
          · simpa [Setting.lookup_update_of_ne (Ne.symm hk), Setting.entries] using hkey
        · by_cases hk : k' = k
          · subst hk
            simp [Setting.lookup_update_self, Setting.entries, hothers k' hk']
          · simpa [Setting.lookup_update_of_ne hk, Setting.entries] using hothers k' hk'

end SetAt

namespace Layer

/-- Is nothing in the layer about the place: is no setting given for it, and no table taken away
that leads to it? -/
def Spares (layer : Layer) (place : List String) : Prop :=
  layer.LeadsTo place ∧ layer.given place = []

instance (layer : Layer) (place : List String) : Decidable (layer.Spares place) :=
  have : Decidable (layer.given place = []) := decidable_of_iff _ List.isEmpty_iff
  inferInstanceAs (Decidable (_ ∧ _))

end Layer

theorem SetAt.over {place : List String} {v : Setting} {layer : Layer} {s t : Setting}
    (h : SetAt place v (some s) (some t)) (hscalar : ∀ e ∈ layer, ¬ e.2.isTable)
    (hspares : layer.Spares place) : SetAt place v (some (layer.over s)) (some (layer.over t)) := by
  obtain ⟨hleads, hnone⟩ := hspares
  induction layer generalizing s t with
  | nil => exact h
  | cons e layer ih =>
    rw [Layer.given, List.flatMap_cons, List.append_eq_nil_iff] at hnone
    have hput := h.put (hscalar e List.mem_cons_self) (hleads e List.mem_cons_self) hnone.1
    exact ih hput (fun e he => hscalar e (List.mem_cons_of_mem _ he))
      (fun e he => hleads e (List.mem_cons_of_mem _ he)) hnone.2

/-! ## Reading settings that differ at a field -/

namespace Field

theorem not_place_prefix {α β : Type} {field : Field α} {field' : Field β}
    (h : field.place ≠ field'.place) : ¬ field.place <+: field'.place := by
  cases field <;> cases field' <;> first | exact absurd rfl h | decide

/-- Fields at the same place are read in the same way. -/
theorem exists_read?_of_place_eq {α β : Type} {field : Field α} {field' : Field β}
    (h : field'.place = field.place) {v : Setting} {w : α} (hv : field.read? v = some w) :
    ∃ w', field'.read? v = some w' := by
  cases field <;> cases field' <;> first | exact ⟨_, hv⟩ | exact absurd h (by decide)

end Field

namespace AppSettings

variable {root root' : Setting}

/-- A section is read, field by field if it is a table, where its fields can be read and it was read
before a change that leaves it alone or makes a table of it. -/
theorem exists_section {ρ α β γ : Type} (sec : Section ρ α β γ) {r : ρ}
    (hsame : root'.HasSection sec.key ∨ root'.get? sec.key = root.get? sec.key)
    (hread : ∀ {δ : Type} (field : Field δ), ∃ v, field.readIn? root' = some v)
    (h : sec.readIn? root = some r) :
    ∃ r', sec.readIn? root' = some r' ∧ (root'.HasSection sec.key →
      ∃ a b c, r' = sec.make a b c ∧ sec.field₁.readIn? root' = some a ∧
        sec.field₂.readIn? root' = some b ∧ sec.field₃.readIn? root' = some c) := by
  by_cases hsection : root'.HasSection sec.key
  · obtain ⟨a, ha⟩ := hread sec.field₁
    obtain ⟨b, hb⟩ := hread sec.field₂
    obtain ⟨c, hc⟩ := hread sec.field₃
    exact ⟨sec.make a b c, Section.readIn?_eq_some hsection ha hb hc,
      fun _ => ⟨a, b, c, rfl, ha, hb, hc⟩⟩
  · -- a list in the place of the section, which is then read as it was
    refine ⟨r, ?_, fun hin => absurd hin hsection⟩
    rw [← h, Section.readIn?, Section.readIn?, Setting.readKey_eq_elim, Setting.readKey_eq_elim,
      hsame.resolve_left hsection]

theorem get?_of_setAt {key k : String} {place : List String} {v : Setting}
    (h : SetAt (key :: place) v (some root) (some root')) (hk : k ≠ key) :
    root'.get? k = root.get? k := by
  obtain ⟨entries, hroot', -, hothers⟩ := h
  cases hroot'
  exact hothers k hk

theorem hasSection_of_setAt {key key' : String} {v : Setting}
    (h : SetAt [key, key'] v (some root) (some root')) : root'.HasSection key := by
  obtain ⟨entries, hroot', ⟨entries', hkey, -, -⟩, -⟩ := h
  cases hroot'
  intro s hs
  cases hs.symm.trans hkey
  rfl

/-- In settings that are read each field can be read. -/
theorem exists_readIn?_of_ofSetting? {s : AppSettings} (h : ofSetting? root = some s) {α : Type}
    (field : Field α) : ∃ v, field.readIn? root = some v := by
  simp only [ofSetting?_eq, Option.bind_eq_bind, Option.bind_eq_some_iff] at h
  obtain ⟨name, hname, environment, henvironment, engine, hengine, log, hlog, -⟩ := h
  obtain ⟨hopening, hclosing, hmode⟩ := Section.engine.exists_readIn?_fields hengine
  obtain ⟨hservice, hlevel, hjson⟩ := Section.log.exists_readIn?_fields hlog
  cases field with
  | serviceName => exact ⟨name, hname⟩
  | environment => exact ⟨environment, henvironment⟩
  | openingTag => exact hopening
  | closingTag => exact hclosing
  | caseMode => exact hmode
  | logService => exact hservice
  | logLevel => exact hlevel
  | jsonLogs => exact hjson

/-- Setting a field leaves the others readable. -/
theorem exists_readIn?_of_setAt {α β : Type} {field : Field α} {v : Setting} {w : α}
    {s : AppSettings} (hset : SetAt field.place v (some root) (some root'))
    (hv : field.read? v = some w)
    (h : ofSetting? root = some s) (field' : Field β) : ∃ w', field'.readIn? root' = some w' := by
  by_cases hplace : field'.place = field.place
  · have hat : root'.at? field'.place = some v := hplace ▸ hset.at?_self
    rw [Field.readIn?, hat]
    exact Field.exists_read?_of_place_eq hplace hv
  · have hat : root'.at? field'.place = root.at? field'.place :=
      hset.at?_other (Field.not_place_prefix (Ne.symm hplace)) (Field.not_place_prefix hplace)
    rw [Field.readIn?, hat]
    exact exists_readIn?_of_ofSetting? h field'

/-- **Settings that are read are also read when a field is set.** -/
theorem exists_ofSetting?_of_setAt {field : Field String} (hfield : field ∈ Field.texts)
    {v : Setting} {text : String} {s : AppSettings}
    (hset : SetAt field.place v (some root) (some root'))
    (htext : v.asText? = some text) (h : ofSetting? root = some s) :
    ∃ s', ofSetting? root' = some s'.named ∧ field.get s' = text := by
  simp only [Field.texts, List.mem_cons, List.not_mem_nil, or_false] at hfield
  have hv : field.read? v = some text := by
    rcases hfield with rfl | rfl | rfl | rfl | rfl | rfl <;> exact htext
  have hown : field.readIn? root' = some text := by
    have hat : root'.at? field.place = some v := hset.at?_self
    rw [Field.readIn?, hat]
    exact hv
  have hread {α : Type} (field' : Field α) := exists_readIn?_of_setAt hset hv h field'
  simp only [ofSetting?_eq, Option.bind_eq_bind, Option.bind_eq_some_iff] at h
  obtain ⟨-, -, -, -, engine, hengine, log, hlog, -⟩ := h
  have hsections : (root'.HasSection "engine" ∨ root'.get? "engine" = root.get? "engine") ∧
      (root'.HasSection "observability" ∨
        root'.get? "observability" = root.get? "observability") := by
    rcases hfield with rfl | rfl | rfl | rfl | rfl | rfl
    · exact ⟨.inr (get?_of_setAt hset (by decide)), .inr (get?_of_setAt hset (by decide))⟩
    · exact ⟨.inr (get?_of_setAt hset (by decide)), .inr (get?_of_setAt hset (by decide))⟩
    · exact ⟨.inl (hasSection_of_setAt hset), .inr (get?_of_setAt hset (by decide))⟩
    · exact ⟨.inl (hasSection_of_setAt hset), .inr (get?_of_setAt hset (by decide))⟩
    · exact ⟨.inr (get?_of_setAt hset (by decide)), .inl (hasSection_of_setAt hset)⟩
    · exact ⟨.inr (get?_of_setAt hset (by decide)), .inl (hasSection_of_setAt hset)⟩
  obtain ⟨name, hname⟩ := hread .serviceName
  obtain ⟨environment, henvironment⟩ := hread .environment
  obtain ⟨engine', hengine', htags⟩ := exists_section .engine hsections.1 hread hengine
  obtain ⟨log', hlog', hlogTexts⟩ := exists_section .log hsections.2 hread hlog
  refine ⟨⟨name, environment, engine', log'⟩, ?_, Option.some.inj (Eq.trans ?_ hown)⟩
  · rw [ofSetting?_eq, hname, henvironment, hengine', hlog']
    rfl
  · rcases hfield with rfl | rfl | rfl | rfl | rfl | rfl
    · exact hname.symm
    · exact henvironment.symm
    · obtain ⟨opening, closing, mode, rfl, hopening, -, -⟩ := htags (hasSection_of_setAt hset)
      exact hopening.symm
    · obtain ⟨opening, closing, mode, rfl, -, hclosing, -⟩ := htags (hasSection_of_setAt hset)
      exact hclosing.symm
    · obtain ⟨service, level, json, rfl, hservice, -, -⟩ := hlogTexts (hasSection_of_setAt hset)
      exact hservice.symm
    · obtain ⟨service, level, json, rfl, -, hlevel, -⟩ := hlogTexts (hasSection_of_setAt hset)
      exact hlevel.symm

end AppSettings

/-! ## Variables -/

/-- The variable of the environment that gives the field. -/
def Field.variable {α : Type} : Field α → String
  | serviceName => "RULES_SERVICE_NAME"
  | environment => "RULES_ENVIRONMENT"
  | openingTag => "RULES_ENGINE__START_TAG"
  | closingTag => "RULES_ENGINE__END_TAG"
  | caseMode => "RULES_ENGINE__COMPARISON_MODE"
  | logService => "RULES_OBSERVABILITY__SERVICE_NAME"
  | logLevel => "RULES_OBSERVABILITY__LOG_LEVEL"
  | jsonLogs => "RULES_OBSERVABILITY__JSON_LOGS"

namespace Layer

theorem ofEnvironment_append (word : String) (vars vars' : List (String × String)) :
    ofEnvironment word (vars ++ vars') = ofEnvironment word vars ++ ofEnvironment word vars' :=
  List.filterMap_append

theorem over_append (layer layer' : Layer) (s : Setting) :
    Layer.over (layer ++ layer') s = layer'.over (layer.over s) :=
  List.foldl_append

/-- **The variable of a field gives the field a setting** and nothing else. -/
theorem ofEnvironment_variable {α : Type} (field : Field α) (text : String) :
    ofEnvironment "rules" [(field.variable, text)] =
      [(field.place.map .key, .ofEnvironment text)] := by
  have hpath : (dropStart? ("rules" ++ "_").toList (Text.lowercase field.variable.toList)).map
      (fun key => keyPath (String.ofList (pointed key))) = some (field.place.map .key) := by
    cases field <;> decide +kernel
  obtain ⟨key, hkey, hplace⟩ := Option.map_eq_some_iff.1 hpath
  refine List.filterMap_cons_some (Option.bind_eq_some_iff.2 ⟨key, hkey, ?_⟩)
  rw [← hplace]
  rfl

end Layer

theorem Setting.not_isTable_ofEnvironment (text : String) : ¬ (ofEnvironment text).isTable := by
  intro htable
  have htext := asText?_ofEnvironment text
  obtain ⟨entries, hentries⟩ := eq_table_of_isTable htable
  rw [hentries] at htext
  cases htext

namespace Layer

theorem not_isTable_of_mem_ofEnvironment {word : String} {vars : List (String × String)} :
    ∀ e ∈ ofEnvironment word vars, ¬ e.2.isTable := by
  intro e he htable
  obtain ⟨⟨name, text⟩, -, hvar⟩ := List.mem_filterMap.1 he
  obtain ⟨key, -, hentry⟩ := Option.bind_eq_some_iff.1 hvar
  cases hentry
  exact Setting.not_isTable_ofEnvironment text htable

end Layer

namespace AppSettings

variable {files : SettingsFiles} {environment service : String}

/-- Settings that load come from files that read. -/
theorem exists_layers_of_load {vars : List (String × String)} {s : AppSettings}
    (h : load files vars environment service = .ok s) :
    ∃ base staged own, files.layer? "default" = some base ∧
      files.layer? environment = some staged ∧ files.layer? service = some own := by
  have hlayer {name : String} {layer : Layer} (hok : fileLayer files name = .ok layer) :
      files.layer? name = some layer := by
    rw [fileLayer] at hok
    split at hok
    · next hsome => exact hsome.trans (congrArg some (Except.ok.inj hok))
    · cases hok
  obtain ⟨sources, hsources, -⟩ := bind_eq_ok.1 h
  obtain ⟨base, hbase, hsources⟩ := bind_eq_ok.1 hsources
  obtain ⟨staged, hstaged, hsources⟩ := bind_eq_ok.1 hsources
  obtain ⟨own, hown, -⟩ := bind_eq_ok.1 hsources
  exact ⟨base, staged, own, hlayer hbase, hlayer hstaged, hlayer hown⟩

/-- The variables of the environment are laid over what the other sources make up. -/
theorem layAll_sources (vars : List (String × String)) (base staged own : Layer) :
    layAll (sources vars environment service base staged own) =
      (Layer.ofEnvironment "rules" vars).over
        (layAll (sources [] environment service base staged own)) := rfl

/-- Setting a variable sets its field, whatever the variables are laid over. -/
theorem setAt_ofEnvironment {α : Type} {field : Field α} {before after : List (String × String)}
    (hafter : (Layer.ofEnvironment "rules" after).Spares field.place) (text : String)
    (root : Setting) :
    SetAt field.place (.ofEnvironment text)
      (some ((Layer.ofEnvironment "rules" (before ++ after)).over root))
      (some ((Layer.ofEnvironment "rules"
        (before ++ (field.variable, text) :: after)).over root)) := by
  have hvars : Layer.ofEnvironment "rules" (before ++ (field.variable, text) :: after) =
      Layer.ofEnvironment "rules" before ++
        ([(field.place.map .key, .ofEnvironment text)] ++ Layer.ofEnvironment "rules" after) := by
    rw [← Layer.ofEnvironment_variable, ← Layer.ofEnvironment_append, ← Layer.ofEnvironment_append]
    rfl
  have hscalar := Setting.not_isTable_ofEnvironment text
  rw [hvars, Layer.ofEnvironment_append, Layer.over_append, Layer.over_append, Layer.over_append]
  exact (SetAt.of_put (s := some _) hscalar).over Layer.not_isTable_of_mem_ofEnvironment hafter

theorem get_named {field : Field String} (hfield : field ∈ Field.texts) {s : AppSettings}
    (h : field.get s ≠ "") : field.get s.named = field.get s := by
  simp only [Field.texts, List.mem_cons, List.not_mem_nil, or_false] at hfield
  rcases hfield with rfl | rfl | rfl | rfl | rfl | rfl
  · rfl
  · rfl
  · rfl
  · rfl
  · exact if_neg h
  · rfl

/-- **A variable gives its field what its text is read as.** If settings load, they load when the
variable of a field that holds a text is set to one that is not empty, provided that the later
variables are not about the field's place. The field then holds what the environment makes of the
text, and this is the text itself if and only if it is plain. -/
theorem load_of_variable (files : SettingsFiles) (before after : List (String × String))
    (environment service : String) {field : Field String} (hfield : field ∈ Field.texts)
    {text : String} (htext : text ≠ "") {s : AppSettings}
    (hload : load files (before ++ after) environment service = .ok s)
    (hafter : (Layer.ofEnvironment "rules" after).Spares field.place) :
    ∃ s', load files (before ++ (field.variable, text) :: after) environment service = .ok s' ∧
      field.get s' = environmentText text ∧ (field.get s' = text ↔ Setting.IsPlain text) := by
  obtain ⟨base, staged, own, hbase, hstaged, hown⟩ := exists_layers_of_load hload
  rw [load_eq_ofSetting? hbase hstaged hown, layAll_sources] at hload ⊢
  split at hload
  · next s₀ hread =>
    obtain ⟨s', hread', hget⟩ := exists_ofSetting?_of_setAt hfield
      (setAt_ofEnvironment hafter text _) (Setting.asText?_ofEnvironment text) hread
    have hnamed : field.get s'.named = environmentText text := by
      rw [← hget]
      exact get_named hfield (hget ▸ Setting.environmentText_ne_empty htext)
    refine ⟨s'.named, by rw [hread'], hnamed, ?_⟩
    rw [hnamed]
    exact Setting.environmentText_eq_self_iff text
  · cases hload

/-- One tag is given by a variable, next to a variable for the other one. -/
theorem load_of_variable_tag :
    ∃ s, load [] [("RULES_ENGINE__START_TAG", "<"), ("RULES_ENGINE__END_TAG", "%>")] "t" "s" =
        .ok s ∧
      s.engine.openingTag = "<" := by
  obtain ⟨s, hload, -, hplain⟩ := load_of_variable [] [] [("RULES_ENGINE__END_TAG", "%>")] "t" "s"
    (show Field.openingTag ∈ Field.texts by simp [Field.texts]) (show "<" ≠ "" by decide)
    (show load [] [("RULES_ENGINE__END_TAG", "%>")] "t" "s" =
        .ok { serviceName := "s", environment := "t", engine := { closingTag := "%>" },
              log := { serviceName := "s" } } by decide +kernel)
    (by decide +kernel)
  exact ⟨s, hload, hplain.2 ((Setting.environmentText_eq_self_iff "<").1 (by decide +kernel))⟩

/-- A service named by digits loses the zeros in front, and one named by a word for a flag its
capital letters. -/
theorem not_verbatim_serviceName :
    load [] [] "t" "s" =
        .ok { serviceName := "s", environment := "t", log := { serviceName := "s" } } ∧
      load [] [("RULES_SERVICE_NAME", "007")] "t" "s" =
        .ok { serviceName := "7", environment := "t", log := { serviceName := "7" } } ∧
      load [] [("RULES_SERVICE_NAME", "True")] "t" "s" =
        .ok { serviceName := "true", environment := "t", log := { serviceName := "true" } } := by
  decide +kernel

end AppSettings

end Rulebook
