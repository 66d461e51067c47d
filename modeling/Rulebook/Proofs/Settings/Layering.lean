import Rulebook.Settings.Layer

/-!
# What layers lay at a place

A place in a setting is named by the keys that lead to it. Layers are laid over each other as
wholes, but what is at a place in the end depends only on what each of them gives for this place.

**Theorem (`surface_at?_layAll`).** If tables lead to a place in all that is laid, the settings
given for it are laid over each other there, one after the other, and nothing else changes it.

Laying a setting at the end of a path is laying over the root the setting which has it there
(`nest`), so the step is one lemma for all entries of a layer (`surface_at?_put`). The place is
looked at by its surface: whatever is not a table or a list, and of a table its keys. A position
given in a list makes a list in any case, and which one makes no difference.
-/

namespace Rulebook

namespace Setting

/-! ## Keys -/

def keys (entries : List (String × Setting)) : List String := entries.map Prod.fst

theorem keys_update (key : String) (s : Setting) (entries : List (String × Setting)) :
    keys (update key s entries) =
      if key ∈ keys entries then keys entries else keys entries ++ [key] := by
  induction entries with
  | nil => simp [update, keys]
  | cons e entries ih =>
    obtain ⟨k, old⟩ := e
    by_cases hk : k = key
    · simp [update, keys, hk]
    · have hcons (rest : List (String × Setting)) : keys ((k, old) :: rest) = k :: keys rest := rfl
      rw [update, if_neg hk, hcons, hcons, ih]
      by_cases hmem : key ∈ keys entries
      · rw [if_pos hmem, if_pos (List.mem_cons_of_mem k hmem)]
      · rw [if_neg hmem, if_neg (by simp [hmem, Ne.symm hk]), List.cons_append]

theorem lookup_update_self (key : String) (s : Setting) (entries : List (String × Setting)) :
    (update key s entries).lookup key = some s := by
  induction entries with
  | nil => simp [update]
  | cons e entries ih =>
    obtain ⟨k, old⟩ := e
    by_cases hk : k = key
    · simp [update, hk]
    · rw [update, if_neg hk, List.lookup_cons, beq_eq_false_iff_ne.2 (Ne.symm hk)]
      exact ih

theorem lookup_update_of_ne {key key' : String} (h : key' ≠ key) (s : Setting)
    (entries : List (String × Setting)) :
    (update key s entries).lookup key' = entries.lookup key' := by
  have hbeq : (key' == key) = false := beq_eq_false_iff_ne.2 h
  induction entries with
  | nil => simp [update, List.lookup_cons, hbeq]
  | cons e entries ih =>
    obtain ⟨k, old⟩ := e
    by_cases hk : k = key
    · simp [update, hk, List.lookup_cons, hbeq]
    · simp only [update, if_neg hk, List.lookup_cons, ih]

/-! ## Places -/

/-- What is at a place in a setting. -/
def at? : List String → Setting → Option Setting
  | [], s => some s
  | key :: place, s => (s.get? key).bind (at? place)

theorem bind_at?_nil (under : Option Setting) : under.bind (at? []) = under := by
  cases under <;> rfl

theorem bind_at?_cons (key : String) (place : List String) (under : Option Setting) :
    under.bind (at? (key :: place)) = ((under.elim [] entries).lookup key).bind (at? place) := by
  cases under <;> rfl

theorem at?_table_cons (key : String) (place : List String) (entries : List (String × Setting)) :
    (table entries).at? (key :: place) = (entries.lookup key).bind (at? place) := rfl

/-- The settings that a setting gives for a place, one after the other: a key may be given again. -/
def givenAt : List String → Setting → List Setting
  | [], s => [s]
  | key :: place, s => (s.entries.filter (·.1 = key)).flatMap fun e => givenAt place e.2

def isTable : Setting → Bool
  | .table _ => true
  | _ => false

theorem eq_table_of_isTable {s : Setting} (h : s.isTable) : ∃ entries, s = .table entries := by
  cases s with
  | table entries => exact ⟨entries, rfl⟩
  | null | flag | whole | real | text | list => simp [isTable] at h

/-- Is all that a setting gives on the way to a place a table? -/
def LeadsTo : List String → Setting → Prop
  | [], _ => True
  | key :: place, s => s.isTable ∧ ∀ e ∈ s.entries, e.1 = key → LeadsTo place e.2

instance decidableLeadsTo : (place : List String) → (s : Setting) → Decidable (LeadsTo place s)
  | [], _ => isTrue trivial
  | key :: place, s =>
    have (e : String × Setting) : Decidable (LeadsTo place e.2) := decidableLeadsTo place e.2
    inferInstanceAs (Decidable (s.isTable ∧ ∀ e ∈ s.entries, e.1 = key → LeadsTo place e.2))

/-- What is given for a section is a table if it leads to a field of the section. -/
theorem isTable_of_mem_givenAt {key key' : String} {s t : Setting} (h : s.LeadsTo [key, key'])
    (ht : t ∈ s.givenAt [key]) : t.isTable := by
  simp only [givenAt, List.mem_flatMap, List.mem_filter, List.mem_singleton,
    decide_eq_true_eq] at ht
  obtain ⟨e, ⟨he, hkey⟩, rfl⟩ := ht
  exact (h.2 e he hkey).1

/-- The setting that has a setting at the end of a path, and nothing else. -/
def nest : List Step → Setting → Setting
  | [], s => s
  | .key key :: path, s => .table [(key, nest path s)]
  | .index _ :: path, s => .list [nest path s]

/-- A setting as far as it is read where a text, a flag or a name is wanted: of a table only the
keys. -/
def surface : Setting → Setting
  | .table entries => .table (entries.map fun e => (e.1, null))
  | .list _ => .list []
  | s => s

/-- A setting laid over what is at a place, if anything is. -/
def lay (under : Option Setting) (s : Setting) : Option Setting :=
  some (layOver (under.elim [] entries) s).surface

/-! ## Laying over a place -/

theorem keys_layEntries_congr {under under' : List (String × Setting)}
    (h : keys under = keys under') (entries : List (String × Setting)) :
    keys (layEntries under entries) = keys (layEntries under' entries) := by
  induction entries generalizing under under' with
  | nil => rwa [layEntries, layEntries]
  | cons e entries ih =>
    rw [layEntries, layEntries]
    exact ih (by rw [keys_update, keys_update, h])

theorem surface_table_congr {entries entries' : List (String × Setting)}
    (h : keys entries = keys entries') : (table entries).surface = (table entries').surface := by
  have hsurface (entries : List (String × Setting)) :
      (table entries).surface = .table ((keys entries).map fun key => (key, null)) := by
    simp [surface, keys]
  rw [hsurface, hsurface, h]

theorem surface_layOver_congr {under under' : List (String × Setting)}
    (h : keys under = keys under') (s : Setting) :
    (layOver under s).surface = (layOver under' s).surface := by
  cases s with
  | table entries =>
    rw [layOver, layOver]
    exact surface_table_congr (keys_layEntries_congr h entries)
  | null | flag | whole | real | text | list => rfl

/-- What is under counts by its surface. -/
theorem lay_map_surface (under : Option Setting) (s : Setting) :
    lay (under.map surface) s = lay under s := by
  have hkeys : keys ((under.map surface).elim [] entries) = keys (under.elim [] entries) := by
    cases under with
    | none => rfl
    | some under => cases under <;> simp [surface, entries, keys]
  rw [lay, lay, surface_layOver_congr hkeys]

/-- **Laying a setting over another one** lays at each place what the one gives for it. -/
theorem surface_at?_layOver {place : List String} {s : Setting} (h : s.LeadsTo place)
    (under : Option Setting) :
    ((layOver (under.elim [] entries) s).at? place).map surface =
      (s.givenAt place).foldl lay ((under.bind (at? place)).map surface) := by
  induction place generalizing s under with
  | nil =>
    rw [bind_at?_nil, givenAt, List.foldl_cons, List.foldl_nil, lay_map_surface]
    rfl
  | cons key place ih =>
    obtain ⟨es, rfl⟩ := eq_table_of_isTable h.1
    have hes : ∀ e ∈ es, e.1 = key → e.2.LeadsTo place := h.2
    clear h
    rw [layOver, at?_table_cons, bind_at?_cons, givenAt]
    generalize under.elim [] entries = under
    -- the entries are laid over one after the other; those of other keys leave the place as it is
    simp only [entries]
    induction es generalizing under with
    | nil => rfl
    | cons e es ih' =>
      obtain ⟨k, x⟩ := e
      rw [layEntries, ih' (fun e he => hes e (List.mem_cons_of_mem _ he))]
      by_cases hk : k = key
      · have hx := ih (hes (k, x) List.mem_cons_self hk) (under.lookup key)
        rw [hk, lookup_update_self, Option.bind_some, hx]
        simp
      · rw [lookup_update_of_ne (Ne.symm hk)]
        simp [hk]

theorem getD_default_entries (under : Option Setting) :
    (under.getD default).entries = under.elim [] entries := by
  cases under <;> rfl

theorem put_key (key : String) (path : List Step) (s : Setting) (under : Option Setting) :
    (under.getD default).put (.key key :: path) s =
      .table (update key ((((under.elim [] entries).lookup key).getD default).put path s)
        (under.elim [] entries)) := by
  rw [put, getD_default_entries]

/-- **Laying a setting at the end of a path** does so too. -/
theorem surface_at?_put {path : List Step} {s : Setting} {place : List String}
    (h : (nest path s).LeadsTo place) (under : Option Setting) :
    (((under.getD default).put path s).at? place).map surface =
      ((nest path s).givenAt place).foldl lay ((under.bind (at? place)).map surface) := by
  induction path generalizing place under with
  | nil =>
    rw [put, getD_default_entries]
    exact surface_at?_layOver h under
  | cons step path ih =>
    cases place with
    | nil =>
      rw [bind_at?_nil, givenAt, List.foldl_cons, List.foldl_nil, lay_map_surface]
      cases step with
      | key key =>
        rw [put_key, nest, lay, layOver, layEntries, layEntries]
        exact congrArg some (surface_table_congr (by rw [keys_update, keys_update]))
      | index i => rfl
    | cons key' place =>
      cases step with
      | key key =>
        rw [put_key, bind_at?_cons, at?_table_cons, nest, givenAt]
        by_cases hk : key = key'
        · subst hk
          rw [lookup_update_self, Option.bind_some,
            ih (h.2 (key, nest path s) List.mem_cons_self rfl)]
          simp [entries]
        · rw [lookup_update_of_ne (Ne.symm hk)]
          simp [entries, hk]
      | index i =>
        simp [nest, LeadsTo, isTable] at h

end Setting

/-! ## Layers -/

namespace Layer

open Setting (lay nest surface)

/-- The settings that a layer gives for a place, in the order in which they are laid there. -/
def given (layer : Layer) (place : List String) : List Setting :=
  layer.flatMap fun e => (nest e.1 e.2).givenAt place

/-- Is all that a layer gives on the way to a place a table? -/
def LeadsTo (layer : Layer) (place : List String) : Prop :=
  ∀ e ∈ layer, (nest e.1 e.2).LeadsTo place

instance (layer : Layer) (place : List String) : Decidable (layer.LeadsTo place) :=
  inferInstanceAs (Decidable (∀ e ∈ layer, (nest e.1 e.2).LeadsTo place))

theorem surface_at?_over {layer : Layer} {place : List String} (h : layer.LeadsTo place)
    (under : Setting) :
    ((layer.over under).at? place).map surface =
      (layer.given place).foldl lay ((under.at? place).map surface) := by
  induction layer generalizing under with
  | nil => rfl
  | cons e layer ih =>
    have hput : ((under.put e.1 e.2).at? place).map surface =
        ((nest e.1 e.2).givenAt place).foldl lay ((under.at? place).map surface) :=
      Setting.surface_at?_put (h e List.mem_cons_self) (some under)
    have hrest : LeadsTo layer place := fun e he => h e (List.mem_cons_of_mem _ he)
    rw [given, List.flatMap_cons, List.foldl_append, ← hput]
    exact ih hrest (under.put e.1 e.2)

end Layer

theorem layAll_eq_over (layers : List Layer) :
    layAll layers = Layer.over layers.flatten (.table []) := by
  rw [layAll, Layer.over, List.foldl_flatten]
  rfl

/-- **The settings given for a place are laid over each other there.** Whatever else is given makes
no difference, as long as it does not take away the tables that lead to the place. -/
theorem surface_at?_layAll {layers : List Layer} {place : List String} (hplace : place ≠ [])
    (h : ∀ layer ∈ layers, layer.LeadsTo place) :
    ((layAll layers).at? place).map Setting.surface =
      (layers.flatMap (·.given place)).foldl Setting.lay none := by
  have hflatten : Layer.LeadsTo layers.flatten place := by
    intro e he
    obtain ⟨layer, hlayer, he⟩ := List.mem_flatten.1 he
    exact h layer hlayer e he
  have hgiven : Layer.given layers.flatten place = layers.flatMap (·.given place) := by
    rw [Layer.given, List.flatMap_def, List.map_flatten, List.flatten_flatten, List.map_map]
    rfl
  obtain ⟨key, place, rfl⟩ := List.exists_cons_of_ne_nil hplace
  rw [layAll_eq_over, Layer.surface_at?_over hflatten, hgiven]
  rfl

end Rulebook
