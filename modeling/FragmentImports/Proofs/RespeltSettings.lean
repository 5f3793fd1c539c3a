import FragmentImports.Proofs.KeySpellings
import Mathlib.Data.List.Basic
import Mathlib.Tactic.SplitIfs

/-!
Settings read from members whose keys are spelt in another way: the same settings, or the same
issues at the respelt places.
-/

namespace FragmentImports.Settings

section Readers

variable (move : List Step → List Step) (place : List Step)

theorem readText_moved (value : Json) :
    readText (move place) value = (readText place value).moved move := by
  cases value <;> rfl

theorem readOptionalText_moved (value : Json) :
    readOptionalText (move place) value = (readOptionalText place value).moved move := by
  cases value <;> rfl

theorem booleanOfWord_moved (word : String) :
    booleanOfWord (move place) word = (booleanOfWord place word).moved move := by
  simp only [booleanOfWord]
  split_ifs <;> rfl

theorem booleanOfInteger_moved (isShort : Bool) (value : Int) :
    booleanOfInteger (move place) isShort value =
      (booleanOfInteger place isShort value).moved move := by
  simp only [booleanOfInteger]
  split_ifs <;> rfl

theorem readBoolean_moved (value : Json) :
    readBoolean (move place) value = (readBoolean place value).moved move := by
  cases value with
  | integer value => exact booleanOfInteger_moved move place _ value
  | string word => exact booleanOfWord_moved move place word
  | float value =>
      simp only [readBoolean]
      split
      · exact booleanOfInteger_moved move place _ _
      · rfl
  | null | boolean value | array items | object members => rfl

theorem readMode_moved (value : Json) :
    readMode (move place) value = (readMode place value).moved move := by
  cases value with
  | string text =>
      simp only [readMode]
      split <;> rfl
  | null | boolean value | integer value | float value | array items | object members => rfl

end Readers

section Members

variable {known changed : List Key} {members : Members} {change : String → Json → Json}
  {move : List Step → List Step} {place : List Step}
variable (apart : Apart known) (inside : changed ⊆ known) (once : SpeltOnce known members)
  (moves : ∀ name, move (place ++ [.key name]) = place ++ [.key (respelt changed name)])

include apart inside once moves

theorem unknownKeys_respelt :
    unknownKeys known place (respeltMembers changed change members) =
      (unknownKeys known place members).map (Issue.moved move) := by
  have taken : known.filterMap (fun key =>
      (key.find? (respeltMembers changed change members)).map Prod.fst) =
        (known.filterMap fun key => (key.find? members).map Prod.fst).map (respelt changed) := by
    rw [List.map_filterMap]
    apply List.filterMap_congr
    intro key listed
    rw [find?_respeltMembers apart inside once listed, Option.map_map, Option.map_map]
    rfl
  simp only [unknownKeys, taken, lastMembers_respeltMembers apart inside]
  simp only [respeltMembers, List.filter_map, List.map_map, Function.comp_def,
    List.mem_map_of_injective (respelt_injective apart inside), Issue.moved, moves]

variable {α : Type} {key : Key} {default : Checked α} {read : List Step → Json → Checked α}

theorem Key.readOr_respelt (listed : key ∈ known) (unchanged : default.moved move = default)
    (alike : ∀ name value, key.spells name → (name, value) ∈ members →
      read (move (place ++ [.key name])) (change name value) =
        (read (place ++ [.key name]) value).moved move) :
    key.readOr place (respeltMembers changed change members) default read =
      (key.readOr place members default read).moved move := by
  rw [Key.readOr, Key.readOr, find?_respeltMembers apart inside once listed]
  cases hit : key.find? members with
  | none => exact unchanged.symm
  | some found =>
      obtain ⟨name, value⟩ := found
      obtain ⟨spelt, held⟩ := (Key.find?_eq_some_iff once listed).1 hit
      rw [Option.map_some, ← alike name value spelt (Json.mem_of_lookup? held), moves]

theorem Key.readOr_respelt_same (listed : key ∈ known) (unchanged : default.moved move = default)
    (same : ∀ name value, key.spells name → change name value = value)
    (follows : ∀ place value, read (move place) value = (read place value).moved move) :
    key.readOr place (respeltMembers changed change members) default read =
      (key.readOr place members default read).moved move := by
  apply readOr_respelt apart inside once moves listed unchanged
  intro name value spelt _
  rw [same name value spelt, follows]

end Members

def respeltPlugin (changed : List Key) : Json → Json
  | .object members => .object (respeltMembers changed (fun _ value => value) members)
  | value => value

theorem readPlugin_respelt {changed : List Key} {move : List Step → List Step} {place : List Step}
    (inside : changed ⊆ Keys.ofPlugin) (fixed : move place = place)
    (moves : ∀ name, move (place ++ [.key name]) = place ++ [.key (respelt changed name)])
    {plugin : Json} (once : ∀ members, plugin = .object members → SpeltOnce Keys.ofPlugin members) :
    readPlugin place (respeltPlugin changed plugin) = (readPlugin place plugin).moved move := by
  cases plugin with
  | object members =>
      have spelt := once members rfl
      -- the name of a plugin has one spelling, so it is missing at the same place
      have named : respelt changed Keys.name.camel = Keys.name.camel :=
        (spells_respelt apart_ofPlugin inside List.mem_cons_self (Or.inl rfl)).elim id id
      have missing : (Checked.invalid [⟨place ++ [.key Keys.name.camel], .missing⟩] :
          Checked String).moved move = .invalid [⟨place ++ [.key Keys.name.camel], .missing⟩] := by
        simp only [Checked.moved, Issue.moved, List.map_cons, List.map_nil, moves, named]
      rw [respeltPlugin, readPlugin, readPlugin, Checked.moved_andIssues, Checked.moved_seq,
        Checked.moved_functor_map, unknownKeys_respelt apart_ofPlugin inside spelt moves,
        Key.require, Key.require,
        Key.readOr_respelt_same apart_ofPlugin inside spelt moves (by decide) missing
          (fun _ _ _ => rfl) (readText_moved move),
        Key.readOr_respelt_same apart_ofPlugin inside spelt moves (by decide) rfl
          (fun _ _ _ => rfl) (readBoolean_moved move)]
  | null | boolean value | integer value | float value | string value | array items =>
      simp only [respeltPlugin, readPlugin, Checked.moved, Issue.moved, List.map_cons, List.map_nil,
        fixed]

/-- The keys to be spelt in the other way: those of the settings, and those of the plugin at every
position. -/
structure Respelling where
  settings : List Key
  plugins : Nat → List Key
  settings_known : settings ⊆ Keys.ofSettings
  plugins_known : ∀ position, plugins position ⊆ Keys.ofPlugin

namespace Respelling

variable (r : Respelling)

def value (name : String) : Json → Json
  | .array items =>
      if Keys.plugins.spells name then
        .array (items.mapIdx fun position item => respeltPlugin (r.plugins position) item)
      else .array items
  | other => other

def members (members : Members) : Members := respeltMembers r.settings r.value members

def apply : Json → Json
  | .object members => .object (r.members members)
  | other => other

def insidePlugins : List Step → List Step
  | .index position :: .key name :: rest =>
      .index position :: .key (respelt (r.plugins position) name) :: rest
  | rest => rest

def location : List Step → List Step
  | .key name :: rest =>
      .key (respelt r.settings name) ::
        if Keys.plugins.spells name then r.insidePlugins rest else rest
  | place => place

theorem location_key (name : String) :
    r.location ([] ++ [.key name]) = [] ++ [.key (respelt r.settings name)] := by
  simp [location, insidePlugins]

theorem value_of_other {key : Key} (listed : key ∈ Keys.ofSettings) (other : key ≠ Keys.plugins)
    (name : String) (value : Json) (spelt : key.spells name) : r.value name value = value := by
  have outside : ¬ Keys.plugins.spells name := fun taken =>
    other (apart_ofSettings.eq_of_spells listed (by decide) spelt taken)
  cases value with
  | array items => rw [Respelling.value, if_neg outside]
  | null | boolean value | integer value | float value | string value | object members => rfl

theorem respelt_plugins {name : String} (spelt : Keys.plugins.spells name) :
    respelt r.settings name = name := by
  have kept := spells_respelt apart_ofSettings r.settings_known (by decide) spelt
  exact (kept.elim id id).trans (spelt.elim id id).symm

theorem readPlugins_value {name : String} (spelt : Keys.plugins.spells name) {value : Json}
    (once : ∀ items, value = .array items → ∀ members, .object members ∈ items →
      SpeltOnce Keys.ofPlugin members) :
    readPlugins (r.location [.key name]) (r.value name value) =
      (readPlugins [.key name] value).moved r.location := by
  have fixed : r.location [.key name] = [.key name] := by
    simp only [location, r.respelt_plugins spelt, insidePlugins, ite_self]
  cases value with
  | array items =>
      have inside (position : Nat) (rest : List Step) :
          r.location (.key name :: .index position :: rest) =
            .key name :: r.insidePlugins (.index position :: rest) := by
        rw [location, r.respelt_plugins spelt, if_pos spelt]
      have alike : ∀ position, ∀ item ∈ items,
          readPlugin ([.key name] ++ [.index position])
              (respeltPlugin (r.plugins position) item) =
            (readPlugin ([.key name] ++ [.index position]) item).moved r.location := by
        intro position item listed
        refine readPlugin_respelt (r.plugins_known position) (inside position [])
          (fun field => inside position [.key field]) ?_
        rintro members rfl
        exact once items rfl members listed
      rw [Respelling.value, if_pos spelt, readPlugins, readPlugins, fixed]
      simpa only [Nat.zero_add] using Checked.each_mapIdx r.location 0 alike
  | null | boolean value | integer value | float value | string value | object members =>
      simp only [Respelling.value, readPlugins, Checked.moved, Issue.moved, List.map_cons,
        List.map_nil, fixed]

section Fields

variable {r} {members : Members} (once : SpeltOnce Keys.ofSettings members)

include once

theorem readOr_members {α : Type} {key : Key} (listed : key ∈ Keys.ofSettings)
    (other : key ≠ Keys.plugins) (default : α) {read : List Step → Json → Checked α}
    (follows : ∀ place value, read (r.location place) value = (read place value).moved r.location) :
    key.readOr [] (r.members members) (.valid default) read =
      (key.readOr [] members (.valid default) read).moved r.location :=
  Key.readOr_respelt_same apart_ofSettings r.settings_known once r.location_key listed rfl
    (r.value_of_other listed other) follows

theorem readNaming_members :
    readNaming (r.members members) = (readNaming members).moved r.location := by
  have text (key : Key) (default : String) (listed : key ∈ Keys.ofSettings)
      (other : key ≠ Keys.plugins) :=
    readOr_members once listed other default (readText_moved r.location)
  have flag (key : Key) (listed : key ∈ Keys.ofSettings) (other : key ≠ Keys.plugins) :=
    readOr_members once listed other false (readBoolean_moved r.location)
  simp only [readNaming, Checked.moved_seq, Checked.moved_functor_map]
  rw [text Keys.typesPrefix _ (by decide) (by decide),
    text Keys.typesSuffix _ (by decide) (by decide),
    flag Keys.dedupeOperationSuffix (by decide) (by decide),
    flag Keys.omitOperationSuffix (by decide) (by decide),
    text Keys.fragmentVariablePrefix _ (by decide) (by decide),
    text Keys.fragmentVariableSuffix _ (by decide) (by decide),
    flag Keys.transformUnderscore (by decide) (by decide)]

theorem readLayout_members :
    readLayout (r.members members) = (readLayout members).moved r.location := by
  rw [readLayout, readLayout, Checked.moved_seq, Checked.moved_functor_map,
    readOr_members once (by decide) (by decide) _ (readText_moved r.location),
    readOr_members once (by decide) (by decide) _ (readText_moved r.location)]

theorem readMembers_members
    (pluginsOnce : ∀ items, ("plugins", .array items) ∈ members → ∀ fields, .object fields ∈ items →
      SpeltOnce Keys.ofPlugin fields) :
    readMembers (r.members members) = (readMembers members).moved r.location := by
  -- of all settings the plugins alone hold keys of their own
  have plugins : Keys.plugins.readOr [] (r.members members) (.valid []) readPlugins =
      (Keys.plugins.readOr [] members (.valid []) readPlugins).moved r.location := by
    apply Key.readOr_respelt apart_ofSettings r.settings_known once r.location_key (by decide) rfl
    intro name value spelt held
    apply r.readPlugins_value spelt
    rintro items rfl
    obtain rfl : name = "plugins" := spelt.elim id id
    exact pluginsOnce items held
  rw [readMembers, readMembers, Checked.moved_andIssues, Checked.moved_seq, Checked.moved_seq,
    Checked.moved_seq, Checked.moved_seq, Checked.moved_functor_map, plugins,
    readOr_members once (by decide) (by decide) _ (readMode_moved r.location),
    readNaming_members once, readLayout_members once,
    readOr_members once (by decide) (by decide) _ (readOptionalText_moved r.location),
    ← unknownKeys_respelt apart_ofSettings r.settings_known once r.location_key]
  rfl

end Fields

end Respelling

/-- Keys spelt in the other way, here and there, lead to the same settings or else to the same
issues in the same order, at places that differ by these spellings only. -/
theorem ofJson_respelt (r : Respelling) (members : Members)
    (once : SpeltOnce Keys.ofSettings members)
    (pluginsOnce : ∀ items, ("plugins", .array items) ∈ members → ∀ fields, .object fields ∈ items →
      SpeltOnce Keys.ofPlugin fields) :
    ofJson (r.apply (.object members)) =
      (ofJson (.object members)).mapError (List.map (Issue.moved r.location)) := by
  rw [Respelling.apply, ofJson, ofJson, Respelling.readMembers_members once pluginsOnce,
    Checked.toExcept_moved]

theorem ofJson_respelt_issues :
    ofJson (.object
      [("documentMode", .string "ast"), ("colour", .null),
       ("plugins", .array [.object [("emits_document_value", .null)]])]) =
      .error
        [⟨[.key "plugins", .index 0, .key "name"], .missing⟩,
         ⟨[.key "plugins", .index 0, .key "emits_document_value"], .notBoolean⟩,
         ⟨[.key "documentMode"], .unknownMode⟩, ⟨[.key "colour"], .unknownKey⟩] ∧
    ofJson (.object
      [("document_mode", .string "ast"), ("colour", .null),
       ("plugins", .array [.object [("emitsDocumentValue", .null)]])]) =
      .error
        [⟨[.key "plugins", .index 0, .key "name"], .missing⟩,
         ⟨[.key "plugins", .index 0, .key "emitsDocumentValue"], .notBoolean⟩,
         ⟨[.key "document_mode"], .unknownMode⟩, ⟨[.key "colour"], .unknownKey⟩] := by
  have same := ofJson_respelt
    ⟨[Keys.documentMode], fun _ => [Keys.emitsDocumentValue], by decide, fun _ => by decide⟩
    [("documentMode", .string "ast"), ("colour", .null),
     ("plugins", .array [.object [("emits_document_value", .null)]])]
    (by decide +kernel) (by
      intro items listed fields held
      simp only [List.mem_cons, Prod.mk.injEq, List.not_mem_nil, or_false] at listed
      obtain ⟨wrong, -⟩ | ⟨wrong, -⟩ | ⟨-, only⟩ := listed
      · exact absurd wrong (by decide)
      · exact absurd wrong (by decide)
      · rw [Json.array.inj only, List.mem_singleton] at held
        rw [Json.object.inj held]
        decide +kernel)
  exact ⟨rfl, same⟩

end FragmentImports.Settings
