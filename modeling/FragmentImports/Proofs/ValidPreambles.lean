import FragmentImports.Proofs.ImportTarget
import FragmentImports.Proofs.LoadedNames
import FragmentImports.Proofs.PreambleText
import FragmentImports.Proofs.WalkSteps

/-!
Every preamble of a run is a module. The symbols come from names of fragments and types, the modules
from the way between two generated files, and the depths count fragments on a chain of spreads.
-/

namespace FragmentImports

/-- A place below some directory that a generated module can be imported from. -/
structure IsPackaged (location : String) : Prop where
  inside : (Path.ofString location).Descends
  plain : ∀ part ∈ (Path.ofString location).parts, isPlainName (moduleSafe part).toList = true
  unreserved : ∀ part ∈ (Path.ofString location).parent.parts,
    (moduleSafe part).toList ∉ ModuleText.keywords

theorem isPackaged_iff {location : String} : IsPackaged location ↔
    (Path.ofString location).Descends ∧
      (∀ part ∈ (Path.ofString location).parts,
        isPlainName (part.toList.map moduleSafeChar) = true) ∧
      ∀ part ∈ (Path.ofString location).parent.parts,
        part.toList.map moduleSafeChar ∉ ModuleText.keywords := by
  simp only [← toList_moduleSafe]
  exact ⟨fun ⟨inside, plain, unreserved⟩ => ⟨inside, plain, unreserved⟩,
    fun ⟨inside, plain, unreserved⟩ => ⟨inside, plain, unreserved⟩⟩

instance (location : String) : Decidable (IsPackaged location) :=
  decidable_of_iff' _ isPackaged_iff

theorem mem_components {text : List Char} {c : Char} (member : c ∈ text) :
    c = '/' ∨ c = '.' ∨ ∃ part ∈ Path.components text, c ∈ part.toList := by
  rw [← @List.intercalate_splitOn _ text _ _ '/'] at member
  rcases mem_intercalate member with slash | ⟨piece, listed, inside⟩
  · exact Or.inl (List.mem_singleton.1 slash)
  · by_cases dot : piece = ['.']
    · subst dot
      exact Or.inr (Or.inl (List.mem_singleton.1 inside))
    · right
      right
      refine ⟨String.ofList piece, List.mem_map.2 ⟨piece, List.mem_filter.2 ⟨listed, ?_⟩, rfl⟩, ?_⟩
      · simpa [dot] using List.ne_nil_of_mem inside
      · rwa [String.toList_ofList]

theorem of_isNameContinue_moduleSafeChar {p : Char → Prop} (dot : p '.') (dash : p '-')
    (blank : p ' ')
    (all : ∀ code < 128, Document.isNameContinue (Char.ofNat code) = true → p (Char.ofNat code))
    {c : Char} (goes : Document.isNameContinue (moduleSafeChar c) = true) : p c := by
  unfold moduleSafeChar at goes
  split at goes
  · next replaced =>
      rcases replaced with rfl | rfl | rfl
      · exact dot
      · exact dash
      · exact blank
  · exact ModuleText.of_isNameContinue all goes

namespace IsPackaged

variable {location : String}

theorem of_mem_part (packaged : IsPackaged location) {p : Char → Prop} (dot : p '.') (dash : p '-')
    (blank : p ' ')
    (all : ∀ code < 128, Document.isNameContinue (Char.ofNat code) = true → p (Char.ofNat code))
    {part : String} (listed : part ∈ (Path.ofString location).parts) {c : Char}
    (member : c ∈ part.toList) : p c := by
  apply of_isNameContinue_moduleSafeChar dot dash blank all
  apply ModuleText.isNameContinue_of_mem (packaged.plain part listed)
  rw [toList_moduleSafe]
  exact List.mem_map_of_mem member

theorem of_mem (packaged : IsPackaged location) {p : Char → Prop} (slash : p '/') (dot : p '.')
    (dash : p '-') (blank : p ' ')
    (all : ∀ code < 128, Document.isNameContinue (Char.ofNat code) = true → p (Char.ofNat code)) :
    ∀ c ∈ location.toList, p c := by
  intro c member
  rcases mem_components member with rfl | rfl | ⟨part, listed, inside⟩
  · exact slash
  · exact dot
  · exact packaged.of_mem_part dot dash blank all listed inside

theorem isVerbatim (packaged : IsPackaged location) :
    ∀ c ∈ location.toList, ModuleText.IsVerbatim '"' c :=
  packaged.of_mem (p := ModuleText.IsVerbatim '"') (by decide) (by decide) (by decide) (by decide)
    (by decide)

theorem all_isKept (packaged : IsPackaged location) :
    location.toList.all Preamble.isKept = true :=
  List.all_eq_true.2 (packaged.of_mem (p := fun c => Preamble.isKept c = true) (by decide)
    (by decide) (by decide) (by decide) (by decide))

end IsPackaged

theorem IsImportable.isModuleName {text : String} (importable : IsImportable text) :
    IsModuleName text := fun _ member =>
  ModuleText.of_isNameContinue (p := fun c => c ≠ '.' ∧ c ≠ '-' ∧ c ≠ ' ') (by decide)
    (ModuleText.isNameContinue_of_mem importable.plain member)

theorem generatesModules_default : ({} : OutputLayout).GeneratesModules "_generated" :=
  ⟨by decide, by decide, by decide⟩

theorem not_mem_keywords_of_underscore {letters : List Char} (marked : '_' ∈ letters) :
    letters ∉ ModuleText.keywords := by
  intro reserved
  exact (by decide : ∀ keyword ∈ ModuleText.keywords, '_' ∉ keyword) letters reserved marked

theorem isPlainName_take {letters : List Char} (plain : isPlainName letters = true) {count : Nat}
    (some : 0 < count) : isPlainName (letters.take count) = true := by
  obtain ⟨count, rfl⟩ := Nat.exists_eq_succ_of_ne_zero (Nat.ne_of_gt some)
  cases letters with
  | nil => cases plain
  | cons first rest =>
      rw [isPlainName, Bool.and_eq_true, List.all_eq_true] at plain
      rw [List.take_succ_cons, isPlainName, Bool.and_eq_true, List.all_eq_true]
      exact ⟨plain.1, fun c member => plain.2 c (List.mem_of_mem_take member)⟩

theorem exists_splitSuffix_eq_take (name : List Char) :
    ∃ count, (splitSuffix name).1 = name.take count ∧ (name ≠ [] → 0 < count) := by
  unfold splitSuffix
  simp only
  split
  · next inner => exact ⟨_, rfl, fun _ => inner.2.1⟩
  · exact ⟨name.length, (List.take_length).symm, List.length_pos_iff.2⟩

theorem isImportable_moduleStem {location : String} (packaged : IsPackaged location) :
    IsImportable (OutputLayout.moduleStem "_generated" (Path.ofString location)) := by
  have stem : (moduleSafe (Path.ofString location).stem).toList = [] ∨
      isPlainName (moduleSafe (Path.ofString location).stem).toList = true := by
    rw [toList_moduleSafe, Path.stem, String.toList_ofList]
    obtain ⟨count, stem, some⟩ := exists_splitSuffix_eq_take (Path.ofString location).name.toList
    rw [stem, List.map_take, ← toList_moduleSafe]
    cases last : (Path.ofString location).parts.getLast? with
    | none =>
        left
        rw [Path.name, last]
        simp [moduleSafe]
    | some part =>
        right
        have listed := List.mem_of_getLast? last
        rw [Path.name, last, Option.getD_some] at some ⊢
        refine isPlainName_take (packaged.plain part listed) (some fun empty => ?_)
        exact (Path.isComponent_of_mem listed).nonempty (String.toList_eq_nil_iff.1 empty)
  constructor
  · rcases stem with empty | plain
    · rw [OutputLayout.moduleStem, String.toList_append, empty]
      decide
    · exact isPlainName_append plain (by decide)
  · apply not_mem_keywords_of_underscore
    rw [OutputLayout.moduleStem, String.toList_append]
    exact List.mem_append_right _ (by decide)

theorem isImportable_of_mem_directory {location : String} (packaged : IsPackaged location)
    {part : String}
    (member : part ∈ (({} : OutputLayout).directory (Path.ofString location)).parts) :
    IsImportable part := by
  rw [OutputLayout.directory_eq (by decide), List.mem_map] at member
  obtain ⟨before, beside, rfl⟩ := member
  rw [show (Path.ofString ({} : OutputLayout).folder).parts = [] by decide, List.append_nil]
    at beside
  have listed := List.dropLast_subset _ beside
  rw [moduleSafePart_eq (Path.isComponent_of_mem listed)
    fun climbs => packaged.inside.down (climbs ▸ listed)]
  exact ⟨packaged.plain before listed, packaged.unreserved before beside⟩

/-- Between packaged locations every part of a module can be named. -/
theorem exists_moduleOf_eq {importer exporter : String} {context : ImportContext}
    (source : IsPackaged importer) (target : IsPackaged exporter) :
    ∃ climbs modules, modules ≠ [] ∧
      (∀ module ∈ modules, IsImportable module) ∧
      context.moduleOf (({} : OutputLayout).filePath importer)
        (({} : OutputLayout).filePath exporter) = moduleText climbs modules := by
  obtain ⟨common, up, front, -, down, text⟩ := OutputLayout.moduleOf_filePath
    generatesModules_default source.inside target.inside
  have parts : ∀ part ∈ front ++ [OutputLayout.moduleStem "_generated" (Path.ofString exporter)],
      IsImportable part := by
    rw [List.forall_mem_append, List.forall_mem_singleton]
    refine ⟨fun part member => isImportable_of_mem_directory target ?_,
      isImportable_moduleStem target⟩
    rw [down]
    exact List.mem_append_right _ member
  have kept : (front ++ [OutputLayout.moduleStem "_generated" (Path.ofString exporter)]).map
      moduleSafePart = front ++ [OutputLayout.moduleStem "_generated" (Path.ofString exporter)] :=
    (List.map_congr_left fun part member =>
      moduleSafePart_eq_self (parts part member).isModuleName).trans (List.map_id _)
  rw [kept] at text
  exact ⟨up.length, _, by simp, parts, text⟩

theorem exists_intercalate_concat (separator : List Char) (texts : List (List Char))
    (last : List Char) : ∃ front, separator.intercalate (texts ++ [last]) = front ++ last := by
  induction texts with
  | nil => exact ⟨[], List.intercalate_singleton⟩
  | cons first rest ih =>
      obtain ⟨front, joined⟩ := ih
      refine ⟨first ++ separator ++ front, ?_⟩
      rw [List.cons_append, List.intercalate_cons_of_ne_nil (by simp), joined]
      simp only [List.append_assoc]

theorem renderImport_eq {climbs : Nat} {modules symbols : List String} (listed : symbols ≠ [])
    (names : ∀ symbol ∈ symbols, IsImportable symbol) :
    renderImport (moduleText climbs modules) symbols =
      "from " ++ moduleText climbs modules ++ " import " ++ ", ".intercalate symbols := by
  obtain ⟨front, symbol, rfl⟩ := (List.eq_nil_or_concat' symbols).resolve_left listed
  have last := (names symbol (by simp)).plain
  obtain ⟨letters, c, ending⟩ := (List.eq_nil_or_concat' symbol.toList).resolve_left
    (by rintro empty; rw [empty] at last; cases last)
  have visible : isBlank c = false :=
    ModuleText.of_isNameContinue (p := fun c => isBlank c = false) (by decide)
      (ModuleText.isNameContinue_of_mem last (by rw [ending]; simp))
  obtain ⟨before, joined⟩ := exists_intercalate_concat ", ".toList (front.map String.toList)
    symbol.toList
  rw [renderImport, strip, ← String.toList_inj, String.toList_ofList, toList_importText,
    List.map_append, List.map_singleton, joined, ending]
  have shape : "from ".toList ++ (List.replicate (climbs + 1) '.' ++
      (['.'].intercalate (modules.map String.toList) ++
        (" import ".toList ++ (before ++ (letters ++ [c]))))) =
      'f' :: ("rom ".toList ++ (List.replicate (climbs + 1) '.' ++
        (['.'].intercalate (modules.map String.toList) ++
          (" import ".toList ++ (before ++ letters))))) ++ [c] ++ [] := by
    simp
  rw [shape, stripBlanks_of_visible (by decide) visible, List.rdropWhile_nil]

namespace Registry

variable {schema : Schema} {settings : Settings} {documents : List SourceDocument}
  {registry : Registry}

theorem isNamed_of_build (built : build schema settings documents = .ok registry)
    (naming : settings.naming = {}) (types : schema.IsNamed)
    (fragments : ∀ source ∈ documents, source.IsNamed) {name : String} {entry : Entry}
    (found : registry.get? name = some entry) : isPlainName name.toList = true ∧
      isPlainName entry.onType.toList = true ∧
      ∀ symbol ∈ entry.importNames, IsImportable symbol := by
  obtain ⟨occurrence, type, first, typed, rfl⟩ := (describes_of_build built).first name entry found
  obtain ⟨source, listed, inside, -⟩ := mem_occurrences.1 (List.mem_of_find?_eq_some first)
  have called := List.find?_some first
  rw [decide_eq_true_eq] at called
  have plain := fragments source listed _ inside
  obtain ⟨onType, possible⟩ := types.of_get? typed
  refine ⟨called ▸ plain, onType, fun symbol member => ?_⟩
  rw [entryOf, naming] at member
  exact isImportable_of_mem_fragmentSymbols plain possible member

end Registry

namespace Generation

variable {schema : Schema} {settings : Settings} {documents : List SourceDocument}
  {context : ImportContext} {generation : Generation}

/-- The rows of the table show plain names, and depths that are not too long to be written. -/
theorem isShown_of_mem_external
    (prepared : prepare schema settings documents context = .ok generation)
    (naming : settings.naming = {}) (types : schema.IsNamed)
    (fragments : ∀ source ∈ documents, source.IsNamed)
    (counted : generation.registry.size ≤ 10 ^ ModuleText.Number.wholeDigits) {output : OutputFile}
    (planned : output ∈ generation.outputFiles) :
    ∀ fragment ∈ output.plan.external, fragment.IsShown := by
  obtain ⟨registry, built, rfl⟩ := prepare_eq_ok_iff.1 prepared
  obtain ⟨source, -, rfl⟩ := List.mem_map.1 planned
  intro fragment shown
  obtain ⟨⟨name, depth, entry⟩, registered, rfl⟩ := List.mem_map.1 shown
  obtain ⟨known, found⟩ := Registry.mem_registered.1 registered
  obtain ⟨named, typed, -⟩ := Registry.isNamed_of_build built naming types fragments found
  rw [OrderedMap.get?_mapValues, Option.map_eq_some_iff] at known
  obtain ⟨count, reached, rfl⟩ := known
  have below := depth_lt_of_get?_externalFragments reached
  rw [OrderedMap.keys, List.length_map] at below
  exact ⟨named, typed, count, rfl, Nat.lt_of_lt_of_le below counted⟩

theorem isRelativeImport_of_mem
    (prepared : prepare schema settings documents context = .ok generation)
    (naming : settings.naming = {}) (layout : settings.layout = {})
    (baseTypes : ∀ path ∈ settings.baseTypesPath?, path = "")
    (types : schema.IsNamed) (fragments : ∀ source ∈ documents, source.IsNamed)
    (locations : ∀ source ∈ documents, IsPackaged source.location)
    (exporting : ∀ name entry, generation.registry.get? name = some entry →
      entry.importNames ≠ []) {output : OutputFile} (planned : output ∈ generation.outputFiles) :
    ∀ statement ∈ output.importStatements, IsRelativeImport statement := by
  have exporters := exporter_of_mem_imports prepared planned
  obtain ⟨registry, built, rfl⟩ := prepare_eq_ok_iff.1 prepared
  obtain ⟨importer, needed, rfl⟩ := List.mem_map.1 planned
  have keyed : registry.Keyed := Registry.keyed_of_build built
  have untyped : settings.baseTypesPath?.filter (· ≠ "") = none := by
    rw [Option.filter_eq_none_iff]
    intro path given
    simpa using baseTypes path given
  intro statement listed
  rw [OutputFile.importStatements, outputFile, untyped] at listed
  obtain ⟨source, imported, rfl⟩ := List.mem_map.1 listed
  obtain ⟨entry, direct, place, origin, known, -, path⟩ := exporters source imported
  obtain ⟨climbs, modules, filled, parts, module⟩ := exists_moduleOf_eq
    (locations importer (List.mem_of_mem_filter needed)) (locations origin known)
  rw [← layout, ← path] at module
  have exported : source.names ≠ [] := by
    intro silent
    have hollow := (Registry.names_eq_nil_iff keyed imported).1 silent entry direct place
    obtain ⟨name, -, -, found⟩ := direct
    exact exporting name entry found hollow
  have names : ∀ symbol ∈ source.names, IsImportable symbol := by
    intro symbol member
    obtain ⟨other, ⟨name, -, -, found⟩, -, inside⟩ := (Registry.mem_pairs_resolve keyed).1
      (ImportPlan.mem_pairs.2 ⟨source, imported, rfl, member⟩)
    exact (Registry.isNamed_of_build built naming types fragments found).2.2 symbol inside
  refine ⟨climbs, modules, source.names, filled, exported, parts, names, ?_⟩
  rw [← renderImport_eq exported names, ← module]
  rfl

theorem preamble_eq_text
    (prepared : prepare schema settings documents context = .ok generation)
    (naming : settings.naming = {}) (layout : settings.layout = {})
    (baseTypes : ∀ path ∈ settings.baseTypesPath?, path = "")
    (types : schema.IsNamed) (fragments : ∀ source ∈ documents, source.IsNamed)
    (locations : ∀ source ∈ documents, IsPackaged source.location)
    (exporting : ∀ name entry, generation.registry.get? name = some entry →
      entry.importNames ≠ [])
    (counted : generation.registry.size ≤ 10 ^ ModuleText.Number.wholeDigits)
    {output : OutputFile} (planned : output ∈ generation.outputFiles) :
    output.preamble = .ok output.text ∧ ModuleText.isModule output.text.toList = true := by
  have imports := isRelativeImport_of_mem prepared naming layout baseTypes types fragments
    locations exporting planned
  have shown := isShown_of_mem_external prepared naming types fragments counted planned
  have packaged : IsPackaged output.source.location := by
    obtain ⟨registry, built, rfl⟩ := prepare_eq_ok_iff.1 prepared
    obtain ⟨source, needed, rfl⟩ := List.mem_map.1 planned
    exact locations source (List.mem_of_mem_filter needed)
  exact ⟨Preamble.check_text packaged.isVerbatim packaged.all_isKept imports shown output.path,
    Preamble.isModule_text packaged.isVerbatim packaged.all_isKept imports shown⟩

/-- Every preamble of a run with the default names and paths is a module. The names are those of
documents and schemas as they are loaded, and a depth is a number that a module can hold as long as
the fragments can be counted by one. -/
theorem preambles_are_modules
    (prepared : prepare schema settings documents context = .ok generation)
    (naming : settings.naming = {}) (layout : settings.layout = {})
    (baseTypes : ∀ path ∈ settings.baseTypesPath?, path = "")
    (types : schema.IsNamed) (fragments : ∀ source ∈ documents, source.IsNamed)
    (locations : ∀ source ∈ documents, IsPackaged source.location)
    (exporting : ∀ name entry, generation.registry.get? name = some entry →
      entry.importNames ≠ [])
    (counted : generation.registry.size ≤ 10 ^ ModuleText.Number.wholeDigits) :
    ∀ output ∈ generation.outputFiles,
      output.preamble = .ok (Preamble.text output.source.location output.importStatements
        output.plan.external) ∧
      ModuleText.isModule (Preamble.text output.source.location output.importStatements
        output.plan.external).toList = true :=
  fun _ planned => preamble_eq_text prepared naming layout baseTypes types fragments locations
    exporting counted planned

end Generation

theorem preambles_are_modules_distant :
    ∃ generation,
      Generation.prepare userSchema {} distantDocuments ⟨["work"], "../src"⟩ = .ok generation ∧
        ∃ output ∈ generation.outputFiles, (∃ source, source ∈ output.plan.imports) ∧
          ∃ text, output.preamble = .ok text ∧ ModuleText.isModule text.toList = true := by
  obtain ⟨generation, prepared⟩ := Generation.exists_prepare userSchema {} distantDocuments
    ⟨["work"], "../src"⟩ (by decide) (by decide)
  obtain ⟨registry, built, same⟩ := Generation.prepare_eq_ok_iff.1 prepared
  have keys : registry.keys = ["F"] := (Registry.keys_of_build built).trans (by decide)
  have exporting : ∀ name entry, generation.registry.get? name = some entry →
      entry.importNames ≠ [] := by
    subst same
    intro name entry found silent
    have hollow := ((Registry.importNames_eq_nil_iff built found).1 silent).2
    rw [Schema.possibleTypes?, Option.map_eq_some_iff] at hollow
    obtain ⟨type, typed, none⟩ := hollow
    have user := (OrderedMap.get?_eq_some_iff _ _ _).1 typed
    rw [(Prod.mk.inj (List.mem_singleton.1 user)).2] at none
    cases none
  have counted : generation.registry.size ≤ 10 ^ ModuleText.Number.wholeDigits := by
    subst same
    have one : registry.size = 1 := by
      simpa [OrderedMap.keys, OrderedMap.size] using congrArg List.length keys
    rw [one]
    exact Nat.one_le_pow _ _ (by decide)
  obtain ⟨output, planned, imports⟩ := exists_mem_imports_distant prepared
  have valid := Generation.preambles_are_modules prepared rfl rfl (by simp) (by decide)
    (by decide +kernel) (by decide) exporting counted output planned
  exact ⟨generation, prepared, output, planned, imports, _, valid⟩

end FragmentImports
