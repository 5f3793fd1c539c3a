import FragmentImports.ImportPlan
import FragmentImports.Proofs.Registry
import Mathlib.Data.List.Induction

/-!
Grouping of imports by file. The files stand in the order in which they are first met, and each of
them lists the symbols of its entries in order, without the repetitions.
-/

namespace FragmentImports

theorem distinct_append {α : Type} [DecidableEq α] (front back : List α) :
    distinct (front ++ back) = back.foldl addDistinct (distinct front) :=
  List.foldl_append

namespace ImportGroups

def symbolsOf (entries : List Registry.Entry) (path : String) : List String :=
  (entries.filter fun entry => entry.filePath = path).flatMap fun entry => entry.importNames

theorem mem_symbolsOf {entries : List Registry.Entry} {path symbol : String} :
    symbol ∈ symbolsOf entries path ↔
      ∃ entry ∈ entries, entry.filePath = path ∧ symbol ∈ entry.importNames := by
  simp only [symbolsOf, List.mem_flatMap, List.mem_filter, decide_eq_true_eq, and_assoc]

theorem symbolsOf_append_self (entries : List Registry.Entry) (entry : Registry.Entry) :
    symbolsOf (entries ++ [entry]) entry.filePath =
      symbolsOf entries entry.filePath ++ entry.importNames := by
  simp [symbolsOf]

theorem symbolsOf_append_of_ne (entries : List Registry.Entry) {entry : Registry.Entry}
    {path : String} (ne : entry.filePath ≠ path) :
    symbolsOf (entries ++ [entry]) path = symbolsOf entries path := by
  simp [symbolsOf, ne]

theorem ofEntries_append_singleton (entries : List Registry.Entry) (entry : Registry.Entry) :
    ofEntries (entries ++ [entry]) = (ofEntries entries).add entry := by
  rw [ofEntries, List.foldl_append]
  rfl

theorem keys_ofEntries (entries : List Registry.Entry) :
    (ofEntries entries).keys = distinct (entries.map fun entry => entry.filePath) := by
  induction entries using List.reverseRecOn with
  | nil => rfl
  | append_singleton entries entry ih =>
      rw [ofEntries_append_singleton, List.map_append, List.map_singleton,
        distinct_append_singleton, ← ih]
      exact OrderedMap.keys_insert _ _ _

theorem getD_get?_ofEntries (entries : List Registry.Entry) (path : String) :
    ((ofEntries entries).get? path).getD [] = distinct (symbolsOf entries path) := by
  induction entries using List.reverseRecOn with
  | nil => rfl
  | append_singleton entries entry ih =>
      rw [ofEntries_append_singleton]
      by_cases same : entry.filePath = path
      · subst same
        rw [symbolsOf_append_self, distinct_append, ← ih, add, OrderedMap.get?_insert_self]
        rfl
      · rw [symbolsOf_append_of_ne entries same, ← ih, add,
          OrderedMap.get?_insert_of_ne _ _ same]

def sourceAt (entries : List Registry.Entry) (path : String) : ImportSource :=
  ⟨path, distinct (symbolsOf entries path)⟩

/-- One import for every file, in the order of first entries, with the symbols of that file. -/
theorem sources_ofEntries (entries : List Registry.Entry) :
    (ofEntries entries).sources =
      (distinct (entries.map fun entry => entry.filePath)).map (sourceAt entries) := by
  have values : ∀ path ∈ (ofEntries entries).keys,
      (ofEntries entries).get? path = some (distinct (symbolsOf entries path)) := by
    intro path member
    obtain ⟨symbols, found⟩ := OrderedMap.mem_keys_iff.1 member
    rw [← getD_get?_ofEntries, found]
    rfl
  rw [sources, OrderedMap.entries_eq_map_keys values, keys_ofEntries, List.map_map]
  rfl

end ImportGroups

namespace Registry

/-- The entries of the registered names of depth zero, in the order of a depth map. -/
def directEntries (registry : Registry) (depths : OrderedMap String Int) : List Entry :=
  ((registry.registered depths).filter fun (_, depth, _) => depth = 0).map
    fun (_, _, entry) => entry

theorem importSources_eq (registry : Registry) (depths : OrderedMap String Int) :
    registry.importSources depths =
      (distinct ((registry.directEntries depths).map fun entry => entry.filePath)).map
        (ImportGroups.sourceAt (registry.directEntries depths)) :=
  ImportGroups.sources_ofEntries _

theorem mem_importSources {registry : Registry} {depths : OrderedMap String Int}
    {source : ImportSource} :
    source ∈ registry.importSources depths ↔ ∃ entry ∈ registry.directEntries depths,
      ImportGroups.sourceAt (registry.directEntries depths) entry.filePath = source := by
  simp only [importSources_eq, List.mem_map, mem_distinct, exists_exists_and_eq_and]

theorem exists_direct_of_mem_importSources {registry : Registry} {depths : OrderedMap String Int}
    {source : ImportSource} (member : source ∈ registry.importSources depths) :
    (∃ entry ∈ registry.directEntries depths, entry.filePath = source.path) ∧
      ∀ symbol ∈ source.names, ∃ entry ∈ registry.directEntries depths,
        entry.filePath = source.path ∧ symbol ∈ entry.importNames := by
  obtain ⟨entry, direct, rfl⟩ := mem_importSources.1 member
  constructor
  · exact ⟨entry, direct, rfl⟩
  · intro symbol inside
    exact ImportGroups.mem_symbolsOf.1 (mem_distinct.1 inside)

theorem mem_registered {registry : Registry} {depths : OrderedMap String Int} {name : String}
    {depth : Int} {entry : Entry} : (name, depth, entry) ∈ registry.registered depths ↔
      depths.get? name = some depth ∧ registry.get? name = some entry := by
  rw [OrderedMap.get?_eq_some_iff]
  simp only [registered, List.mem_filterMap, Option.map_eq_some_iff, Prod.mk.injEq, Prod.exists]
  constructor
  · rintro ⟨_, _, member, _, found, rfl, rfl, rfl⟩
    exact ⟨member, found⟩
  · rintro ⟨member, found⟩
    exact ⟨name, depth, member, entry, found, rfl, rfl, rfl⟩

theorem mem_directEntries {registry : Registry} {depths : OrderedMap String Int} {entry : Entry} :
    entry ∈ registry.directEntries depths ↔
      ∃ name, depths.get? name = some 0 ∧ registry.get? name = some entry := by
  simp only [directEntries, List.mem_map, List.mem_filter, decide_eq_true_eq, Prod.exists]
  constructor
  · rintro ⟨name, depth, found, ⟨member, rfl⟩, rfl⟩
    exact ⟨name, mem_registered.1 member⟩
  · rintro ⟨name, known⟩
    exact ⟨name, 0, entry, ⟨mem_registered.2 known, rfl⟩, rfl⟩

theorem map_fst_registered {registry : Registry} {depths : OrderedMap String Int}
    (known : ∀ name ∈ depths.keys, name ∈ registry.keys) :
    (registry.registered depths).map Prod.fst = depths.keys := by
  have every : ∀ entry ∈ depths.entries, ∃ filed, registry.get? entry.1 = some filed := by
    intro entry member
    exact OrderedMap.mem_keys_iff.1 (known entry.1 (List.mem_map.2 ⟨entry, member, rfl⟩))
  rw [registered, OrderedMap.keys, List.map_filterMap, ← List.filterMap_eq_map]
  apply List.filterMap_congr
  intro entry member
  obtain ⟨filed, found⟩ := every entry member
  simp [found]

theorem directEntries_eq_filterMap (registry : Registry) (depths : OrderedMap String Int) :
    registry.directEntries depths =
      depths.entries.filterMap fun (name, depth) =>
        if depth = 0 then registry.get? name else none := by
  rw [directEntries, registered]
  induction depths.entries with
  | nil => rfl
  | cons listed rest ih =>
      obtain ⟨name, depth⟩ := listed
      cases found : registry.get? name with
      | none => simpa [found] using ih
      | some entry =>
          by_cases direct : depth = 0
          · simpa [found, direct] using ih
          · simpa [found, direct] using ih

theorem external_plan (registry : Registry) (depths : OrderedMap String Int) :
    (registry.plan depths).external =
      depths.entries.filterMap fun (name, depth) => (registry.get? name).map fun entry =>
        ⟨name, depth, entry.onType, entry.definition⟩ := by
  rw [plan, registered, List.map_filterMap]
  apply List.filterMap_congr
  intro listed _
  exact Option.map_map _ _ _

/-- A plan lists the registered names of a depth map, in its order and with their entries. It
imports once from every file that exports a name of depth zero, in the order in which these files
come up, and from each of them the symbols of its names of depth zero in order, without the
repetitions. No other name stands behind an import or a symbol. -/
theorem plan_groups_by_file (registry : Registry) (depths : OrderedMap String Int)
    (context : ImportContext) (importer : String) :
    let plan := registry.plan depths
    let direct := depths.entries.filterMap fun (name, depth) =>
      if depth = 0 then registry.get? name else none
    let source := fun path => (⟨path, distinct ((direct.filter fun entry =>
      entry.filePath = path).flatMap fun entry => entry.importNames)⟩ : ImportSource)
    (plan.external = depths.entries.filterMap fun (name, depth) =>
        (registry.get? name).map fun entry => ⟨name, depth, entry.onType, entry.definition⟩) ∧
      plan.imports = (distinct (direct.map fun entry => entry.filePath)).map source ∧
      plan.statements context importer =
        (distinct (direct.map fun entry => entry.filePath)).map
          (fun path => context.statement importer (source path)) ∧
      ∀ imported ∈ plan.imports,
        (∃ name entry, depths.get? name = some 0 ∧ registry.get? name = some entry ∧
          entry.filePath = imported.path) ∧
        ∀ symbol ∈ imported.names, ∃ name entry, depths.get? name = some 0 ∧
          registry.get? name = some entry ∧ entry.filePath = imported.path ∧
            symbol ∈ entry.importNames := by
  intro plan direct source
  have imports : plan.imports =
      (distinct (direct.map fun entry => entry.filePath)).map source := by
    have groups := importSources_eq registry depths
    rw [directEntries_eq_filterMap] at groups
    exact groups
  refine ⟨external_plan registry depths, imports, ?_, ?_⟩
  · rw [ImportPlan.statements, imports, List.map_map]
    rfl
  · intro imported member
    obtain ⟨⟨entry, inside, place⟩, exports⟩ := exists_direct_of_mem_importSources member
    constructor
    · obtain ⟨name, nearest, found⟩ := mem_directEntries.1 inside
      exact ⟨name, entry, nearest, found, place⟩
    · intro symbol exported
      obtain ⟨other, among, beside, listed⟩ := exports symbol exported
      obtain ⟨name, nearest, found⟩ := mem_directEntries.1 among
      exact ⟨name, other, nearest, found, beside, listed⟩

end Registry

end FragmentImports
