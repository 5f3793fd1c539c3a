import FragmentImports.OutputFile
import FragmentImports.Proofs.ImportGroups
import FragmentImports.Proofs.SpreadChain

/-!
The imports of a generated file. They are the exports of exactly those registered fragments that its
document spreads without defining them, each symbol once and each file once.
-/

namespace FragmentImports

namespace ImportPlan

def pairs (plan : ImportPlan) : List (String × String) :=
  plan.imports.flatMap fun source => source.names.map fun symbol => (source.path, symbol)

theorem mem_pairs {plan : ImportPlan} {path symbol : String} : (path, symbol) ∈ plan.pairs ↔
    ∃ source ∈ plan.imports, source.path = path ∧ symbol ∈ source.names := by
  simp only [pairs, List.mem_flatMap, List.mem_map, Prod.mk.injEq]
  constructor
  · rintro ⟨source, member, _, inside, rfl, rfl⟩
    exact ⟨source, member, rfl, inside⟩
  · rintro ⟨source, member, rfl, inside⟩
    exact ⟨source, member, symbol, inside, rfl, rfl⟩

theorem nodup_pairs {plan : ImportPlan}
    (files : (plan.imports.map fun source => source.path).Nodup)
    (symbols : ∀ source ∈ plan.imports, source.names.Nodup) : plan.pairs.Nodup := by
  rw [pairs, List.nodup_flatMap]
  constructor
  · intro source member
    have injective : Function.Injective fun symbol : String => (source.path, symbol) := by
      intro left right equal
      exact (Prod.mk.inj equal).2
    exact (symbols source member).map injective
  · apply (List.pairwise_map.1 files).imp
    intro left right apart pair inLeft inRight
    obtain ⟨_, -, rfl⟩ := List.mem_map.1 inLeft
    obtain ⟨_, -, equal⟩ := List.mem_map.1 inRight
    exact apart (Prod.mk.inj equal).1.symm

end ImportPlan

namespace Registry

variable {registry : Registry}

theorem nodup_paths_importSources (registry : Registry) (depths : OrderedMap String Int) :
    ((registry.importSources depths).map fun source => source.path).Nodup := by
  rw [importSources_eq, List.map_map]
  exact (List.map_id _).symm ▸ nodup_distinct _

/-- An entry belongs to a fragment that the node spreads and does not define. -/
def IsDirect (registry : Registry) (node : Document.Node) (entry : Entry) : Prop :=
  ∃ name ∈ node.spreads, name ∉ node.localFragments ∧ registry.get? name = some entry

theorem mem_directEntries_externalFragments (keyed : registry.Keyed) {node : Document.Node}
    {entry : Entry} :
    entry ∈ registry.directEntries ((externalFragments registry node).mapValues Int.ofNat) ↔
      registry.IsDirect node entry := by
  rw [mem_directEntries]
  have zero : ∀ name,
      ((externalFragments registry node).mapValues Int.ofNat).get? name = some 0 ↔
        (externalFragments registry node).get? name = some 0 := by
    intro name
    rw [OrderedMap.get?_mapValues, Option.map_eq_some_iff]
    constructor
    · rintro ⟨depth, found, cast⟩
      exact (Int.ofNat.inj cast) ▸ found
    · intro found
      exact ⟨0, found, rfl⟩
  constructor
  · rintro ⟨name, found, registered⟩
    obtain ⟨spread, foreign, -⟩ := (get?_externalFragments_zero_iff keyed).1 ((zero name).1 found)
    exact ⟨name, spread, foreign, registered⟩
  · rintro ⟨name, spread, foreign, registered⟩
    have direct := (get?_externalFragments_zero_iff keyed).2
      ⟨spread, foreign, OrderedMap.mem_keys_of_get? registered⟩
    exact ⟨name, (zero name).2 direct, registered⟩

theorem mem_imports_resolve (keyed : registry.Keyed) {node : Document.Node} {path : String} :
    path ∈ (registry.resolve node).imports.map (fun source => source.path) ↔
      ∃ entry, registry.IsDirect node entry ∧ entry.filePath = path := by
  rw [List.mem_map]
  constructor
  · rintro ⟨source, member, rfl⟩
    obtain ⟨⟨entry, direct, place⟩, -⟩ := exists_direct_of_mem_importSources member
    exact ⟨entry, (mem_directEntries_externalFragments keyed).1 direct, place⟩
  · rintro ⟨entry, direct, rfl⟩
    have member := (mem_directEntries_externalFragments keyed).2 direct
    exact ⟨_, mem_importSources.2 ⟨entry, member, rfl⟩, rfl⟩

theorem mem_pairs_resolve (keyed : registry.Keyed) {node : Document.Node} {path symbol : String} :
    (path, symbol) ∈ (registry.resolve node).pairs ↔
      ∃ entry, registry.IsDirect node entry ∧ entry.filePath = path ∧
        symbol ∈ entry.importNames := by
  rw [ImportPlan.mem_pairs]
  constructor
  · rintro ⟨source, member, rfl, inside⟩
    obtain ⟨-, exports⟩ := exists_direct_of_mem_importSources member
    obtain ⟨entry, direct, place, exported⟩ := exports symbol inside
    exact ⟨entry, (mem_directEntries_externalFragments keyed).1 direct, place, exported⟩
  · rintro ⟨entry, direct, rfl, exported⟩
    have member := (mem_directEntries_externalFragments keyed).2 direct
    refine ⟨_, mem_importSources.2 ⟨entry, member, rfl⟩, rfl, mem_distinct.2 ?_⟩
    exact ImportGroups.mem_symbolsOf.2 ⟨entry, member, rfl, exported⟩

theorem nodup_pairs_resolve (registry : Registry) (node : Document.Node) :
    (registry.resolve node).pairs.Nodup := by
  apply ImportPlan.nodup_pairs (nodup_paths_importSources registry _)
  intro source member
  obtain ⟨entry, -, rfl⟩ := mem_importSources.1 member
  exact nodup_distinct _

theorem map_name_external_resolve (keyed : registry.Keyed) (node : Document.Node) :
    ((registry.resolve node).external.map fun fragment => fragment.name) =
      (externalFragments registry node).keys := by
  rw [resolve, plan, List.map_map]
  refine (map_fst_registered ?_).trans (OrderedMap.keys_mapValues _ _)
  intro name member
  rw [OrderedMap.keys_mapValues, mem_keys_externalFragments keyed] at member
  obtain ⟨_, chain⟩ := member
  exact chain.registered

end Registry

namespace Generation

variable {schema : Schema} {settings : Settings} {documents : List SourceDocument}
  {context : ImportContext} {generation : Generation}

theorem prepare_eq_ok_iff : prepare schema settings documents context = .ok generation ↔
    ∃ registry, Registry.build schema settings documents = .ok registry ∧
      generation = ⟨settings, registry, documents, context⟩ := by
  unfold prepare
  cases built : Registry.build schema settings documents with
  | error fault => simp [bind, Except.bind]
  | ok registry => simp [bind, Except.bind, pure, Except.pure, eq_comm]

theorem exists_prepare (schema : Schema) (settings : Settings) (documents : List SourceDocument)
    (context : ImportContext)
    (known : ∀ occurrence ∈ Registry.occurrences documents,
      (schema.get? occurrence.fragment.onType).isSome)
    (agree : ∀ earlier ∈ Registry.occurrences documents,
      ∀ later ∈ Registry.occurrences documents,
        earlier.fragment.name = later.fragment.name → earlier.fragment = later.fragment) :
    ∃ generation, prepare schema settings documents context = .ok generation := by
  obtain ⟨registry, built⟩ := Registry.exists_build known agree
  exact ⟨_, prepare_eq_ok_iff.2 ⟨registry, built, rfl⟩⟩

theorem map_source_outputFiles (generation : Generation) :
    generation.outputFiles.map (fun output => output.source) =
      generation.documents.filter needsOutput := by
  rw [outputFiles, List.map_map]
  exact List.map_id _

theorem map_path_outputFiles
    (prepared : prepare schema settings documents context = .ok generation) :
    generation.outputFiles.map OutputFile.path =
      (documents.filter needsOutput).map fun source =>
        settings.layout.filePath source.location := by
  obtain ⟨registry, -, rfl⟩ := prepare_eq_ok_iff.1 prepared
  rw [outputFiles, List.map_map]
  rfl

theorem needsOutput_eq_any (source : SourceDocument) : needsOutput source =
    source.document.definitions.any fun part => part.isOperation || part.asFragment?.isSome := by
  rw [needsOutput, Document.hasOperations, Document.fragments, Bool.eq_iff_iff]
  simp only [Bool.or_eq_true, Bool.not_eq_true', List.any_eq_true,
    List.isEmpty_eq_false_iff_exists_mem, List.mem_filterMap, Option.isSome_iff_exists]
  constructor
  · rintro (⟨part, member, operation⟩ | ⟨fragment, part, member, found⟩)
    · exact ⟨part, member, Or.inl operation⟩
    · exact ⟨part, member, Or.inr ⟨fragment, found⟩⟩
  · rintro ⟨part, member, operation | ⟨fragment, found⟩⟩
    · exact Or.inl ⟨part, member, operation⟩
    · exact Or.inr ⟨fragment, part, member, found⟩

/-- Every document with an operation or a fragment gets one output, in order. An output imports the
exports of the registered fragments that its document spreads and does not define, and nothing else:
every symbol once and every file in one statement. -/
theorem outputFiles_import_exactly
    (prepared : prepare schema settings documents context = .ok generation) :
    generation.outputFiles.map (fun output => output.source) =
        documents.filter (fun source => source.document.definitions.any fun part =>
          part.isOperation || part.asFragment?.isSome) ∧
      ∀ output ∈ generation.outputFiles,
        (∀ path symbol, (path, symbol) ∈ output.plan.pairs ↔ ∃ entry,
          generation.registry.IsDirect (.document output.source.document) entry ∧
            entry.filePath = path ∧ symbol ∈ entry.importNames) ∧
        output.plan.pairs.Nodup ∧
        (∀ path, path ∈ output.plan.imports.map (fun source => source.path) ↔ ∃ entry,
          generation.registry.IsDirect (.document output.source.document) entry ∧
            entry.filePath = path) ∧
        (output.plan.imports.map fun source => source.path).Nodup ∧
        output.fragmentImports = output.plan.imports.map (context.statement output.path) := by
  obtain ⟨registry, built, rfl⟩ := prepare_eq_ok_iff.1 prepared
  have keyed : registry.Keyed := Registry.keyed_of_build built
  constructor
  · rw [map_source_outputFiles]
    exact List.filter_congr fun source _ => needsOutput_eq_any source
  · intro output member
    obtain ⟨source, -, rfl⟩ := List.mem_map.1 member
    refine ⟨?_, ?_, ?_, ?_, rfl⟩
    · exact fun path symbol => Registry.mem_pairs_resolve keyed
    · exact Registry.nodup_pairs_resolve registry _
    · exact fun path => Registry.mem_imports_resolve keyed
    · exact Registry.nodup_paths_importSources registry _

end Generation

def userSchema : Schema where
  types := ⟨[("User", .object [])], by decide⟩

/-- A document of fragments on users, with the names that each of them spreads, and of one query. -/
def SourceDocument.ofSpreads (location : String) (fragments : List (String × List String))
    (spreads : List String) : SourceDocument where
  location := location
  document := ⟨fragments.map (fun (name, inner) => .fragment (.ofSpreads name "User" inner)) ++
    [.operation ⟨none, .query, none, [], [], Document.Selection.ofSpreads spreads⟩]⟩

/-- `B` is spread by a local fragment and again by the query, `C` is defined twice. -/
def sharedDocuments : List SourceDocument :=
  [.ofSpreads "a.graphql" [("B", ["C"]), ("C", [])] [],
    ⟨"types.graphql", ⟨[.type ⟨none, "User", [], .object [] []⟩]⟩⟩,
    .ofSpreads "q.graphql" [("C", []), ("L", ["B"])] ["L", "B"]]

theorem outputFiles_import_exactly_shared :
    ∃ generation,
      Generation.prepare userSchema {} sharedDocuments ⟨["work"], "src"⟩ = .ok generation ∧
        generation.outputFiles.map (fun output => output.source.location) =
          ["a.graphql", "q.graphql"] ∧
        ∀ output ∈ generation.outputFiles, output.plan.pairs.Nodup := by
  obtain ⟨generation, prepared⟩ := Generation.exists_prepare userSchema {} sharedDocuments
    ⟨["work"], "src"⟩ (by decide) (by decide)
  have exact := Generation.outputFiles_import_exactly prepared
  refine ⟨generation, prepared, ?_, fun output member => (exact.2 output member).2.1⟩
  have sources := congrArg (List.map SourceDocument.location) exact.1
  rw [List.map_map] at sources
  exact sources

end FragmentImports
