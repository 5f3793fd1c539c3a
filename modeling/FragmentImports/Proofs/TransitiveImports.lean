import FragmentImports.Proofs.DirectImports
import FragmentImports.Proofs.RegistryContents

/-!
Fragments reached through other ones. A file does not import them: the file of the fragment in front
of them defines them or imports them itself.
-/

namespace FragmentImports

def SourceDocument.defines (source : SourceDocument) (name : String) : Bool :=
  source.document.fragments.any fun fragment => fragment.name = name

theorem DefinesFirst.find?_defines {documents : List SourceDocument} {name : String}
    {source : SourceDocument} {fragment : Document.Fragment}
    (first : DefinesFirst documents name source fragment) :
    documents.find? (fun other => other.defines name) = some source ∧
      fragment ∈ source.document.fragments := by
  obtain ⟨named, before, after, front, back, split, without, placed, -⟩ := first
  have defined : fragment ∈ source.document.fragments := by
    rw [placed]
    exact List.mem_append_right _ List.mem_cons_self
  refine ⟨List.find?_eq_some_iff_append.2 ⟨?_, before, after, split, ?_⟩, defined⟩
  · exact List.any_eq_true.2 ⟨fragment, defined, decide_eq_true named⟩
  · intro earlier listed
    rw [Bool.not_eq_true', SourceDocument.defines, List.any_eq_false]
    intro other member equal
    exact without earlier listed other member (of_decide_eq_true equal)

namespace Document

theorem mem_fragments {document : Document} {fragment : Fragment} :
    fragment ∈ document.fragments ↔ .fragment fragment ∈ document.definitions := by
  simp only [fragments, List.mem_filterMap]
  constructor
  · rintro ⟨part, member, found⟩
    cases part with
    | fragment other =>
        cases found
        exact member
    | _ => cases found
  · intro member
    exact ⟨_, member, rfl⟩

theorem mem_spreads_of_fragment {document : Document} {fragment : Fragment}
    (defined : fragment ∈ document.fragments) {name : String}
    (spread : name ∈ Selection.allSpreads fragment.selections) :
    name ∈ (Node.document document).spreads :=
  List.mem_flatMap.2 ⟨_, mem_fragments.1 defined, spread⟩

end Document

variable {registry : Registry} {node : Document.Node}

/-- The shortest chain to a name beyond the first fragments goes through a name one step nearer. -/
theorem exists_nearer (keyed : registry.Keyed) {name : String} {depth : Nat}
    (found : (externalFragments registry node).get? name = some (depth + 1)) :
    ∃ via, (externalFragments registry node).get? via = some depth ∧
      registry.Spreads via name := by
  obtain ⟨chain, least⟩ := isLeast_of_get?_externalFragments keyed found
  cases chain with
  | @through _ via _ front edge =>
      refine ⟨via, (get?_externalFragments_iff keyed).2 ⟨front, ?_⟩, edge⟩
      intro length shorter
      have longer : depth + 1 ≤ length + 1 := least (.through shorter edge)
      exact Nat.le_of_succ_le_succ longer

namespace Registry

theorem mem_external_resolve {fragment : ExternalFragment} :
    fragment ∈ (registry.resolve node).external ↔ ∃ depth entry,
      (externalFragments registry node).get? fragment.name = some depth ∧
        registry.get? fragment.name = some entry ∧
        fragment = ⟨fragment.name, Int.ofNat depth, entry.onType, entry.definition⟩ := by
  simp only [resolve, plan, List.mem_map, Prod.exists, mem_registered, OrderedMap.get?_mapValues,
    Option.map_eq_some_iff]
  constructor
  · rintro ⟨name, _, entry, ⟨⟨depth, found, rfl⟩, filed⟩, rfl⟩
    exact ⟨depth, entry, found, filed, rfl⟩
  · rintro ⟨depth, entry, found, filed, equal⟩
    exact ⟨fragment.name, _, entry, ⟨⟨depth, found, rfl⟩, filed⟩, equal.symm⟩

theorem mem_external_of_get? {name : String} {depth : Nat} {entry : Entry}
    (found : (externalFragments registry node).get? name = some depth)
    (filed : registry.get? name = some entry) :
    ⟨name, Int.ofNat depth, entry.onType, entry.definition⟩ ∈ (registry.resolve node).external :=
  mem_external_resolve.2 ⟨depth, entry, found, filed, rfl⟩

theorem IsDirect.imported (keyed : registry.Keyed) {entry : Entry}
    (direct : registry.IsDirect node entry) :
    (∃ fragment ∈ (registry.resolve node).external,
        fragment.name = entry.definition.name ∧ fragment.depth = 0) ∧
      ∃ source ∈ (registry.resolve node).imports,
        source.path = entry.filePath ∧ ∀ symbol ∈ entry.importNames, symbol ∈ source.names := by
  have member := (mem_directEntries_externalFragments keyed).2 direct
  constructor
  · obtain ⟨name, spread, foreign, filed⟩ := direct
    have nearest := (get?_externalFragments_zero_iff keyed).2
      ⟨spread, foreign, OrderedMap.mem_keys_of_get? filed⟩
    exact ⟨_, mem_external_of_get? nearest filed, (keyed.name_eq filed).symm, rfl⟩
  · refine ⟨_, mem_importSources.2 ⟨entry, member, rfl⟩, rfl, fun symbol exported => ?_⟩
    exact mem_distinct.2 (ImportGroups.mem_symbolsOf.2 ⟨entry, member, rfl, exported⟩)

variable {schema : Schema} {settings : Settings} {documents : List SourceDocument}

theorem first_definer_of_build (built : build schema settings documents = .ok registry)
    {name : String} {entry : Entry} (found : registry.get? name = some entry) :
    ∃ origin, documents.find? (fun source => source.defines name) = some origin ∧
      entry.definition ∈ origin.document.fragments ∧
        entry.filePath = settings.layout.filePath origin.location := by
  obtain ⟨occurrence, type, first, -, rfl⟩ := (describes_of_build built).first name entry found
  obtain ⟨origin, place, defining⟩ := exists_definesFirst first
  obtain ⟨found, defined⟩ := defining.find?_defines
  exact ⟨origin, found, defined, congrArg settings.layout.filePath place⟩

end Registry

namespace Generation

variable {schema : Schema} {settings : Settings} {documents : List SourceDocument}
  {context : ImportContext} {generation : Generation}

theorem mem_outputFiles_of_fragment (settings : Settings) (registry : Registry)
    (context : ImportContext) {source : SourceDocument} (listed : source ∈ documents)
    {fragment : Document.Fragment} (defined : fragment ∈ source.document.fragments) :
    outputFile ⟨settings, registry, documents, context⟩ source ∈
      outputFiles ⟨settings, registry, documents, context⟩ := by
  have needed : needsOutput source = true := by
    rw [needsOutput, Bool.or_eq_true, Bool.not_eq_true', List.isEmpty_eq_false_iff_exists_mem]
    exact Or.inr ⟨fragment, defined⟩
  exact List.mem_map.2 ⟨source, List.mem_filter.2 ⟨listed, needed⟩, rfl⟩

/-- A fragment that a file lists at some depth and does not import is spread by another one that the
file lists one step nearer. The document that the other one is registered from defines a fragment of
that name, or the file generated for it imports all that the fragment exports. -/
theorem transitive_fragments_covered
    (prepared : prepare schema settings documents context = .ok generation) :
    ∀ output ∈ generation.outputFiles, ∀ fragment ∈ output.plan.external, 1 ≤ fragment.depth →
      ∃ via ∈ output.plan.external, via.depth = fragment.depth - 1 ∧
        ∃ front entry, generation.registry.get? via.name = some front ∧
          generation.registry.get? fragment.name = some entry ∧
          fragment.name ∈ Document.Selection.allSpreads front.definition.selections ∧
          ∃ origin, documents.find? (fun source => source.defines via.name) = some origin ∧
            front.definition ∈ origin.document.fragments ∧
            ((∃ own ∈ origin.document.fragments, own.name = fragment.name) ∨
              ∃ other ∈ generation.outputFiles, other.source = origin ∧
                other.path = front.filePath ∧
                (∃ direct ∈ other.plan.external,
                  direct.name = fragment.name ∧ direct.depth = 0) ∧
                ∃ source ∈ other.plan.imports, source.path = entry.filePath ∧
                  (∀ symbol ∈ entry.importNames, symbol ∈ source.names) ∧
                  context.statement other.path source ∈ other.fragmentImports) := by
  intro output planned fragment listed deep
  obtain ⟨registry, built, rfl⟩ := prepare_eq_ok_iff.1 prepared
  obtain ⟨document, -, rfl⟩ := List.mem_map.1 planned
  have keyed : registry.Keyed := Registry.keyed_of_build built
  obtain ⟨depth, entry, found, filed, equal⟩ := Registry.mem_external_resolve.1 listed
  rw [equal] at deep ⊢
  obtain ⟨nearer, rfl⟩ : ∃ nearer, depth = nearer + 1 :=
    ⟨depth - 1, (Nat.sub_add_cancel (Int.ofNat_le.1 deep)).symm⟩
  obtain ⟨via, reached, front, known, spread, -⟩ := exists_nearer keyed found
  obtain ⟨origin, first, defined, place⟩ := Registry.first_definer_of_build built known
  have source : origin ∈ documents := List.mem_of_find?_eq_some first
  refine ⟨_, Registry.mem_external_of_get? reached known, (Int.add_sub_cancel nearer 1).symm, front,
    entry, known, filed, spread, origin, first, defined, ?_⟩
  by_cases own : fragment.name ∈ (Document.Node.document origin.document).localFragments
  · exact Or.inl (List.mem_map.1 own)
  · have direct : registry.IsDirect (.document origin.document) entry :=
      ⟨fragment.name, Document.mem_spreads_of_fragment defined spread, own, filed⟩
    obtain ⟨⟨external, shown, named, nearest⟩, imported, member, path, symbols⟩ :=
      direct.imported keyed
    have planned := mem_outputFiles_of_fragment settings registry context source defined
    refine Or.inr ⟨_, planned, rfl, place.symm,
      ⟨external, shown, named.trans (keyed.name_eq filed), nearest⟩, imported, member, path,
      symbols, ?_⟩
    exact List.mem_map.2 ⟨imported, member, rfl⟩

end Generation

/-- The query depends on `B`, which spreads a `C` that stands in both documents. -/
theorem transitive_fragments_covered_shared :
    ∃ generation,
      Generation.prepare userSchema {} sharedDocuments ⟨["work"], ""⟩ = .ok generation ∧
        ∃ output ∈ generation.outputFiles, ∃ fragment ∈ output.plan.external,
          fragment.name = "C" ∧ 1 ≤ fragment.depth ∧
            ∃ via ∈ output.plan.external, via.depth = fragment.depth - 1 := by
  obtain ⟨registry, built⟩ : ∃ registry,
      Registry.build userSchema {} sharedDocuments = .ok registry :=
    Registry.exists_build (by decide) (by decide)
  have prepared : Generation.prepare userSchema {} sharedDocuments ⟨["work"], ""⟩ =
      .ok ⟨{}, registry, sharedDocuments, ⟨["work"], ""⟩⟩ :=
    Generation.prepare_eq_ok_iff.2 ⟨registry, built, rfl⟩
  let exporter := SourceDocument.ofSpreads "a.graphql" [("B", ["C"]), ("C", [])] []
  let query := SourceDocument.ofSpreads "q.graphql" [("C", []), ("L", ["B"])] ["L", "B"]
  have spreading : Document.Fragment.ofSpreads "B" "User" ["C"] ∈ exporter.document.fragments := by
    decide
  obtain ⟨front, known, definition⟩ :=
    Registry.definition_of_build built (by decide : exporter ∈ sharedDocuments) spreading
  obtain ⟨entry, filed, -⟩ := Registry.definition_of_build built
    (by decide : exporter ∈ sharedDocuments)
    (by decide : Document.Fragment.ofSpreads "C" "User" [] ∈ exporter.document.fragments)
  have edge : registry.Spreads "B" "C" := by
    refine ⟨front, known, ?_, OrderedMap.mem_keys_of_get? filed⟩
    rw [definition]
    decide
  have chain : SpreadChain registry (.document query.document) 1 "C" :=
    .through (.direct (by decide) (by decide) edge.source_mem) edge
  have nearest : (externalFragments registry (.document query.document)).get? "C" = some 1 := by
    refine (get?_externalFragments_iff (Registry.keyed_of_build built)).2 ⟨chain, ?_⟩
    intro length shorter
    cases shorter with
    | direct _ foreign _ => exact absurd (by decide) foreign
    | @through before _ _ _ _ => exact Nat.succ_le_succ (Nat.zero_le before)
  have planned := Generation.mem_outputFiles_of_fragment {} registry ⟨["work"], ""⟩
    (by decide : query ∈ sharedDocuments)
    (by decide : Document.Fragment.ofSpreads "C" "User" [] ∈ query.document.fragments)
  have listed := Registry.mem_external_of_get? nearest filed
  obtain ⟨via, shown, nearer, -⟩ :=
    Generation.transitive_fragments_covered prepared _ planned _ listed (Int.le_refl 1)
  exact ⟨_, prepared, _, planned, _, listed, rfl, Int.le_refl 1, via, shown, nearer⟩

end FragmentImports
