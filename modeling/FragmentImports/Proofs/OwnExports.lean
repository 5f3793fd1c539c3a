import FragmentImports.Proofs.ImportTarget
import FragmentImports.Proofs.TransitiveImports

/-!
Files that would import from themselves. Every import is for the file of another document, whatever
leads back to the importing one, so no file imports from itself while generated paths are distinct.
-/

namespace FragmentImports

theorem Registry.IsDirect.notMem_fragments {registry : Registry} (keyed : registry.Keyed)
    {document : Document} {entry : Registry.Entry}
    (direct : registry.IsDirect (.document document) entry) :
    entry.definition ∉ document.fragments := by
  obtain ⟨name, -, foreign, filed⟩ := direct
  intro defined
  exact foreign (List.mem_map.2 ⟨entry.definition, defined, keyed.name_eq filed⟩)

namespace Generation

variable {schema : Schema} {settings : Settings} {documents : List SourceDocument}
  {context : ImportContext} {generation : Generation}

theorem exists_exporter_of_mem_imports
    (prepared : prepare schema settings documents context = .ok generation) {output : OutputFile}
    (planned : output ∈ generation.outputFiles) {source : ImportSource}
    (imported : source ∈ output.plan.imports) :
    ∃ exporter ∈ generation.outputFiles, exporter.path = source.path ∧
      exporter.source ≠ output.source := by
  obtain ⟨entry, direct, -, origin, listed, defined, place⟩ :=
    exporter_of_mem_imports prepared planned source imported
  obtain ⟨registry, built, rfl⟩ := prepare_eq_ok_iff.1 prepared
  refine ⟨_, mem_outputFiles_of_fragment settings registry context listed defined, place.symm, ?_⟩
  intro same
  have foreign := direct.notMem_fragments (Registry.keyed_of_build built)
  rw [← same] at foreign
  exact foreign defined

/-- When generated paths are distinct no file imports from its own path, even where fragments of
other documents lead back to it or the document repeats fragments of others. -/
theorem no_import_from_own_path
    (prepared : prepare schema settings documents context = .ok generation)
    (distinct : (generation.outputFiles.map OutputFile.path).Nodup) :
    ∀ output ∈ generation.outputFiles, ∀ source ∈ output.plan.imports,
      source.path ≠ output.path := by
  intro output planned source imported own
  obtain ⟨exporter, listed, place, other⟩ :=
    exists_exporter_of_mem_imports prepared planned imported
  have same : exporter = output :=
    List.inj_on_of_nodup_map distinct listed planned (place.trans own)
  exact other (congrArg OutputFile.source same)

end Generation

/-- Both documents define `C`; `X` of the first one spreads `L` of the second, which spreads `X`. -/
def entwinedDocuments : List SourceDocument :=
  [.ofSpreads "a.graphql" [("C", []), ("X", ["L"])] [],
    .ofSpreads "q.graphql" [("C", []), ("L", ["X", "C"])] ["L", "X", "C"]]

theorem no_import_from_own_path_entwined :
    ∃ generation,
      Generation.prepare userSchema {} entwinedDocuments ⟨["work"], ""⟩ = .ok generation ∧
        (generation.outputFiles.map OutputFile.path).Nodup ∧
        (∃ output ∈ generation.outputFiles, ∃ source, source ∈ output.plan.imports) ∧
        ∀ output ∈ generation.outputFiles, ∀ source ∈ output.plan.imports,
          source.path ≠ output.path := by
  obtain ⟨generation, prepared⟩ := Generation.exists_prepare userSchema {} entwinedDocuments
    ⟨["work"], ""⟩ (by decide) (by decide)
  have distinct : (generation.outputFiles.map OutputFile.path).Nodup := by
    rw [Generation.map_path_outputFiles prepared]
    decide +kernel
  have exporter : SourceDocument.ofSpreads "a.graphql" [("C", []), ("X", ["L"])] [] ∈
      entwinedDocuments := by decide
  have importer : SourceDocument.ofSpreads "q.graphql" [("C", []), ("L", ["X", "C"])]
      ["L", "X", "C"] ∈ entwinedDocuments.filter Generation.needsOutput := by decide
  have defined : Document.Fragment.ofSpreads "X" "User" ["L"] ∈
      (SourceDocument.ofSpreads "a.graphql" [("C", []), ("X", ["L"])] []).document.fragments := by
    decide
  exact ⟨generation, prepared, distinct,
    Generation.exists_mem_imports prepared importer exporter defined (by decide) (by decide),
    Generation.no_import_from_own_path prepared distinct⟩

end FragmentImports
