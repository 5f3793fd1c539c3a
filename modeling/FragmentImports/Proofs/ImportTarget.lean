import FragmentImports.Proofs.DirectImports
import FragmentImports.Proofs.RelativeModule

/-!
Where the imports of a generated file lead. The extension is written raw behind a stem, while a
module text holds module names alone: an import leads to the file it is for exactly when the
extension adds nothing to the stem that a module name cannot hold.
-/

namespace FragmentImports

def ImportContext.moduleOf (context : ImportContext) (importer exporter : String) : String :=
  relativeModule context.cwd (context.locate importer) (context.locate exporter)

namespace OutputLayout

variable {layout : OutputLayout} {inner importer exporter : String} {context : ImportContext}

theorem moduleOf_filePath (layouts : layout.GeneratesModules inner)
    (source : (Path.ofString importer).Descends) (target : (Path.ofString exporter).Descends) :
    ∃ common up front,
      (layout.directory (Path.ofString importer)).parts = common ++ up ∧
        (layout.directory (Path.ofString exporter)).parts = common ++ front ∧
        context.moduleOf (layout.filePath importer) (layout.filePath exporter) =
          moduleText up.length ((front ++
            [moduleStem inner (Path.ofString exporter)]).map moduleSafePart) := by
  have parent : (layout.generated (Path.ofString importer)).parent.parts =
      (layout.directory (Path.ofString importer)).parts := List.dropLast_concat
  have file : (layout.generated (Path.ofString exporter)).parts =
      (layout.directory (Path.ofString exporter)).parts ++
        [moduleStem inner (Path.ofString exporter) ++ ".py"] := by
    rw [parts_generated, fileName_eq layouts]
  have outside : moduleStem inner (Path.ofString exporter) ++ ".py" ∉
      (layout.generated (Path.ofString importer)).parent.parts := by
    rw [parent]
    intro package
    have named := (isPackage_directory layouts source).named _ package
    exact (named '.' (by simp)).1 rfl
  have placed : (layout.generated (Path.ofString importer)).parts ≠ [] := by
    simp [parts_generated]
  obtain ⟨common, up, front, home, down, text⟩ := relativeModule_join context.cwd
    (descends_generated layouts source) (descends_generated layouts target) placed file outside
  rw [parent] at home
  rw [← ofString_filePath layouts source, ← ofString_filePath layouts target] at text
  exact ⟨common, up, front, home, down, text⟩

theorem parent_filePath (layouts : layout.GeneratesModules inner)
    (source : (Path.ofString importer).Descends) :
    (Path.ofString (layout.filePath importer)).parent =
      ⟨.relative, (layout.directory (Path.ofString importer)).parts⟩ := by
  rw [ofString_filePath layouts source, generated_eq layouts source, Path.parent,
    List.dropLast_concat]

theorem resolveModule_moduleOf (layouts : layout.GeneratesModules inner)
    (source : (Path.ofString importer).Descends) (target : (Path.ofString exporter).Descends)
    (named : IsModuleName inner) :
    resolveModule (Path.ofString (layout.filePath importer)).parent
        (context.moduleOf (layout.filePath importer) (layout.filePath exporter)) =
      layout.generated (Path.ofString exporter) := by
  obtain ⟨common, up, front, home, down, text⟩ :=
    moduleOf_filePath layouts source target
  have targets := isPackage_directory layouts target
  have below : ∀ part ∈ front, part ∈ (layout.directory (Path.ofString exporter)).parts := by
    intro part member
    rw [down]
    exact List.mem_append_right _ member
  have filled : "" ∉ front := fun empty => (targets.components "" (below "" empty)).nonempty rfl
  have names : ∀ part ∈ front ++ [moduleStem inner (Path.ofString exporter)],
      IsModuleName part := by
    rw [List.forall_mem_append, List.forall_mem_singleton]
    exact ⟨fun part member => targets.named part (below part member),
      (isModuleName_moduleSafe _).append named⟩
  rw [text, parent_filePath layouts source, generated_eq layouts target, down, List.append_assoc]
  exact resolveModule_of_moduleNames home (isPackage_directory layouts source).descends.down filled
    names

/-- An import that leads to its file tells that the extension keeps to module names. -/
theorem isModuleName_of_resolveModule (layouts : layout.GeneratesModules inner)
    (source : (Path.ofString importer).Descends) (target : (Path.ofString exporter).Descends)
    (leads : (resolveModule (Path.ofString (layout.filePath importer)).parent
      (context.moduleOf (layout.filePath importer) (layout.filePath exporter))).render =
        layout.filePath exporter) : IsModuleName inner := by
  obtain ⟨common, up, front, -, down, text⟩ := moduleOf_filePath layouts source target
  have unslashed : ∀ part ∈ front ++ [moduleStem inner (Path.ofString exporter)],
      '/' ∉ part.toList := by
    rw [List.forall_mem_append, List.forall_mem_singleton]
    refine ⟨fun part member => ?_, unslashed_moduleStem layouts exporter⟩
    apply ((isPackage_directory layouts target).components part _).unslashed
    rw [down]
    exact List.mem_append_right _ member
  obtain ⟨before, last, file, named, whole⟩ := resolveModule_moduleSafe
    (Path.ofString (layout.filePath importer)).parent up.length unslashed
  -- both paths end in a file, and the texts are equal, so the files are
  have read := Path.name_ofString_render_concat
    (Path.ofString (layout.filePath importer)).parent.anchor before (isComponent_moduleFile whole)
  rw [← file, ← text, leads, ofString_filePath layouts target, generated_eq layouts target,
    Path.name, List.getLast?_concat, Option.getD_some] at read
  have same : moduleStem inner (Path.ofString exporter) = last := (String.append_left_inj _).1 read
  rw [← same, moduleStem] at named
  exact named.of_append_right

theorem resolveModule_moduleOf_iff (layouts : layout.GeneratesModules inner)
    (source : (Path.ofString importer).Descends) (target : (Path.ofString exporter).Descends) :
    (resolveModule (Path.ofString (layout.filePath importer)).parent
      (context.moduleOf (layout.filePath importer) (layout.filePath exporter))).render =
        layout.filePath exporter ↔ IsModuleName inner := by
  constructor
  · exact isModuleName_of_resolveModule layouts source target
  · intro named
    rw [resolveModule_moduleOf layouts source target named, filePath_eq layouts target]

end OutputLayout

namespace Generation

variable {schema : Schema} {settings : Settings} {documents : List SourceDocument}
  {context : ImportContext} {generation : Generation}

/-- The import group of a file is recorded in the registry, as the path generated for a document
that defines one of the imported fragments. -/
theorem exporter_of_mem_imports
    (prepared : prepare schema settings documents context = .ok generation) {output : OutputFile}
    (planned : output ∈ generation.outputFiles) :
    ∀ source ∈ output.plan.imports, ∃ entry,
      generation.registry.IsDirect (.document output.source.document) entry ∧
        entry.filePath = source.path ∧ ∃ origin ∈ documents,
          entry.definition ∈ origin.document.fragments ∧
            source.path = settings.layout.filePath origin.location := by
  intro source imported
  obtain ⟨registry, built, rfl⟩ := prepare_eq_ok_iff.1 prepared
  obtain ⟨importer, -, rfl⟩ := List.mem_map.1 planned
  obtain ⟨entry, direct, place⟩ :=
    (Registry.mem_imports_resolve (Registry.keyed_of_build built)).1
      (List.mem_map.2 ⟨source, imported, rfl⟩)
  obtain ⟨name, -, -, found⟩ := id direct
  obtain ⟨origin, listed, defined, -, path⟩ := Registry.origin_of_build built found
  exact ⟨entry, direct, place, origin, listed, defined, place ▸ path⟩

theorem exists_mem_imports (prepared : prepare schema settings documents context = .ok generation)
    {importer exporter : SourceDocument} (planned : importer ∈ documents.filter needsOutput)
    (listed : exporter ∈ documents) {fragment : Document.Fragment}
    (defined : fragment ∈ exporter.document.fragments)
    (spread : fragment.name ∈ (Document.Node.document importer.document).spreads)
    (foreign : fragment.name ∉ (Document.Node.document importer.document).localFragments) :
    ∃ output ∈ generation.outputFiles, ∃ source, source ∈ output.plan.imports := by
  obtain ⟨registry, built, rfl⟩ := prepare_eq_ok_iff.1 prepared
  obtain ⟨entry, found, -⟩ := Registry.definition_of_build built listed defined
  have direct : registry.IsDirect (.document importer.document) entry :=
    ⟨fragment.name, spread, foreign, found⟩
  obtain ⟨source, imported, -⟩ := List.mem_map.1
    ((Registry.mem_imports_resolve (Registry.keyed_of_build built)).2 ⟨entry, direct, rfl⟩)
  exact ⟨_, List.mem_map.2 ⟨importer, planned, rfl⟩, source, imported⟩

theorem resolveModule_mem_imports_iff {inner : String}
    (prepared : prepare schema settings documents context = .ok generation)
    (layouts : settings.layout.GeneratesModules inner)
    (inside : ∀ source ∈ documents, (Path.ofString source.location).Descends) {output : OutputFile}
    (planned : output ∈ generation.outputFiles) {source : ImportSource}
    (imported : source ∈ output.plan.imports) :
    (resolveModule (Path.ofString output.path).parent
      (context.moduleOf output.path source.path)).render = source.path ↔ IsModuleName inner := by
  obtain ⟨-, -, -, origin, known, -, path⟩ :=
    exporter_of_mem_imports prepared planned source imported
  obtain ⟨registry, built, rfl⟩ := prepare_eq_ok_iff.1 prepared
  obtain ⟨importer, needed, rfl⟩ := List.mem_map.1 planned
  have listed : importer ∈ documents := List.mem_of_mem_filter needed
  rw [path]
  exact OutputLayout.resolveModule_moduleOf_iff layouts (inside importer listed)
    (inside origin known)

/-- Every import of every output is for the file that exports the fragments, and it leads there
exactly when what the extension puts in front of `.py` can stand in a module name. -/
theorem imports_lead_to_exporter_iff {inner : String}
    (prepared : prepare schema settings documents context = .ok generation)
    (layouts : settings.layout.GeneratesModules inner)
    (inside : ∀ source ∈ documents, (Path.ofString source.location).Descends) :
    ∀ output ∈ generation.outputFiles,
      output.fragmentImports = output.plan.imports.map (fun source =>
        renderImport (context.moduleOf output.path source.path) source.names) ∧
      ∀ source ∈ output.plan.imports,
        (∃ entry, generation.registry.IsDirect (.document output.source.document) entry ∧
          entry.filePath = source.path ∧ ∃ origin ∈ documents,
            entry.definition ∈ origin.document.fragments ∧
              source.path = settings.layout.filePath origin.location) ∧
        ((resolveModule (Path.ofString output.path).parent
            (context.moduleOf output.path source.path)).render = source.path ↔
          IsModuleName inner) := by
  intro output planned
  constructor
  · obtain ⟨registry, built, rfl⟩ := prepare_eq_ok_iff.1 prepared
    obtain ⟨importer, -, rfl⟩ := List.mem_map.1 planned
    rfl
  · intro source imported
    exact ⟨exporter_of_mem_imports prepared planned source imported,
      resolveModule_mem_imports_iff prepared layouts inside planned imported⟩

end Generation

def distantDocuments : List SourceDocument :=
  [.ofSpreads "shared-frags/v1.2/user.graphql" [("F", [])] [], .ofSpreads "app/q.graphql" [] ["F"]]

theorem exists_mem_imports_distant {settings : Settings} {context : ImportContext}
    {generation : Generation}
    (prepared : Generation.prepare userSchema settings distantDocuments context = .ok generation) :
    ∃ output ∈ generation.outputFiles, ∃ source, source ∈ output.plan.imports := by
  have exporter : SourceDocument.ofSpreads "shared-frags/v1.2/user.graphql" [("F", [])] [] ∈
      distantDocuments := by decide
  have importer : SourceDocument.ofSpreads "app/q.graphql" [] ["F"] ∈
      distantDocuments.filter Generation.needsOutput := by decide
  have defined : Document.Fragment.ofSpreads "F" "User" [] ∈
      (SourceDocument.ofSpreads "shared-frags/v1.2/user.graphql" [("F", [])]
        []).document.fragments := by decide
  exact Generation.exists_mem_imports prepared importer exporter defined (by decide) (by decide)

theorem imports_lead_to_exporter_distant :
    ∃ generation,
      Generation.prepare userSchema {} distantDocuments ⟨["work"], "../src"⟩ = .ok generation ∧
        ∃ output ∈ generation.outputFiles, ∃ source ∈ output.plan.imports,
          (resolveModule (Path.ofString output.path).parent
            ((⟨["work"], "../src"⟩ : ImportContext).moduleOf output.path source.path)).render =
              source.path := by
  obtain ⟨generation, prepared⟩ := Generation.exists_prepare userSchema {} distantDocuments
    ⟨["work"], "../src"⟩ (by decide) (by decide)
  have layouts : ({} : Settings).layout.GeneratesModules "_generated" :=
    ⟨by decide, by decide, by decide⟩
  obtain ⟨output, planned, source, imported⟩ := exists_mem_imports_distant prepared
  have exact :=
    Generation.imports_lead_to_exporter_iff prepared layouts (by decide) output planned
  exact ⟨generation, prepared, output, planned, source, imported,
    (exact.2 source imported).2.2 (by decide)⟩

def dottedSettings : Settings := { layout := { extension := ".gen.py" } }

/-- With the extension `.gen.py` an import of the run leads to another file than the exporter. -/
theorem import_misses_exporter :
    ∃ generation,
      Generation.prepare userSchema dottedSettings distantDocuments ⟨["work"], ""⟩ =
          .ok generation ∧
        dottedSettings.layout.GeneratesModules ".gen" ∧
        (∀ source ∈ distantDocuments, (Path.ofString source.location).Descends) ∧
        ∃ output ∈ generation.outputFiles, ∃ source ∈ output.plan.imports,
          (resolveModule (Path.ofString output.path).parent
            ((⟨["work"], ""⟩ : ImportContext).moduleOf output.path source.path)).render ≠
              source.path := by
  obtain ⟨generation, prepared⟩ := Generation.exists_prepare userSchema dottedSettings
    distantDocuments ⟨["work"], ""⟩ (by decide) (by decide)
  have layouts : dottedSettings.layout.GeneratesModules ".gen" :=
    ⟨by decide, by decide, by decide⟩
  have inside : ∀ source ∈ distantDocuments, (Path.ofString source.location).Descends := by
    decide
  obtain ⟨output, planned, source, imported⟩ := exists_mem_imports_distant prepared
  refine ⟨generation, prepared, layouts, inside, output, planned, source, imported, ?_⟩
  intro leads
  have named : IsModuleName ".gen" := (Generation.resolveModule_mem_imports_iff prepared layouts
    inside planned imported).1 leads
  exact absurd named (by decide)

end FragmentImports
