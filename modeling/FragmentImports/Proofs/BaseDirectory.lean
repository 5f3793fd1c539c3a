import FragmentImports.Proofs.ImportTarget

/-!
The directory that generated paths are relative to cancels out of a plan. A generated file that is
not that directory itself nor the one above it names every other file by the way between the two.
-/

namespace FragmentImports

theorem relativeModule_join_congr (cwd other : List String) {one two source target : Path}
    (importer : source.Descends) (placed : source.parts ≠ []) (imported : target.Descends) :
    relativeModule cwd (one.join source) (one.join target) =
      relativeModule other (two.join source) (two.join target) := by
  simp only [relativeModule, Path.steps_join cwd importer placed imported,
    Path.steps_join other importer placed imported]

namespace Path

theorem components_of_unslashed {text : List Char} (unslashed : '/' ∉ text) :
    components text = [] ∨ components text = [String.ofList text] := by
  rw [components, List.splitOn_eq_singleton unslashed, List.filter_singleton,
    Bool.cond_eq_ite]
  split
  · exact Or.inr rfl
  · exact Or.inl rfl

end Path

namespace OutputLayout

variable {layout : OutputLayout} {location : String}

def placement (layout : OutputLayout) (location : Path) : List String :=
  (layout.directory location).parts ++ Path.components (layout.fileName location).toList

theorem unslashed_fileName (unslashed : '/' ∉ layout.extension.toList) (location : String) :
    '/' ∉ (layout.fileName (Path.ofString location)).toList := by
  intro slash
  rcases mem_fileName slash (by decide) with ⟨part, present, within⟩ | extension
  · exact (Path.isComponent_of_mem present).unslashed within
  · exact unslashed extension

section Relative

variable (folder : (Path.ofString layout.folder).Descends)
  (inside : (Path.ofString location).Descends) (unslashed : '/' ∉ layout.extension.toList)

include folder inside unslashed

theorem filePath_eq_render : layout.filePath location =
    Path.render ⟨.relative, Path.collapse false (layout.placement (Path.ofString location))⟩ := by
  have file := unslashed_fileName unslashed location
  have relative : (Path.ofString (layout.fileName (Path.ofString location))).anchor =
      .relative :=
    Anchor.ofText_append .relative fun first => file (List.mem_of_mem_head? first)
  have start : (layout.directory (Path.ofString location)).anchor = .relative := by
    rw [directory_eq folder.relative]
    exact inside.relative
  rw [filePath, Path.join, if_pos relative, Path.normalize, start]
  rfl

theorem ofString_filePath_eq : Path.ofString (layout.filePath location) =
    ⟨.relative, Path.collapse false (layout.placement (Path.ofString location))⟩ := by
  rw [filePath_eq_render folder inside unslashed]
  apply Path.ofString_render
  intro part member
  rcases List.mem_append.1 (Path.mem_collapse member) with package | last
  · obtain ⟨before, -, valid, rfl⟩ := exists_of_mem_directory folder inside package
    exact valid.moduleSafe
  · exact Path.isComponent_of_mem last

theorem collapse_placement :
    Path.collapse false (layout.placement (Path.ofString location)) = [".."] ∨
      ".." ∉ Path.collapse false (layout.placement (Path.ofString location)) := by
  have plain : ".." ∉ (layout.directory (Path.ofString location)).parts := by
    intro climbs
    obtain ⟨before, -, -, safe⟩ := exists_of_mem_directory folder inside climbs
    exact (isModuleName_moduleSafe before).ne_climb safe.symm
  rw [placement]
  rcases Path.components_of_unslashed (unslashed_fileName unslashed location) with none | one
  · right
    rw [none, List.append_nil, Path.collapse_eq_self plain]
    exact plain
  · rw [one]
    exact Path.collapse_concat plain _

/-- A generated path that is neither the directory that paths are relative to nor the one above it
leads to a file below that directory. -/
theorem descends_filePath (here : layout.filePath location ≠ ".")
    (above : layout.filePath location ≠ "..") :
    (Path.ofString (layout.filePath location)).Descends ∧
      (Path.ofString (layout.filePath location)).parts ≠ [] := by
  rw [ofString_filePath_eq folder inside unslashed]
  rw [filePath_eq_render folder inside unslashed] at here above
  have down := (collapse_placement folder inside unslashed).resolve_left fun climbs =>
    above (by rw [climbs]; rfl)
  exact ⟨⟨rfl, down⟩, fun empty => here (if_pos ⟨rfl, empty⟩)⟩

end Relative

end OutputLayout

namespace ImportContext

def readsFile (baseTypes : String) : Bool :=
  ".py".toList.isSuffixOf baseTypes.toList || baseTypes.toList.contains '/'

variable {one other : ImportContext} {importer target : String}

theorem relativeModule_locate (source : (Path.ofString importer).Descends)
    (placed : (Path.ofString importer).parts ≠ []) (imported : (Path.ofString target).Descends) :
    relativeModule one.cwd (one.locate importer) (one.locate target) =
      relativeModule other.cwd (other.locate importer) (other.locate target) :=
  relativeModule_join_congr one.cwd other.cwd source placed imported

end ImportContext

/-- Every generated file lies below the directory that paths are relative to, and nothing that it
imports from lies above. -/
structure StaysBelow (settings : Settings) (documents : List SourceDocument) : Prop where
  locations : ∀ source ∈ documents, (Path.ofString source.location).Descends
  folder : (Path.ofString settings.layout.folder).Descends
  unslashed : '/' ∉ settings.layout.extension.toList
  files : ∀ source ∈ documents, Generation.needsOutput source = true →
    settings.layout.filePath source.location ≠ "." ∧
      settings.layout.filePath source.location ≠ ".."
  baseTypes : ∀ baseTypes ∈ settings.baseTypesPath?, ImportContext.readsFile baseTypes = true →
    (Path.ofString baseTypes).Descends

instance (settings : Settings) (documents : List SourceDocument) :
    Decidable (StaysBelow settings documents) :=
  decidable_of_iff ((∀ source ∈ documents, (Path.ofString source.location).Descends) ∧
      (Path.ofString settings.layout.folder).Descends ∧
      '/' ∉ settings.layout.extension.toList ∧
      (∀ source ∈ documents, Generation.needsOutput source = true →
        settings.layout.filePath source.location ≠ "." ∧
          settings.layout.filePath source.location ≠ "..") ∧
      ∀ baseTypes ∈ settings.baseTypesPath?, ImportContext.readsFile baseTypes = true →
        (Path.ofString baseTypes).Descends)
    ⟨fun ⟨locations, folder, unslashed, files, baseTypes⟩ =>
      ⟨locations, folder, unslashed, files, baseTypes⟩,
    fun ⟨locations, folder, unslashed, files, baseTypes⟩ =>
      ⟨locations, folder, unslashed, files, baseTypes⟩⟩

namespace StaysBelow

variable {schema : Schema} {settings : Settings} {documents : List SourceDocument}
  {one other : ImportContext} {registry : Registry}

theorem file (below : StaysBelow settings documents) {source : SourceDocument}
    (listed : source ∈ documents) (needed : Generation.needsOutput source = true) :
    (Path.ofString (settings.layout.filePath source.location)).Descends ∧
      (Path.ofString (settings.layout.filePath source.location)).parts ≠ [] := by
  obtain ⟨here, above⟩ := below.files source listed needed
  exact OutputLayout.descends_filePath below.folder (below.locations source listed)
    below.unslashed here above

theorem outputFile_eq (below : StaysBelow settings documents)
    (built : Registry.build schema settings documents = .ok registry) {source : SourceDocument}
    (planned : source ∈ documents.filter Generation.needsOutput) :
    (⟨settings, registry, documents, one⟩ : Generation).outputFile source =
      (⟨settings, registry, documents, other⟩ : Generation).outputFile source := by
  obtain ⟨listed, needed⟩ := List.mem_filter.1 planned
  obtain ⟨importer, placed⟩ := below.file listed needed
  have prepared : Generation.prepare schema settings documents one =
      .ok ⟨settings, registry, documents, one⟩ := Generation.prepare_eq_ok_iff.2 ⟨_, built, rfl⟩
  have statements : ∀ imported ∈ (registry.resolve (.document source.document)).imports,
      one.statement (settings.layout.filePath source.location) imported =
        other.statement (settings.layout.filePath source.location) imported := by
    intro imported member
    obtain ⟨entry, -, -, origin, known, defined, path⟩ := Generation.exporter_of_mem_imports
      prepared (List.mem_map.2 ⟨source, planned, rfl⟩) imported member
    have exports : Generation.needsOutput origin = true := by
      rw [Generation.needsOutput, Bool.or_eq_true]
      exact Or.inr (by simpa using List.ne_nil_of_mem defined)
    have target := (below.file known exports).1
    rw [ImportContext.statement, ImportContext.statement, path,
      ImportContext.relativeModule_locate importer placed target]
  have types : ∀ baseTypes ∈ settings.baseTypesPath?.filter (· ≠ ""),
      one.baseTypesStatement (settings.layout.filePath source.location) baseTypes =
        other.baseTypesStatement (settings.layout.filePath source.location) baseTypes := by
    intro baseTypes given
    have configured : baseTypes ∈ settings.baseTypesPath? := (Option.filter_eq_some_iff.1 given).1
    change renderImport (if ImportContext.readsFile baseTypes then _ else _) _ =
      renderImport (if ImportContext.readsFile baseTypes then _ else _) _
    split
    · next reads =>
        have inner := below.baseTypes baseTypes configured reads
        rw [ImportContext.relativeModule_locate importer placed inner]
    · rfl
  rw [Generation.outputFile, Generation.outputFile, OutputFile.mk.injEq]
  exact ⟨rfl, rfl, rfl, List.map_congr_left statements, Option.map_congr types⟩

/-- The files that are planned do not depend on the directory that their paths are relative to. -/
theorem outputFiles_eq (below : StaysBelow settings documents)
    (built : Registry.build schema settings documents = .ok registry) :
    (⟨settings, registry, documents, one⟩ : Generation).outputFiles =
      (⟨settings, registry, documents, other⟩ : Generation).outputFiles :=
  List.map_congr_left fun _ planned => below.outputFile_eq built planned

end StaysBelow

end FragmentImports
