import FragmentImports.Registry
import FragmentImports.Proofs.OutputPath

/-!
What a generated path keeps of the location of a document. It is told by the directory that the file
goes to and by the stem as a module name. While generated files stay below the directories of their
documents, the directory is in turn told by that of the document as a package.
-/

namespace FragmentImports

namespace Path

/-- The directory and the stem of a location as module names. The suffix is dropped, and a dot, a
dash and a space are all written as an underscore. -/
def moduleNames (location : Path) : List String × String :=
  (location.parent.parts.map moduleSafePart, moduleSafe location.stem)

theorem splitSuffix_ne_nil {name : List Char} (nonempty : name ≠ []) :
    (splitSuffix name).1 ≠ [] := by
  unfold splitSuffix
  simp only
  split
  · next split =>
      rw [ne_eq, List.take_eq_nil_iff, not_or]
      exact ⟨Nat.ne_of_gt split.2.1, nonempty⟩
  · exact nonempty

theorem stem_ne_empty {text : String} (named : (ofString text).parts ≠ []) :
    (ofString text).stem ≠ "" := by
  have last : (ofString text).name ∈ (ofString text).parts := by
    rw [name, List.getLast?_eq_some_getLast named, Option.getD_some]
    exact List.getLast_mem named
  have filled : (ofString text).name.toList ≠ [] := fun empty =>
    (isComponent_of_mem last).nonempty (String.toList_eq_nil_iff.1 empty)
  intro empty
  apply splitSuffix_ne_nil filled
  rw [stem] at empty
  exact String.ofList_eq_empty_iff.1 empty

end Path

namespace OutputLayout

variable {layout : OutputLayout} {location one other : String}

theorem directory_congr (layout : OutputLayout) {one other : Path}
    (anchor : one.anchor = other.anchor)
    (beside : one.parent.parts.map moduleSafePart = other.parent.parts.map moduleSafePart) :
    layout.directory one = layout.directory other := by
  have start : one.parent.anchor = other.parent.anchor := anchor
  unfold directory
  split
  · simp only [start, beside]
  · simp only [Path.join]
    split
    · simp only [List.map_append, start, beside]
    · rfl

theorem filePath_congr (layout : OutputLayout)
    (anchor : (Path.ofString one).anchor = (Path.ofString other).anchor)
    (same : (Path.ofString one).moduleNames = (Path.ofString other).moduleNames) :
    layout.filePath one = layout.filePath other := by
  obtain ⟨beside, stem⟩ := Prod.mk.inj same
  rw [filePath, filePath, directory_congr layout anchor beside, fileName, fileName, stem]

theorem mem_directory {location : Path} {part : String}
    (member : part ∈ (layout.directory location).parts) :
    ∃ before ∈ location.parts ++ (Path.ofString layout.folder).parts,
      part = moduleSafePart before := by
  have beside : ∀ before ∈ location.parent.parts,
      before ∈ location.parts ++ (Path.ofString layout.folder).parts :=
    fun before present => List.mem_append_left _ (List.dropLast_subset _ present)
  unfold directory at member
  obtain ⟨before, present, rfl⟩ := List.mem_map.1 member
  refine ⟨before, ?_, rfl⟩
  split at present
  · exact beside before present
  · rw [Path.join] at present
    split at present
    · rcases List.mem_append.1 present with above | below
      · exact beside before above
      · exact List.mem_append_right _ below
    · exact List.mem_append_right _ present

/-- No stem is empty and none starts with a dot, so no file is one of the components that move. -/
theorem fileName_ne (layout : OutputLayout) (named : (Path.ofString location).parts ≠ [])
    {part : String} (moves : part.toList.head? = none ∨ part.toList.head? = some '.') :
    layout.fileName (Path.ofString location) ≠ part := by
  have filled : (moduleSafe (Path.ofString location).stem).toList ≠ [] := by
    rw [toList_moduleSafe, ne_eq, List.map_eq_nil_iff, String.toList_eq_nil_iff]
    exact Path.stem_ne_empty named
  obtain ⟨first, rest, text⟩ := List.exists_cons_of_ne_nil filled
  have undotted : first ≠ '.' := by
    refine (isModuleName_moduleSafe (Path.ofString location).stem first ?_).1
    rw [text]
    exact List.mem_cons_self
  rintro rfl
  rw [fileName, String.toList_append, text] at moves
  simp [undotted] at moves

structure NamesFile (layout : OutputLayout) : Prop where
  unslashed : '/' ∉ layout.extension.toList

theorem NamesFile.component (names : layout.NamesFile)
    (named : (Path.ofString location).parts ≠ []) :
    Path.IsComponent (layout.fileName (Path.ofString location)) where
  nonempty := fileName_ne layout named (by decide)
  moves := fileName_ne layout named (by decide)
  unslashed := by
    intro slash
    rcases mem_fileName slash (by decide) with ⟨part, present, within⟩ | extension
    · exact (Path.isComponent_of_mem present).unslashed within
    · exact names.unslashed extension

theorem descends_fileName (layout : OutputLayout) (named : (Path.ofString location).parts ≠ []) :
    (⟨.relative, [layout.fileName (Path.ofString location)]⟩ : Path).Descends where
  relative := rfl
  down := by
    rw [List.mem_singleton]
    exact (fileName_ne layout named (by decide)).symm

def target (layout : OutputLayout) (location : Path) : Path × String :=
  ((layout.directory location).normalize, moduleSafe location.stem)

theorem isComponent_of_mem_directory {part : String}
    (member : part ∈ (layout.directory (Path.ofString location)).parts) :
    Path.IsComponent part := by
  obtain ⟨before, present, rfl⟩ := OutputLayout.mem_directory member
  have source : Path.IsComponent before := by
    rcases List.mem_append.1 present with above | below
    · exact Path.isComponent_of_mem above
    · exact Path.isComponent_of_mem below
  exact source.moduleSafePart

/-- The climbs of a folder are undone in a generated path, and the file is put behind what is
left. -/
theorem NamesFile.filePath_eq (names : layout.NamesFile)
    (named : (Path.ofString location).parts ≠ []) :
    layout.filePath location =
      ((layout.directory (Path.ofString location)).normalize.join
        ⟨.relative, [layout.fileName (Path.ofString location)]⟩).render := by
  rw [filePath, Path.ofString_component (names.component named),
    Path.normalize_join (layout.descends_fileName named)]

theorem NamesFile.ofString_filePath (names : layout.NamesFile)
    (named : (Path.ofString location).parts ≠ []) :
    Path.ofString (layout.filePath location) =
      (layout.directory (Path.ofString location)).normalize.join
        ⟨.relative, [layout.fileName (Path.ofString location)]⟩ := by
  rw [names.filePath_eq named]
  apply Path.ofString_render
  rw [Path.join, if_pos rfl, List.forall_mem_append, List.forall_mem_singleton]
  refine ⟨fun part member => ?_, names.component named⟩
  exact isComponent_of_mem_directory (Path.mem_collapse member)

theorem NamesFile.filePath_eq_iff (names : layout.NamesFile)
    (first : (Path.ofString one).parts ≠ []) (second : (Path.ofString other).parts ≠ []) :
    layout.filePath one = layout.filePath other ↔
      layout.target (Path.ofString one) = layout.target (Path.ofString other) := by
  rw [target, target, Prod.mk.injEq]
  constructor
  · intro same
    have paths := names.ofString_filePath first
    rw [same, names.ofString_filePath second, Path.join, Path.join, if_pos rfl, if_pos rfl,
      Path.mk.injEq] at paths
    obtain ⟨directories, files⟩ := List.append_inj' paths.2.symm (by simp)
    rw [List.singleton_inj, fileName, fileName] at files
    exact ⟨congrArg₂ Path.mk paths.1.symm directories, (String.append_left_inj _).1 files⟩
  · rintro ⟨directories, stems⟩
    rw [names.filePath_eq first, names.filePath_eq second, directories, fileName,
      fileName, stems]

/-- A folder that climbs puts the files of different directories together. -/
example : ({ folder := "../gen" } : OutputLayout).filePath "a/x.graphql" =
    ({ folder := "../gen" } : OutputLayout).filePath "b/x.graphql" := by decide +kernel

structure Confined (layout : OutputLayout) : Prop where
  folder : (Path.ofString layout.folder).Descends
  unslashed : '/' ∉ layout.extension.toList

instance (layout : OutputLayout) : Decidable layout.Confined :=
  decidable_of_iff ((Path.ofString layout.folder).Descends ∧ '/' ∉ layout.extension.toList)
    ⟨fun ⟨folder, unslashed⟩ => ⟨folder, unslashed⟩,
      fun ⟨folder, unslashed⟩ => ⟨folder, unslashed⟩⟩

theorem Confined.namesFile (confined : layout.Confined) : layout.NamesFile :=
  ⟨confined.unslashed⟩

theorem Confined.wellPlaced (confined : layout.Confined)
    (inside : (Path.ofString location).Descends) (named : (Path.ofString location).parts ≠ []) :
    layout.WellPlaced location :=
  ⟨isPackage_of_folder confined.folder inside, confined.namesFile.component named,
    layout.descends_fileName named⟩

theorem Confined.target_eq_iff (confined : layout.Confined)
    (above : (Path.ofString one).Descends) (below : (Path.ofString other).Descends) :
    layout.target (Path.ofString one) = layout.target (Path.ofString other) ↔
      (Path.ofString one).moduleNames = (Path.ofString other).moduleNames := by
  have first := (isPackage_of_folder confined.folder above).descends.normalize
  have second := (isPackage_of_folder confined.folder below).descends.normalize
  have anchors := above.relative.trans below.relative.symm
  rw [target, target, Path.moduleNames, Path.moduleNames, first, second, Prod.mk.injEq,
    Prod.mk.injEq]
  refine and_congr_left' ⟨fun same => ?_, directory_congr layout anchors⟩
  -- the folder is the same tail of both directories
  rw [directory_eq confined.folder.relative, directory_eq confined.folder.relative,
    Path.mk.injEq, List.map_append, List.map_append] at same
  exact List.append_cancel_right same.2

end OutputLayout

def SourceDocument.ModulesApart (one other : SourceDocument) : Prop :=
  (Path.ofString one.location).moduleNames ≠ (Path.ofString other.location).moduleNames

instance : DecidableRel SourceDocument.ModulesApart := fun one other =>
  inferInstanceAs (Decidable ((Path.ofString one.location).moduleNames ≠
    (Path.ofString other.location).moduleNames))

namespace OutputLayout

def TargetsApart (layout : OutputLayout) (one other : SourceDocument) : Prop :=
  layout.target (Path.ofString one.location) ≠ layout.target (Path.ofString other.location)

variable {layout : OutputLayout} {documents : List SourceDocument}

theorem modulesApart_of_nodup
    (inside : ∀ source ∈ documents, (Path.ofString source.location).Descends)
    (distinct : (documents.map fun source => layout.filePath source.location).Nodup) :
    documents.Pairwise SourceDocument.ModulesApart := by
  rw [List.Nodup, List.pairwise_map] at distinct
  refine distinct.imp_of_mem ?_
  intro one other first second apart same
  exact apart (filePath_congr layout
    ((inside one first).relative.trans (inside other second).relative.symm) same)

theorem NamesFile.nodup_iff (names : layout.NamesFile)
    (named : ∀ source ∈ documents, (Path.ofString source.location).parts ≠ []) :
    (documents.map fun source => layout.filePath source.location).Nodup ↔
      documents.Pairwise layout.TargetsApart := by
  rw [List.Nodup, List.pairwise_map]
  refine List.Pairwise.iff_of_mem ?_
  intro one other first second
  exact not_congr (names.filePath_eq_iff (named one first) (named other second))

theorem Confined.targetsApart_iff (confined : layout.Confined)
    (inside : ∀ source ∈ documents, (Path.ofString source.location).Descends) :
    documents.Pairwise layout.TargetsApart ↔ documents.Pairwise SourceDocument.ModulesApart := by
  refine List.Pairwise.iff_of_mem ?_
  intro one other first second
  exact not_congr (confined.target_eq_iff (inside one first) (inside other second))

end OutputLayout

end FragmentImports
