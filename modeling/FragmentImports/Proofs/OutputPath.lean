import FragmentImports.OutputPath
import FragmentImports.Proofs.Path

/-!
Generated paths. Their directories and their stem are made module names, while the extension is
written behind the stem as it is.
-/

namespace FragmentImports

def IsModuleName (text : String) : Prop := ∀ c ∈ text.toList, c ≠ '.' ∧ c ≠ '-' ∧ c ≠ ' '

instance (text : String) : Decidable (IsModuleName text) :=
  List.decidableBAll (fun c => c ≠ '.' ∧ c ≠ '-' ∧ c ≠ ' ') text.toList

theorem IsModuleName.append {left right : String} (first : IsModuleName left)
    (second : IsModuleName right) : IsModuleName (left ++ right) := by
  rw [IsModuleName, String.toList_append]
  exact List.forall_mem_append.2 ⟨first, second⟩

theorem IsModuleName.of_append_right {left right : String} (whole : IsModuleName (left ++ right)) :
    IsModuleName right := by
  rw [IsModuleName, String.toList_append] at whole
  exact (List.forall_mem_append.1 whole).2

theorem IsModuleName.ne_climb {part : String} (named : IsModuleName part) : part ≠ ".." := by
  rintro rfl
  exact (named '.' (by decide)).1 rfl

theorem toList_moduleSafe (name : String) :
    (moduleSafe name).toList = name.toList.map moduleSafeChar := String.toList_map

theorem isModuleName_moduleSafe (name : String) : IsModuleName (moduleSafe name) := by
  intro c member
  rw [toList_moduleSafe, List.mem_map] at member
  obtain ⟨before, -, rfl⟩ := member
  unfold moduleSafeChar
  split
  · decide
  · next other =>
      rw [not_or, not_or] at other
      exact other

theorem moduleSafe_eq_self {name : String} (named : IsModuleName name) :
    moduleSafe name = name := by
  rw [← String.toList_inj, toList_moduleSafe]
  refine (List.map_congr_left fun c member => ?_).trans (List.map_id _)
  obtain ⟨dot, dash, blank⟩ := named c member
  exact if_neg (by simp [dot, dash, blank])

theorem mem_of_mem_moduleSafe {name : String} {c : Char} (member : c ∈ (moduleSafe name).toList)
    (other : c ≠ '_') : c ∈ name.toList := by
  rw [toList_moduleSafe, List.mem_map] at member
  obtain ⟨before, present, rfl⟩ := member
  unfold moduleSafeChar at other ⊢
  split
  · next replaced => exact absurd (if_pos replaced) other
  · exact present

theorem moduleSafePart_eq {part : String} (valid : Path.IsComponent part) (down : part ≠ "..") :
    moduleSafePart part = moduleSafe part := by
  have rooted : part ≠ "/" := by
    rintro rfl
    exact valid.unslashed (by decide)
  rw [moduleSafePart, if_neg (by simp [valid.moves, down, rooted])]

namespace Path

theorem IsComponent.moduleSafe {part : String} (valid : IsComponent part) :
    IsComponent (moduleSafe part) where
  nonempty := by
    intro empty
    rw [← String.toList_inj, toList_moduleSafe] at empty
    exact valid.nonempty (String.toList_eq_nil_iff.1 (List.map_eq_nil_iff.1 empty))
  moves := by
    intro dot
    have named := isModuleName_moduleSafe part
    rw [dot] at named
    exact (named '.' (by decide)).1 rfl
  unslashed := fun slash => valid.unslashed (mem_of_mem_moduleSafe slash (by decide))

theorem IsComponent.moduleSafePart {part : String} (valid : IsComponent part) :
    IsComponent (moduleSafePart part) := by
  unfold FragmentImports.moduleSafePart
  split
  · exact valid
  · exact valid.moduleSafe

theorem mem_splitSuffix {name : List Char} {c : Char} (member : c ∈ (splitSuffix name).1) :
    c ∈ name := by
  unfold splitSuffix at member
  simp only at member
  split at member
  · exact List.mem_of_mem_take member
  · exact member

theorem mem_stem {path : Path} {c : Char} (member : c ∈ path.stem.toList) :
    ∃ part ∈ path.parts, c ∈ part.toList := by
  rw [stem, String.toList_ofList] at member
  have present := mem_splitSuffix member
  rw [name] at present
  cases last : path.parts.getLast? with
  | none =>
      rw [last] at present
      simp at present
  | some part =>
      rw [last] at present
      exact ⟨part, List.mem_of_getLast? last, present⟩

/-- A directory of packages: every component of it can be named in an import. -/
structure IsPackage (path : Path) : Prop where
  relative : path.anchor = .relative
  components : ∀ part ∈ path.parts, IsComponent part
  named : ∀ part ∈ path.parts, IsModuleName part

theorem IsPackage.descends {path : Path} (package : path.IsPackage) : path.Descends where
  relative := package.relative
  down := fun climbs => (package.named _ climbs).ne_climb rfl

end Path

theorem moduleFile_ne (name : String) {part : String} (other : 'p' ∉ part.toList) :
    name ++ ".py" ≠ part := by
  rintro rfl
  rw [String.toList_append] at other
  exact other (List.mem_append_right _ (by decide))

theorem isComponent_moduleFile {name : String} (unslashed : '/' ∉ name.toList) :
    Path.IsComponent (name ++ ".py") where
  nonempty := moduleFile_ne name (by decide)
  moves := moduleFile_ne name (by decide)
  unslashed := by
    rw [String.toList_append, List.mem_append, not_or]
    exact ⟨unslashed, by decide⟩

/-- Generated files are modules below the directory of their document, and the extension puts
`inner` between the stem and `.py`. -/
structure OutputLayout.GeneratesModules (layout : OutputLayout) (inner : String) : Prop where
  folder : (Path.ofString layout.folder).Descends
  extension : layout.extension = inner ++ ".py"
  unslashed : '/' ∉ inner.toList

namespace OutputLayout

variable {layout : OutputLayout} {inner : String} {location : String}

def moduleStem (inner : String) (location : Path) : String := moduleSafe location.stem ++ inner

def generated (layout : OutputLayout) (location : Path) : Path :=
  (layout.directory location).join ⟨.relative, [layout.fileName location]⟩

theorem directory_eq (relative : (Path.ofString layout.folder).anchor = .relative)
    (location : Path) : layout.directory location =
      ⟨location.anchor, (location.parts.dropLast ++ (Path.ofString layout.folder).parts).map
        moduleSafePart⟩ := by
  unfold directory
  split
  · next empty =>
      rw [empty]
      simp [Path.parent, Path.ofString]
  · simp [Path.parent, Path.join, relative]

theorem exists_of_mem_directory (folder : (Path.ofString layout.folder).Descends)
    (inside : (Path.ofString location).Descends) {part : String}
    (member : part ∈ (layout.directory (Path.ofString location)).parts) :
    ∃ before ∈ (Path.ofString location).parts ++ (Path.ofString layout.folder).parts,
      Path.IsComponent before ∧ part = moduleSafe before := by
  rw [directory_eq folder.relative, List.mem_map] at member
  obtain ⟨before, present, rfl⟩ := member
  rcases List.mem_append.1 present with beside | below
  · have listed := List.dropLast_subset _ beside
    have valid := Path.isComponent_of_mem listed
    exact ⟨before, List.mem_append_left _ listed, valid,
      moduleSafePart_eq valid fun climbs => inside.down (climbs ▸ listed)⟩
  · have valid := Path.isComponent_of_mem below
    exact ⟨before, List.mem_append_right _ below, valid,
      moduleSafePart_eq valid fun climbs => folder.down (climbs ▸ below)⟩

theorem isPackage_of_folder (folder : (Path.ofString layout.folder).Descends)
    (inside : (Path.ofString location).Descends) :
    (layout.directory (Path.ofString location)).IsPackage := by
  constructor
  · rw [directory_eq folder.relative]
    exact inside.relative
  · intro part member
    obtain ⟨before, -, valid, rfl⟩ := exists_of_mem_directory folder inside member
    exact valid.moduleSafe
  · intro part member
    obtain ⟨before, -, -, rfl⟩ := exists_of_mem_directory folder inside member
    exact isModuleName_moduleSafe before

theorem isPackage_directory (layouts : layout.GeneratesModules inner)
    (inside : (Path.ofString location).Descends) :
    (layout.directory (Path.ofString location)).IsPackage :=
  isPackage_of_folder layouts.folder inside

theorem mem_fileName {location : Path} {c : Char}
    (member : c ∈ (layout.fileName location).toList) (other : c ≠ '_') :
    (∃ part ∈ location.parts, c ∈ part.toList) ∨ c ∈ layout.extension.toList := by
  rw [fileName, String.toList_append] at member
  rcases List.mem_append.1 member with stem | behind
  · exact Or.inl (Path.mem_stem (mem_of_mem_moduleSafe stem other))
  · exact Or.inr behind

/-- A generated file lies below the directory of its document, and its name is one component. -/
structure WellPlaced (layout : OutputLayout) (location : String) : Prop where
  package : (layout.directory (Path.ofString location)).IsPackage
  component : Path.IsComponent (layout.fileName (Path.ofString location))
  file : (⟨.relative, [layout.fileName (Path.ofString location)]⟩ : Path).Descends

theorem parts_generated (layout : OutputLayout) (location : Path) :
    (layout.generated location).parts =
      (layout.directory location).parts ++ [layout.fileName location] := rfl

theorem WellPlaced.descends (placed : layout.WellPlaced location) :
    (layout.generated (Path.ofString location)).Descends :=
  placed.package.descends.join placed.file

theorem WellPlaced.components (placed : layout.WellPlaced location) :
    ∀ part ∈ (layout.generated (Path.ofString location)).parts, Path.IsComponent part := by
  rw [parts_generated, List.forall_mem_append, List.forall_mem_singleton]
  exact ⟨placed.package.components, placed.component⟩

theorem WellPlaced.filePath_eq (placed : layout.WellPlaced location) :
    layout.filePath location = (layout.generated (Path.ofString location)).render := by
  have whole : ((layout.directory (Path.ofString location)).join
      ⟨.relative, [layout.fileName (Path.ofString location)]⟩).normalize =
        layout.generated (Path.ofString location) := placed.descends.normalize
  rw [filePath, Path.ofString_component placed.component, whole]

theorem WellPlaced.ofString_filePath (placed : layout.WellPlaced location) :
    Path.ofString (layout.filePath location) = layout.generated (Path.ofString location) := by
  rw [placed.filePath_eq]
  exact Path.ofString_render placed.components

theorem fileName_eq (layouts : layout.GeneratesModules inner) (location : Path) :
    layout.fileName location = moduleStem inner location ++ ".py" := by
  rw [fileName, layouts.extension, moduleStem, String.append_assoc]

theorem GeneratesModules.not_mem_extension (layouts : layout.GeneratesModules inner) {c : Char}
    (before : c ∉ inner.toList) (other : c ∉ ".py".toList) : c ∉ layout.extension.toList := by
  rw [layouts.extension, String.toList_append]
  exact List.not_mem_append before other

theorem unslashed_moduleStem (layouts : layout.GeneratesModules inner) (location : String) :
    '/' ∉ (moduleStem inner (Path.ofString location)).toList := by
  intro slash
  have member : '/' ∈ (layout.fileName (Path.ofString location)).toList := by
    rw [fileName_eq layouts, String.toList_append]
    exact List.mem_append_left _ slash
  rcases mem_fileName member (by decide) with ⟨part, present, inside⟩ | extension
  · exact (Path.isComponent_of_mem present).unslashed inside
  · exact layouts.not_mem_extension layouts.unslashed (by decide) extension

theorem isComponent_fileName (layouts : layout.GeneratesModules inner) (location : String) :
    Path.IsComponent (layout.fileName (Path.ofString location)) := by
  rw [fileName_eq layouts]
  exact isComponent_moduleFile (unslashed_moduleStem layouts location)

theorem descends_file (layouts : layout.GeneratesModules inner) (location : Path) :
    (⟨.relative, [layout.fileName location]⟩ : Path).Descends where
  relative := rfl
  down := by
    rw [List.mem_singleton, fileName_eq layouts]
    exact (moduleFile_ne _ (by decide)).symm

theorem wellPlaced (layouts : layout.GeneratesModules inner)
    (inside : (Path.ofString location).Descends) : layout.WellPlaced location :=
  ⟨isPackage_directory layouts inside, isComponent_fileName layouts location,
    descends_file layouts _⟩

theorem generated_eq (layouts : layout.GeneratesModules inner)
    (inside : (Path.ofString location).Descends) :
    layout.generated (Path.ofString location) =
      ⟨.relative, (layout.directory (Path.ofString location)).parts ++
        [moduleStem inner (Path.ofString location) ++ ".py"]⟩ := by
  rw [generated, Path.join, if_pos rfl, fileName_eq layouts,
    (isPackage_directory layouts inside).relative]

theorem descends_generated (layouts : layout.GeneratesModules inner)
    (inside : (Path.ofString location).Descends) :
    (layout.generated (Path.ofString location)).Descends :=
  (wellPlaced layouts inside).descends

theorem filePath_eq (layouts : layout.GeneratesModules inner)
    (inside : (Path.ofString location).Descends) :
    layout.filePath location = (layout.generated (Path.ofString location)).render :=
  (wellPlaced layouts inside).filePath_eq

theorem ofString_filePath (layouts : layout.GeneratesModules inner)
    (inside : (Path.ofString location).Descends) :
    Path.ofString (layout.filePath location) = layout.generated (Path.ofString location) :=
  (wellPlaced layouts inside).ofString_filePath

end OutputLayout

end FragmentImports
