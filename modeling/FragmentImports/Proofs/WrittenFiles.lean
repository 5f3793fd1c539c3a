import FragmentImports.Files.Documents
import FragmentImports.Files.Output
import FragmentImports.Proofs.DirectImports
import FragmentImports.Proofs.FileTree
import FragmentImports.Proofs.Outcome
import FragmentImports.Proofs.OutputNames
import FragmentImports.Proofs.ValidPreambles

/-!
What the planned files hold after a run. The last file written to a place stays there, so every
planned file keeps its own preamble where no later one leads to its place, and generated files that
are confined to the directories of their documents lead to one place exactly when the documents
agree in their module names.
-/

namespace FragmentImports

namespace PreambleWriter

def placeOf (writer : PreambleWriter) (tree : FileTree) (output : OutputFile) : List String :=
  tree.placeOf (writer.pathOf output)

def reached (writer : PreambleWriter) (template? : Option String) (tree : FileTree)
    (outputs : List OutputFile) : FileTree :=
  (writer.writeEach template? tree outputs).1

/-- A planned file holds what was rendered for it when a moment was reached. -/
def Holds (writer : PreambleWriter) (template? : Option String) (moment last : FileTree)
    (output : OutputFile) : Prop :=
  ∃ text, writer.render template? moment output = .ok text ∧
    last.readBytes (writer.pathOf output) = .ok text.toUTF8

/-- A file that one of the planned files has become: its rendering, at the place that it leads to.
-/
def Renders (writer : PreambleWriter) (template? : Option String) (tree : FileTree)
    (outputs : List OutputFile) (place : List String) (content : ByteArray) : Prop :=
  ∃ before output after text, outputs = before ++ output :: after ∧
    place = writer.placeOf tree output ∧
      writer.render template? (writer.reached template? tree before) output = .ok text ∧
        content = text.toUTF8

/-- What has become of a tree when planned files are written to it: whatever they do not lead to is
kept, every file is an old one or one of their renderings, and the last file at a place is whole. -/
structure Written (writer : PreambleWriter) (template? : Option String) (tree last : FileTree)
    (outputs : List OutputFile) : Prop where
  grows : tree.Grows last (outputs.map (writer.placeOf tree))
  origin : ∀ place content, last.node? place = some (.file content) →
    tree.node? place = some (.file content) ∨ writer.Renders template? tree outputs place content
  holds : ∀ before output after, outputs = before ++ output :: after →
    (∀ later ∈ after, writer.placeOf tree later ≠ writer.placeOf tree output) →
      writer.Holds template? (writer.reached template? tree before) last output

variable {writer : PreambleWriter} {template? : Option String} {tree next last : FileTree}
  {output : OutputFile} {outputs : List OutputFile} {path : String} {written : List String}

theorem Holds.of_grows {moment : FileTree} {places : List (List String)}
    (held : writer.Holds template? moment tree output) (grows : tree.Grows last places)
    (other : writer.placeOf tree output ∉ places) :
    writer.Holds template? moment last output := by
  obtain ⟨text, rendered, read⟩ := held
  exact ⟨text, rendered, grows.readBytes read other⟩

theorem placeOf_eq_of_grows {places : List (List String)} (grows : tree.Grows next places)
    (output : OutputFile) : writer.placeOf next output = writer.placeOf tree output :=
  grows.placeOf_eq _

theorem write_eq_ok (wrote : writer.write template? tree output = (next, .ok path)) :
    ∃ text, writer.render template? tree output = .ok text ∧
      (tree.makeDirectories (directoryText (writer.pathOf output))).1.writeFile
        (writer.pathOf output) text = .ok next := by
  unfold write at wrote
  split at wrote
  · cases wrote
  next text rendered =>
  split at wrote
  · cases wrote
  next made fine directories =>
  split at wrote
  · cases wrote
  next later stored =>
  cases wrote
  refine ⟨text, rendered, ?_⟩
  rw [directories]
  exact stored

theorem grows_of_write (wrote : writer.write template? tree output = (next, .ok path)) :
    tree.Grows next [writer.placeOf tree output] := by
  obtain ⟨text, -, stored⟩ := write_eq_ok wrote
  have before := tree.grows_makeDirectories (directoryText (writer.pathOf output))
  have after := FileTree.grows_writeFile stored
  rw [before.placeOf_eq] at after
  exact before.trans after

theorem holds_of_write (wrote : writer.write template? tree output = (next, .ok path)) :
    writer.Holds template? tree next output := by
  obtain ⟨text, rendered, stored⟩ := write_eq_ok wrote
  exact ⟨text, rendered, FileTree.readBytes_of_writeFile stored⟩

theorem origin_of_write (wrote : writer.write template? tree output = (next, .ok path))
    {place : List String} {content : ByteArray} (held : next.node? place = some (.file content)) :
    tree.node? place = some (.file content) ∨
      place = writer.placeOf tree output ∧
        ∃ text, writer.render template? tree output = .ok text ∧ content = text.toUTF8 := by
  obtain ⟨text, rendered, stored⟩ := write_eq_ok wrote
  rcases FileTree.file_of_writeFile stored held with ⟨here, whole⟩ | before
  · rw [(tree.grows_makeDirectories _).placeOf_eq] at here
    exact Or.inr ⟨here, text, rendered, whole⟩
  · exact Or.inl (FileTree.file_of_makeDirectories before)

theorem writeEach_cons_eq_ok
    (wrote : writer.writeEach template? tree (output :: outputs) = (last, .ok written)) :
    ∃ next path rest, writer.write template? tree output = (next, .ok path) ∧
      writer.writeEach template? next outputs = (last, .ok rest) := by
  rw [writeEach] at wrote
  split at wrote
  · cases wrote
  next later path first =>
  rcases run : writer.writeEach template? later outputs with ⟨final, fault | rest⟩
  · rw [run] at wrote
    cases wrote
  · rw [run] at wrote
    cases wrote
    exact ⟨later, path, rest, first, run⟩

theorem reached_cons (first : writer.write template? tree output = (next, .ok path))
    (outputs : List OutputFile) :
    writer.reached template? tree (output :: outputs) = writer.reached template? next outputs := by
  rw [reached, writeEach, first]
  rfl

theorem Written.nil : writer.Written template? tree tree [] where
  grows := .refl tree []
  origin := fun _ _ held => Or.inl held
  holds := fun before output after split => absurd split (by simp)

theorem Written.cons (first : writer.write template? tree output = (next, .ok path))
    (behind : writer.Written template? next last outputs) :
    writer.Written template? tree last (output :: outputs) := by
  have step := grows_of_write first
  have places : writer.placeOf next = writer.placeOf tree :=
    funext fun file => placeOf_eq_of_grows step file
  refine ⟨?_, ?_, ?_⟩
  · rw [List.map_cons, ← places]
    exact (places ▸ step).trans behind.grows
  · intro place content held
    rcases behind.origin place content held with
      old | ⟨before, other, after, text, split, here, rest⟩
    · rcases origin_of_write first old with older | ⟨here, text, rendered, whole⟩
      · exact Or.inl older
      · exact Or.inr ⟨[], output, outputs, text, rfl, here, rendered, whole⟩
    · rw [← reached_cons first] at rest
      exact Or.inr ⟨output :: before, other, after, text, by rw [split, List.cons_append],
        places ▸ here, rest⟩
  · intro before other after split final
    cases before with
    | nil =>
        obtain ⟨rfl, rfl⟩ := List.cons.inj split
        refine (holds_of_write first).of_grows behind.grows fun member => ?_
        obtain ⟨later, present, same⟩ := List.mem_map.1 member
        rw [places] at same
        exact final later present same
    | cons earlier before =>
        obtain ⟨rfl, rfl⟩ := List.cons.inj split
        rw [reached_cons first]
        exact behind.holds before other after rfl (places ▸ final)

theorem written_of_writeEach
    (wrote : writer.writeEach template? tree outputs = (last, .ok written)) :
    writer.Written template? tree last outputs := by
  induction outputs generalizing tree written with
  | nil =>
      cases wrote
      exact .nil
  | cons output rest ih =>
      obtain ⟨next, path, later, first, run⟩ := writeEach_cons_eq_ok wrote
      exact .cons first (ih run)

theorem writeAll_eq_ok (wrote : writer.writeAll tree outputs = (last, .ok written)) :
    writer.writeEach (writer.template? tree) tree outputs = (last, .ok written) := by
  unfold writeAll at wrote
  split at wrote
  · cases wrote
  · exact wrote

/-- After a run over a tree, a planned file holds what was rendered for it when the files before it
had been written. -/
def Keeps (writer : PreambleWriter) (tree last : FileTree) (before : List OutputFile)
    (output : OutputFile) : Prop :=
  writer.Holds (writer.template? tree) (writer.reached (writer.template? tree) tree before) last
    output

/-- A file that no later one leads to the place of is kept. -/
theorem keeps_of_writeAll {before after : List OutputFile}
    (wrote : writer.writeAll tree (before ++ output :: after) = (last, .ok written))
    (final : ∀ later ∈ after, writer.placeOf tree later ≠ writer.placeOf tree output) :
    writer.Keeps tree last before output :=
  (written_of_writeEach (writeAll_eq_ok wrote)).holds before output after rfl final

theorem render_builtIn (writer : PreambleWriter) (tree : FileTree) (output : OutputFile) :
    writer.render none tree output =
      (Preamble.check writer.accepts output.path output.text).mapError .preamble := rfl

theorem render_none (checks : writer.accepts = Preamble.isValid) (tree : FileTree)
    (output : OutputFile) :
    writer.render none tree output = output.preamble.mapError .preamble := by
  rw [render_builtIn, checks]
  rfl

section BuiltIn

variable (builtIn : writer.templateDirectory? = none)

include builtIn

theorem template?_eq_none (tree : FileTree) : writer.template? tree = none := by
  rw [template?, builtIn]
  rfl

theorem writeAll_eq_writeEach (tree : FileTree) (outputs : List OutputFile) :
    writer.writeAll tree outputs = writer.writeEach none tree outputs := by
  rw [writeAll, template?_eq_none builtIn, builtIn]
  rfl

theorem Keeps.readBytes {before : List OutputFile} (kept : writer.Keeps tree last before output) :
    last.readBytes (writer.pathOf output) = .ok output.text.toUTF8 := by
  obtain ⟨text, rendered, read⟩ := kept
  rw [template?_eq_none builtIn, render_builtIn] at rendered
  rw [Preamble.eq_of_check_eq_ok (mapError_eq_ok.1 rendered)]
  exact read

theorem Keeps.text_eq {other : OutputFile} {before before' : List OutputFile}
    (first : writer.Keeps tree last before output) (second : writer.Keeps tree last before' other)
    (same : output.path = other.path) : output.text = other.text := by
  have one := first.readBytes builtIn
  rw [pathOf, same] at one
  have bytes := Except.ok.inj (one.symm.trans (second.readBytes builtIn))
  rwa [String.toUTF8_eq_toByteArray, String.toUTF8_eq_toByteArray, String.toByteArray_inj] at bytes

end BuiltIn

end PreambleWriter

namespace OutputLayout.WellPlaced

variable {layout : OutputLayout} {one other : String}

theorem filePath_eq_of_placeOf_eq (first : layout.WellPlaced one) (second : layout.WellPlaced other)
    {tree : FileTree} {directory : String}
    (same : tree.placeOf (joinPathTexts directory (layout.filePath one)) =
      tree.placeOf (joinPathTexts directory (layout.filePath other))) :
    layout.filePath one = layout.filePath other := by
  rw [first.filePath_eq, second.filePath_eq,
    tree.placeOf_render directory first.descends first.components,
    tree.placeOf_render directory second.descends second.components] at same
  have anchors : (layout.generated (Path.ofString one)).anchor =
      (layout.generated (Path.ofString other)).anchor :=
    first.descends.relative.trans second.descends.relative.symm
  have whole : layout.generated (Path.ofString one) = layout.generated (Path.ofString other) := by
    rw [Path.mk.injEq]
    exact ⟨anchors, List.append_cancel_left same⟩
  rw [first.filePath_eq, second.filePath_eq, whole]

end OutputLayout.WellPlaced

namespace Generation

variable {schema : Schema} {settings : Settings} {documents : List SourceDocument}
  {context : ImportContext} {generation : Generation}

theorem exists_wellPlaced (prepared : prepare schema settings documents context = .ok generation)
    (confined : settings.layout.Confined)
    (inside : ∀ source ∈ documents, (Path.ofString source.location).Descends)
    (named : ∀ source ∈ documents, (Path.ofString source.location).parts ≠ [])
    {output : OutputFile} (planned : output ∈ generation.outputFiles) :
    ∃ location, settings.layout.WellPlaced location ∧
      output.path = settings.layout.filePath location := by
  obtain ⟨registry, -, rfl⟩ := prepare_eq_ok_iff.1 prepared
  obtain ⟨source, needed, rfl⟩ := List.mem_map.1 planned
  have listed : source ∈ documents := List.mem_of_mem_filter needed
  exact ⟨source.location, confined.wellPlaced (inside source listed) (named source listed), rfl⟩

theorem placeOf_ne_of_nodup (prepared : prepare schema settings documents context = .ok generation)
    (confined : settings.layout.Confined)
    (inside : ∀ source ∈ documents, (Path.ofString source.location).Descends)
    (named : ∀ source ∈ documents, (Path.ofString source.location).parts ≠ [])
    (distinct : (generation.outputFiles.map OutputFile.path).Nodup) (writer : PreambleWriter)
    (tree : FileTree) {before after : List OutputFile} {output : OutputFile}
    (split : generation.outputFiles = before ++ output :: after) :
    ∀ later ∈ after, writer.placeOf tree later ≠ writer.placeOf tree output := by
  intro later present same
  have planned : output ∈ generation.outputFiles := by simp [split]
  have listed : later ∈ generation.outputFiles := by
    rw [split]
    exact List.mem_append_right _ (List.mem_cons_of_mem _ present)
  obtain ⟨one, first, path⟩ := exists_wellPlaced prepared confined inside named planned
  obtain ⟨other, second, otherPath⟩ := exists_wellPlaced prepared confined inside named listed
  rw [PreambleWriter.placeOf, PreambleWriter.placeOf, PreambleWriter.pathOf,
    PreambleWriter.pathOf, path, otherPath] at same
  have shared : later.path = output.path := by
    rw [path, otherPath]
    exact second.filePath_eq_of_placeOf_eq first same
  rw [split, List.map_append, List.map_cons] at distinct
  have fresh := (List.nodup_cons.1 distinct.of_append_right).1
  exact fresh (shared ▸ List.mem_map_of_mem present)

/-- Under any settings planned paths are distinct only for documents that differ in their module
names, and the last file written to a place is kept. An extension within one component leaves the
directory and the stem to tell the paths apart; while generated files are confined to the
directories of their documents these are told by the module names, and distinct paths are all
kept. -/
theorem outputs_kept (prepared : prepare schema settings documents context = .ok generation)
    (inside : ∀ source ∈ documents, (Path.ofString source.location).Descends)
    (named : ∀ source ∈ documents, (Path.ofString source.location).parts ≠ []) :
    ((generation.outputFiles.map OutputFile.path).Nodup →
      (documents.filter needsOutput).Pairwise SourceDocument.ModulesApart) ∧
    (settings.layout.NamesFile → ((generation.outputFiles.map OutputFile.path).Nodup ↔
      (documents.filter needsOutput).Pairwise settings.layout.TargetsApart)) ∧
    (settings.layout.Confined → ((generation.outputFiles.map OutputFile.path).Nodup ↔
      (documents.filter needsOutput).Pairwise SourceDocument.ModulesApart)) ∧
    ∀ (writer : PreambleWriter) (tree last : FileTree) written,
      writer.writeAll tree generation.outputFiles = (last, .ok written) →
        (settings.layout.Confined → (generation.outputFiles.map OutputFile.path).Nodup →
          ∀ before output after, generation.outputFiles = before ++ output :: after →
            writer.Keeps tree last before output) ∧
        ∀ before output after, generation.outputFiles = before ++ output :: after →
          (∀ later ∈ after, writer.placeOf tree later ≠ writer.placeOf tree output) →
            writer.Keeps tree last before output := by
  have inside' : ∀ source ∈ documents.filter needsOutput,
      (Path.ofString source.location).Descends :=
    fun source needed => inside source (List.mem_of_mem_filter needed)
  have named' : ∀ source ∈ documents.filter needsOutput,
      (Path.ofString source.location).parts ≠ [] :=
    fun source needed => named source (List.mem_of_mem_filter needed)
  have paths := map_path_outputFiles prepared
  refine ⟨?_, ?_, ?_, ?_⟩
  · intro distinct
    rw [paths] at distinct
    exact OutputLayout.modulesApart_of_nodup inside' distinct
  · intro names
    rw [paths]
    exact names.nodup_iff named'
  · intro confined
    rw [paths, confined.namesFile.nodup_iff named']
    exact confined.targetsApart_iff inside'
  · intro writer tree last written wrote
    have kept : ∀ before output after, generation.outputFiles = before ++ output :: after →
        (∀ later ∈ after, writer.placeOf tree later ≠ writer.placeOf tree output) →
          writer.Keeps tree last before output := by
      intro before output after split final
      exact PreambleWriter.keeps_of_writeAll (split ▸ wrote) final
    refine ⟨fun confined distinct before output after split => ?_, kept⟩
    exact kept before output after split
      (placeOf_ne_of_nodup prepared confined inside named distinct writer tree split)

end Generation

def siblingDocuments : List SourceDocument :=
  [.ofSpreads "a/b.graphql" [("F", [])] [], .ofSpreads "a-b.gql" [] ["F"]]

def plainWriter : PreambleWriter where
  engine := Template.unmarked
  accepts := Preamble.isValid
  templateDirectory? := none
  outputDirectory := "out"

def siblingRegistry : Registry where
  entries := [("F", ⟨"a/b_generated.py", ["FFragment"], "User", .ofSpreads "F" "User" []⟩)]
  nodup := by decide

def siblingGeneration : Generation := ⟨{}, siblingRegistry, siblingDocuments, ⟨["work"], ""⟩⟩

theorem prepare_siblings : Generation.prepare userSchema {} siblingDocuments ⟨["work"], ""⟩ =
    .ok siblingGeneration :=
  Generation.prepare_eq_ok_iff.2 ⟨siblingRegistry, by decide +kernel, rfl⟩

theorem render_siblings (tree : FileTree) {output : OutputFile}
    (planned : output ∈ siblingGeneration.outputFiles) :
    plainWriter.render none tree output = .ok output.text := by
  have exporting : ∀ name entry, siblingRegistry.get? name = some entry →
      entry.importNames ≠ [] := by
    intro name entry found
    have only := (OrderedMap.get?_eq_some_iff _ _ _).1 found
    rw [(Prod.mk.inj (List.mem_singleton.1 only)).2]
    decide
  have text := (Generation.preamble_eq_text prepare_siblings rfl rfl (by simp) (by decide)
    (by decide +kernel) (by decide) exporting (Nat.one_le_pow _ _ (by decide)) planned).1
  rw [PreambleWriter.render_none rfl, text]
  rfl

theorem outputFiles_siblings : siblingGeneration.outputFiles =
    siblingDocuments.map siblingGeneration.outputFile := by
  have needed : siblingDocuments.filter Generation.needsOutput = siblingDocuments := by decide
  exact congrArg (List.map siblingGeneration.outputFile) needed

/-- Only the renderings look at the texts, so everything else is tried out on the tree. -/
theorem isOk_writeAll_siblings :
    (plainWriter.writeAll ⟨.empty, []⟩ siblingGeneration.outputFiles).2.isOk = true := by
  have rendered : ∀ source ∈ siblingDocuments, ∀ tree,
      plainWriter.render none tree (siblingGeneration.outputFile source) =
        .ok (siblingGeneration.outputFile source).text := by
    intro source listed tree
    exact render_siblings tree (outputFiles_siblings ▸ List.mem_map_of_mem listed)
  have exporter := rendered (.ofSpreads "a/b.graphql" [("F", [])] []) (by decide)
  have importer := rendered (.ofSpreads "a-b.gql" [] ["F"]) (by decide)
  rw [outputFiles_siblings, siblingDocuments, List.map_cons, List.map_cons, List.map_nil,
    PreambleWriter.writeAll_eq_writeEach rfl]
  simp only [PreambleWriter.writeEach, PreambleWriter.write, exporter, importer]
  decide +kernel

theorem outputs_kept_siblings :
    Generation.prepare userSchema {} siblingDocuments ⟨["work"], ""⟩ = .ok siblingGeneration ∧
      (siblingGeneration.outputFiles.map OutputFile.path).Nodup ∧
        ∃ last written,
          plainWriter.writeAll ⟨.empty, []⟩ siblingGeneration.outputFiles = (last, .ok written) ∧
            ∀ before output after, siblingGeneration.outputFiles = before ++ output :: after →
              plainWriter.Keeps ⟨.empty, []⟩ last before output := by
  have runs := isOk_writeAll_siblings
  have confined : ({} : OutputLayout).Confined := by decide
  obtain ⟨-, -, apart, written⟩ := Generation.outputs_kept prepare_siblings (by decide) (by decide)
  have distinct := (apart confined).2 (by decide)
  refine ⟨prepare_siblings, distinct, ?_⟩
  rcases run : plainWriter.writeAll ⟨.empty, []⟩ siblingGeneration.outputFiles with
    ⟨last, fault | places⟩
  · rw [run] at runs
    cases runs
  · exact ⟨last, places, rfl, (written _ _ _ _ run).1 confined distinct⟩

def stemDocuments : List SourceDocument :=
  [.ofSpreads "user.graphql" [("F", [])] [], .ofSpreads "user.gql" [] ["F"]]

/-- Documents of one stem share their generated path, and no run leaves each of their files with its
own preamble. -/
theorem outputs_of_one_stem_clash :
    ∃ generation,
      Generation.prepare userSchema {} stemDocuments ⟨["work"], ""⟩ = .ok generation ∧
        (stemDocuments.map SourceDocument.location).Nodup ∧
        (∀ source ∈ stemDocuments, (Path.ofString source.location).Descends ∧
          hasExtension documentExtensions source.location = true) ∧
        ¬(generation.outputFiles.map OutputFile.path).Nodup ∧
        ∀ (writer : PreambleWriter) (tree last : FileTree) written,
          writer.templateDirectory? = none →
            writer.writeAll tree generation.outputFiles = (last, .ok written) →
              ∃ before output after, generation.outputFiles = before ++ output :: after ∧
                ¬writer.Keeps tree last before output := by
  obtain ⟨generation, prepared⟩ := Generation.exists_prepare userSchema {} stemDocuments
    ⟨["work"], ""⟩ (by decide) (by decide)
  have clash : ¬(generation.outputFiles.map OutputFile.path).Nodup := by
    intro distinct
    rw [Generation.map_path_outputFiles prepared] at distinct
    exact absurd (OutputLayout.modulesApart_of_nodup (by decide) distinct) (by decide +kernel)
  refine ⟨generation, prepared, by decide, by decide, clash, ?_⟩
  intro writer tree last written builtIn wrote
  by_contra! kept
  obtain ⟨registry, -, rfl⟩ := Generation.prepare_eq_ok_iff.1 prepared
  have needed : stemDocuments.filter Generation.needsOutput = stemDocuments := by decide
  have planned : ∀ context, (⟨{}, registry, stemDocuments, context⟩ : Generation).outputFiles =
      stemDocuments.map (⟨{}, registry, stemDocuments, context⟩ : Generation).outputFile := by
    intro context
    rw [Generation.outputFiles]
    exact congrArg _ needed
  have same : ({} : OutputLayout).filePath "user.graphql" =
      ({} : OutputLayout).filePath "user.gql" :=
    OutputLayout.filePath_congr {} (by decide) (by decide +kernel)
  have texts := (kept [] _ _ (planned _)).text_eq builtIn
    (kept [_] _ [] (planned _)) same
  have headed : ∀ output : OutputFile, ∃ rest,
      output.text = Preamble.heading output.source.location ++ rest :=
    fun output => ⟨_, String.append_assoc⟩
  obtain ⟨rest, whole⟩ := headed _
  obtain ⟨otherRest, otherWhole⟩ := headed _
  rw [whole, otherWhole] at texts
  change Preamble.heading "user.graphql" ++ rest = Preamble.heading "user.gql" ++ otherRest at texts
  -- the headings differ in the first letter in which the locations do
  have letters := congrArg (fun text => text.toList[30]?) texts
  simp only [String.toList_append] at letters
  rw [List.getElem?_append_left (by decide), List.getElem?_append_left (by decide)] at letters
  exact absurd letters (by decide)

end FragmentImports
