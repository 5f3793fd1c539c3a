import FragmentImports.Proofs.FailedRuns
import FragmentImports.Proofs.ValidPreambles

/-!
What a run works on is what it has loaded, and the names in that are names of the query language. So
a run with the default names and paths refuses none of the preambles that are built in.
-/

namespace FragmentImports

theorem PreambleWriter.render_of_preamble {writer : PreambleWriter} {output : OutputFile}
    (takes : ∀ text, Preamble.isValid text = true → writer.accepts text = true)
    (valid : output.preamble = .ok output.text) (tree : FileTree) :
    writer.render none tree output = .ok output.text := by
  have passes : Preamble.isValid output.text = true := by
    rw [OutputFile.preamble, Preamble.check] at valid
    split at valid
    · assumption
    · cases valid
  rw [render_builtIn, Preamble.check, if_pos (takes _ passes)]
  rfl

theorem PreambleWriter.render_of_write_eq_error {writer : PreambleWriter}
    {template? : Option String} {tree last : FileTree} {output : OutputFile}
    {fault : Preamble.Fault}
    (refused : writer.write template? tree output = (last, .error (.preamble fault))) :
    writer.render template? tree output = .error (.preamble fault) := by
  unfold write at refused
  split at refused
  · next found rendered =>
      cases refused
      exact rendered
  split at refused
  · cases refused
  split at refused
  · cases refused
  · cases refused

namespace CommandLine

variable {α β : Type} {tree : FileTree}

/-- Whatever a part of a run comes to over a tree has a property. -/
def Gives (tree : FileTree) (holds : α → Prop) (part : Run α) : Prop :=
  ∀ console value after, console.tree = tree → ends part console = (.ok value, after) → holds value

theorem gives_pure {holds : α → Prop} {value : α} (held : holds value) :
    Gives tree holds (pure value) := by
  intro console given after here run
  cases run
  exact held

theorem gives_throw (holds : α → Prop) (stop : Stop) : Gives tree holds (throw stop) := by
  intro console value after here run
  cases run

theorem gives_fileTree : Gives tree (· = tree) fileTree := by
  intro console value after here run
  cases run
  exact here

theorem gives_orStop {ε : Type} (result : Except ε α) (stop : ε → Stop) :
    Gives tree (fun value => result = .ok value) (orStop result stop) := by
  intro console value after here run
  cases result with
  | error fault => cases run
  | ok found =>
      cases run
      rfl

theorem Gives.bind {first : α → Prop} {holds : β → Prop} {part : Run α} {next : α → Run β}
    (gives : Gives tree first part) (keeps : KeepsTree part)
    (goes : ∀ value, first value → Gives tree holds (next value)) :
    Gives tree holds (part >>= next) := by
  intro console value after here run
  obtain ⟨middle, between, one, two⟩ := ends_bind_eq_ok.1 run
  have kept := keeps console
  rw [one] at kept
  exact goes middle (gives console middle between here one) between value after
    (kept.trans here) two

theorem Gives.behind {holds : β → Prop} {part : Run α} {next : α → Run β} (keeps : KeepsTree part)
    (goes : ∀ value, Gives tree holds (next value)) : Gives tree holds (part >>= next) :=
  Gives.bind (fun _ _ _ _ _ => trivial) keeps fun value _ => goes value

theorem Gives.verbosely {holds : α → Prop} {asked : Prop} [Decidable asked] {one two : String}
    {next : Unit → Run α} (goes : Gives tree holds (next ())) :
    Gives tree holds (if asked then do say one; next (← say two) else next ()) := by
  split
  · exact .behind (keepsTree_say one) fun _ => .behind (keepsTree_say two) fun _ => goes
  · exact goes

variable {command : Command} {outside : Surroundings} {options : Options} {base : String}

theorem gives_loadSchema : Gives tree (fun schema => ∃ headers,
    SchemaSource.load outside.network outside.untar tree options.schema headers = .ok schema)
      (loadSchema command outside options) := by
  refine .behind (keepsTree_orStop _ _) fun given => ?_
  refine gives_fileTree.bind keepsTree_fileTree ?_
  rintro _ rfl
  intro console schema after here run
  exact ⟨given.entries, gives_orStop _ _ console schema after here run⟩

theorem gives_loadDocuments (path : String) :
    Gives tree (fun documents => tree.loadDocuments path = .ok documents) (loadDocuments path) := by
  refine gives_fileTree.bind keepsTree_fileTree ?_
  rintro _ rfl
  split
  · next documents found => exact gives_pure found
  · exact .behind (keepsTree_print _) fun _ => gives_throw _ _

/-- What a command works on comes from a schema and documents of the tree. -/
theorem gives_loadGeneration : Gives tree (fun generation => ∃ headers schema documents,
    SchemaSource.load outside.network outside.untar tree options.schema headers = .ok schema ∧
      tree.loadDocuments options.documents = .ok documents ∧
        Generation.prepare schema generation.settings documents ⟨tree.cwd, base⟩ = .ok generation)
      (loadGeneration command outside options base) := by
  unfold loadGeneration
  refine gives_fileTree.bind keepsTree_fileTree ?_
  rintro _ rfl
  refine .behind (keepsTree_loadSettings _) fun settings => .verbosely <|
    .behind (keepsTree_say _) fun _ =>
      gives_loadSchema.bind (keepsTree_loadSchema command outside options) ?_
  rintro schema ⟨headers, typed⟩
  refine .behind (keepsTree_say _) fun _ =>
    (gives_loadDocuments _).bind (keepsTree_loadDocuments _) fun documents parsed =>
      (gives_orStop _ _).bind (keepsTree_orStop _ _) fun generation prepared => ?_
  obtain ⟨registry, built, rfl⟩ := Generation.prepare_eq_ok_iff.1 prepared
  exact .verbosely (gives_pure ⟨headers, schema, documents, typed, parsed, prepared⟩)

section Default

variable {console after : Console} {generation : Generation}
  (loaded : ends (loadGeneration command outside options base) console = (.ok generation, after))
  (naming : generation.settings.naming = {}) (layout : generation.settings.layout = {})
  (baseTypes : ∀ path ∈ generation.settings.baseTypesPath?, path = "")
  (locations : ∀ source ∈ generation.documents, IsPackaged source.location)
  (exporting : ∀ name entry, generation.registry.get? name = some entry → entry.importNames ≠ [])
  (counted : generation.registry.size ≤ 10 ^ ModuleText.Number.wholeDigits)

include loaded naming layout baseTypes locations exporting counted

theorem preamble_eq_text_of_loaded {output : OutputFile}
    (planned : output ∈ generation.outputFiles) :
    output.preamble = .ok output.text ∧ ModuleText.isModule output.text.toList = true := by
  obtain ⟨headers, schema, documents, typed, parsed, prepared⟩ :=
    gives_loadGeneration console generation after rfl loaded
  have types := SchemaSource.isNamed_of_load typed
  have fragments := isNamed_of_loadDocuments parsed
  obtain ⟨registry, built, same⟩ := Generation.prepare_eq_ok_iff.1 prepared
  have documented : generation.documents = documents := by rw [same]
  rw [documented] at locations
  exact Generation.preamble_eq_text prepared naming layout baseTypes types fragments locations
    exporting counted planned

/-- Where modules of edition 3.11 are taken for modules, no built-in preamble is refused. -/
theorem writeAll_ne_preamble_fault
    (takes : ∀ text, Preamble.isValid text = true → outside.accepts text = true)
    (builtIn : options.templateDirectory? = none) (last : FileTree) (fault : Preamble.Fault) :
    (outside.writer options console.tree.cwd).writeAll console.tree generation.outputFiles ≠
      (last, .error (.preamble fault)) := by
  intro stopped
  rw [PreambleWriter.writeAll_eq_writeEach builtIn] at stopped
  obtain ⟨before, output, rest, split, stops⟩ := PreambleWriter.exists_stopsAt_of_writeEach stopped
  have planned : output ∈ generation.outputFiles := by simp [split]
  have valid := (preamble_eq_text_of_loaded loaded naming layout baseTypes locations exporting
    counted planned).1
  have refused := PreambleWriter.render_of_write_eq_error stops.refused
  rw [PreambleWriter.render_of_preamble takes valid] at refused
  cases refused

end Default

end CommandLine

end FragmentImports
