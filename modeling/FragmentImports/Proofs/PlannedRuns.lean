import FragmentImports.Proofs.BaseDirectory
import FragmentImports.Proofs.CommandRuns

/-!
Planning and generating agree. A plan that is shown for an output directory is the one whose files
are written there, although generated paths are kept relative to another directory while they are.
-/

namespace FragmentImports

namespace CommandLine

/-- Two generations that differ in the directory their paths are relative to, and nothing else. -/
def Rebased (base other : String) (one two : Generation) : Prop :=
  ∃ schema settings documents registry cwd,
    Registry.build schema settings documents = .ok registry ∧
      one = ⟨settings, registry, documents, ⟨cwd, base⟩⟩ ∧
      two = ⟨settings, registry, documents, ⟨cwd, other⟩⟩

theorem follows_loadSchema (command other : Command) (outside : Surroundings)
    (options : Options) :
    Follows Eq (loadSchema command outside options) (loadSchema other outside options) := by
  refine (follows_orStop_eq _ _ _).bind ?_
  rintro given _ rfl
  exact Follows.refl _

theorem follows_loadGeneration (command other : Command) (outside : Surroundings)
    (options : Options) (base directory : String) :
    Follows (Rebased base directory) (loadGeneration command outside options base)
      (loadGeneration other outside options directory) := by
  unfold loadGeneration
  refine Follows.behind _ fun tree => Follows.behind _ fun settings => ?_
  have prepared : ∀ schema documents, Follows (Rebased base directory)
      (orStop (Generation.prepare schema settings documents ⟨tree.cwd, base⟩) fun error =>
        .told error.message)
      (orStop (Generation.prepare schema settings documents ⟨tree.cwd, directory⟩) fun error =>
        .told error.message) := by
    intro schema documents
    apply follows_orStop
    intro generation prepared
    obtain ⟨registry, built, rfl⟩ := Generation.prepare_eq_ok_iff.1 prepared
    exact ⟨_, Generation.prepare_eq_ok_iff.2 ⟨registry, built, rfl⟩, schema, settings, documents,
      registry, tree.cwd, built, rfl, rfl⟩
  refine Follows.verbosely <| Follows.behind _ fun _ =>
    (follows_loadSchema command other outside options).bind ?_
  rintro schema _ rfl
  refine Follows.behind _ fun _ => Follows.behind _ fun documents =>
    (prepared schema documents).bind ?_
  rintro one two ⟨schema, settings, documents, registry, cwd, built, rfl, rfl⟩
  exact Follows.verbosely
    (follows_pure ⟨schema, settings, documents, registry, cwd, built, rfl, rfl⟩)

variable {outside : Surroundings} {options : Options} {console after : Console}
  {generation : Generation}

theorem ends_runPlan
    (loaded : ends (loadGeneration .plan outside options options.output) console =
      (.ok generation, after)) :
    ends (runPlan outside options) console =
      (.ok (), (generation.outputFiles.flatMap planLines).foldl Console.tell after) := by
  have shown : ∀ file console, ends (do
      forIn (planLines file) PUnit.unit fun line _ => do say line; pure (.yield .unit)
      pure (ForInStep.yield PUnit.unit)) console =
        (.ok (.yield .unit), (planLines file).foldl Console.tell console) :=
    fun file console => ends_bind_of_ok (ends_forIn_say (planLines file) console)
  rw [runPlan, ends_bind_of_ok loaded, ends_bind_of_ok (ends_forIn shown after), List.foldl_flatMap]
  rfl

def reportWritten (options : Options) (directory : String) (count : Nat)
    (written : Except OutputFault (List String)) : Run Unit := do
  let paths ← orStop written .ofOutput
  if options.verbose then
    for path in paths do say ("  " ++ path)
  say ("Done! Generated " ++ toString count ++ " files in " ++ directory)

theorem keepsTree_reportWritten (directory : String) (count : Nat)
    (written : Except OutputFault (List String)) :
    KeepsTree (reportWritten options directory count written) := by
  refine (keepsTree_orStop _ _).bind fun paths => ?_
  split
  · exact (KeepsTree.forIn fun path => (keepsTree_say _).bind fun _ => keepsTree_pure _).bind
      fun _ => keepsTree_say _
  · exact keepsTree_say _

theorem ends_runGenerate_of_stop {stop : Stop}
    (stopped : ends (loadGeneration .generate outside options "") console = (.error stop, after)) :
    ends (runGenerate outside options) console = (.error stop, after) := by
  rw [runGenerate, ends_bind_of_ok (ends_fileTree console)]
  exact ends_bind_of_error stopped

/-- Behind what it loads a command writes its files to the tree that it found. -/
theorem ends_runGenerate (loaded : ends (loadGeneration .generate outside options "") console =
      (.ok generation, after))
    {last : FileTree} {written : Except OutputFault (List String)}
    (wrote : (outside.writer options console.tree.cwd).writeAll console.tree
      generation.outputFiles = (last, written)) :
    ends (runGenerate outside options) console =
      ends (reportWritten options (absolutePath console.tree.cwd options.output)
        generation.outputFiles.length written)
          { after.tell "Writing files..." with tree := last } := by
  have kept := keepsTree_loadGeneration .generate outside options "" console
  rw [loaded] at kept
  rw [runGenerate, ends_bind_of_ok (ends_fileTree console)]
  dsimp only
  rw [ends_bind_of_ok loaded, ends_bind_of_ok (ends_say _ after),
    ends_bind_of_ok (ends_fileTree _)]
  have found : (after.tell "Writing files...").tree = console.tree := kept
  simp only [found, wrote]
  rfl

theorem tree_runGenerate
    (loaded : ends (loadGeneration .generate outside options "") console =
      (.ok generation, after)) :
    (ends (runGenerate outside options) console).2.tree =
      ((outside.writer options console.tree.cwd).writeAll console.tree
        generation.outputFiles).1 := by
  rw [ends_runGenerate loaded rfl]
  exact keepsTree_reportWritten _ _ _ _

end CommandLine

open CommandLine in
/-- Planned files do not depend on the directory that generated paths are relative to. So a plan
that is shown for an output directory lists the files that a run generates there. -/
theorem base_directory_cancels {settings : Settings} {documents : List SourceDocument}
    (below : StaysBelow settings documents) :
    (∀ (schema : Schema) (one other : ImportContext),
      (Generation.prepare schema settings documents one).map Generation.outputFiles =
        (Generation.prepare schema settings documents other).map Generation.outputFiles) ∧
      ∀ (outside : Surroundings) (options : Options) (console after : Console)
        (generation : Generation),
          ends (loadGeneration .generate outside options "") console = (.ok generation, after) →
          generation.settings = settings → generation.documents = documents →
            ends (runPlan outside options) console =
                (.ok (), (generation.outputFiles.flatMap planLines).foldl Console.tell after) ∧
              (ends (runGenerate outside options) console).2.tree =
                ((outside.writer options console.tree.cwd).writeAll console.tree
                  generation.outputFiles).1 := by
  constructor
  · intro schema one other
    unfold Generation.prepare
    cases built : Registry.build schema settings documents with
    | error fault => rfl
    | ok registry => exact congrArg Except.ok (below.outputFiles_eq built)
  · rintro outside options console after generation loaded rfl rfl
    obtain ⟨planned, run, schema, settings, documents, registry, cwd, built, rfl, rfl⟩ :=
      follows_loadGeneration .generate .plan outside options "" options.output console generation
        after loaded
    have planned : (⟨settings, registry, documents, ⟨cwd, options.output⟩⟩ :
        Generation).outputFiles =
          (⟨settings, registry, documents, ⟨cwd, ""⟩⟩ : Generation).outputFiles :=
      below.outputFiles_eq built
    rw [ends_runPlan run, planned]
    exact ⟨rfl, tree_runGenerate loaded⟩

/-- A project whose base types are a file of the output tree. -/
def typedTree : FileTree where
  nodes := ⟨[(["work"], .directory), (["work", "schema.graphqls"],
      .file "type Query { user: User } type User { id: ID }".toUTF8),
    (["work", "q.graphql"], .file "{ id }".toUTF8),
    (["work", "codegen.json"], .file "\x7b\"baseTypesPath\": \"lib/types.py\"\x7d".toUTF8)],
    by decide⟩
  cwd := ["work"]

def typedOptions : CommandLine.Options where
  schema := "schema.graphqls"
  documents := "q.graphql"
  config? := some "codegen.json"
  output := "../out//gen/."

def typedSettings : Settings := { baseTypesPath? := some "lib/types.py" }

set_option maxRecDepth 4000 in
open CommandLine in
theorem base_directory_cancels_typed :
    (Generation.prepare userSchema typedSettings distantDocuments ⟨["work"], ""⟩).map
        Generation.outputFiles =
      (Generation.prepare userSchema typedSettings distantDocuments ⟨["work"], "/../src/"⟩).map
        Generation.outputFiles ∧
      ∃ generation after,
        ends (loadGeneration .generate .isolated typedOptions "") { tree := typedTree } =
            (.ok generation, after) ∧
          ends (runPlan .isolated typedOptions) { tree := typedTree } =
            (.ok (), (generation.outputFiles.flatMap planLines).foldl Console.tell after) := by
  have loads : (ends (loadGeneration .generate .isolated typedOptions "")
      { tree := typedTree }).1.toOption.map (fun generation =>
        (generation.settings, generation.documents)) =
          some (typedSettings, [.ofSpreads "q.graphql" [] []]) := by decide +kernel
  constructor
  · exact (base_directory_cancels (by decide +kernel)).1 userSchema ⟨["work"], ""⟩
      ⟨["work"], "/../src/"⟩
  · rcases run : ends (loadGeneration .generate .isolated typedOptions "")
        { tree := typedTree } with ⟨stop | generation, after⟩
    · rw [run] at loads
      cases loads
    · rw [run] at loads
      obtain ⟨settings, documents⟩ := Prod.mk.inj (Option.some.inj loads)
      exact ⟨generation, after, rfl, ((base_directory_cancels (by decide +kernel)).2 _ _ _ after
        generation run settings documents).1⟩

def rootDocuments : List SourceDocument := [.ofSpreads "" [] []]

def rootSettings : Settings where
  layout := { extension := "" }
  baseTypesPath? := some "types.py"

/-- A file generated in the place of the directory that paths are relative to imports its base types
from below the directory above. -/
theorem base_directory_remains :
    (∀ source ∈ rootDocuments, (Path.ofString source.location).Descends) ∧
      (Path.ofString rootSettings.layout.folder).Descends ∧
      '/' ∉ rootSettings.layout.extension.toList ∧
      (∀ baseTypes ∈ rootSettings.baseTypesPath?, (Path.ofString baseTypes).Descends) ∧
      (Generation.prepare userSchema rootSettings rootDocuments ⟨["work"], ""⟩).map
          Generation.outputFiles ≠
        (Generation.prepare userSchema rootSettings rootDocuments ⟨["work"], "a"⟩).map
          Generation.outputFiles := by
  refine ⟨by decide +kernel, by decide, by decide, by decide +kernel, fun same => ?_⟩
  have imports := congrArg (fun planned : Except Registry.ScanError (List OutputFile) =>
    planned.toOption.map (List.map OutputFile.baseTypesImport?)) same
  revert imports
  decide +kernel

end FragmentImports
