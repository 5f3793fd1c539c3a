import FragmentImports.Proofs.PlannedRuns
import FragmentImports.Proofs.PreambleText
import FragmentImports.Proofs.WrittenFiles

/-!
What a failing run makes of the files. Up to the first preamble nothing is written, and a planned
file that is refused ends the writing: the files planned before it stay, each with all that was
rendered for it, and no other file is touched.
-/

namespace FragmentImports

namespace FileTree

def SameFiles (tree later : FileTree) : Prop :=
  ∀ place content, later.node? place = some (.file content) ↔
    tree.node? place = some (.file content)

structure OnlyMakes (tree later : FileTree) : Prop where
  grows : tree.Grows later []
  files : ∀ place content, later.node? place = some (.file content) →
    tree.node? place = some (.file content)

variable {tree later : FileTree}

theorem OnlyMakes.of_eq (same : later = tree) : tree.OnlyMakes later :=
  same.symm ▸ ⟨.refl tree [], fun _ _ held => held⟩

theorem OnlyMakes.sameFiles (made : tree.OnlyMakes later) : tree.SameFiles later :=
  fun place content => ⟨made.files place content, made.grows.files place content List.not_mem_nil⟩

theorem onlyMakes_makeDirectories (tree : FileTree) (text : String) :
    tree.OnlyMakes (tree.makeDirectories text).1 :=
  ⟨tree.grows_makeDirectories text, fun _ _ held => file_of_makeDirectories held⟩

end FileTree

namespace PreambleWriter

/-- The files planned before one are written, and at most directories are made for that one. -/
structure StopsAt (writer : PreambleWriter) (template? : Option String) (tree last : FileTree)
    (before : List OutputFile) (output : OutputFile) (fault : OutputFault) : Prop where
  written : writer.Written template? tree last before
  refused : writer.write template? (writer.reached template? tree before) output =
    (last, .error fault)

variable {writer : PreambleWriter} {template? : Option String} {tree next last : FileTree}
  {output : OutputFile} {outputs : List OutputFile} {path : String} {paths : List String}
  {fault : OutputFault}

theorem onlyMakes_of_write_eq_error
    (refused : writer.write template? tree output = (last, .error fault)) :
    tree.OnlyMakes last := by
  unfold write at refused
  split at refused
  · cases refused
    exact .of_eq rfl
  have made := tree.onlyMakes_makeDirectories (directoryText (writer.pathOf output))
  split at refused
  · next left found directories =>
      cases refused
      rwa [directories] at made
  next left fine directories =>
  split at refused
  · cases refused
    rwa [directories] at made
  · cases refused

theorem node?_of_write (wrote : writer.write template? tree output = (next, .ok path)) :
    ∃ text, writer.render template? tree output = .ok text ∧
      next.node? (writer.placeOf tree output) = some (.file text.toUTF8) := by
  obtain ⟨text, rendered, stored⟩ := write_eq_ok wrote
  have place : (tree.makeDirectories (directoryText (writer.pathOf output))).1.placeOf
      (writer.pathOf output) = writer.placeOf tree output :=
    (tree.grows_makeDirectories _).placeOf_eq _
  obtain ⟨-, -, -, free, rfl⟩ := FileTree.writeFile_eq_ok stored
  have below := fun root => free (if_pos root)
  refine ⟨text, rendered, ?_⟩
  rw [FileTree.node?_put below, if_pos place]

theorem Written.of_onlyMakes {middle : FileTree}
    (written : writer.Written template? tree middle outputs) (made : middle.OnlyMakes last) :
    writer.Written template? tree last outputs where
  grows := List.append_nil (outputs.map _) ▸ written.grows.trans made.grows
  origin := fun place content held => written.origin place content (made.files place content held)
  holds := fun before output after split final =>
    (written.holds before output after split final).of_grows made.grows List.not_mem_nil

theorem StopsAt.sameFiles (stops : writer.StopsAt template? tree last [] output fault) :
    tree.SameFiles last :=
  (onlyMakes_of_write_eq_error stops.refused).sameFiles

/-- A failure belongs to one planned file, behind others that were written. -/
theorem exists_stopsAt_of_writeEach
    (stopped : writer.writeEach template? tree outputs = (last, .error fault)) :
    ∃ before output after, outputs = before ++ output :: after ∧
      writer.StopsAt template? tree last before output fault := by
  induction outputs generalizing tree with
  | nil => cases stopped
  | cons output rest ih =>
      rw [writeEach] at stopped
      split at stopped
      · next left found refused =>
          cases stopped
          refine ⟨[], output, rest, rfl, ?_, refused⟩
          exact Written.nil.of_onlyMakes (onlyMakes_of_write_eq_error refused)
      · next next path first =>
          rcases run : writer.writeEach template? next rest with ⟨final, found | paths⟩
          · rw [run] at stopped
            cases stopped
            obtain ⟨before, other, after, rfl, stops⟩ := ih run
            refine ⟨output :: before, other, after, rfl, .cons first stops.written, ?_⟩
            rw [reached_cons first]
            exact stops.refused
          · rw [run] at stopped
            cases stopped

theorem writeEach_of_refused {before : List OutputFile} {middle : FileTree}
    (after : List OutputFile) (wrote : writer.writeEach template? tree before = (middle, .ok paths))
    (refused : writer.write template? middle output = (last, .error fault)) :
    writer.writeEach template? tree (before ++ output :: after) = (last, .error fault) := by
  induction before generalizing tree paths with
  | nil =>
      cases wrote
      rw [List.nil_append, writeEach, refused]
  | cons earlier before ih =>
      obtain ⟨next, path, rest, first, run⟩ := writeEach_cons_eq_ok wrote
      rw [List.cons_append, writeEach, first]
      simp only [ih run]
      rfl

theorem writeAll_eq_error (stopped : writer.writeAll tree outputs = (last, .error fault)) :
    last = tree ∨ writer.writeEach (writer.template? tree) tree outputs = (last, .error fault) := by
  unfold writeAll at stopped
  split at stopped
  · cases stopped
    exact Or.inl rfl
  · exact Or.inr stopped

end PreambleWriter

namespace CommandLine

variable {outside : Surroundings} {options : Options} {console after : Console}
  {generation : Generation} {last : FileTree}

theorem ends_loadGeneration {command : Command} {base : String} {settings : Settings}
    {schema : Schema} {documents : List SourceDocument} (quiet : options.verbose = false)
    (settled : ends (loadSettings options.config?) console = (.ok settings, console))
    (typed : ends (loadSchema command outside options) (console.tell "Loading schema...") =
      (.ok schema, console.tell "Loading schema..."))
    (parsed : console.tree.loadDocuments options.documents = .ok documents)
    (prepared : Generation.prepare schema settings documents ⟨console.tree.cwd, base⟩ =
      .ok generation) :
    ends (loadGeneration command outside options base) console =
      (.ok generation, (console.tell "Loading schema...").tell "Parsing documents...") := by
  rw [loadGeneration, ends_bind_of_ok (ends_fileTree _), ends_bind_of_ok settled]
  simp only [quiet, Bool.false_eq_true, if_false]
  rw [ends_bind_of_ok (ends_say _ _), ends_bind_of_ok typed, ends_bind_of_ok (ends_say _ _)]
  have read : ends (loadDocuments options.documents)
      ((console.tell "Loading schema...").tell "Parsing documents...") =
        (.ok documents, (console.tell "Loading schema...").tell "Parsing documents...") := by
    rw [loadDocuments, ends_bind_of_ok (ends_fileTree _)]
    simp only [Console.tell, parsed]
    rfl
  rw [ends_bind_of_ok read, prepared]
  rfl

theorem ends_reportWritten_ok (directory : String) (count : Nat) (paths : List String)
    (console : Console) :
    (ends (reportWritten options directory count (.ok paths)) console).1 = .ok () := by
  have read : ends (orStop (.ok paths) Stop.ofOutput) console = (.ok paths, console) := rfl
  rw [reportWritten, ends_bind_of_ok read]
  split
  · have shown : ∀ path console, ends (do
        say ("  " ++ path)
        pure (ForInStep.yield PUnit.unit)) console =
          (.ok (.yield .unit), console.tell ("  " ++ path)) :=
      fun path console => ends_bind_of_ok (ends_say _ console)
    rw [ends_bind_of_ok (ends_forIn shown console)]
    rfl
  · rfl

theorem ends_reportWritten_error (directory : String) (count : Nat) (fault : OutputFault)
    (console : Console) :
    ends (reportWritten options directory count (.error fault)) console =
      (.error (.ofOutput fault), console) := rfl

theorem keepsTree_runCommand {command : Command} (other : command ≠ .generate) :
    KeepsTree (runCommand outside options command) := by
  cases command with
  | registry =>
      exact (keepsTree_loadGeneration _ _ _ _).bind fun generation =>
        (KeepsTree.forIn fun _ => (keepsTree_say _).bind fun _ => keepsTree_pure _).bind
          fun _ => keepsTree_pure _
  | plan =>
      have shown : ∀ file : OutputFile, KeepsTree
          (forIn (planLines file) PUnit.unit fun line _ => do say line; pure (.yield .unit)) :=
        fun file => KeepsTree.forIn fun _ => (keepsTree_say _).bind fun _ => keepsTree_pure _
      exact (keepsTree_loadGeneration _ _ _ _).bind fun generation =>
        (KeepsTree.forIn fun file => (shown file).bind fun _ => keepsTree_pure _).bind
          fun _ => keepsTree_pure _
  | generate => exact absurd rfl other

theorem run_eq_outcome (outside : Surroundings) (tree : FileTree) (arguments : List String) :
    run outside tree arguments = outcome (ends (follow outside arguments) { tree := tree }).1
      (ends (follow outside arguments) { tree := tree }).2 := rfl

theorem tree_outcome (result : Except Stop Unit) (console : Console) :
    (outcome result console).tree = console.tree := by
  rcases result with (_ | _ | _) | _ <;> rfl

theorem exitCode_outcome_ok (value : Unit) (console : Console) :
    (outcome (.ok value) console).exitCode = 0 := rfl

variable {tree : FileTree} {arguments : List String}

theorem ends_follow {command : Command}
    (asked : readArguments tree arguments = .ok (.run command options)) :
    ends (follow outside arguments) { tree := tree } =
      ends (runCommand outside options command) { tree := tree } := by
  have read : ends (orStop (readArguments tree arguments) Refusal.stop) { tree := tree } =
      (.ok (.run command options), { tree := tree }) := by
    rw [asked]
    rfl
  rw [follow, ends_bind_of_ok (ends_fileTree _), ends_bind_of_ok read]

theorem run_of_told {message : String}
    (asked : readArguments tree arguments = .ok (.run .generate options))
    (ended : ends (runGenerate outside options) { tree := tree } =
      (.error (.told message), after)) :
    run outside tree arguments =
      { exitCode := 1
        output := after.output
        errors := "Error: " ++ plain message ++ "\n"
        tree := after.tree } := by
  rw [run_eq_outcome, ends_follow asked, runCommand, ended]
  rfl

theorem keepsTree_follow
    (other : ∀ options, readArguments tree arguments ≠ .ok (.run .generate options)) :
    (ends (follow outside arguments) { tree := tree }).2.tree = tree := by
  rw [follow, ends_bind_of_ok (ends_fileTree _)]
  cases asked : readArguments tree arguments with
  | error refusal => rfl
  | ok invocation =>
      have read : ends (orStop (.ok invocation) Refusal.stop) { tree := tree } =
          (.ok invocation, { tree := tree }) := rfl
      rw [ends_bind_of_ok read]
      cases invocation with
      | help command? => rfl
      | version => rfl
      | run command options =>
          refine keepsTree_runCommand ?_ _
          rintro rfl
          exact other options asked

/-- A command that stops at a planned file, when the files planned before it have been written. -/
def StopsBehind (outside : Surroundings) (options : Options) (console : Console)
    (last : FileTree) (before : List OutputFile) : Prop :=
  ∃ generation loaded output rest fault,
    ends (loadGeneration .generate outside options "") console = (.ok generation, loaded) ∧
    generation.outputFiles = before ++ output :: rest ∧
    (outside.writer options console.tree.cwd).StopsAt
      ((outside.writer options console.tree.cwd).template? console.tree) console.tree last before
        output fault

theorem exists_stopsBehind {stop : Stop}
    (failed : ends (runGenerate outside options) console = (.error stop, after)) :
    console.tree.SameFiles after.tree ∨
      ∃ before, before ≠ [] ∧ StopsBehind outside options console after.tree before := by
  rcases load : ends (loadGeneration .generate outside options "") console with
    ⟨fault | generation, between⟩
  · have kept := keepsTree_loadGeneration .generate outside options "" console
    rw [load] at kept
    rw [ends_runGenerate_of_stop load] at failed
    cases failed
    exact Or.inl (FileTree.OnlyMakes.of_eq kept).sameFiles
  rcases wrote : (outside.writer options console.tree.cwd).writeAll console.tree
      generation.outputFiles with ⟨last, fault | paths⟩
  · rw [ends_runGenerate load wrote] at failed
    cases failed
    rcases PreambleWriter.writeAll_eq_error wrote with same | stopped
    · exact Or.inl (FileTree.OnlyMakes.of_eq same).sameFiles
    obtain ⟨before, output, rest, split, stops⟩ :=
      PreambleWriter.exists_stopsAt_of_writeEach stopped
    by_cases first : before = []
    · subst first
      exact Or.inl stops.sameFiles
    · exact Or.inr ⟨before, first, generation, between, output, rest, fault, load, split, stops⟩
  · have succeeds := congrArg Prod.fst (ends_runGenerate load wrote)
    rw [ends_reportWritten_ok, failed] at succeeds
    cases succeeds

/-- A run that fails leaves all files as they were, or a planned file behind others stopped it. Then
those others are written as a whole, and no other file has been created or changed. -/
theorem failed_run_files (failed : (run outside tree arguments).exitCode ≠ 0) :
    tree.SameFiles (run outside tree arguments).tree ∨
      ∃ options before, readArguments tree arguments = .ok (.run .generate options) ∧
        before ≠ [] ∧ StopsBehind outside options { tree := tree }
          (run outside tree arguments).tree before := by
  have result := run_eq_outcome outside tree arguments
  by_cases asked : ∃ options, readArguments tree arguments = .ok (.run .generate options)
  · obtain ⟨options, asked⟩ := asked
    rw [ends_follow asked, runCommand] at result
    rcases ended : ends (runGenerate outside options) { tree := tree } with ⟨stop | value, after⟩
    · have left : (run outside tree arguments).tree = after.tree := by
        rw [result, ended, tree_outcome]
      rw [left]
      rcases exists_stopsBehind ended with same | ⟨before, wrote, stopped⟩
      · exact Or.inl same
      · exact Or.inr ⟨options, before, asked, wrote, stopped⟩
    · rw [result, ended] at failed
      exact absurd (exitCode_outcome_ok value after) failed
  · have left : (run outside tree arguments).tree = tree := by
      rw [result, tree_outcome, keepsTree_follow (not_exists.1 asked)]
    exact Or.inl (FileTree.OnlyMakes.of_eq left).sameFiles

/-- A fragment in a directory whose name is a keyword of the modules that are generated, and a query
that spreads it. -/
def keywordTree : FileTree where
  nodes := ⟨[(["work"], .directory),
    (["work", "schema.graphqls"], .file "type Query \x7b id: ID \x7d".toUTF8),
    (["work", "src"], .directory), (["work", "src", "class"], .directory),
    (["work", "src", "class", "f.graphql"], .file "fragment F on Query \x7b id \x7d".toUTF8),
    (["work", "src", "q.graphql"], .file "\x7b id ...F \x7d".toUTF8)], by decide⟩
  cwd := ["work"]

def keywordArguments : List String :=
  ["generate", "-s", "schema.graphqls", "-d", "src", "-o", "out"]

def keywordOptions : Options where
  schema := "schema.graphqls"
  documents := "src"
  output := "out"

def keywordDocuments : List SourceDocument :=
  [⟨"class/f.graphql", ⟨[.fragment (.ofSpreads "F" "Query" [])]⟩⟩, .ofSpreads "q.graphql" [] ["F"]]

def keywordGiven : List GivenOption :=
  [⟨"--schema", "schema.graphqls"⟩, ⟨"--documents", "src"⟩, ⟨"--output", "out"⟩]

theorem checkOrder_keyword : checkOrder Command.generate.rules keywordGiven =
    [Rules.schema, Rules.documents, Rules.outputDirectory, Rules.config, Rules.header,
      Rules.verbose, Rules.templateDirectory, Rules.help] := by
  rw [checkOrder, List.mergeSort_of_pairwise (by decide)]
  decide

theorem readArguments_keyword :
    readArguments keywordTree keywordArguments = .ok (.run .generate keywordOptions) := by
  have front : readProgramOptions keywordArguments =
      .ok (none, "generate" :: keywordArguments.tail) := by decide +kernel
  have command : Command.ofName? "generate" = some .generate := by decide
  have given : takeOptions Command.generate.rules true keywordArguments.tail =
      .ok (keywordGiven, []) := by decide +kernel
  rw [readArguments, front]
  simp only [bind, Except.bind, command, readCommand, mapError_eq_ok.2 given, checkOrder_keyword]
  decide +kernel

set_option maxRecDepth 4000 in
theorem loadDocuments_keyword : keywordTree.loadDocuments "src" = .ok keywordDocuments := by
  have found : keywordTree.find "src" = .ok (["work", "src"], .directory) := by decide +kernel
  rw [FileTree.loadDocuments, FileTree.discover, found]
  simp only [FileTree.discoverBelow, sortedByPath]
  rw [List.mergeSort_of_pairwise (by decide +kernel)]
  decide +kernel

def keywordRegistry : Registry where
  entries := [("F", ⟨"class/f_generated.py", ["FFragment"], "Query", .ofSpreads "F" "Query" []⟩)]
  nodup := by decide

def keywordGeneration : Generation := ⟨{}, keywordRegistry, keywordDocuments, ⟨["work"], ""⟩⟩

def keywordPlace : List String := ["work", "out", "class", "f_generated.py"]

def keywordContent : ByteArray := (Preamble.text "class/f.graphql" [] []).toUTF8

set_option maxRecDepth 4000 in
theorem exists_load_keyword : ∃ schema,
    SchemaSource.load Surroundings.isolated.network Surroundings.isolated.untar keywordTree
        "schema.graphqls" [] = .ok schema ∧
      Registry.build schema {} keywordDocuments = .ok keywordRegistry := by
  have loads : (match SchemaSource.load Surroundings.isolated.network
      Surroundings.isolated.untar keywordTree "schema.graphqls" [] with
      | .error _ => false
      | .ok schema =>
          decide (Registry.build schema {} keywordDocuments = .ok keywordRegistry)) = true := by
    decide +kernel
  split at loads
  · cases loads
  · next schema loaded => exact ⟨schema, loaded, of_decide_eq_true loads⟩

def keywordExporter : OutputFile where
  path := "class/f_generated.py"
  source := ⟨"class/f.graphql", ⟨[.fragment (.ofSpreads "F" "Query" [])]⟩⟩
  plan := ⟨[], []⟩
  fragmentImports := []
  baseTypesImport? := none

/-- The file of the query, which imports from a module that cannot be named. -/
def keywordImporter : OutputFile where
  path := "q_generated.py"
  source := .ofSpreads "q.graphql" [] ["F"]
  plan := ⟨[⟨"F", 0, "Query", .ofSpreads "F" "Query" []⟩],
    [⟨"class/f_generated.py", ["FFragment"]⟩]⟩
  fragmentImports := ["from .class.f_generated import FFragment"]
  baseTypesImport? := none

theorem externalFragments_keyword :
    externalFragments keywordRegistry (.document keywordExporter.source.document) = .empty ∧
      externalFragments keywordRegistry (.document keywordImporter.source.document) =
        OrderedMap.empty.insert "F" 0 := by
  have silent : (Document.Node.document keywordExporter.source.document).spreads = [] := by decide
  have spreading : (Document.Node.document keywordImporter.source.document).spreads = ["F"] := by
    decide
  have foreign : (Document.Node.document keywordImporter.source.document).localFragments = [] := by
    decide
  have inner : Document.Selection.allSpreads
      (Document.Fragment.ofSpreads "F" "Query" []).selections = [] := by decide
  have found : keywordRegistry.get? "F" =
    some ⟨"class/f_generated.py", ["FFragment"], "Query", .ofSpreads "F" "Query" []⟩ := rfl
  constructor
  · rw [externalFragments, silent, followSpreads]
  · rw [externalFragments, spreading, foreign, followSpreads, dif_neg (by decide)]
    split
    · next absent => cases absent.symm.trans found
    · next entry again =>
        cases found.symm.trans again
        rw [if_neg (by decide)]
        simp only [inner, followSpreads]
        rfl

theorem outputFiles_keyword :
    keywordGeneration.outputFiles = [keywordExporter, keywordImporter] := by
  have needed : keywordDocuments.filter Generation.needsOutput = keywordDocuments := by decide
  obtain ⟨silent, spread⟩ := externalFragments_keyword
  have exporter : keywordGeneration.outputFile keywordExporter.source = keywordExporter := by
    rw [Generation.outputFile]
    simp only [Registry.resolve, keywordGeneration, silent]
    decide +kernel
  have importer : keywordGeneration.outputFile keywordImporter.source = keywordImporter := by
    rw [Generation.outputFile]
    simp only [Registry.resolve, keywordGeneration, spread]
    decide +kernel
  rw [← exporter, ← importer, Generation.outputFiles]
  change (keywordDocuments.filter _).map _ = _
  rw [needed]
  rfl

theorem preamble_keywordExporter : keywordExporter.preamble = .ok keywordExporter.text :=
  Preamble.check_text (List.all_iff_forall_prop.1 (by decide)) (by decide)
    (List.forall_mem_nil _) (List.forall_mem_nil _) _

set_option maxRecDepth 4000 in
theorem preamble_keywordImporter : keywordImporter.preamble = .error ⟨"q_generated.py"⟩ := by
  have location : keywordImporter.source.location = "q.graphql" := rfl
  have statements : keywordImporter.importStatements =
      ["from .class.f_generated import FFragment"] := rfl
  -- the letters are put together from short pieces, since those of a long text take long to find
  rw [OutputFile.preamble, Preamble.check, Preamble.isValid, OutputFile.text, Preamble.toList_text,
    Preamble.toList_heading, Preamble.toList_importBlock, Preamble.toList_table, location,
    statements]
  simp only [String.reduceToList, List.flatMap_cons]
  decide +kernel

def keywordWriter : PreambleWriter :=
  Surroundings.isolated.writer keywordOptions keywordTree.cwd

theorem render_keywordExporter (tree : FileTree) :
    keywordWriter.render none tree keywordExporter = .ok keywordExporter.text := by
  rw [PreambleWriter.render_none rfl, preamble_keywordExporter]
  rfl

theorem render_keywordImporter (tree : FileTree) :
    keywordWriter.render none tree keywordImporter =
      .error (.preamble ⟨"q_generated.py"⟩) := by
  rw [PreambleWriter.render_none rfl, preamble_keywordImporter]
  rfl

theorem exists_write_keyword : ∃ next path,
    keywordWriter.write none keywordTree keywordExporter = (next, .ok path) := by
  have writes : (keywordWriter.write none keywordTree keywordExporter).2.isOk = true := by
    rw [PreambleWriter.write, render_keywordExporter]
    decide +kernel
  rcases wrote : keywordWriter.write none keywordTree keywordExporter with ⟨next, fault | path⟩
  · rw [wrote] at writes
    cases writes
  · exact ⟨next, path, rfl⟩

theorem exists_writeAll_keyword : ∃ last,
    keywordWriter.writeAll keywordTree keywordGeneration.outputFiles =
        (last, .error (.preamble ⟨"q_generated.py"⟩)) ∧
      last.node? keywordPlace = some (.file keywordContent) := by
  obtain ⟨next, path, first⟩ := exists_write_keyword
  obtain ⟨text, rendered, held⟩ := PreambleWriter.node?_of_write first
  have whole : keywordExporter.text = text :=
    Except.ok.inj ((render_keywordExporter _).symm.trans rendered)
  have place : keywordWriter.placeOf keywordTree keywordExporter = keywordPlace := rfl
  rw [place, ← whole] at held
  have wrote : keywordWriter.writeEach none keywordTree [keywordExporter] = (next, .ok [path]) := by
    rw [PreambleWriter.writeEach, first]
    rfl
  have refused : keywordWriter.write none next keywordImporter =
      (next, .error (.preamble ⟨"q_generated.py"⟩)) := by
    rw [PreambleWriter.write, render_keywordImporter]
  have stopped := PreambleWriter.writeEach_of_refused [] wrote refused
  rw [List.singleton_append] at stopped
  refine ⟨next, ?_, held⟩
  rw [outputFiles_keyword, PreambleWriter.writeAll_eq_writeEach rfl, stopped]

theorem ends_loadSchema_keyword {schema : Schema}
    (loaded : SchemaSource.load Surroundings.isolated.network Surroundings.isolated.untar
      keywordTree "schema.graphqls" [] = .ok schema)
    (output : String) :
    ends (loadSchema .generate .isolated keywordOptions) ⟨output, keywordTree⟩ =
      (.ok schema, ⟨output, keywordTree⟩) := by
  have given : ends (orStop (headers keywordOptions.headers) fun bad =>
      .misused ⟨some .generate, .badHeader bad.message⟩) ⟨output, keywordTree⟩ =
        (.ok .empty, ⟨output, keywordTree⟩) := rfl
  rw [loadSchema, ends_bind_of_ok given, ends_bind_of_ok (ends_fileTree _)]
  have read : SchemaSource.load Surroundings.isolated.network Surroundings.isolated.untar
      keywordTree keywordOptions.schema (OrderedMap.empty : OrderedMap String String).entries =
        .ok schema := loaded
  simp only [read]
  rfl

theorem exists_run_keyword : ∃ last, last.node? keywordPlace = some (.file keywordContent) ∧
    run .isolated keywordTree keywordArguments =
      { exitCode := 1
        output := "Loading schema...\nParsing documents...\nWriting files...\n"
        errors := "Error: Generated invalid Python for q_generated.py\n"
        tree := last } := by
  obtain ⟨schema, loaded, built⟩ := exists_load_keyword
  obtain ⟨last, stopped, held⟩ := exists_writeAll_keyword
  refine ⟨last, held, ?_⟩
  have prepared : Generation.prepare schema {} keywordDocuments ⟨["work"], ""⟩ =
      .ok keywordGeneration := Generation.prepare_eq_ok_iff.2 ⟨keywordRegistry, built, rfl⟩
  have load : ends (loadGeneration .generate .isolated keywordOptions "")
      { tree := keywordTree } = (.ok keywordGeneration, _) :=
    ends_loadGeneration rfl rfl (ends_loadSchema_keyword loaded _) loadDocuments_keyword prepared
  have said : (["Loading schema...", "Parsing documents...", "Writing files..."].foldl Console.tell
      { tree := keywordTree }).output =
        "Loading schema...\nParsing documents...\nWriting files...\n" := by
    simp [Console.tell, plain_eq_self]
  rw [List.foldl_cons, List.foldl_cons, List.foldl_cons, List.foldl_nil] at said
  have told : "Error: " ++ plain (Preamble.Fault.message ⟨"q_generated.py"⟩) ++ "\n" =
      "Error: Generated invalid Python for q_generated.py\n" := by
    rw [plain_eq_self]
    · decide
    · decide
  have ended := ends_runGenerate load stopped
  rw [ends_reportWritten_error, Stop.ofOutput] at ended
  rw [run_of_told readArguments_keyword ended, told]
  simp only [said]

theorem failed_run_files_keyword :
    (run .isolated keywordTree keywordArguments).exitCode ≠ 0 ∧
      ∃ options before, readArguments keywordTree keywordArguments = .ok (.run .generate options) ∧
        before ≠ [] ∧ StopsBehind .isolated options { tree := keywordTree }
          (run .isolated keywordTree keywordArguments).tree before := by
  obtain ⟨last, held, ended⟩ := exists_run_keyword
  have failed : (run .isolated keywordTree keywordArguments).exitCode ≠ 0 := by
    rw [ended]
    exact Nat.one_ne_zero
  refine ⟨failed, (failed_run_files failed).resolve_left fun same => ?_⟩
  rw [ended] at same
  have before := (same keywordPlace keywordContent).1 held
  exact absurd before (by decide)

/-- A file is there that was not there before, when the second one has been refused. -/
theorem failed_run_leaves_file :
    readArguments keywordTree keywordArguments = .ok (.run .generate keywordOptions) ∧
      (run .isolated keywordTree keywordArguments).exitCode = 1 ∧
      (run .isolated keywordTree keywordArguments).errors =
        "Error: Generated invalid Python for q_generated.py\n" ∧
      keywordTree.node? keywordPlace = none ∧
      (run .isolated keywordTree keywordArguments).tree.node? keywordPlace =
        some (.file keywordContent) := by
  obtain ⟨last, held, ended⟩ := exists_run_keyword
  rw [ended]
  exact ⟨readArguments_keyword, rfl, rfl, by decide, held⟩

end CommandLine

end FragmentImports
