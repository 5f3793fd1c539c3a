import FragmentImports.Proofs.DirectImports
import Mathlib.Data.List.DropRight

/-!
Imports without symbols. A file is imported from whether its fragments export something or not.
The import names nothing when all the fragments that it is for are on types without possible types
and no document variables are exported.
-/

namespace FragmentImports

theorem distinct_eq_nil_iff {α : Type} [DecidableEq α] {items : List α} :
    distinct items = [] ↔ items = [] := by
  simp only [List.eq_nil_iff_forall_not_mem, mem_distinct]

theorem fragmentSymbols_eq_nil_iff {naming : NamingConvention} {includeVariable : Bool}
    {name : String} {possibleTypes : List String} :
    fragmentSymbols naming includeVariable name possibleTypes = [] ↔
      includeVariable = false ∧ possibleTypes = [] := by
  unfold fragmentSymbols
  rw [distinct_eq_nil_iff, List.append_eq_nil_iff]
  refine and_congr ?_ ?_
  · cases includeVariable <;> simp
  · rcases possibleTypes with _ | ⟨first, _ | ⟨second, rest⟩⟩ <;> simp

section Trimming

variable {α : Type} {p : α → Bool}

theorem rdropWhile_append_visible {last : α} (visible : p last = false) (front back : List α) :
    (front ++ [last] ++ back).rdropWhile p = front ++ [last] ++ back.rdropWhile p := by
  induction back using List.reverseRecOn with
  | nil => simp [visible]
  | append_singleton back item ih =>
      rw [← List.append_assoc]
      by_cases dropped : p item
      · rw [List.rdropWhile_concat_pos p _ _ dropped, List.rdropWhile_concat_pos p _ _ dropped, ih]
      · rw [List.rdropWhile_concat_neg p _ _ dropped, List.rdropWhile_concat_neg p _ _ dropped,
          List.append_assoc]

end Trimming

theorem stripBlanks_of_visible {first last : Char} (starts : isBlank first = false)
    (ends : isBlank last = false) (middle back : List Char) :
    stripBlanks (first :: middle ++ [last] ++ back) =
      first :: middle ++ [last] ++ back.rdropWhile isBlank := by
  rw [← rdropWhile_append_visible ends, stripBlanks, List.rdropWhile, List.cons_append,
    List.cons_append, List.dropWhile_cons_of_neg (by simpa using starts)]

def importHead (module : String) : String := "from " ++ module ++ " import"

/-- An import is cut to its head when its symbols leave nothing to be seen. -/
theorem renderImport_eq_head_iff {module : String} {names : List String} :
    renderImport module names = importHead module ↔
      ∀ c ∈ (", ".intercalate names).toList, isBlank c := by
  have text : ("from " ++ module ++ " import " ++ ", ".intercalate names).toList =
      'f' :: ("rom ".toList ++ module.toList ++ " impor".toList) ++ ['t'] ++
        ' ' :: (", ".intercalate names).toList := by
    simp
  have head : (importHead module).toList =
      'f' :: ("rom ".toList ++ module.toList ++ " impor".toList) ++ ['t'] := by
    simp [importHead]
  rw [renderImport, strip, ← String.toList_inj, String.toList_ofList, text, head,
    stripBlanks_of_visible (by decide) (by decide), List.append_right_eq_self,
    List.rdropWhile_eq_nil_iff, List.forall_mem_cons, and_iff_right (by decide)]

theorem mem_intercalate_of_two (first second : String) (rest : List String) :
    ',' ∈ (", ".intercalate (first :: second :: rest)).toList := by
  rw [String.intercalate_cons_of_ne_nil (by simp)]
  simp

theorem blank_intercalate_iff {names : List String} :
    (∀ c ∈ (", ".intercalate names).toList, isBlank c) ↔
      names = [] ∨ ∃ symbol, names = [symbol] ∧ ∀ c ∈ symbol.toList, isBlank c := by
  match names with
  | [] => simp
  | [symbol] => simp
  | first :: second :: rest =>
      refine iff_of_false (fun blank => ?_) (by simp)
      exact absurd (blank ',' (mem_intercalate_of_two first second rest)) (by decide)

namespace Registry

variable {registry : Registry} {schema : Schema} {settings : Settings}
  {documents : List SourceDocument}

theorem importNames_eq_nil_iff (built : build schema settings documents = .ok registry)
    {name : String} {entry : Entry} (found : registry.get? name = some entry) :
    entry.importNames = [] ↔ settings.includesDocumentVariables = false ∧
      schema.possibleTypes? entry.onType = some [] := by
  obtain ⟨occurrence, type, -, typed, rfl⟩ := (describes_of_build built).first name entry found
  rw [Schema.possibleTypes?]
  simp only [entryOf, typed, Option.map_some, Option.some.injEq]
  exact fragmentSymbols_eq_nil_iff

theorem names_eq_nil_iff (keyed : registry.Keyed) {node : Document.Node} {source : ImportSource}
    (imported : source ∈ (registry.resolve node).imports) : source.names = [] ↔
      ∀ entry, registry.IsDirect node entry → entry.filePath = source.path →
        entry.importNames = [] := by
  obtain ⟨_, -, rfl⟩ := mem_importSources.1 imported
  rw [ImportGroups.sourceAt, distinct_eq_nil_iff, List.eq_nil_iff_forall_not_mem]
  simp only [ImportGroups.mem_symbolsOf, mem_directEntries_externalFragments keyed,
    List.eq_nil_iff_forall_not_mem]
  constructor
  · intro silent entry direct place symbol exported
    exact silent symbol ⟨entry, direct, place, exported⟩
  · rintro silent symbol ⟨entry, direct, place, exported⟩
    exact silent entry direct place symbol exported

end Registry

namespace Generation

variable {schema : Schema} {settings : Settings} {documents : List SourceDocument}
  {context : ImportContext} {generation : Generation}

/-- An import of a run lists no symbol exactly when document variables are not exported and every
fragment that it is for is on a type without possible types. It then ends behind the word `import`,
as it also does when its only symbol is blank. -/
theorem import_lists_nothing_iff
    (prepared : prepare schema settings documents context = .ok generation) :
    ∀ output ∈ generation.outputFiles,
      output.fragmentImports = output.plan.imports.map (context.statement output.path) ∧
      ∀ source ∈ output.plan.imports,
        (source.names = [] ↔ settings.includesDocumentVariables = false ∧
          ∀ entry, generation.registry.IsDirect (.document output.source.document) entry →
            entry.filePath = source.path → schema.possibleTypes? entry.onType = some []) ∧
        (context.statement output.path source = importHead (relativeModule context.cwd
            (context.locate output.path) (context.locate source.path)) ↔
          source.names = [] ∨
            ∃ symbol, source.names = [symbol] ∧ ∀ c ∈ symbol.toList, isBlank c) := by
  intro output planned
  obtain ⟨registry, built, rfl⟩ := prepare_eq_ok_iff.1 prepared
  obtain ⟨document, -, rfl⟩ := List.mem_map.1 planned
  have keyed : registry.Keyed := Registry.keyed_of_build built
  refine ⟨rfl, fun source imported => ⟨?_, ?_⟩⟩
  · have empty : ∀ entry, registry.IsDirect (.document document.document) entry →
        (entry.importNames = [] ↔ settings.includesDocumentVariables = false ∧
          schema.possibleTypes? entry.onType = some []) := by
      rintro entry ⟨name, -, -, filed⟩
      exact Registry.importNames_eq_nil_iff built filed
    rw [Registry.names_eq_nil_iff keyed imported]
    constructor
    · intro silent
      obtain ⟨entry, direct, place⟩ :=
        (Registry.mem_imports_resolve keyed).1 (List.mem_map.2 ⟨source, imported, rfl⟩)
      refine ⟨((empty entry direct).1 (silent entry direct place)).1, fun other also same => ?_⟩
      exact ((empty other also).1 (silent other also same)).2
    · rintro ⟨unexported, hollow⟩ entry direct place
      exact (empty entry direct).2 ⟨unexported, hollow entry direct place⟩
  · rw [ImportContext.statement, renderImport_eq_head_iff, blank_intercalate_iff]

end Generation

def nodeSchema : Schema where
  types := ⟨[("Node", .interface), ("User", .object [])], by decide⟩

/-- Fragments on an interface without object types and on an object type, and a query that spreads
both. -/
def nodeDocuments : List SourceDocument :=
  [⟨"node.graphql", ⟨[.fragment (.ofSpreads "N" "Node" [])]⟩⟩,
    .ofSpreads "user.graphql" [("U", [])] [], .ofSpreads "q.graphql" [] ["N", "U"]]

def nodeRegistry : Registry where
  entries :=
    [("N", ⟨"node_generated.py", [], "Node", .ofSpreads "N" "Node" []⟩),
      ("U", ⟨"user_generated.py", ["UFragment"], "User", .ofSpreads "U" "User" []⟩)]
  nodup := by decide

def nodeGeneration : Generation := ⟨{}, nodeRegistry, nodeDocuments, ⟨["work"], ""⟩⟩

theorem prepare_nodes :
    Generation.prepare nodeSchema {} nodeDocuments ⟨["work"], ""⟩ = .ok nodeGeneration := by
  refine Generation.prepare_eq_ok_iff.2 ⟨nodeRegistry, ?_, rfl⟩
  decide +kernel

def nodeQuery : SourceDocument := .ofSpreads "q.graphql" [] ["N", "U"]

theorem isDirect_nodes_iff {entry : Registry.Entry} :
    nodeRegistry.IsDirect (.document nodeQuery.document) entry ↔
      nodeRegistry.get? "N" = some entry ∨ nodeRegistry.get? "U" = some entry := by
  have spreads : (Document.Node.document nodeQuery.document).spreads = ["N", "U"] := by decide
  have undefined : (Document.Node.document nodeQuery.document).localFragments = [] := by decide
  simp [Registry.IsDirect, spreads, undefined]

theorem exists_import_nodes {entry : Registry.Entry}
    (direct : nodeRegistry.IsDirect (.document nodeQuery.document) entry) :
    ∃ source ∈ (nodeGeneration.outputFile nodeQuery).plan.imports,
      source.path = entry.filePath := by
  have keyed : nodeRegistry.Keyed := by decide
  exact List.mem_map.1 ((Registry.mem_imports_resolve keyed).2 ⟨entry, direct, rfl⟩)

theorem mem_outputFiles_nodes : nodeGeneration.outputFile nodeQuery ∈ nodeGeneration.outputFiles :=
  List.mem_map.2 ⟨nodeQuery, by decide, rfl⟩

theorem import_lists_nothing_iff_nodes :
    Generation.prepare nodeSchema {} nodeDocuments ⟨["work"], ""⟩ = .ok nodeGeneration ∧
      ∃ output ∈ nodeGeneration.outputFiles,
        (∃ source ∈ output.plan.imports, source.path = "node_generated.py" ∧ source.names = []) ∧
        ∃ source ∈ output.plan.imports, source.path = "user_generated.py" ∧ source.names ≠ [] := by
  have exact := Generation.import_lists_nothing_iff prepare_nodes _ mem_outputFiles_nodes
  refine ⟨prepare_nodes, _, mem_outputFiles_nodes, ?_, ?_⟩
  · obtain ⟨source, imported, path⟩ := exists_import_nodes (isDirect_nodes_iff.2 (Or.inl rfl))
    refine ⟨source, imported, path, (exact.2 source imported).1.2 ⟨rfl, ?_⟩⟩
    intro entry direct place
    rcases isDirect_nodes_iff.1 direct with hollow | full
    · cases hollow
      decide
    · cases full
      exact absurd (place.trans path) (by decide)
  · obtain ⟨source, imported, path⟩ := exists_import_nodes (isDirect_nodes_iff.2 (Or.inr rfl))
    refine ⟨source, imported, path, fun silent => ?_⟩
    have hollow := ((exact.2 source imported).1.1 silent).2 _ (isDirect_nodes_iff.2 (Or.inr rfl))
      path.symm
    exact absurd hollow (by decide)

theorem import_of_nothing :
    Generation.prepare nodeSchema {} nodeDocuments ⟨["work"], ""⟩ = .ok nodeGeneration ∧
      ∃ output ∈ nodeGeneration.outputFiles, ∃ source ∈ output.plan.imports,
        source.names = [] ∧ "from .node_generated import" ∈ output.fragmentImports := by
  obtain ⟨source, imported, path⟩ := exists_import_nodes (isDirect_nodes_iff.2 (Or.inl rfl))
  have silent : source.names = [] := by
    refine (Registry.names_eq_nil_iff (by decide) imported).2 fun entry direct place => ?_
    rcases isDirect_nodes_iff.1 direct with hollow | full
    · cases hollow
      rfl
    · cases full
      exact absurd (place.trans path) (by decide)
  refine ⟨prepare_nodes, _, mem_outputFiles_nodes, source, imported, silent, ?_⟩
  refine List.mem_map.2 ⟨source, imported, ?_⟩
  obtain ⟨place, names⟩ := source
  cases path
  cases silent
  decide +kernel

end FragmentImports
