import FragmentImports.Proofs.SpreadChain

/-!
What a registry holds. Its names are those of the fragments of the documents, in the order of their
first definitions, and every entry says of the first definition of its name where it is exported and
under which symbols.
-/

namespace FragmentImports

def SchemaType.declared : SchemaType → List String
  | .object interfaces => interfaces
  | .interface | .union _ | .leaf => []

/-- The concrete types behind a type condition, in the order of the schema. An object type stands
for itself, an interface for the object types that declare it, each as often as it does so, and a
union for its members. -/
inductive Schema.ConcreteTypes (schema : Schema) (condition : String) :
    SchemaType → List String → Prop where
  | object {interfaces} : ConcreteTypes schema condition (.object interfaces) [condition]
  | interface : ConcreteTypes schema condition .interface
      (schema.types.entries.flatMap fun (name, type) =>
        List.replicate (type.declared.count condition) name)
  | union {members} : ConcreteTypes schema condition (.union members) members
  | leaf : ConcreteTypes schema condition .leaf []

theorem Schema.implementations_eq (schema : Schema) (interface : String) :
    schema.implementations interface = schema.types.entries.flatMap fun (name, type) =>
      List.replicate (type.declared.count interface) name := by
  rw [implementations]
  apply List.flatMap_congr
  intro entry _
  obtain ⟨name, type⟩ := entry
  cases type with
  | object interfaces =>
      change (interfaces.filter (· = interface)).map (fun _ => name) =
        List.replicate (interfaces.count interface) name
      rw [List.map_const', List.count_eq_length_filter]
      rfl
  | interface => rfl
  | union members => rfl
  | leaf => rfl

theorem Schema.concreteTypes_possibleTypesOf (schema : Schema) (condition : String)
    (type : SchemaType) :
    schema.ConcreteTypes condition type (schema.possibleTypesOf condition type) := by
  cases type with
  | object interfaces => exact .object
  | interface =>
      rw [possibleTypesOf, implementations_eq]
      exact .interface
  | union members => exact .union
  | leaf => exact .leaf

def DefinesFirst (documents : List SourceDocument) (name : String) (source : SourceDocument)
    (fragment : Document.Fragment) : Prop :=
  fragment.name = name ∧ ∃ before after front back,
    documents = before ++ source :: after ∧
      (∀ earlier ∈ before, ∀ other ∈ earlier.document.fragments, other.name ≠ name) ∧
      source.document.fragments = front ++ fragment :: back ∧
      ∀ other ∈ front, other.name ≠ name

namespace Registry

theorem map_name_occurrences (documents : List SourceDocument) :
    ((occurrences documents).map fun occurrence => occurrence.fragment.name) =
      documents.flatMap fun source => source.document.fragments.map fun fragment =>
        fragment.name := by
  rw [occurrences, List.map_flatMap]
  apply List.flatMap_congr
  intro source _
  rw [List.map_map]
  rfl

theorem exists_definesFirst {documents : List SourceDocument} {name : String}
    {occurrence : Occurrence}
    (first : (occurrences documents).find? (fun other => other.fragment.name = name) =
      some occurrence) :
    ∃ source, occurrence.location = source.location ∧
      DefinesFirst documents name source occurrence.fragment := by
  rw [occurrences, List.find?_flatMap, List.findSome?_eq_some_iff] at first
  obtain ⟨before, source, after, split, inside, without⟩ := first
  rw [List.find?_map, Option.map_eq_some_iff] at inside
  obtain ⟨fragment, found, rfl⟩ := inside
  obtain ⟨named, front, back, placed, ahead⟩ := List.find?_eq_some_iff_append.1 found
  refine ⟨source, rfl, of_decide_eq_true named, before, after, front, back, split, ?_, placed, ?_⟩
  · intro earlier listed other defined same
    have nowhere := List.find?_eq_none.1 (without earlier listed)
    exact nowhere _ (List.mem_map.2 ⟨other, defined, rfl⟩) (decide_eq_true same)
  · intro other listed same
    have different := ahead other listed
    simp [same] at different

theorem includesDocumentVariables_iff (settings : Settings) :
    settings.includesDocumentVariables = true ↔
      (∃ plugin ∈ settings.plugins, plugin.emitsDocumentValue = true) ∧
        settings.documentMode ∉ [.documentNode, .documentNodeImportFragments, .external] := by
  rw [Settings.includesDocumentVariables, Bool.and_eq_true, Settings.emitsDocumentValues,
    List.any_eq_true]
  cases settings.documentMode <;> simp [DocumentMode.exportsVariables]

theorem fragmentSymbols_eq (naming : NamingConvention) (includeVariable : Bool) (name : String)
    (types : List String) :
    fragmentSymbols naming includeVariable name types =
      distinct ((if includeVariable then [naming.variableName name] else []) ++
        if types.length = 1 then [naming.typeName name]
        else types.map (naming.specializedTypeName name)) := by
  match types with
  | [] => rfl
  | [_] => rfl
  | _ :: _ :: rest => simp [fragmentSymbols]

variable {schema : Schema} {settings : Settings} {documents : List SourceDocument}
  {registry : Registry}

/-- The names of a registry are those of the fragments, in the order of their first definitions.
The entry of a name is that of its first definition, whose type is known: the file generated for the
document, the type condition, the definition itself, and the symbols without repetitions, namely
the document variable when a plugin emits document values in a mode that exports them, then the
plain type for a single concrete type, else one type for each of them. -/
theorem build_contents (built : build schema settings documents = .ok registry) :
    registry.keys = distinct (documents.flatMap fun source =>
        source.document.fragments.map fun fragment => fragment.name) ∧
      ∀ name ∈ registry.keys, ∃ source fragment type types,
        DefinesFirst documents name source fragment ∧
          schema.get? fragment.onType = some type ∧
          schema.ConcreteTypes fragment.onType type types ∧
          registry.get? name = some
            { filePath := settings.layout.filePath source.location
              importNames := distinct (
                (if (∃ plugin ∈ settings.plugins, plugin.emitsDocumentValue = true) ∧
                    settings.documentMode ∉
                      [.documentNode, .documentNodeImportFragments, .external] then
                  [settings.naming.variableName name] else []) ++
                if types.length = 1 then [settings.naming.typeName name]
                else types.map (settings.naming.specializedTypeName name))
              onType := fragment.onType
              definition := fragment } := by
  constructor
  · rw [keys_of_build built, map_name_occurrences]
  · intro name member
    obtain ⟨entry, found⟩ := OrderedMap.mem_keys_iff.1 member
    obtain ⟨occurrence, type, first, known, rfl⟩ :=
      (describes_of_build built).first name entry found
    obtain ⟨source, place, defining⟩ := exists_definesFirst first
    refine ⟨source, occurrence.fragment, type, _, defining, known,
      schema.concreteTypes_possibleTypesOf occurrence.fragment.onType type, found.trans ?_⟩
    simp only [entryOf, fragmentSymbols_eq, includesDocumentVariables_iff, place, defining.1]

end Registry

def actorSchema : Schema where
  types := ⟨[("Org", .object ["Actor"]), ("Actor", .interface), ("User", .object ["Actor"])],
    by decide⟩

def actorSettings : Settings where
  plugins := [{ name := "operations", emitsDocumentValue := true }]

def actorDocuments : List SourceDocument :=
  [⟨"a.graphql", ⟨[.fragment (.ofSpreads "U" "User" ["A"])]⟩⟩,
    ⟨"b.graphql", ⟨[.fragment (.ofSpreads "A" "Actor" []),
      .fragment (.ofSpreads "U" "User" ["A"])]⟩⟩]

def actorRegistry : Registry where
  entries := [("U", ⟨"a_generated.py", ["UFragmentDoc", "UFragment"], "User",
      .ofSpreads "U" "User" ["A"]⟩),
    ("A", ⟨"b_generated.py", ["AFragmentDoc", "A_Org_Fragment", "A_User_Fragment"], "Actor",
      .ofSpreads "A" "Actor" []⟩)]
  nodup := by decide

theorem build_contents_actors :
    Registry.build actorSchema actorSettings actorDocuments = .ok actorRegistry ∧
      actorRegistry.keys = distinct ["U", "A", "U"] ∧
      ∀ name ∈ actorRegistry.keys, ∃ source fragment,
        DefinesFirst actorDocuments name source fragment ∧
          (actorRegistry.get? name).map (fun entry => (entry.filePath, entry.definition)) =
            some (({} : OutputLayout).filePath source.location, fragment) := by
  have built : Registry.build actorSchema actorSettings actorDocuments = .ok actorRegistry := by
    decide +kernel
  obtain ⟨keys, entries⟩ := Registry.build_contents built
  refine ⟨built, keys, ?_⟩
  intro name member
  obtain ⟨source, fragment, _, _, first, -, -, found⟩ := entries name member
  refine ⟨source, fragment, first, ?_⟩
  rw [found]
  rfl

end FragmentImports
