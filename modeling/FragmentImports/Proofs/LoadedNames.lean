import FragmentImports.Files.Documents
import FragmentImports.Proofs.DocumentNames
import FragmentImports.Proofs.OrderedMap
import FragmentImports.SchemaSource

/-!
Fragments and types are called by names of the query language wherever a run has them from.
-/

namespace FragmentImports

def SchemaType.members : SchemaType → List String
  | .union members => members
  | _ => []

/-- The names of a schema are names of the query language. -/
def Schema.IsNamed (schema : Schema) : Prop :=
  ∀ entry ∈ schema.types.entries, isPlainName entry.1.toList = true ∧
    ∀ member ∈ entry.2.members, isPlainName member.toList = true

instance (schema : Schema) : Decidable schema.IsNamed := by
  unfold Schema.IsNamed
  infer_instance

def SourceDocument.IsNamed (source : SourceDocument) : Prop :=
  ∀ fragment ∈ source.document.fragments, isPlainName fragment.name.toList = true

instance (source : SourceDocument) : Decidable source.IsNamed := by
  unfold SourceDocument.IsNamed
  infer_instance

theorem Schema.IsNamed.of_get? {schema : Schema} (named : schema.IsNamed) {name : String}
    {type : SchemaType} (found : schema.get? name = some type) :
    isPlainName name.toList = true ∧
      ∀ possible ∈ schema.possibleTypesOf name type, isPlainName possible.toList = true := by
  have plain := named _ ((OrderedMap.get?_eq_some_iff _ _ _).1 found)
  refine ⟨plain.1, ?_⟩
  cases type with
  | object => simpa [possibleTypesOf] using plain.1
  | interface =>
      intro possible member
      obtain ⟨entry, listed, inside⟩ := List.mem_flatMap.1 member
      obtain ⟨implementer, kind⟩ := entry
      cases kind with
      | object interfaces =>
          obtain ⟨_, -, rfl⟩ := List.mem_map.1 inside
          exact (named _ listed).1
      | interface => cases inside
      | union => cases inside
      | leaf => cases inside
  | union members => exact plain.2
  | leaf => simp [possibleTypesOf]

theorem isNamed_of_loadDocument {file : FoundFile} {source : SourceDocument}
    (loaded : loadDocument file = .ok source) : source.IsNamed := by
  obtain ⟨text, -, behind⟩ := exists_of_bind_eq_ok loaded
  obtain ⟨document, read, ending⟩ := exists_of_bind_eq_ok behind
  cases ending
  intro fragment member
  obtain ⟨definition, listed, found⟩ := List.mem_filterMap.1 member
  have spelled := Document.isSpelled_of_parse (mapError_eq_ok.1 read) definition listed
  cases definition <;> cases found
  exact spelled

theorem isNamed_of_loadDocuments {tree : FileTree} {path : String} {sources : List SourceDocument}
    (loaded : tree.loadDocuments path = .ok sources) : ∀ source ∈ sources, source.IsNamed := by
  obtain ⟨files, -, read⟩ := exists_of_bind_eq_ok loaded
  intro source member
  obtain ⟨file, -, found⟩ := exists_of_mem_mapM read source member
  exact isNamed_of_loadDocument found

namespace Schema

open Document (isSpelled_of_parsePlaced TypeDefinition)

theorem isPlainName_of_mem_standardTypes : ∀ entry ∈ standardTypes,
    isPlainName entry.1.toList = true ∧
      ∀ member ∈ entry.2.members, isPlainName member.toList = true := by
  decide

theorem isPlainName_of_mem_membersOf_bodies {document : Document}
    (spelled : ∀ definition ∈ document.definitions, definition.IsSpelled)
    {definition : TypeDefinition} (listed : .type definition ∈ document.definitions) :
    ∀ member ∈ (bodies document definition).flatMap membersOf,
      isPlainName member.toList = true := by
  intro member inside
  obtain ⟨body, part, lists⟩ := List.mem_flatMap.1 inside
  rcases List.mem_cons.1 part with rfl | extended
  · exact (spelled _ listed).2 member lists
  · obtain ⟨other, present, found⟩ := List.mem_filterMap.1 extended
    cases other <;> simp only [reduceCtorEq] at found
    split at found <;> cases found
    exact (spelled _ present).2 member lists

theorem isPlainName_of_mem_members_typeOf {document : Document}
    (spelled : ∀ definition ∈ document.definitions, definition.IsSpelled)
    {definition : TypeDefinition} (listed : .type definition ∈ document.definitions) :
    ∀ member ∈ (typeOf document definition).members, isPlainName member.toList = true := by
  unfold typeOf
  split
  · exact List.forall_mem_nil _
  · exact List.forall_mem_nil _
  · exact isPlainName_of_mem_membersOf_bodies spelled listed
  · exact List.forall_mem_nil _

theorem isNamed_ofDocument {document : Document}
    (spelled : ∀ definition ∈ document.definitions, definition.IsSpelled) :
    (ofDocument document).IsNamed := by
  intro entry member
  rcases List.mem_append.1 (OrderedMap.mem_of_mem_entries_ofList member) with given | introspection
  · rcases List.mem_append.1 given with defined | scalar
    · obtain ⟨definition, typed, rfl⟩ := List.mem_map.1 defined
      obtain ⟨other, listed, found⟩ := List.mem_filterMap.1 typed
      cases other <;> cases found
      refine ⟨(spelled _ listed).1, ?_⟩
      rcases standard : standardType? definition.name with _ | type
      · exact isPlainName_of_mem_members_typeOf spelled listed
      · obtain ⟨entry, found, rfl⟩ := Option.map_eq_some_iff.1 standard
        exact (isPlainName_of_mem_standardTypes entry (List.mem_of_find?_eq_some found)).2
    · obtain ⟨name, known, rfl⟩ := List.mem_map.1 scalar
      exact isPlainName_of_mem_standardTypes _ (List.mem_append_left _
        (List.mem_map_of_mem (List.mem_of_mem_filter known)))
  · exact isPlainName_of_mem_standardTypes _ (List.mem_append_right _ introspection)

theorem isNamed_of_parse {text : String} {schema : Schema} (parsed : parse text = .ok schema) :
    schema.IsNamed := by
  obtain ⟨placed, read, behind⟩ := exists_of_bind_eq_ok parsed
  dsimp only at behind
  split at behind
  · cases behind
    apply isNamed_ofDocument
    intro definition member
    obtain ⟨place, listed, rfl⟩ := List.mem_map.1 member
    exact isSpelled_of_parsePlaced (mapError_eq_ok.1 read) place listed
  · cases behind
  · cases behind

namespace Description

variable {types : Types} {name : String}

theorem isPlainName_of_checkedName {value : Json} (checked : checkedName value = .ok name) :
    isPlainName name.toList = true := by
  unfold checkedName at checked
  split at checked
  · split at checked
    · next sound =>
        cases checked
        unfold NameFault.of? at sound
        split at sound
        · cases sound
        · next first rest letters =>
            rw [letters, isPlainName, Bool.and_eq_true]
            split at sound
            · cases sound
            · next goes =>
                split at sound
                · cases sound
                · next starts =>
                    simp only [Bool.not_eq_true', Bool.not_eq_false] at goes starts
                    exact ⟨starts, goes⟩
    · cases checked
  · cases checked

/-- A type keeps its name where it is a standard one, and its name is looked at where it is not. -/
theorem isPlainName_of_standing {given : Json} {kind : Kind} {standard : String → DescribedType}
    {type : DescribedType} {behind : PUnit → Check (String × DescribedType)}
    (ends : behind () = .ok (name, type) → isPlainName name.toList = true)
    (run : (match given with
      | .string name =>
          if isStandard name then
            if mayBeStandard kind then pure (name, standard name)
            else throw DescriptionFault.unsuitable >>= behind
          else behind ()
      | _ => behind ()) = .ok (name, type)) : isPlainName name.toList = true := by
  split at run
  · split at run
    · next known =>
        split at run
        · cases run
          obtain ⟨entry, listed, same⟩ := List.mem_map.1 (List.contains_iff_mem.1 known)
          exact same ▸ (isPlainName_of_mem_standardTypes entry listed).1
        · cases run
    · exact ends run
  · exact ends run

theorem isPlainName_of_describedType {description : Json} {type : DescribedType}
    (built : describedType description = .ok (name, type)) : isPlainName name.toList = true := by
  obtain ⟨given, -, behind⟩ := exists_of_bind_eq_ok built
  obtain ⟨members, -, further⟩ := exists_of_bind_eq_ok behind
  have checked : ∀ kind, (do return (← checkedName given, (⟨kind, members⟩ : DescribedType))) =
      Except.ok (name, type) → isPlainName name.toList = true := by
    intro kind run
    obtain ⟨_, sound, ending⟩ := exists_of_bind_eq_ok run
    cases ending
    exact isPlainName_of_checkedName sound
  have ends : ∀ kind, (if kind = .enum then do
      checkEnumValues (member members "enumValues")
      return (← checkedName given, (⟨kind, members⟩ : DescribedType))
      else return (← checkedName given, (⟨kind, members⟩ : DescribedType))) =
      Except.ok (name, type) → isPlainName name.toList = true := by
    intro kind run
    split at run
    · obtain ⟨_, -, ending⟩ := exists_of_bind_eq_ok run
      exact checked kind ending
    · exact checked kind run
  split at further
  · next kind _ =>
      dsimp only at further
      split at further
      · split at further
        · cases further
        · exact isPlainName_of_standing (ends kind) further
      · exact isPlainName_of_standing (ends kind) further
  · cases further

theorem mem_keys_of_knownKind {value : Json} {kind : Kind}
    (known : knownKind types value = .ok (name, kind)) : name ∈ types.keys := by
  unfold knownKind at known
  split at known
  · split at known
    · next found =>
        cases known
        exact OrderedMap.mem_keys_of_get? found
    · cases known
  · cases known

theorem mem_keys_of_reference {description : Json} {kind : Kind}
    (read : reference types description = .ok (.named name, kind)) : name ∈ types.keys := by
  unfold reference at read
  split at read
  · dsimp only at read
    split at read
    · split at read
      · cases read
      · split at read
        · cases read
        · obtain ⟨⟨type, named⟩, -, ending⟩ := exists_of_bind_eq_ok read
          dsimp only at ending
          split at ending
          · cases ending
          · split at ending <;> cases ending
    · obtain ⟨⟨found, sort⟩, known, ending⟩ := exists_of_bind_eq_ok read
      cases ending
      exact mem_keys_of_knownKind known
  · cases read

theorem mem_keys_of_namedReference {wanted : Kind} {description : Json}
    (read : namedReference types wanted description = .ok name) : name ∈ types.keys := by
  obtain ⟨⟨type, kind⟩, found, behind⟩ := exists_of_bind_eq_ok read
  cases type with
  | named called =>
      dsimp only at behind
      split at behind <;> cases behind
      exact mem_keys_of_reference found
  | list _ => cases behind
  | nonNull _ => cases behind

theorem isPlainName_of_mem_members (named : ∀ name ∈ types.keys, isPlainName name.toList = true)
    {described : DescribedType} {type : SchemaType}
    (built : schemaType types name described = .ok type) :
    ∀ member ∈ type.members, isPlainName member.toList = true := by
  unfold schemaType at built
  split at built
  · next standard found =>
      cases built
      exact (isPlainName_of_mem_standardTypes _ (List.mem_of_find?_eq_some found)).2
  · split at built
    · cases built
      exact List.forall_mem_nil _
    · cases built
      exact List.forall_mem_nil _
    · obtain ⟨_, -, ending⟩ := exists_of_bind_eq_ok built
      cases ending
      exact List.forall_mem_nil _
    · obtain ⟨listed, read, ending⟩ := exists_of_bind_eq_ok built
      cases ending
      obtain ⟨items, -, each⟩ := exists_of_bind_eq_ok (mapError_eq_ok.1 read)
      intro member inside
      obtain ⟨item, -, found⟩ := exists_of_mem_mapM each member inside
      exact named member (mem_keys_of_namedReference found)
    · obtain ⟨_, -, behind⟩ := exists_of_bind_eq_ok built
      obtain ⟨_, -, ending⟩ := exists_of_bind_eq_ok behind
      cases ending
      exact List.forall_mem_nil _
    · obtain ⟨_, -, behind⟩ := exists_of_bind_eq_ok built
      obtain ⟨_, -, ending⟩ := exists_of_bind_eq_ok behind
      cases ending
      exact List.forall_mem_nil _

theorem isNamed_of_mapM (named : ∀ name ∈ types.keys, isPlainName name.toList = true)
    {built : List (String × SchemaType)}
    (run : (types.entries.mapM fun entry => do
      return (entry.1, ← schemaType types entry.1 entry.2)) = .ok built) :
    Schema.IsNamed
      ⟨.ofList (built ++ ("String", .leaf) :: ("Boolean", .leaf) :: introspectionTypes)⟩ := by
  intro entry member
  rcases List.mem_append.1 (OrderedMap.mem_of_mem_entries_ofList member) with described | standard
  · obtain ⟨type, listed, found⟩ := exists_of_mem_mapM run entry described
    obtain ⟨result, held, ending⟩ := exists_of_bind_eq_ok found
    cases ending
    exact ⟨named _ (List.mem_map_of_mem listed), isPlainName_of_mem_members named held⟩
  · have always : ∀ entry ∈ ("String", SchemaType.leaf) :: ("Boolean", .leaf) :: introspectionTypes,
        entry ∈ standardTypes := by decide
    exact isPlainName_of_mem_standardTypes entry (always entry standard)

end Description

open Description in
theorem isNamed_of_ofDescription {data : Json} {schema : Schema}
    (read : ofDescription data = .ok schema) : schema.IsNamed := by
  unfold ofDescription at read
  split at read
  · split at read
    · obtain ⟨_, -, inside⟩ := exists_of_bind_eq_ok read
      obtain ⟨described, -, further⟩ := exists_of_bind_eq_ok inside
      obtain ⟨listed, each, behind⟩ := exists_of_bind_eq_ok further
      have named : ∀ name ∈ OrderedMap.keys (.ofList listed), isPlainName name.toList = true := by
        intro name known
        obtain ⟨⟨_, type⟩, member, rfl⟩ := List.mem_map.1 known
        obtain ⟨description, -, found⟩ := exists_of_mem_mapM each _
          (OrderedMap.mem_of_mem_entries_ofList member)
        exact isPlainName_of_describedType found
      obtain ⟨_, -, rooted⟩ := exists_of_bind_eq_ok behind
      dsimp only at rooted
      split at rooted
      · obtain ⟨built, run, ending⟩ := exists_of_bind_eq_ok rooted
        cases ending
        exact isNamed_of_mapM named run
      · obtain ⟨_, -, directives⟩ := exists_of_bind_eq_ok rooted
        obtain ⟨_, -, checked⟩ := exists_of_bind_eq_ok directives
        obtain ⟨built, run, ending⟩ := exists_of_bind_eq_ok checked
        cases ending
        exact isNamed_of_mapM named run
    · cases read
  · cases read

end Schema

namespace SchemaSource

variable {schema : Schema}

theorem isNamed_of_ofFiles {files : List FoundFile} (read : ofFiles files = .ok schema) :
    schema.IsNamed := by
  unfold ofFiles at read
  dsimp only at read
  split at read
  · cases read
  · obtain ⟨texts, -, parsed⟩ := exists_of_bind_eq_ok read
    exact Schema.isNamed_of_parse (mapError_eq_ok.1 parsed)

theorem isNamed_of_ofPath {untar : Untar} {tree : FileTree} {source : String}
    (read : ofPath untar tree source = .ok schema) : schema.IsNamed := by
  unfold ofPath at read
  dsimp only at read
  split at read
  · cases read
  · cases read
  · split at read
    · obtain ⟨files, -, found⟩ := exists_of_bind_eq_ok read
      exact isNamed_of_ofFiles found
    · obtain ⟨files, -, found⟩ := exists_of_bind_eq_ok read
      exact isNamed_of_ofFiles found

/-- Wherever a schema is loaded from, its types are called by names of the query language. -/
theorem isNamed_of_load {network : Endpoint.Network} {untar : Untar} {tree : FileTree}
    {source : String} {headers : List (String × String)}
    (loaded : load network untar tree source headers = .ok schema) : schema.IsNamed := by
  unfold load at loaded
  split at loaded
  · obtain ⟨data, -, read⟩ := exists_of_bind_eq_ok loaded
    exact Schema.isNamed_of_ofDescription (mapError_eq_ok.1 read)
  · exact isNamed_of_ofPath loaded

end SchemaSource

end FragmentImports
