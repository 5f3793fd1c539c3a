import FragmentImports.Proofs.DirectImports
import FragmentImports.Proofs.ScanOutcome
import Mathlib.Data.List.Pairwise

/-!
The order of documents. Registries of the same documents in another order say the same of every
fragment, except for the file that exports it when several documents define it, and a walk along
spreads cannot tell them apart.
-/

namespace FragmentImports

namespace SpreadWalk

variable {registry : Registry} {path ignored spreads : List String} {before after : SpreadDepths}

theorem not_skipped {name : String} {entry : Registry.Entry} (foreign : name ∉ ignored)
    (off : name ∉ path) (found : registry.get? name = some entry)
    (farther : ¬before.Within name path.length) :
    ¬(name ∈ ignored ∨ name ∈ path ∨ name ∉ registry.keys ∨
      before.Within name path.length) := by
  rintro (ignored | onPath | unregistered | reached)
  · exact foreign ignored
  · exact off onPath
  · exact unregistered (OrderedMap.mem_keys_of_get? found)
  · exact farther reached

theorem unique (walk : SpreadWalk registry path ignored spreads before after)
    {other : SpreadDepths} (again : SpreadWalk registry path ignored spreads before other) :
    after = other := by
  induction walk generalizing other with
  | finished =>
      cases again
      rfl
  | passed skipped _ ih =>
      cases again with
      | passed _ onward => exact ih onward
      | entered foreign off found farther _ _ =>
          exact absurd skipped (not_skipped foreign off found farther)
  | entered foreign off found farther _ _ ihThrough ihOnward =>
      cases again with
      | passed skipped _ =>
          exact absurd skipped (not_skipped foreign off found farther)
      | entered _ _ filed _ through onward =>
          cases found.symm.trans filed
          cases ihThrough through
          exact ihOnward onward

end SpreadWalk

namespace Registry

def Entry.contents (entry : Entry) : String × List String × Document.Fragment :=
  (entry.onType, entry.importNames, entry.definition)

theorem Entry.definition_eq {entry twin : Entry} (same : twin.contents = entry.contents) :
    twin.definition = entry.definition :=
  congrArg (fun told => told.2.2) same

/-- Two registries know the same names and say the same of them, but for the exporting files. -/
def SameContents (registry other : Registry) : Prop :=
  ∀ name, (registry.get? name).map Entry.contents = (other.get? name).map Entry.contents

variable {registry other : Registry}

theorem SameContents.symm (same : registry.SameContents other) : other.SameContents registry :=
  fun name => (same name).symm

theorem SameContents.exists_entry (same : registry.SameContents other) {name : String}
    {entry : Entry} (found : registry.get? name = some entry) :
    ∃ twin, other.get? name = some twin ∧ twin.contents = entry.contents := by
  have known := same name
  rw [found, Option.map_some, eq_comm, Option.map_eq_some_iff] at known
  exact known

theorem SameContents.mem_keys (same : registry.SameContents other) {name : String}
    (member : name ∈ registry.keys) : name ∈ other.keys := by
  obtain ⟨entry, found⟩ := OrderedMap.mem_keys_iff.1 member
  obtain ⟨twin, again, -⟩ := same.exists_entry found
  exact OrderedMap.mem_keys_of_get? again

theorem SameContents.spreadWalk (same : registry.SameContents other)
    {path ignored spreads : List String} {before after : SpreadDepths}
    (walk : SpreadWalk registry path ignored spreads before after) :
    SpreadWalk other path ignored spreads before after := by
  induction walk with
  | finished => exact .finished
  | passed skipped _ ih =>
      refine .passed (skipped.imp_right (Or.imp_right (Or.imp_left ?_))) ih
      exact fun unregistered member => unregistered (same.symm.mem_keys member)
  | entered foreign off found farther _ _ ihThrough ihOnward =>
      obtain ⟨twin, filed, contents⟩ := same.exists_entry found
      rw [← Entry.definition_eq contents] at ihThrough
      exact .entered foreign off filed farther ihThrough ihOnward

theorem SameContents.externalFragments_eq (same : registry.SameContents other)
    (node : Document.Node) : externalFragments registry node = externalFragments other node :=
  (same.spreadWalk (spreadWalk_externalFragments registry node)).unique
    (spreadWalk_externalFragments other node)

theorem SameContents.external_resolve (same : registry.SameContents other)
    (node : Document.Node) : (registry.resolve node).external = (other.resolve node).external := by
  simp only [resolve, plan, registered, same.externalFragments_eq node, List.map_filterMap,
    Option.map_map]
  apply List.filterMap_congr
  rintro ⟨name, depth⟩ -
  have known := congrArg (Option.map fun told : String × List String × Document.Fragment =>
    (⟨name, depth, told.1, told.2.2⟩ : ExternalFragment)) (same name)
  rw [Option.map_map, Option.map_map] at known
  exact known

theorem resolve_congr (same : ∀ name, registry.get? name = other.get? name)
    (node : Document.Node) : registry.resolve node = other.resolve node := by
  have contents : registry.SameContents other :=
    fun name => congrArg (Option.map Entry.contents) (same name)
  have listed : ∀ depths, registry.registered depths = other.registered depths := by
    intro depths
    simp only [registered, same]
  simp only [resolve, plan, importSources, listed, contents.externalFragments_eq node]

variable {schema : Schema} {settings : Settings} {first second : List SourceDocument}

theorem occurrences_perm (perm : first.Perm second) :
    (occurrences first).Perm (occurrences second) := perm.flatMap_right _

def NamesApart (one other : SourceDocument) : Prop :=
  ∀ fragment ∈ one.document.fragments, ∀ twin ∈ other.document.fragments,
    fragment.name ≠ twin.name

instance : DecidableRel NamesApart := fun one other =>
  inferInstanceAs (Decidable (∀ fragment ∈ one.document.fragments,
    ∀ twin ∈ other.document.fragments, fragment.name ≠ twin.name))

instance : Std.Symm NamesApart where
  symm _ _ apart twin again fragment defined := (apart fragment defined twin again).symm

theorem exists_counterpart (perm : first.Perm second)
    (built : build schema settings first = .ok registry)
    (again : build schema settings second = .ok other) {name : String} {entry : Entry}
    (found : registry.get? name = some entry) :
    ∃ twin, other.get? name = some twin ∧ twin.contents = entry.contents := by
  obtain ⟨origin, type, source, typed, rfl⟩ := (describes_of_build built).first name entry found
  have member := List.mem_of_find?_eq_some source
  have named : origin.fragment.name = name := of_decide_eq_true (List.find?_some source :)
  obtain ⟨twin, filed, definition⟩ := (describes_of_build again).agreeing rfl origin
    ((occurrences_perm perm).mem_iff.1 member)
  rw [named] at filed
  refine ⟨twin, filed, ?_⟩
  obtain ⟨copy, kind, -, known, rfl⟩ := (describes_of_build again).first name twin filed
  have equal : copy.fragment = origin.fragment := definition
  rw [equal, typed, Option.some.injEq] at known
  subst known
  simp only [Entry.contents, entryOf, equal]

theorem sameContents_of_build (perm : first.Perm second)
    (built : build schema settings first = .ok registry)
    (again : build schema settings second = .ok other) : registry.SameContents other := by
  intro name
  apply Option.ext
  intro told
  simp only [Option.map_eq_some_iff]
  constructor
  · rintro ⟨entry, found, rfl⟩
    exact exists_counterpart perm built again found
  · rintro ⟨entry, found, rfl⟩
    exact exists_counterpart perm.symm again built found

theorem get?_eq_of_build (perm : first.Perm second) (apart : first.Pairwise NamesApart)
    (built : build schema settings first = .ok registry)
    (again : build schema settings second = .ok other) (name : String) :
    registry.get? name = other.get? name := by
  have same := sameContents_of_build perm built again
  cases found : registry.get? name with
  | none =>
      have known := same name
      rw [found, Option.map_none, eq_comm, Option.map_eq_none_iff] at known
      exact known.symm
  | some entry =>
      obtain ⟨twin, filed, contents⟩ := same.exists_entry found
      obtain ⟨source, member, defined, named, place⟩ := origin_of_build built found
      obtain ⟨copy, listed, also, alike, elsewhere⟩ := origin_of_build again filed
      have origin : source = copy := by
        by_contra distinct
        exact apart.forall member (perm.mem_iff.2 listed) distinct _ defined _ also
          (named.trans alike.symm)
      rw [← origin, ← place] at elsewhere
      rw [filed]
      cases entry
      cases twin
      simp only [Entry.contents, Prod.mk.injEq] at contents
      simp only at elsewhere
      simp only [Option.some.injEq, Entry.mk.injEq]
      exact ⟨elsewhere.symm, contents.2.1.symm, contents.1.symm, contents.2.2.symm⟩

/-- Failures of one class, with the same names when they tell every name at fault. -/
inductive ScanError.Alike : ScanError → ScanError → Prop where
  | unknownType {fragment type other kind} :
      Alike (.unknownType fragment type) (.unknownType other kind)
  | conflicting {names others} (same : ∀ name, name ∈ names ↔ name ∈ others) :
      Alike (.conflicting names) (.conflicting others)

def HasUnknownType (schema : Schema) (documents : List SourceDocument) : Prop :=
  ∃ source ∈ documents, ∃ fragment ∈ source.document.fragments, schema.get? fragment.onType = none

theorem hasUnknownType_iff {documents : List SourceDocument} :
    HasUnknownType schema documents ↔
      ∃ occurrence ∈ occurrences documents, schema.get? occurrence.fragment.onType = none := by
  constructor
  · rintro ⟨source, member, fragment, defined, unknown⟩
    exact ⟨⟨source.location, fragment⟩, mem_occurrences.2 ⟨source, member, defined, rfl⟩, unknown⟩
  · rintro ⟨occurrence, member, unknown⟩
    obtain ⟨source, listed, defined, -⟩ := mem_occurrences.1 member
    exact ⟨source, listed, occurrence.fragment, defined, unknown⟩

theorem HasUnknownType.perm (perm : first.Perm second)
    (unknown : HasUnknownType schema first) : HasUnknownType schema second := by
  obtain ⟨source, member, rest⟩ := unknown
  exact ⟨source, perm.mem_iff.1 member, rest⟩

theorem build_of_hasUnknownType (settings : Settings) {documents : List SourceDocument}
    (unknown : HasUnknownType schema documents) : ∃ fragment type,
      build schema settings documents = .error (.unknownType fragment type) := by
  obtain ⟨_, -, -, failed⟩ := build_of_unknown settings (hasUnknownType_iff.1 unknown)
  exact ⟨_, _, failed⟩

theorem build_perm (schema : Schema) (settings : Settings) (perm : first.Perm second) :
    (∃ fault other, build schema settings first = .error fault ∧
        build schema settings second = .error other ∧ fault.Alike other ∧
        ((∃ fragment type, fault = .unknownType fragment type) ↔ HasUnknownType schema first)) ∨
      ∃ registry other, build schema settings first = .ok registry ∧
        build schema settings second = .ok other := by
  by_cases unknown : HasUnknownType schema first
  · obtain ⟨fragment, type, failed⟩ := build_of_hasUnknownType settings unknown
    obtain ⟨_, _, also⟩ := build_of_hasUnknownType settings (unknown.perm perm)
    exact Or.inl ⟨_, _, failed, also, .unknownType, iff_of_true ⟨fragment, type, rfl⟩ unknown⟩
  · have typed : ∀ {documents}, ¬HasUnknownType schema documents →
        ∀ occurrence ∈ occurrences documents, schema.get? occurrence.fragment.onType ≠ none := by
      intro documents known occurrence member untyped
      exact known (hasUnknownType_iff.2 ⟨occurrence, member, untyped⟩)
    have moved := occurrences_perm perm
    rcases build_of_known settings (typed unknown) with
      ⟨registry, built, agreed⟩ | ⟨names, failed, some, disputed⟩
    · rcases build_of_known settings (typed fun found => unknown (found.perm perm.symm)) with
        ⟨other, again, -⟩ | ⟨others, _, someOther, disputedOther⟩
      · exact Or.inr ⟨registry, other, built, again⟩
      · obtain ⟨name, member⟩ := List.exists_mem_of_ne_nil others someOther
        exact absurd (((disputedOther name).1 member).perm moved.symm) (agreed name)
    · rcases build_of_known settings (typed fun found => unknown (found.perm perm.symm)) with
        ⟨_, _, agreedOther⟩ | ⟨others, also, -, disputedOther⟩
      · obtain ⟨name, member⟩ := List.exists_mem_of_ne_nil names some
        exact absurd (((disputed name).1 member).perm moved) (agreedOther name)
      · refine Or.inl ⟨_, _, failed, also, .conflicting fun name => ?_, iff_of_false ?_ unknown⟩
        · rw [disputed, disputedOther]
          exact ⟨fun dispute => dispute.perm moved, fun dispute => dispute.perm moved.symm⟩
        · rintro ⟨_, _, impossible⟩
          cases impossible

end Registry

namespace Generation

theorem prepare_eq_error_iff {schema : Schema} {settings : Settings}
    {documents : List SourceDocument} {context : ImportContext} {fault : Registry.ScanError} :
    prepare schema settings documents context = .error fault ↔
      Registry.build schema settings documents = .error fault := by
  unfold prepare
  cases built : Registry.build schema settings documents with
  | error found => simp [bind, Except.bind]
  | ok registry => simp [bind, Except.bind, pure, Except.pure]

theorem outputFile_congr {registry other : Registry} (settings : Settings)
    (context : ImportContext) (same : ∀ name, registry.get? name = other.get? name)
    (first second : List SourceDocument) :
    outputFile ⟨settings, registry, first, context⟩ =
      outputFile ⟨settings, other, second, context⟩ := by
  funext source
  simp only [outputFile, Registry.resolve_congr same]

/-- The order of the documents decides neither whether a run can be prepared nor what it plans: the
fault is of the same class, and otherwise every document gets the same external fragments. The
files that export them, and so the imports, are the same when no name is defined in two
documents. -/
theorem document_order_immaterial (schema : Schema) (settings : Settings) (context : ImportContext)
    {first second : List SourceDocument} (perm : first.Perm second) :
    (∃ fault other, prepare schema settings first context = .error fault ∧
        prepare schema settings second context = .error other ∧ fault.Alike other ∧
        ((∃ fragment type, fault = .unknownType fragment type) ↔
          Registry.HasUnknownType schema first)) ∨
      ∃ generation other, prepare schema settings first context = .ok generation ∧
        prepare schema settings second context = .ok other ∧
        (∀ name, (generation.registry.get? name).map (fun entry =>
            (entry.onType, entry.importNames)) =
          (other.registry.get? name).map fun entry => (entry.onType, entry.importNames)) ∧
        (generation.outputFiles.map fun output => (output.source, output.plan.external)).Perm
          (other.outputFiles.map fun output => (output.source, output.plan.external)) ∧
        (first.Pairwise Registry.NamesApart → generation.outputFiles.Perm other.outputFiles) := by
  rcases Registry.build_perm schema settings perm with
    ⟨fault, other, failed, also, alike, unknown⟩ | ⟨registry, other, built, again⟩
  · exact Or.inl ⟨fault, other, prepare_eq_error_iff.2 failed, prepare_eq_error_iff.2 also, alike,
      unknown⟩
  · have same := Registry.sameContents_of_build perm built again
    have planned : (first.filter needsOutput).Perm (second.filter needsOutput) :=
      perm.filter needsOutput
    refine Or.inr ⟨_, _, prepare_eq_ok_iff.2 ⟨registry, built, rfl⟩,
      prepare_eq_ok_iff.2 ⟨other, again, rfl⟩, ?_, ?_, ?_⟩
    · intro name
      have told := congrArg (Option.map fun contents : String × List String × Document.Fragment =>
        (contents.1, contents.2.1)) (same name)
      rw [Option.map_map, Option.map_map] at told
      exact told
    · simp only [outputFiles, List.map_map]
      have equal : ∀ source : SourceDocument,
          (registry.resolve (.document source.document)).external =
            (other.resolve (.document source.document)).external :=
        fun source => same.external_resolve _
      have planOf := planned.map fun source =>
        (source, (registry.resolve (.document source.document)).external)
      simpa only [Function.comp_def, outputFile, equal] using planOf
    · intro apart
      have found := Registry.get?_eq_of_build perm apart built again
      rw [outputFiles, outputFiles, outputFile_congr settings context found first second]
      exact planned.map _

end Generation

theorem document_order_immaterial_reversed :
    ∃ generation other,
      Generation.prepare userSchema {} sharedDocuments ⟨["work"], "src"⟩ = .ok generation ∧
        Generation.prepare userSchema {} sharedDocuments.reverse ⟨["work"], "src"⟩ = .ok other ∧
        sharedDocuments.reverse.Perm sharedDocuments ∧
        (generation.outputFiles.map fun output => (output.source, output.plan.external)).Perm
          (other.outputFiles.map fun output => (output.source, output.plan.external)) := by
  obtain ⟨prior, prepared⟩ := Generation.exists_prepare userSchema {} sharedDocuments
    ⟨["work"], "src"⟩ (by decide) (by decide)
  rcases Generation.document_order_immaterial userSchema {} ⟨["work"], "src"⟩
    (List.reverse_perm sharedDocuments).symm with
      ⟨fault, -, failed, -⟩ | ⟨generation, other, built, again, -, plans, -⟩
  · cases prepared.symm.trans failed
  · exact ⟨generation, other, built, again, List.reverse_perm _, plans⟩

end FragmentImports
