import FragmentImports.Proofs.DirectImports

/-!
Fragments that a node defines itself. They are ignored where the node spreads them, but a foreign
fragment may spread one of them: then, and only then, it counts as external.
-/

namespace FragmentImports

/-- A chain leads to a foreign fragment that spreads one of the node's own fragments. -/
def Registry.SpreadsBack (registry : Registry) (node : Document.Node) : Prop :=
  ∃ length via name, SpreadChain registry node length via ∧ via ∉ node.localFragments ∧
    registry.Spreads via name ∧ name ∈ node.localFragments

variable {registry : Registry} {node : Document.Node}

theorem SpreadChain.spreadsBack {length : Nat} {name : String}
    (chain : SpreadChain registry node length name) (own : name ∈ node.localFragments) :
    registry.SpreadsBack node := by
  induction chain with
  | direct _ foreign _ => exact absurd own foreign
  | @through length via name front edge ih =>
      by_cases returned : via ∈ node.localFragments
      · exact ih returned
      · exact ⟨length, via, name, front, returned, edge, own⟩

theorem no_local_external_iff (keyed : registry.Keyed) (node : Document.Node) :
    (∀ name ∈ node.localFragments, name ∉ (externalFragments registry node).keys) ↔
      ¬registry.SpreadsBack node := by
  constructor
  · rintro internal ⟨length, via, name, front, -, edge, own⟩
    exact internal name own ((mem_keys_externalFragments keyed).2 ⟨_, .through front edge⟩)
  · intro forward name own member
    obtain ⟨length, chain⟩ := (mem_keys_externalFragments keyed).1 member
    exact forward (chain.spreadsBack own)

theorem no_local_listed_iff (keyed : registry.Keyed) (document : Document) :
    (∀ fragment ∈ document.fragments,
        ∀ external ∈ (registry.resolve (.document document)).external,
          external.name ≠ fragment.name) ↔
      ¬registry.SpreadsBack (.document document) := by
  rw [← no_local_external_iff keyed, ← Registry.map_name_external_resolve keyed]
  constructor
  · intro internal name own member
    obtain ⟨fragment, defined, rfl⟩ := List.mem_map.1 own
    obtain ⟨external, listed, equal⟩ := List.mem_map.1 member
    exact internal fragment defined external listed equal
  · intro internal fragment defined external listed equal
    refine internal fragment.name (List.mem_map.2 ⟨fragment, defined, rfl⟩) ?_
    exact List.mem_map.2 ⟨external, listed, equal⟩

/-- The own fragments of a node stay internal exactly when no foreign fragment that the node depends
on spreads one of them, and the same holds of what the outputs of a run list. -/
theorem local_fragments_internal_iff {schema : Schema} {settings : Settings}
    {documents : List SourceDocument}
    (built : Registry.build schema settings documents = .ok registry) :
    (∀ node : Document.Node,
      (∀ name ∈ node.localFragments, name ∉ (externalFragments registry node).keys) ↔
        ¬registry.SpreadsBack node) ∧
    ∀ context generation,
      Generation.prepare schema settings documents context = .ok generation →
        ∀ output ∈ generation.outputFiles,
          (∀ fragment ∈ output.source.document.fragments,
              ∀ external ∈ output.plan.external, external.name ≠ fragment.name) ↔
            ¬registry.SpreadsBack (.document output.source.document) := by
  have keyed : registry.Keyed := Registry.keyed_of_build built
  constructor
  · exact no_local_external_iff keyed
  · intro context generation prepared output member
    obtain ⟨again, same, rfl⟩ := Generation.prepare_eq_ok_iff.1 prepared
    cases built.symm.trans same
    obtain ⟨source, -, rfl⟩ := List.mem_map.1 member
    exact no_local_listed_iff keyed source.document

/-- The query depends on `X` and `Y` of other documents, neither of which spreads its `L`. -/
def forwardQuery : SourceDocument := .ofSpreads "q.graphql" [("L", ["X"])] ["L", "X"]

def forwardDocuments : List SourceDocument :=
  [forwardQuery, .ofSpreads "x.graphql" [("X", ["Y"])] [],
    .ofSpreads "y.graphql" [("Y", ["X"])] []]

theorem local_fragments_internal_forward :
    ∃ generation,
      Generation.prepare userSchema {} forwardDocuments ⟨["work"], ""⟩ = .ok generation ∧
        "L" ∉ (externalFragments generation.registry (.document forwardQuery.document)).keys ∧
        ∀ output ∈ generation.outputFiles, output.source = forwardQuery →
          ∀ external ∈ output.plan.external, external.name ≠ "L" := by
  obtain ⟨registry, built⟩ : ∃ registry,
      Registry.build userSchema {} forwardDocuments = .ok registry :=
    Registry.exists_build (by decide) (by decide)
  have prepared : Generation.prepare userSchema {} forwardDocuments ⟨["work"], ""⟩ =
      .ok ⟨{}, registry, forwardDocuments, ⟨["work"], ""⟩⟩ :=
    Generation.prepare_eq_ok_iff.2 ⟨registry, built, rfl⟩
  have unspread : ∀ source ∈ forwardDocuments, ∀ fragment ∈ source.document.fragments,
      "L" ∉ Document.Selection.allSpreads fragment.selections := by decide
  have forward : ¬registry.SpreadsBack (.document forwardQuery.document) := by
    rintro ⟨length, via, name, -, -, ⟨entry, found, spread, -⟩, own⟩
    obtain ⟨source, member, defined, -⟩ := Registry.origin_of_build built found
    have only : name = "L" := List.mem_singleton.1 own
    exact unspread source member entry.definition defined (only ▸ spread)
  have exact := local_fragments_internal_iff built
  refine ⟨_, prepared, (exact.1 _).2 forward "L" (by decide), ?_⟩
  intro output planned origin
  have defined : Document.Fragment.ofSpreads "L" "User" ["X"] ∈
      output.source.document.fragments := by
    rw [origin]
    decide
  rw [← origin] at forward
  exact (exact.2 ⟨["work"], ""⟩ _ prepared output planned).2 forward _ defined

/-- The query depends on `X` of another document, which spreads the query's own `L`. -/
def returningQuery : SourceDocument := .ofSpreads "a.graphql" [("L", [])] ["X"]

def returningDocuments : List SourceDocument :=
  [returningQuery, .ofSpreads "b.graphql" [("X", ["L"])] []]

theorem local_fragment_listed_as_external :
    ∃ generation,
      Generation.prepare userSchema {} returningDocuments ⟨["work"], ""⟩ = .ok generation ∧
        "L" ∈ (Document.Node.document returningQuery.document).localFragments ∧
        "L" ∈ (externalFragments generation.registry (.document returningQuery.document)).keys ∧
        ∃ output ∈ generation.outputFiles, output.source = returningQuery ∧
          "L" ∈ output.plan.external.map fun fragment => fragment.name := by
  obtain ⟨registry, built⟩ : ∃ registry,
      Registry.build userSchema {} returningDocuments = .ok registry :=
    Registry.exists_build (by decide) (by decide)
  have keyed : registry.Keyed := Registry.keyed_of_build built
  have defined : Document.Fragment.ofSpreads "L" "User" [] ∈ returningQuery.document.fragments := by
    decide
  have spreading : Document.Fragment.ofSpreads "X" "User" ["L"] ∈
      (SourceDocument.ofSpreads "b.graphql" [("X", ["L"])] []).document.fragments := by decide
  have own : "L" ∈ registry.keys := Registry.mem_keys_of_build built (by decide) defined
  obtain ⟨entry, found, definition⟩ := Registry.definition_of_build built (by decide) spreading
  have edge : registry.Spreads "X" "L" := by
    refine ⟨entry, found, ?_, own⟩
    rw [definition]
    decide
  have first : SpreadChain registry (.document returningQuery.document) 0 "X" :=
    .direct (by decide) (by decide) edge.source_mem
  have reported : "L" ∈ (externalFragments registry (.document returningQuery.document)).keys :=
    (mem_keys_externalFragments keyed).2 ⟨1, .through first edge⟩
  have planned : returningQuery ∈ returningDocuments.filter Generation.needsOutput := by decide
  refine ⟨_, Generation.prepare_eq_ok_iff.2 ⟨registry, built, rfl⟩, by decide, reported, _,
    List.mem_map.2 ⟨returningQuery, planned, rfl⟩, rfl, ?_⟩
  rw [← Registry.map_name_external_resolve keyed] at reported
  exact reported

end FragmentImports
