import FragmentImports.Proofs.Outcome
import FragmentImports.Proofs.ScanErrors
import FragmentImports.Proofs.TransitiveImports

/-!
Growing sets of documents. What a scan has recorded or reported stays as it is when documents are
added behind the others: entries and conflicting names are appended, and an error on a type is
final.
-/

namespace FragmentImports

theorem distinct_append_eq_filter {α : Type} [DecidableEq α] (front back : List α) :
    distinct (front ++ back) =
      distinct front ++ (distinct back).filter fun item => item ∉ front := by
  induction back using List.reverseRecOn with
  | nil => simp [distinct]
  | append_singleton items item ih =>
      rw [← List.append_assoc, distinct_append_singleton, ih, distinct_append_singleton]
      by_cases known : item ∈ front
      · have listed : item ∈ distinct front ++
            (distinct items).filter fun other => other ∉ front :=
          List.mem_append_left _ (mem_distinct.2 known)
        rw [addDistinct_of_mem listed, addDistinct]
        split
        · rfl
        · rw [List.filter_append, List.filter_singleton, decide_eq_false (not_not.2 known)]
          simp
      · by_cases again : item ∈ items
        · have listed : item ∈ (distinct items).filter fun other => other ∉ front :=
            List.mem_filter.2 ⟨mem_distinct.2 again, decide_eq_true known⟩
          rw [addDistinct_of_mem (List.mem_append_right _ listed),
            addDistinct_of_mem (mem_distinct.2 again)]
        · have fresh : item ∉ distinct front ++
              (distinct items).filter fun other => other ∉ front := by
            rw [List.mem_append, mem_distinct, List.mem_filter, mem_distinct]
            rintro (inside | ⟨inside, -⟩)
            · exact known inside
            · exact again inside
          have latest : item ∉ distinct items := fun inside => again (mem_distinct.1 inside)
          rw [addDistinct, if_neg fresh, addDistinct, if_neg latest, List.filter_append,
            List.filter_singleton, decide_eq_true known, List.append_assoc]
          rfl

namespace Registry

theorem occurrences_append (front back : List SourceDocument) :
    occurrences (front ++ back) = occurrences front ++ occurrences back := List.flatMap_append

/-- One scan goes on where another one is: what was recorded and reported is still in front. -/
structure Scan.Extends (scan next : Scan) : Prop where
  entries : scan.entries.entries <+: next.entries.entries
  conflicts : scan.conflicts <+: next.conflicts

theorem Scan.Extends.refl (scan : Scan) : scan.Extends scan :=
  ⟨List.prefix_refl _, List.prefix_refl _⟩

theorem Scan.Extends.trans {scan next last : Scan} (first : scan.Extends next)
    (second : next.Extends last) : scan.Extends last :=
  ⟨first.entries.trans second.entries, first.conflicts.trans second.conflicts⟩

theorem prefix_addDistinct {α : Type} [DecidableEq α] (kept : List α) (item : α) :
    kept <+: addDistinct kept item := by
  unfold addDistinct
  split
  · exact List.prefix_refl _
  · exact List.prefix_append _ _

variable {schema : Schema} {settings : Settings}

theorem Scan.extends_add {scan next : Scan} {occurrence : Occurrence}
    (step : Scan.add schema settings scan occurrence = .ok next) : scan.Extends next := by
  obtain ⟨type, -, ⟨absent, rfl⟩ | ⟨filed, -, rfl⟩⟩ := Scan.add_cases step
  · refine ⟨?_, List.prefix_refl _⟩
    rw [OrderedMap.entries_insert_of_absent absent]
    exact List.prefix_append _ _
  · refine ⟨List.prefix_refl _, ?_⟩
    dsimp only
    split
    · exact List.prefix_refl _
    · exact prefix_addDistinct _ _

theorem Scan.extends_foldlM {rest : List Occurrence} {scan last : Scan}
    (run : rest.foldlM (Scan.add schema settings) scan = .ok last) : scan.Extends last := by
  induction rest generalizing scan with
  | nil =>
      cases run
      exact Scan.Extends.refl _
  | cons occurrence rest ih =>
      rw [List.foldlM_cons] at run
      obtain ⟨next, step, behind⟩ := exists_of_bind_eq_ok run
      exact (Scan.extends_add step).trans (ih behind)

variable {documents later : List SourceDocument}

/-- A build over more documents goes on with the scan of the first ones. -/
theorem build_append_of_scan {scan : Scan}
    (run : (occurrences documents).foldlM (Scan.add schema settings) {} = .ok scan) :
    build schema settings (documents ++ later) =
      ((occurrences later).foldlM (Scan.add schema settings) scan).bind Scan.finish := by
  rw [build, occurrences_append, List.foldlM_append, run]
  rfl

theorem exists_prefix_of_build {registry : Registry}
    (built : build schema settings (documents ++ later) = .ok registry) :
    ∃ earlier, build schema settings documents = .ok earlier ∧
      earlier.entries <+: registry.entries := by
  obtain ⟨last, run, clean, rfl⟩ := build_cases built
  rw [occurrences_append, List.foldlM_append] at run
  obtain ⟨scan, before, behind⟩ := exists_of_bind_eq_ok run
  have grown := Scan.extends_foldlM behind
  have unreported : scan.conflicts = [] := by
    rw [← List.prefix_nil, ← clean]
    exact grown.conflicts
  refine ⟨scan.entries, ?_, grown.entries⟩
  rw [build, before]
  exact if_pos unreported

theorem any_defines_iff {name : String} :
    documents.any (fun source => source.defines name) = true ↔
      name ∈ (occurrences documents).map fun occurrence => occurrence.fragment.name := by
  simp only [List.any_eq_true, SourceDocument.defines, decide_eq_true_eq, List.mem_map,
    mem_occurrences]
  constructor
  · rintro ⟨source, listed, fragment, defined, named⟩
    exact ⟨⟨source.location, fragment⟩, ⟨source, listed, defined, rfl⟩, named⟩
  · rintro ⟨occurrence, ⟨source, listed, defined, -⟩, named⟩
    exact ⟨source, listed, occurrence.fragment, defined, named⟩

theorem keys_of_build_append {document : SourceDocument} {earlier registry : Registry}
    (before : build schema settings documents = .ok earlier)
    (built : build schema settings (documents ++ [document]) = .ok registry) :
    registry.keys = earlier.keys ++
      (distinct (document.document.fragments.map Document.Fragment.name)).filter fun name =>
        !documents.any fun source => source.defines name := by
  have own : (occurrences [document]).map (fun occurrence => occurrence.fragment.name) =
      document.document.fragments.map Document.Fragment.name := by
    simp [occurrences]
  rw [keys_of_build built, keys_of_build before, occurrences_append, List.map_append, own,
    distinct_append_eq_filter]
  congr 1
  apply List.filter_congr
  intro name _
  rw [Bool.eq_iff_iff, decide_eq_true_eq, Bool.not_eq_true', ← Bool.not_eq_true, any_defines_iff]

theorem build_append_of_unknownType {fragment type : String}
    (failed : build schema settings documents = .error (.unknownType fragment type)) :
    build schema settings (documents ++ later) = .error (.unknownType fragment type) := by
  rw [build, occurrences_append, List.foldlM_append]
  rw [build] at failed
  cases run : (occurrences documents).foldlM (Scan.add schema settings) {} with
  | error fault =>
      rw [run] at failed
      cases failed
      rfl
  | ok scan =>
      rw [run] at failed
      exact absurd failed (Scan.finish_ne_unknownType scan fragment type)

theorem exists_scan_of_conflicting {names : List String}
    (failed : build schema settings documents = .error (.conflicting names)) :
    ∃ scan, (occurrences documents).foldlM (Scan.add schema settings) {} = .ok scan ∧
      scan.conflicts = names ∧ names ≠ [] := by
  by_cases unknown : ∃ occurrence ∈ occurrences documents,
      schema.get? occurrence.fragment.onType = none
  · obtain ⟨_, -, -, ended⟩ := build_of_unknown settings unknown
    rw [ended] at failed
    cases failed
  · push Not at unknown
    obtain ⟨scan, run⟩ := Scan.exists_foldlM settings {} unknown
    rw [build, run] at failed
    obtain ⟨reported, told⟩ := Scan.finish_eq_error_iff.1 failed
    exact ⟨scan, run, told, reported⟩

theorem build_append_of_conflicting (later : List SourceDocument) {names : List String}
    (failed : build schema settings documents = .error (.conflicting names)) :
    (∃ occurrence ∈ occurrences later, schema.get? occurrence.fragment.onType = none ∧
        build schema settings (documents ++ later) =
          .error (.unknownType occurrence.fragment.name occurrence.fragment.onType)) ∨
      ∃ more,
        build schema settings (documents ++ later) = .error (.conflicting (names ++ more)) := by
  obtain ⟨scan, run, rfl, reported⟩ := exists_scan_of_conflicting failed
  rw [build_append_of_scan run]
  by_cases unknown : ∃ occurrence ∈ occurrences later,
      schema.get? occurrence.fragment.onType = none
  · obtain ⟨occurrence, member, untyped, ended⟩ := Scan.foldlM_of_unknown settings scan unknown
    rw [ended]
    exact Or.inl ⟨occurrence, member, untyped, rfl⟩
  · push Not at unknown
    obtain ⟨last, behind⟩ := Scan.exists_foldlM settings scan unknown
    obtain ⟨more, grown⟩ := (Scan.extends_foldlM behind).conflicts
    refine Or.inr ⟨more, ?_⟩
    rw [behind]
    refine Scan.finish_eq_error_iff.2 ⟨?_, grown.symm⟩
    exact fun silent => reported (List.append_eq_nil_iff.1 silent).1

/-- One more document behind the others changes nothing of what they come to. A registry of all is
one of the others with the new names of the document behind it, in the order of their definitions;
an unknown type among the others is told all the same, and names that differ among them are told in
front of others, unless the document has a fragment on an unknown type. -/
theorem build_append_document (schema : Schema) (settings : Settings)
    (documents : List SourceDocument) (document : SourceDocument) :
    (∀ registry, build schema settings (documents ++ [document]) = .ok registry →
      ∃ earlier added, build schema settings documents = .ok earlier ∧
        registry.entries = earlier.entries ++ added ∧
        added.map Prod.fst =
          (distinct (document.document.fragments.map Document.Fragment.name)).filter fun name =>
            !documents.any fun source => source.defines name) ∧
    (∀ fragment type, build schema settings documents = .error (.unknownType fragment type) →
      build schema settings (documents ++ [document]) = .error (.unknownType fragment type)) ∧
    ∀ names, build schema settings documents = .error (.conflicting names) →
      (∃ fragment ∈ document.document.fragments, schema.get? fragment.onType = none ∧
        build schema settings (documents ++ [document]) =
          .error (.unknownType fragment.name fragment.onType)) ∨
      ∃ more, build schema settings (documents ++ [document]) =
        .error (.conflicting (names ++ more)) := by
  refine ⟨?_, ?_, ?_⟩
  · intro registry built
    obtain ⟨earlier, before, added, grown⟩ := exists_prefix_of_build built
    refine ⟨earlier, added, before, grown.symm, ?_⟩
    have keys := keys_of_build_append before built
    rw [OrderedMap.keys, ← grown, List.map_append] at keys
    exact List.append_cancel_left keys
  · exact fun fragment type => build_append_of_unknownType
  · intro names failed
    rcases build_append_of_conflicting [document] failed with
      ⟨occurrence, member, untyped, ended⟩ | more
    · obtain ⟨source, listed, defined, -⟩ := mem_occurrences.1 member
      rw [List.mem_singleton] at listed
      subst listed
      exact Or.inl ⟨occurrence.fragment, defined, untyped, ended⟩
    · exact Or.inr more

end Registry

def frontDocument : SourceDocument := .ofSpreads "a.graphql" [("B", ["C"]), ("C", [])] []

def backDocument : SourceDocument := .ofSpreads "q.graphql" [("L", ["B"]), ("C", [])] ["L"]

def contraryDocument : SourceDocument := .ofSpreads "b.graphql" [("B", [])] []

def contestedDocument : SourceDocument := .ofSpreads "c.graphql" [("C", ["B"]), ("B", ["C"])] []

def untypedDocument : SourceDocument :=
  ⟨"u.graphql", ⟨[.fragment (.ofSpreads "U" "Missing" [])]⟩⟩

theorem build_append_document_front :
    (∃ registry earlier added,
      Registry.build userSchema {} ([frontDocument] ++ [backDocument]) = .ok registry ∧
        Registry.build userSchema {} [frontDocument] = .ok earlier ∧
        registry.entries = earlier.entries ++ added ∧ added.map Prod.fst = ["L"]) ∧
    Registry.build userSchema {} ([untypedDocument] ++ [frontDocument]) =
      .error (.unknownType "U" "Missing") ∧
    ∃ more, Registry.build userSchema {}
      ([frontDocument, contraryDocument] ++ [contestedDocument]) =
        .error (.conflicting ("B" :: more)) := by
  refine ⟨?_, ?_, ?_⟩
  · obtain ⟨registry, built⟩ : ∃ registry,
        Registry.build userSchema {} ([frontDocument] ++ [backDocument]) = .ok registry :=
      Registry.exists_build (by decide) (by decide)
    obtain ⟨earlier, added, before, grown, names⟩ :=
      (Registry.build_append_document userSchema {} [frontDocument] backDocument).1 registry built
    exact ⟨registry, earlier, added, built, before, grown, names.trans (by decide)⟩
  · exact (Registry.build_append_document userSchema {} [untypedDocument] frontDocument).2.1
      "U" "Missing" (by decide +kernel)
  · have typed : ∀ fragment ∈ contestedDocument.document.fragments,
        userSchema.get? fragment.onType ≠ none := by decide
    rcases (Registry.build_append_document userSchema {} [frontDocument, contraryDocument]
        contestedDocument).2.2 ["B"] (by decide +kernel) with ⟨fragment, defined, untyped, -⟩ | more
    · exact absurd untyped (typed fragment defined)
    · exact more

end FragmentImports
