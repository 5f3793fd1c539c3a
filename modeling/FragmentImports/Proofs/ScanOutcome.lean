import FragmentImports.Proofs.Registry

/-!
How a scan ends. A fragment on an unknown type ends it, wherever it stands; otherwise the names that
it reports are exactly those that the documents define in different ways. Neither depends on the
order of the fragments.
-/

namespace FragmentImports.Registry

def Disputed (occurrences : List Occurrence) (name : String) : Prop :=
  ∃ one ∈ occurrences, ∃ other ∈ occurrences,
    one.fragment.name = name ∧ other.fragment.name = name ∧ one.fragment ≠ other.fragment

theorem disputed_append_singleton {seen : List Occurrence} {occurrence : Occurrence}
    {name : String} : Disputed (seen ++ [occurrence]) name ↔ Disputed seen name ∨
      occurrence.fragment.name = name ∧
        ∃ other ∈ seen, other.fragment.name = name ∧ other.fragment ≠ occurrence.fragment := by
  constructor
  · rintro ⟨one, first, other, second, named, also, differ⟩
    rcases List.mem_append.1 first with earlier | now
    · rcases List.mem_append.1 second with before | latest
      · exact Or.inl ⟨one, earlier, other, before, named, also, differ⟩
      · rw [List.mem_singleton] at latest
        subst latest
        exact Or.inr ⟨also, one, earlier, named, differ⟩
    · rw [List.mem_singleton] at now
      subst now
      rcases List.mem_append.1 second with before | latest
      · exact Or.inr ⟨named, other, before, also, differ.symm⟩
      · rw [List.mem_singleton] at latest
        exact absurd (congrArg Occurrence.fragment latest).symm differ
  · rintro (⟨one, first, other, second, named, also, differ⟩ | ⟨named, other, before, also, differ⟩)
    · exact ⟨one, List.mem_append_left _ first, other, List.mem_append_left _ second, named, also,
        differ⟩
    · exact ⟨other, List.mem_append_left _ before, occurrence,
        List.mem_append_right _ List.mem_cons_self, also, named, differ⟩

theorem Disputed.perm {first second : List Occurrence} (perm : first.Perm second) {name : String}
    (disputed : Disputed first name) : Disputed second name := by
  obtain ⟨one, present, other, also, rest⟩ := disputed
  exact ⟨one, perm.mem_iff.1 present, other, perm.mem_iff.1 also, rest⟩

variable {schema : Schema} {settings : Settings}

theorem Scan.Describes.exists_origin {seen : List Occurrence} {scan : Scan} {name : String}
    {filed : Entry} (described : Scan.Describes schema settings seen scan)
    (found : scan.entries.get? name = some filed) :
    ∃ origin ∈ seen, origin.fragment.name = name ∧ filed.definition = origin.fragment := by
  obtain ⟨origin, type, first, -, rfl⟩ := described.first name filed found
  have named := List.find?_some first
  exact ⟨origin, List.mem_of_find?_eq_some first, of_decide_eq_true named, rfl⟩

/-- One more fragment makes its name disputed exactly when the scan keeps that name in mind. -/
theorem Scan.mem_conflicts_add {seen : List Occurrence} {scan next : Scan}
    {occurrence : Occurrence} (described : Scan.Describes schema settings seen scan)
    (noted : ∀ name, name ∈ scan.conflicts ↔ Disputed seen name)
    (step : Scan.add schema settings scan occurrence = .ok next) (name : String) :
    name ∈ next.conflicts ↔ Disputed (seen ++ [occurrence]) name := by
  rw [disputed_append_singleton]
  obtain ⟨type, known, ⟨absent, rfl⟩ | ⟨filed, found, rfl⟩⟩ := Scan.add_cases step
  · have fresh : ¬(occurrence.fragment.name = name ∧ ∃ other ∈ seen,
        other.fragment.name = name ∧ other.fragment ≠ occurrence.fragment) := by
      rintro ⟨rfl, other, member, named, -⟩
      exact described.unseen absent other member named
    rw [or_iff_left fresh]
    exact noted name
  · obtain ⟨origin, member, named, definition⟩ := described.exists_origin found
    by_cases same : filed.definition = occurrence.fragment
    · rw [if_pos same, noted name, iff_self_or]
      rintro ⟨rfl, other, before, also, differ⟩
      -- the earlier fragment differs from the registered one as well
      refine ⟨other, before, origin, member, also, named, ?_⟩
      rwa [← definition, same]
    · rw [if_neg same, mem_addDistinct, noted name]
      refine or_congr_right ⟨?_, fun ⟨equal, _⟩ => equal.symm⟩
      rintro rfl
      exact ⟨rfl, origin, member, named, definition ▸ same⟩

theorem Scan.mem_conflicts_foldlM {seen rest : List Occurrence} {scan last : Scan}
    (described : Scan.Describes schema settings seen scan)
    (noted : ∀ name, name ∈ scan.conflicts ↔ Disputed seen name)
    (run : rest.foldlM (Scan.add schema settings) scan = .ok last) (name : String) :
    name ∈ last.conflicts ↔ Disputed (seen ++ rest) name := by
  induction rest generalizing seen scan with
  | nil =>
      cases run
      simpa using noted name
  | cons occurrence rest ih =>
      rw [List.foldlM_cons] at run
      cases step : Scan.add schema settings scan occurrence with
      | error fault => simp [step, bind, Except.bind] at run
      | ok next =>
          rw [step] at run
          simpa using ih (described.add step) (Scan.mem_conflicts_add described noted step) run

theorem Scan.add_of_unknown (scan : Scan) {occurrence : Occurrence}
    (unknown : schema.get? occurrence.fragment.onType = none) :
    Scan.add schema settings scan occurrence =
      .error (.unknownType occurrence.fragment.name occurrence.fragment.onType) := by
  simp only [Scan.add, unknown]

theorem Scan.exists_add (settings : Settings) (scan : Scan) {occurrence : Occurrence}
    (known : schema.get? occurrence.fragment.onType ≠ none) :
    ∃ next, Scan.add schema settings scan occurrence = .ok next := by
  obtain ⟨type, typed⟩ := Option.ne_none_iff_exists'.1 known
  simp only [Scan.add, typed]
  exact ⟨_, rfl⟩

theorem Scan.exists_foldlM (settings : Settings) {rest : List Occurrence} (scan : Scan)
    (known : ∀ occurrence ∈ rest, schema.get? occurrence.fragment.onType ≠ none) :
    ∃ last, rest.foldlM (Scan.add schema settings) scan = .ok last := by
  induction rest generalizing scan with
  | nil => exact ⟨scan, rfl⟩
  | cons occurrence rest ih =>
      rw [List.forall_mem_cons] at known
      obtain ⟨next, step⟩ := Scan.exists_add settings scan known.1
      rw [List.foldlM_cons, step]
      exact ih next known.2

theorem Scan.foldlM_of_unknown (settings : Settings) {rest : List Occurrence} (scan : Scan)
    (unknown : ∃ occurrence ∈ rest, schema.get? occurrence.fragment.onType = none) :
    ∃ occurrence ∈ rest, schema.get? occurrence.fragment.onType = none ∧
      rest.foldlM (Scan.add schema settings) scan =
        .error (.unknownType occurrence.fragment.name occurrence.fragment.onType) := by
  induction rest generalizing scan with
  | nil =>
      obtain ⟨_, member, -⟩ := unknown
      cases member
  | cons occurrence rest ih =>
      rw [List.foldlM_cons]
      by_cases known : schema.get? occurrence.fragment.onType = none
      · refine ⟨occurrence, List.mem_cons_self, known, ?_⟩
        rw [Scan.add_of_unknown scan known]
        rfl
      · obtain ⟨next, step⟩ := Scan.exists_add settings scan known
        have later : ∃ occurrence ∈ rest, schema.get? occurrence.fragment.onType = none := by
          obtain ⟨other, member, untyped⟩ := unknown
          rcases List.mem_cons.1 member with rfl | inside
          · exact absurd untyped known
          · exact ⟨other, inside, untyped⟩
        obtain ⟨other, member, untyped, run⟩ := ih next later
        rw [step]
        exact ⟨other, List.mem_cons_of_mem _ member, untyped, run⟩

variable {documents : List SourceDocument}

theorem build_of_unknown (settings : Settings)
    (unknown : ∃ occurrence ∈ occurrences documents,
      schema.get? occurrence.fragment.onType = none) :
    ∃ occurrence ∈ occurrences documents, schema.get? occurrence.fragment.onType = none ∧
      build schema settings documents =
        .error (.unknownType occurrence.fragment.name occurrence.fragment.onType) := by
  obtain ⟨occurrence, member, untyped, run⟩ :=
    Scan.foldlM_of_unknown settings {} unknown
  refine ⟨occurrence, member, untyped, ?_⟩
  rw [build, run]
  rfl

/-- Over known types a registry is built unless names are disputed; then all of these are told. -/
theorem build_of_known (settings : Settings)
    (known : ∀ occurrence ∈ occurrences documents,
      schema.get? occurrence.fragment.onType ≠ none) :
    (∃ registry, build schema settings documents = .ok registry ∧
        ∀ name, ¬Disputed (occurrences documents) name) ∨
      ∃ names, build schema settings documents = .error (.conflicting names) ∧ names ≠ [] ∧
        ∀ name, name ∈ names ↔ Disputed (occurrences documents) name := by
  obtain ⟨last, run⟩ := Scan.exists_foldlM settings {} known
  have undisputed : ∀ name, name ∈ ({} : Scan).conflicts ↔ Disputed [] name := by
    intro name
    simp [Disputed]
  have noted := Scan.mem_conflicts_foldlM Scan.describes_nil undisputed run
  rw [List.nil_append] at noted
  have result : build schema settings documents = last.finish := by
    rw [build, run]
    rfl
  by_cases clean : last.conflicts = []
  · rw [Scan.finish, if_pos clean] at result
    refine Or.inl ⟨last.entries, result, fun name disputed => ?_⟩
    have member := (noted name).2 disputed
    rw [clean] at member
    cases member
  · rw [Scan.finish, if_neg clean] at result
    exact Or.inr ⟨last.conflicts, result, clean, noted⟩

end FragmentImports.Registry
