import FragmentImports.Registry
import FragmentImports.Proofs.OrderedMap

/-!
What a scan records. After any number of fragments the names are those met so far, in the order of
their first definitions, and every entry is that of the first definition of its name.
-/

namespace FragmentImports

namespace Registry

def Keyed (registry : Registry) : Prop :=
  ∀ entry ∈ registry.entries, entry.2.definition.name = entry.1

instance (registry : Registry) : Decidable registry.Keyed :=
  inferInstanceAs (Decidable (∀ entry ∈ registry.entries, entry.2.definition.name = entry.1))

theorem Keyed.name_eq {registry : Registry} (keyed : registry.Keyed) {name : String}
    {entry : Entry} (found : registry.get? name = some entry) : entry.definition.name = name :=
  keyed (name, entry) ((OrderedMap.get?_eq_some_iff registry name entry).1 found)

theorem mem_occurrences {documents : List SourceDocument} {occurrence : Occurrence} :
    occurrence ∈ occurrences documents ↔ ∃ source ∈ documents,
      occurrence.fragment ∈ source.document.fragments ∧ occurrence.location = source.location := by
  rcases occurrence with ⟨location, fragment⟩
  simp only [occurrences, List.mem_flatMap, List.mem_map, Occurrence.mk.injEq]
  constructor
  · rintro ⟨source, member, found, inside, rfl, rfl⟩
    exact ⟨source, member, inside, rfl⟩
  · rintro ⟨source, member, inside, rfl⟩
    exact ⟨source, member, fragment, inside, rfl, rfl⟩

variable {schema : Schema} {settings : Settings}

/-- A scan that goes on knew the type; it either files a new name or leaves the entries alone. -/
theorem Scan.add_cases {scan next : Scan} {occurrence : Occurrence}
    (step : Scan.add schema settings scan occurrence = .ok next) :
    ∃ type, schema.get? occurrence.fragment.onType = some type ∧
      ((scan.entries.get? occurrence.fragment.name = none ∧
          next = { scan with
            entries := scan.entries.insert occurrence.fragment.name
              (entryOf schema settings occurrence type) }) ∨
        ∃ entry, scan.entries.get? occurrence.fragment.name = some entry ∧
          next = { scan with
            conflicts := if entry.definition = occurrence.fragment then scan.conflicts
              else addDistinct scan.conflicts occurrence.fragment.name }) := by
  unfold Scan.add at step
  cases known : schema.get? occurrence.fragment.onType with
  | none => simp [known] at step
  | some type =>
      refine ⟨type, rfl, ?_⟩
      simp only [known, Except.ok.injEq] at step
      cases found : scan.entries.get? occurrence.fragment.name with
      | none =>
          simp only [found] at step
          exact Or.inl ⟨rfl, step.symm⟩
      | some entry =>
          simp only [found] at step
          refine Or.inr ⟨entry, rfl, ?_⟩
          by_cases same : entry.definition = occurrence.fragment
          · rw [if_pos same] at step ⊢
            exact step.symm
          · rw [if_neg same] at step ⊢
            exact step.symm

theorem Scan.add_of_absent {scan : Scan} {occurrence : Occurrence} {type : SchemaType}
    (known : schema.get? occurrence.fragment.onType = some type)
    (absent : scan.entries.get? occurrence.fragment.name = none) :
    Scan.add schema settings scan occurrence = .ok { scan with
      entries := scan.entries.insert occurrence.fragment.name
        (entryOf schema settings occurrence type) } := by
  simp only [Scan.add, known, absent]

theorem Scan.add_of_equal {scan : Scan} {occurrence : Occurrence} {type : SchemaType}
    {entry : Entry}
    (known : schema.get? occurrence.fragment.onType = some type)
    (found : scan.entries.get? occurrence.fragment.name = some entry)
    (same : entry.definition = occurrence.fragment) :
    Scan.add schema settings scan occurrence = .ok scan := by
  simp only [Scan.add, known, found, if_pos same]

/-- A scan holds the names of the fragments seen and the entry of the first one of each name; as
long as it has met no conflict, every fragment seen is the registered one of its name. -/
structure Scan.Describes (schema : Schema) (settings : Settings) (seen : List Occurrence)
    (scan : Scan) : Prop where
  keys_eq : scan.entries.keys = distinct (seen.map fun occurrence => occurrence.fragment.name)
  first : ∀ name entry, scan.entries.get? name = some entry → ∃ occurrence type,
    seen.find? (fun occurrence => occurrence.fragment.name = name) = some occurrence ∧
      schema.get? occurrence.fragment.onType = some type ∧
      entry = entryOf schema settings occurrence type
  agreeing : scan.conflicts = [] → ∀ occurrence ∈ seen, ∃ entry,
    scan.entries.get? occurrence.fragment.name = some entry ∧
      entry.definition = occurrence.fragment

theorem Scan.describes_nil : Scan.Describes schema settings [] {} := by
  refine ⟨rfl, ?_, ?_⟩
  · intro name entry found
    cases found
  · intro _ occurrence member
    cases member

theorem Scan.Describes.unseen {seen : List Occurrence} {scan : Scan} {name : String}
    (described : Scan.Describes schema settings seen scan)
    (absent : scan.entries.get? name = none) : ∀ other ∈ seen, other.fragment.name ≠ name := by
  intro other member equal
  rw [OrderedMap.get?_eq_none_iff, described.keys_eq, mem_distinct] at absent
  exact absent (List.mem_map.2 ⟨other, member, equal⟩)

theorem Scan.Describes.file {seen : List Occurrence} {scan : Scan} {occurrence : Occurrence}
    {type : SchemaType} (before : Scan.Describes schema settings seen scan)
    (known : schema.get? occurrence.fragment.onType = some type)
    (absent : scan.entries.get? occurrence.fragment.name = none) :
    Scan.Describes schema settings (seen ++ [occurrence])
      { scan with
        entries := scan.entries.insert occurrence.fragment.name
          (entryOf schema settings occurrence type) } := by
  have unseen := before.unseen absent
  constructor
  · rw [List.map_append, List.map_singleton, distinct_append_singleton, ← before.keys_eq]
    exact OrderedMap.keys_insert _ _ _
  · intro name entry found
    by_cases same : occurrence.fragment.name = name
    · subst same
      rw [OrderedMap.get?_insert_self, Option.some.injEq] at found
      have nowhere : seen.find?
          (fun other => other.fragment.name = occurrence.fragment.name) = none := by
        rw [List.find?_eq_none]
        intro other member equal
        exact unseen other member (of_decide_eq_true equal)
      refine ⟨occurrence, type, ?_, known, found.symm⟩
      simp [List.find?_append, nowhere]
    · rw [OrderedMap.get?_insert_of_ne _ _ same] at found
      obtain ⟨origin, kind, first, typed, equal⟩ := before.first name entry found
      exact ⟨origin, kind, by simp [List.find?_append, first], typed, equal⟩
  · intro clean other member
    rcases List.mem_append.1 member with earlier | now
    · obtain ⟨entry, found, equal⟩ := before.agreeing clean other earlier
      refine ⟨entry, ?_, equal⟩
      rw [OrderedMap.get?_insert_of_ne _ _ (unseen other earlier).symm]
      exact found
    · rw [List.mem_singleton] at now
      subst now
      exact ⟨_, OrderedMap.get?_insert_self _ _ _, rfl⟩

theorem Scan.Describes.compare {seen : List Occurrence} {scan : Scan} {occurrence : Occurrence}
    {filed : Entry} (before : Scan.Describes schema settings seen scan)
    (found : scan.entries.get? occurrence.fragment.name = some filed) :
    Scan.Describes schema settings (seen ++ [occurrence])
      { scan with
        conflicts := if filed.definition = occurrence.fragment then scan.conflicts
          else addDistinct scan.conflicts occurrence.fragment.name } := by
  constructor
  · have member : occurrence.fragment.name ∈
        distinct (seen.map fun other => other.fragment.name) := by
      rw [← before.keys_eq]
      exact OrderedMap.mem_keys_of_get? found
    rw [List.map_append, List.map_singleton, distinct_append_singleton,
      addDistinct_of_mem member]
    exact before.keys_eq
  · intro name entry present
    obtain ⟨origin, kind, first, typed, equal⟩ := before.first name entry present
    exact ⟨origin, kind, by simp [List.find?_append, first], typed, equal⟩
  · intro clean other member
    by_cases same : filed.definition = occurrence.fragment
    · simp only [if_pos same] at clean ⊢
      rcases List.mem_append.1 member with earlier | now
      · exact before.agreeing clean other earlier
      · rw [List.mem_singleton] at now
        subst now
        exact ⟨filed, found, same⟩
    · simp only [if_neg same] at clean
      have noted : occurrence.fragment.name ∈
          addDistinct scan.conflicts occurrence.fragment.name :=
        (mem_addDistinct _ _ _).2 (Or.inr rfl)
      rw [clean] at noted
      cases noted

theorem Scan.Describes.add {seen : List Occurrence} {scan next : Scan} {occurrence : Occurrence}
    (before : Scan.Describes schema settings seen scan)
    (step : Scan.add schema settings scan occurrence = .ok next) :
    Scan.Describes schema settings (seen ++ [occurrence]) next := by
  obtain ⟨type, known, ⟨absent, rfl⟩ | ⟨filed, found, rfl⟩⟩ := Scan.add_cases step
  · exact before.file known absent
  · exact before.compare found

theorem Scan.foldlM_preserves {Holds : List Occurrence → Scan → Prop}
    (kept : ∀ {seen scan occurrence next}, Holds seen scan →
      Scan.add schema settings scan occurrence = .ok next → Holds (seen ++ [occurrence]) next)
    {seen rest : List Occurrence} {scan last : Scan} (before : Holds seen scan)
    (run : rest.foldlM (Scan.add schema settings) scan = .ok last) :
    Holds (seen ++ rest) last := by
  induction rest generalizing seen scan with
  | nil =>
      cases run
      simpa using before
  | cons occurrence rest ih =>
      rw [List.foldlM_cons] at run
      cases step : Scan.add schema settings scan occurrence with
      | error fault => simp [step, bind, Except.bind] at run
      | ok next =>
          rw [step] at run
          simpa using ih (kept before step) run

theorem Scan.Describes.foldlM {seen rest : List Occurrence} {scan last : Scan}
    (before : Scan.Describes schema settings seen scan)
    (run : rest.foldlM (Scan.add schema settings) scan = .ok last) :
    Scan.Describes schema settings (seen ++ rest) last :=
  Scan.foldlM_preserves Scan.Describes.add before run

/-- A scan of known types and of equal definitions of every name goes through without a conflict. -/
theorem Scan.Describes.exists_foldlM {seen rest : List Occurrence} {scan : Scan}
    (before : Scan.Describes schema settings seen scan) (clean : scan.conflicts = [])
    (known : ∀ occurrence ∈ rest, (schema.get? occurrence.fragment.onType).isSome)
    (agree : ∀ earlier ∈ seen ++ rest, ∀ later ∈ seen ++ rest,
      earlier.fragment.name = later.fragment.name → earlier.fragment = later.fragment) :
    ∃ last, rest.foldlM (Scan.add schema settings) scan = .ok last ∧ last.conflicts = [] := by
  induction rest generalizing seen scan with
  | nil => exact ⟨scan, rfl, clean⟩
  | cons occurrence rest ih =>
      have step : ∃ next, Scan.add schema settings scan occurrence = .ok next ∧
          next.conflicts = [] := by
        obtain ⟨type, typed⟩ := Option.isSome_iff_exists.1 (known occurrence (by simp))
        cases found : scan.entries.get? occurrence.fragment.name with
        | none => exact ⟨_, Scan.add_of_absent typed found, clean⟩
        | some entry =>
            obtain ⟨origin, kind, first, -, rfl⟩ := before.first _ entry found
            have named := List.find?_some first
            have same : origin.fragment = occurrence.fragment :=
              agree origin (List.mem_append_left _ (List.mem_of_find?_eq_some first)) occurrence
                (by simp) (of_decide_eq_true named)
            exact ⟨scan, Scan.add_of_equal typed found same, clean⟩
      obtain ⟨next, added, unchanged⟩ := step
      have grown := before.add added
      rw [List.append_cons] at agree
      obtain ⟨last, run, free⟩ := ih grown unchanged
        (fun other member => known other (List.mem_cons_of_mem _ member)) agree
      refine ⟨last, ?_, free⟩
      rw [List.foldlM_cons, added]
      exact run

variable {documents : List SourceDocument} {registry : Registry}

theorem build_cases (built : build schema settings documents = .ok registry) :
    ∃ scan, (occurrences documents).foldlM (Scan.add schema settings) {} = .ok scan ∧
      scan.conflicts = [] ∧ scan.entries = registry := by
  unfold build at built
  cases run : (occurrences documents).foldlM (Scan.add schema settings) {} with
  | error fault => simp [run, bind, Except.bind] at built
  | ok scan =>
      simp only [run, bind, Except.bind, Scan.finish] at built
      split at built
      · next clean =>
          cases built
          exact ⟨scan, rfl, clean, rfl⟩
      · cases built

theorem exists_build (known : ∀ occurrence ∈ occurrences documents,
      (schema.get? occurrence.fragment.onType).isSome)
    (agree : ∀ earlier ∈ occurrences documents, ∀ later ∈ occurrences documents,
      earlier.fragment.name = later.fragment.name → earlier.fragment = later.fragment) :
    ∃ registry, build schema settings documents = .ok registry := by
  have start : Scan.Describes schema settings [] {} := Scan.describes_nil
  obtain ⟨last, run, clean⟩ := start.exists_foldlM rfl known agree
  refine ⟨last.entries, ?_⟩
  simp only [build, run, bind, Except.bind, Scan.finish, if_pos clean]

theorem describes_of_build (built : build schema settings documents = .ok registry) :
    Scan.Describes schema settings (occurrences documents) { entries := registry } := by
  obtain ⟨scan, run, clean, rfl⟩ := build_cases built
  have described := Scan.describes_nil.foldlM run
  exact ⟨described.keys_eq, described.first, fun _ => described.agreeing clean⟩

theorem keys_of_build (built : build schema settings documents = .ok registry) :
    registry.keys = distinct ((occurrences documents).map fun occurrence =>
      occurrence.fragment.name) :=
  (describes_of_build built).keys_eq

theorem origin_of_build (built : build schema settings documents = .ok registry) {name : String}
    {entry : Entry} (found : registry.get? name = some entry) :
    ∃ source ∈ documents, entry.definition ∈ source.document.fragments ∧
      entry.definition.name = name ∧ entry.filePath = settings.layout.filePath source.location := by
  obtain ⟨occurrence, type, first, -, rfl⟩ := (describes_of_build built).first name entry found
  obtain ⟨source, member, inside, place⟩ := mem_occurrences.1 (List.mem_of_find?_eq_some first)
  refine ⟨source, member, inside, ?_, ?_⟩
  · have named := List.find?_some first
    exact of_decide_eq_true named
  · exact congrArg settings.layout.filePath place

theorem keyed_of_build (built : build schema settings documents = .ok registry) :
    registry.Keyed := by
  rintro ⟨name, entry⟩ member
  obtain ⟨-, -, -, named, -⟩ :=
    origin_of_build built ((OrderedMap.get?_eq_some_iff registry name entry).2 member)
  exact named

theorem definition_of_build (built : build schema settings documents = .ok registry)
    {source : SourceDocument} (member : source ∈ documents) {fragment : Document.Fragment}
    (inside : fragment ∈ source.document.fragments) :
    ∃ entry, registry.get? fragment.name = some entry ∧ entry.definition = fragment := by
  have occurs : (⟨source.location, fragment⟩ : Occurrence) ∈ occurrences documents :=
    mem_occurrences.2 ⟨source, member, inside, rfl⟩
  exact (describes_of_build built).agreeing rfl _ occurs

theorem mem_keys_of_build (built : build schema settings documents = .ok registry)
    {source : SourceDocument} (member : source ∈ documents) {fragment : Document.Fragment}
    (inside : fragment ∈ source.document.fragments) : fragment.name ∈ registry.keys := by
  obtain ⟨entry, found, -⟩ := definition_of_build built member inside
  exact OrderedMap.mem_keys_of_get? found

end Registry

end FragmentImports
