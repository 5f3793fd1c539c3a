import FragmentImports.Proofs.DocumentOrder
import Mathlib.Data.List.Sort

/-!
Which errors a scan ends with. The first fragment on an unknown type is told, whatever stands in
front of it. Without such a fragment all disputed names are told, in the order in which a definition
first differs from the first one of its name; without these either there is a registry.
-/

namespace FragmentImports.Registry

def deviates (occurrences : List Occurrence) (occurrence : Occurrence) : Bool :=
  (occurrences.find? fun first => first.fragment.name = occurrence.fragment.name).any
    fun first => first.fragment ≠ occurrence.fragment

/-- Where the first fragment of a name stands that differs from the first one of that name. -/
def firstDeviation (occurrences : List Occurrence) (name : String) : Nat :=
  occurrences.findIdx fun occurrence =>
    occurrence.fragment.name = name && deviates occurrences occurrence

/-- One name is disputed earlier than another. -/
def DisputedBefore (occurrences : List Occurrence) (one other : String) : Prop :=
  firstDeviation occurrences one < firstDeviation occurrences other

instance (occurrences : List Occurrence) : Std.Irrefl (DisputedBefore occurrences) where
  irrefl _ := Nat.lt_irrefl _

instance (occurrences : List Occurrence) : Std.Antisymm (DisputedBefore occurrences) where
  antisymm _ _ before after := absurd after (Nat.lt_asymm before)

variable {seen rest : List Occurrence} {occurrence : Occurrence} {name : String}

theorem deviates_append (member : occurrence ∈ seen) :
    deviates (seen ++ rest) occurrence = deviates seen occurrence := by
  have known : (seen.find? fun first =>
      first.fragment.name = occurrence.fragment.name).isSome :=
    List.find?_isSome.2 ⟨occurrence, member, decide_eq_true rfl⟩
  rw [deviates, deviates, List.find?_append, Option.or_of_isSome known]

theorem disputed_iff : Disputed seen name ↔
    ∃ occurrence ∈ seen, occurrence.fragment.name = name ∧ deviates seen occurrence = true := by
  constructor
  · rintro ⟨one, present, other, also, rfl, named, differ⟩
    obtain ⟨first, found⟩ := Option.isSome_iff_exists.1 (List.find?_isSome.2
      ⟨one, present, decide_eq_true rfl⟩ :
        (seen.find? fun first => first.fragment.name = one.fragment.name).isSome)
    by_cases same : first.fragment = one.fragment
    · refine ⟨other, also, named, ?_⟩
      rw [deviates, named, found]
      simpa [same] using differ
    · refine ⟨one, present, rfl, ?_⟩
      rw [deviates, found]
      simpa using same
  · rintro ⟨occurrence, member, named, deviating⟩
    rw [deviates, Option.any_eq_true] at deviating
    obtain ⟨first, found, differ⟩ := deviating
    have alike : first.fragment.name = occurrence.fragment.name :=
      of_decide_eq_true (List.find?_some found :)
    exact ⟨first, List.mem_of_find?_eq_some found, occurrence, member, alike.trans named, named,
      of_decide_eq_true differ⟩

theorem firstDeviation_lt_iff :
    firstDeviation seen name < seen.length ↔ Disputed seen name := by
  rw [firstDeviation, List.findIdx_lt_length, disputed_iff]
  simp only [Bool.and_eq_true, decide_eq_true_eq]

theorem findIdx_congr {α : Type} {p q : α → Bool} {items : List α}
    (same : ∀ item ∈ items, p item = q item) : items.findIdx p = items.findIdx q := by
  have mapped := congrArg (List.findIdx id) (List.map_congr_left same)
  rwa [List.findIdx_map, List.findIdx_map] at mapped

theorem firstDeviation_append (disputed : Disputed seen name) :
    firstDeviation (seen ++ rest) name = firstDeviation seen name := by
  have same : seen.findIdx (fun occurrence =>
      occurrence.fragment.name = name && deviates (seen ++ rest) occurrence) =
        firstDeviation seen name := by
    apply findIdx_congr
    intro occurrence member
    rw [deviates_append member]
  rw [firstDeviation, List.findIdx_append, same, if_pos (firstDeviation_lt_iff.2 disputed)]

theorem firstDeviation_append_self (undisputed : ¬Disputed seen occurrence.fragment.name)
    (deviating : deviates (seen ++ [occurrence]) occurrence = true) :
    firstDeviation (seen ++ [occurrence]) occurrence.fragment.name = seen.length := by
  have none : ¬seen.findIdx (fun other => other.fragment.name = occurrence.fragment.name &&
      deviates (seen ++ [occurrence]) other) < seen.length := by
    rw [List.findIdx_lt_length]
    rintro ⟨other, member, deviant⟩
    rw [deviates_append member, Bool.and_eq_true, decide_eq_true_eq] at deviant
    exact undisputed (disputed_iff.2 ⟨other, member, deviant⟩)
  rw [firstDeviation, List.findIdx_append, if_neg none]
  simp [deviating]

variable {schema : Schema} {settings : Settings}

theorem Scan.Describes.deviates {scan : Scan} {filed : Entry}
    (described : Scan.Describes schema settings seen scan)
    (found : scan.entries.get? occurrence.fragment.name = some filed)
    (differ : filed.definition ≠ occurrence.fragment) :
    deviates (seen ++ [occurrence]) occurrence = true := by
  obtain ⟨first, _, source, -, rfl⟩ := described.first _ filed found
  rw [Registry.deviates, List.find?_append, source]
  exact decide_eq_true differ

/-- A scan tells the names that are disputed among the fragments seen, in order. -/
structure Scan.Tells (schema : Schema) (settings : Settings) (seen : List Occurrence)
    (scan : Scan) : Prop where
  described : Scan.Describes schema settings seen scan
  noted : ∀ name, name ∈ scan.conflicts ↔ Disputed seen name
  ordered : scan.conflicts.Pairwise (DisputedBefore seen)

theorem Scan.tells_nil : Scan.Tells schema settings [] {} where
  described := Scan.describes_nil
  noted name := by simp [Disputed]
  ordered := List.Pairwise.nil

theorem Scan.Tells.pairwise_conflicts {scan next : Scan}
    (before : Scan.Tells schema settings seen scan)
    (step : Scan.add schema settings scan occurrence = .ok next) :
    next.conflicts.Pairwise (DisputedBefore (seen ++ [occurrence])) := by
  have kept : scan.conflicts.Pairwise (DisputedBefore (seen ++ [occurrence])) := by
    refine before.ordered.imp_of_mem fun {one other} first second earlier => ?_
    rw [DisputedBefore, firstDeviation_append ((before.noted one).1 first),
      firstDeviation_append ((before.noted other).1 second)]
    exact earlier
  obtain ⟨type, known, ⟨absent, rfl⟩ | ⟨filed, found, rfl⟩⟩ := Scan.add_cases step
  · exact kept
  · by_cases same : filed.definition = occurrence.fragment
    · rw [if_pos same]
      exact kept
    · rw [if_neg same, addDistinct]
      split
      · exact kept
      · next fresh =>
          rw [before.noted] at fresh
          refine List.pairwise_append.2 ⟨kept, List.pairwise_singleton _ _, ?_⟩
          intro name member other new
          rw [List.mem_singleton] at new
          have disputed := (before.noted name).1 member
          rw [new, DisputedBefore, firstDeviation_append disputed,
            firstDeviation_append_self fresh (before.described.deviates found same)]
          exact firstDeviation_lt_iff.2 disputed

theorem Scan.Tells.add {scan next : Scan} (before : Scan.Tells schema settings seen scan)
    (step : Scan.add schema settings scan occurrence = .ok next) :
    Scan.Tells schema settings (seen ++ [occurrence]) next where
  described := before.described.add step
  noted := Scan.mem_conflicts_add before.described before.noted step
  ordered := before.pairwise_conflicts step

theorem Scan.foldlM_of_find? (settings : Settings) (scan : Scan)
    (first : rest.find? (fun other => schema.get? other.fragment.onType = none) =
      some occurrence) :
    rest.foldlM (Scan.add schema settings) scan =
      .error (.unknownType occurrence.fragment.name occurrence.fragment.onType) := by
  induction rest generalizing scan with
  | nil => cases first
  | cons other rest ih =>
      rw [List.foldlM_cons]
      by_cases unknown : schema.get? other.fragment.onType = none
      · rw [List.find?_cons, decide_eq_true unknown, Option.some.injEq] at first
        subst first
        rw [Scan.add_of_unknown scan unknown]
        rfl
      · rw [List.find?_cons, decide_eq_false unknown] at first
        obtain ⟨next, step⟩ := Scan.exists_add settings scan unknown
        rw [step]
        exact ih next first

variable {documents : List SourceDocument}

def firstUnknown? (schema : Schema) (documents : List SourceDocument) : Option Occurrence :=
  (occurrences documents).find? fun occurrence => schema.get? occurrence.fragment.onType = none

theorem firstUnknown?_eq_none_iff :
    firstUnknown? schema documents = none ↔ ¬HasUnknownType schema documents := by
  rw [hasUnknownType_iff, firstUnknown?, List.find?_eq_none]
  simp

theorem build_of_firstUnknown (settings : Settings)
    (first : firstUnknown? schema documents = some occurrence) :
    build schema settings documents =
      .error (.unknownType occurrence.fragment.name occurrence.fragment.onType) := by
  rw [build, Scan.foldlM_of_find? settings {} first]
  rfl

theorem exists_tells (settings : Settings) (known : ¬HasUnknownType schema documents) :
    ∃ last, Scan.Tells schema settings (occurrences documents) last ∧
      build schema settings documents = last.finish := by
  have typed : ∀ occurrence ∈ occurrences documents,
      schema.get? occurrence.fragment.onType ≠ none := by
    intro occurrence member untyped
    exact known (hasUnknownType_iff.2 ⟨occurrence, member, untyped⟩)
  obtain ⟨last, run⟩ := Scan.exists_foldlM settings {} typed
  refine ⟨last, Scan.foldlM_preserves Scan.Tells.add Scan.tells_nil run, ?_⟩
  rw [build, run]
  rfl

theorem Scan.Tells.conflicts_eq_iff {scan : Scan} (told : Scan.Tells schema settings seen scan)
    {names : List String} : scan.conflicts = names ↔
      (∀ name, name ∈ names ↔ Disputed seen name) ∧ names.Pairwise (DisputedBefore seen) := by
  constructor
  · rintro rfl
    exact ⟨told.noted, told.ordered⟩
  · rintro ⟨noted, ordered⟩
    exact told.ordered.eq_of_mem_iff ordered fun name => (told.noted name).trans (noted name).symm

theorem Scan.finish_eq_error_iff {scan : Scan} {names : List String} :
    scan.finish = .error (.conflicting names) ↔ names ≠ [] ∧ scan.conflicts = names := by
  unfold Scan.finish
  split
  · next clean =>
      rw [clean]
      simp [eq_comm]
  · next told =>
      rw [Except.error.injEq, ScanError.conflicting.injEq]
      exact ⟨fun same => ⟨same ▸ told, same⟩, And.right⟩

theorem Scan.finish_eq_ok_iff {scan : Scan} :
    (∃ registry, scan.finish = .ok registry) ↔ scan.conflicts = [] := by
  unfold Scan.finish
  split
  · next clean => simp [clean]
  · next told => simp [told]

theorem Scan.finish_ne_unknownType (scan : Scan) (fragment type : String) :
    scan.finish ≠ .error (.unknownType fragment type) := by
  unfold Scan.finish
  split <;> simp

/-- How a build ends is told by the documents: with the first fragment on an unknown type, if there
is one; else with the disputed names in the order of the definitions that first deviate, if there
are some; else with a registry. -/
theorem build_ends_exactly (schema : Schema) (settings : Settings)
    (documents : List SourceDocument) :
    ((∃ fragment type, build schema settings documents = .error (.unknownType fragment type)) ↔
        HasUnknownType schema documents) ∧
      (∀ fragment type,
        build schema settings documents = .error (.unknownType fragment type) ↔
          ∃ occurrence, firstUnknown? schema documents = some occurrence ∧
            occurrence.fragment.name = fragment ∧ occurrence.fragment.onType = type) ∧
      ((∃ names, build schema settings documents = .error (.conflicting names)) ↔
        ¬HasUnknownType schema documents ∧ ∃ name, Disputed (occurrences documents) name) ∧
      (∀ names, build schema settings documents = .error (.conflicting names) ↔
        ¬HasUnknownType schema documents ∧ names ≠ [] ∧
          (∀ name, name ∈ names ↔ Disputed (occurrences documents) name) ∧
          names.Pairwise (DisputedBefore (occurrences documents))) ∧
      ((∃ registry, build schema settings documents = .ok registry) ↔
        ¬HasUnknownType schema documents ∧ ∀ name, ¬Disputed (occurrences documents) name) := by
  cases first : firstUnknown? schema documents with
  | some occurrence =>
      have unknown : HasUnknownType schema documents := by
        by_contra known
        rw [firstUnknown?_eq_none_iff.2 known] at first
        cases first
      simp [build_of_firstUnknown settings first, unknown]
  | none =>
      have known := firstUnknown?_eq_none_iff.1 first
      obtain ⟨last, told, result⟩ := exists_tells settings known
      have conflicts : ∀ names, last.finish = .error (.conflicting names) ↔ names ≠ [] ∧
          (∀ name, name ∈ names ↔ Disputed (occurrences documents) name) ∧
          names.Pairwise (DisputedBefore (occurrences documents)) := by
        intro names
        rw [Scan.finish_eq_error_iff, told.conflicts_eq_iff]
      have clean : last.conflicts = [] ↔ ∀ name, ¬Disputed (occurrences documents) name := by
        simp only [List.eq_nil_iff_forall_not_mem, told.noted]
      simp only [result, known, not_false_eq_true, true_and, conflicts, implies_true, and_true,
        Scan.finish_eq_ok_iff, clean, Scan.finish_ne_unknownType, exists_false, reduceCtorEq, false_and]
      constructor
      · rintro ⟨names, some, listed, -⟩
        obtain ⟨name, member⟩ := List.exists_mem_of_ne_nil names some
        exact ⟨name, (listed name).1 member⟩
      · rintro ⟨name, disputed⟩
        exact ⟨last.conflicts, List.ne_nil_of_mem ((told.noted name).2 disputed), told.noted,
          told.ordered⟩

end FragmentImports.Registry
