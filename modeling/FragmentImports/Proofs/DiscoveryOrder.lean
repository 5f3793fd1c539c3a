import FragmentImports.Proofs.DirectImports

/-!
The order in which a walk records fragments. It is the order of a plain depth-first walk that enters
every fragment once: entering a fragment again, on a shorter way, meets nothing that is not recorded
and leaves the order alone.
-/

namespace FragmentImports

theorem countP_notMem_append_lt {names met : List String} {name : String} (member : name ∈ names)
    (new : name ∉ met) :
    names.countP (fun other => decide (other ∉ met ++ [name])) <
      names.countP (fun other => decide (other ∉ met)) := by
  have same : names.countP (fun other => decide (other ∉ met ++ [name])) =
      names.countP (fun other => decide (other ∉ name :: met)) := by
    congr 1
    funext other
    simp [or_comm]
  rw [same]
  exact countP_notMem_cons_lt member new

/-- The names that a plain depth-first walk has met after some pending spreads, behind those met
before. It passes over names met before and unregistered names, and it enters every other one: what
its definition spreads comes next, in front of the spreads that are left. -/
def meetings (registry : Registry) (pending met : List String) : List String :=
  match pending with
  | [] => met
  | name :: rest =>
      if known : name ∈ met then meetings registry rest met
      else match found : registry.get? name with
        | none => meetings registry rest met
        | some entry =>
            have := countP_notMem_append_lt (OrderedMap.mem_keys_of_get? found) known
            meetings registry
              (Document.Selection.allSpreads entry.definition.selections ++ rest) (met ++ [name])
termination_by (registry.keys.countP (fun name => decide (name ∉ met)), pending.length)
decreasing_by
  · exact .right _ (Nat.lt_succ_self _)
  · exact .right _ (Nat.lt_succ_self _)
  · exact .left _ _ this

def firstMeetings (registry : Registry) (node : Document.Node) : List String :=
  meetings registry (node.spreads.filter fun name => name ∉ node.localFragments) []

section Meetings

variable {registry : Registry} {name : String} {rest met : List String} {entry : Registry.Entry}

@[simp] theorem meetings_nil : meetings registry [] met = met := by
  rw [meetings]

theorem meetings_of_mem (known : name ∈ met) :
    meetings registry (name :: rest) met = meetings registry rest met := by
  rw [meetings, dif_pos known]

theorem meetings_of_notMem_keys (unregistered : name ∉ registry.keys) :
    meetings registry (name :: rest) met = meetings registry rest met := by
  by_cases known : name ∈ met
  · exact meetings_of_mem known
  · rw [meetings, dif_neg known]
    split
    · rfl
    · next entry found => exact absurd (OrderedMap.mem_keys_of_get? found) unregistered

theorem meetings_of_get? (new : name ∉ met) (found : registry.get? name = some entry) :
    meetings registry (name :: rest) met =
      meetings registry (Document.Selection.allSpreads entry.definition.selections ++ rest)
        (met ++ [name]) := by
  rw [meetings, dif_neg new]
  split
  · next absent => cases absent.symm.trans found
  · next other again =>
      cases found.symm.trans again
      rfl

/-- The walk finishes what stands in front before it goes on, so it may as well be called anew for
the spreads of every fragment that it enters. -/
theorem meetings_append (front back met : List String) :
    meetings registry (front ++ back) met =
      meetings registry back (meetings registry front met) := by
  induction front, met using meetings.induct registry with
  | case1 met => rw [meetings_nil, List.nil_append]
  | case2 met name rest known ih =>
      rw [List.cons_append, meetings_of_mem known, meetings_of_mem known, ih]
  | case3 met name rest new absent ih =>
      have unregistered : name ∉ registry.keys := OrderedMap.get?_eq_none_iff.1 absent
      rw [List.cons_append, meetings_of_notMem_keys unregistered,
        meetings_of_notMem_keys unregistered, ih]
  | case4 met name rest new entry found _ ih =>
      rw [List.cons_append, meetings_of_get? new found, meetings_of_get? new found,
        ← List.append_assoc, ih]

theorem mem_meetings {pending : List String} (known : name ∈ met) :
    name ∈ meetings registry pending met := by
  induction pending, met using meetings.induct registry with
  | case1 met => rwa [meetings_nil]
  | case2 met other rest before ih =>
      rw [meetings_of_mem before]
      exact ih known
  | case3 met other rest new absent ih =>
      rw [meetings_of_notMem_keys (OrderedMap.get?_eq_none_iff.1 absent)]
      exact ih known
  | case4 met other rest new entry found _ ih =>
      rw [meetings_of_get? new found]
      exact ih (List.mem_append_left _ known)

theorem meetings_filter {keeps : String → Bool} {pending : List String}
    (dropped : ∀ name ∈ pending, keeps name = false → name ∈ met) :
    meetings registry (pending.filter keeps) met = meetings registry pending met := by
  induction pending generalizing met with
  | nil => rfl
  | cons name rest ih =>
      cases kept : keeps name with
      | false =>
          have known : name ∈ met := dropped name List.mem_cons_self kept
          rw [List.filter_cons_of_neg (by simp [kept]), meetings_of_mem known]
          exact ih fun other later => dropped other (List.mem_cons_of_mem _ later)
      | true =>
          have first := @meetings_append registry [name] (rest.filter keeps) met
          have whole := @meetings_append registry [name] rest met
          rw [List.filter_cons_of_pos kept, ← List.singleton_append, first,
            ← List.singleton_append (l := rest), whole]
          apply ih
          intro other later out
          exact mem_meetings (dropped other (List.mem_cons_of_mem _ later) out)

end Meetings

/-- Off the path, whatever a recorded fragment spreads is recorded. -/
def ClosedOff (registry : Registry) (path names : List String) : Prop :=
  ∀ via ∈ names, via ∉ path → ∀ name, registry.Spreads via name → name ∈ names

theorem SettledOff.closedOff {registry : Registry} {path : List String} {depths : SpreadDepths}
    (settled : SettledOff registry path depths) : ClosedOff registry path depths.keys := by
  intro via member off name edge
  obtain ⟨depth, found⟩ := OrderedMap.mem_keys_iff.1 member
  obtain ⟨_, -, known⟩ := settled via depth off found name edge
  exact OrderedMap.mem_keys_of_get? known

section Recorded

variable {registry : Registry} {path ignored spreads : List String} {before after : SpreadDepths}
  {name : String} {entry : Registry.Entry}

theorem ClosedOff.enter (closed : ClosedOff registry path before.keys)
    (recorded : name ∈ before.keys) (off : name ∉ path) (found : registry.get? name = some entry) :
    (before.insert name path.length).keys = before.keys ∧
      (∀ other ∈ Document.Selection.allSpreads entry.definition.selections,
        other ∈ registry.keys → other ∈ (before.insert name path.length).keys) ∧
      ClosedOff registry (name :: path) (before.insert name path.length).keys := by
  have kept : (before.insert name path.length).keys = before.keys := by
    rw [OrderedMap.keys_insert, if_pos recorded]
  rw [kept]
  refine ⟨rfl, ?_, ?_⟩
  · intro other spread registered
    exact closed name recorded off other ⟨entry, found, spread, registered⟩
  · intro via member behind
    exact closed via member (List.not_mem_of_not_mem_cons behind)

theorem SpreadWalk.keys_eq (walk : SpreadWalk registry path ignored spreads before after)
    (known : ∀ name ∈ spreads, name ∈ registry.keys → name ∈ before.keys)
    (closed : ClosedOff registry path before.keys) : after.keys = before.keys := by
  induction walk with
  | finished => rfl
  | passed _ _ ih => exact ih (fun name later => known name (List.mem_cons_of_mem _ later)) closed
  | @entered path _ name rest before inside _ entry _ off found _ _ _ ihThrough ihOnward =>
      have recorded : name ∈ before.keys :=
        known name List.mem_cons_self (OrderedMap.mem_keys_of_get? found)
      obtain ⟨kept, spread, closedBelow⟩ := closed.enter recorded off found
      have below : inside.keys = before.keys := (ihThrough spread closedBelow).trans kept
      refine (ihOnward ?_ ?_).trans below
      · intro other later registered
        rw [below]
        exact known other (List.mem_cons_of_mem _ later) registered
      · rw [below]
        exact closed

theorem SpreadWalk.keys_eq_of_recorded
    (through : SpreadWalk registry (name :: path) ignored
      (Document.Selection.allSpreads entry.definition.selections) (before.insert name path.length)
      after)
    (closed : ClosedOff registry path before.keys) (recorded : name ∈ before.keys)
    (off : name ∉ path) (found : registry.get? name = some entry) : after.keys = before.keys := by
  obtain ⟨kept, spread, closedBelow⟩ := closed.enter recorded off found
  exact (through.keys_eq spread closedBelow).trans kept

end Recorded

/-- What holds wherever the walk stands: the fragments on its path are recorded within its level,
and off the path whatever a recorded fragment spreads is known one step behind it. -/
structure WalkInvariant (registry : Registry) (path : List String) (depths : SpreadDepths) :
    Prop where
  above : ∀ name ∈ path, depths.Within name path.length
  settled : SettledOff registry path depths

namespace WalkInvariant

variable {registry : Registry} {path ignored spreads : List String}
  {before inside after : SpreadDepths} {name : String} {entry : Registry.Entry}

theorem start : WalkInvariant registry [] .empty := by
  constructor
  · intro name member
    cases member
  · intro via depth _ impossible
    cases impossible

theorem enter (invariant : WalkInvariant registry path before)
    (farther : ¬before.Within name path.length) :
    WalkInvariant registry (name :: path) (before.insert name path.length) := by
  constructor
  · intro other member
    rcases List.mem_cons.1 member with rfl | onPath
    · exact (SpreadDepths.within_insert_self before other path.length).mono (Nat.le_succ _)
    · exact ((invariant.above other onPath).insert farther).mono (Nat.le_succ _)
  · exact SpreadWalk.settledOff_insert invariant.settled farther

theorem leave (invariant : WalkInvariant registry path before) (keyed : registry.Keyed)
    (found : registry.get? name = some entry) (farther : ¬before.Within name path.length)
    (through : SpreadWalk registry (name :: path) [entry.definition.name]
      (Document.Selection.allSpreads entry.definition.selections)
      (before.insert name path.length) inside) : WalkInvariant registry path inside := by
  have below := invariant.enter farther
  constructor
  · intro other onPath
    exact through.within ((invariant.above other onPath).insert farther)
  · exact SpreadWalk.settledOff_leave keyed found below.above through
      (through.settledOff keyed below.above below.settled)

theorem meetings_of_skipped (invariant : WalkInvariant registry path before) {rest : List String}
    (skipped : name ∈ ignored ∨ name ∈ path ∨ name ∉ registry.keys ∨
      before.Within name path.length) :
    meetings registry ((name :: rest).filter fun name => name ∉ ignored) before.keys =
      meetings registry (rest.filter fun name => name ∉ ignored) before.keys := by
  by_cases foreign : name ∉ ignored
  · rw [List.filter_cons_of_pos (by simpa using foreign)]
    rcases skipped with own | onPath | unregistered | ⟨depth, -, found⟩
    · exact absurd own foreign
    · obtain ⟨depth, -, found⟩ := invariant.above name onPath
      exact meetings_of_mem (OrderedMap.mem_keys_of_get? found)
    · exact meetings_of_notMem_keys unregistered
    · exact meetings_of_mem (OrderedMap.mem_keys_of_get? found)
  · rw [List.filter_cons_of_neg (by simpa using foreign)]

end WalkInvariant

theorem SpreadWalk.keys_eq_meetings {registry : Registry} {path ignored spreads : List String}
    {before after : SpreadDepths} (walk : SpreadWalk registry path ignored spreads before after)
    (keyed : registry.Keyed) (invariant : WalkInvariant registry path before) :
    after.keys =
      meetings registry (spreads.filter fun name => name ∉ ignored) before.keys := by
  induction walk with
  | finished => rw [List.filter_nil, meetings_nil]
  | @passed path ignored name rest before after skipped _ ih =>
      rw [ih invariant, invariant.meetings_of_skipped skipped]
  | @entered path ignored name rest before inside after entry foreign off found farther through _
      ihThrough ihOnward =>
      rw [ihOnward (invariant.leave keyed found farther through),
        List.filter_cons_of_pos (by simpa using foreign)]
      by_cases recorded : name ∈ before.keys
      · rw [through.keys_eq_of_recorded invariant.settled.closedOff recorded off found,
          meetings_of_mem recorded]
      · have grown : (before.insert name path.length).keys = before.keys ++ [name] := by
          rw [OrderedMap.keys_insert, if_neg recorded]
        -- inside the fragment only its own name is ignored, and that one has been met
        have below : inside.keys = meetings registry
            (Document.Selection.allSpreads entry.definition.selections)
            (before.keys ++ [name]) := by
          rw [ihThrough (invariant.enter farther), grown, meetings_filter]
          intro other _ own
          rw [keyed.name_eq found] at own
          exact List.mem_append_right _ (by simpa using own)
        rw [meetings_of_get? recorded found, meetings_append, below]

theorem keys_externalFragments {registry : Registry} (keyed : registry.Keyed)
    (node : Document.Node) : (externalFragments registry node).keys = firstMeetings registry node :=
  (spreadWalk_externalFragments registry node).keys_eq_meetings keyed .start

structure Enters (registry : Registry) (path ignored : List String) (depths : SpreadDepths)
    (name : String) (entry : Registry.Entry) : Prop where
  foreign : name ∉ ignored
  off : name ∉ path
  found : registry.get? name = some entry
  farther : ¬depths.Within name path.length

def walkThrough (registry : Registry) (path : List String) (depths : SpreadDepths) (name : String)
    (entry : Registry.Entry) : SpreadDepths :=
  followSpreads registry (name :: path) [entry.definition.name]
    (Document.Selection.allSpreads entry.definition.selections) (depths.insert name path.length)

theorem followSpreads_of_enters {registry : Registry} {path ignored rest : List String}
    {depths : SpreadDepths} {name : String} {entry : Registry.Entry}
    (enters : Enters registry path ignored depths name entry) :
    followSpreads registry path ignored (name :: rest) depths =
      followSpreads registry path ignored rest (walkThrough registry path depths name entry) := by
  rw [followSpreads, dif_neg (not_or.2 ⟨enters.foreign, enters.off⟩)]
  split
  · next absent => cases absent.symm.trans enters.found
  · next other again =>
      cases enters.found.symm.trans again
      rw [if_neg (SpreadDepths.reached_iff.not.2 enters.farther)]
      rfl

theorem followSpreads_of_passed {registry : Registry} {path ignored rest : List String}
    {depths : SpreadDepths} {name : String}
    (passed : ∀ entry, ¬Enters registry path ignored depths name entry) :
    followSpreads registry path ignored (name :: rest) depths =
      followSpreads registry path ignored rest depths := by
  rw [followSpreads]
  split
  · rfl
  · next kept =>
      split
      · rfl
      · next entry found =>
          rw [if_pos]
          by_contra farther
          rw [SpreadDepths.reached_iff] at farther
          exact passed entry ⟨(not_or.1 kept).1, (not_or.1 kept).2, found, farther⟩

/-- Where the walk below a node comes to stand, with its path, the names that it ignores there, the
spreads that are left and what is recorded by then. -/
inductive WalkState (registry : Registry) (node : Document.Node) :
    (path ignored pending : List String) → (depths : SpreadDepths) → Prop where
  | start : WalkState registry node [] node.localFragments node.spreads .empty
  | passed {path ignored name rest depths}
      (here : WalkState registry node path ignored (name :: rest) depths)
      (skipped : ∀ entry, ¬Enters registry path ignored depths name entry) :
      WalkState registry node path ignored rest depths
  | entered {path ignored name rest depths entry}
      (here : WalkState registry node path ignored (name :: rest) depths)
      (enters : Enters registry path ignored depths name entry) :
      WalkState registry node (name :: path) [entry.definition.name]
        (Document.Selection.allSpreads entry.definition.selections)
        (depths.insert name path.length)
  | left {path ignored name rest depths entry}
      (here : WalkState registry node path ignored (name :: rest) depths)
      (enters : Enters registry path ignored depths name entry) :
      WalkState registry node path ignored rest (walkThrough registry path depths name entry)

namespace WalkState

variable {registry : Registry} {node : Document.Node} {path ignored pending : List String}
  {depths : SpreadDepths}

theorem finish (here : WalkState registry node path ignored pending depths) :
    WalkState registry node path ignored []
      (followSpreads registry path ignored pending depths) := by
  induction pending generalizing depths with
  | nil => rwa [followSpreads]
  | cons name rest ih =>
      by_cases entering : ∃ entry, Enters registry path ignored depths name entry
      · obtain ⟨entry, enters⟩ := entering
        rw [followSpreads_of_enters enters]
        exact ih (here.left enters)
      · have skipped := not_exists.1 entering
        rw [followSpreads_of_passed skipped]
        exact ih (here.passed skipped)

theorem invariant (here : WalkState registry node path ignored pending depths)
    (keyed : registry.Keyed) : WalkInvariant registry path depths := by
  induction here with
  | start => exact .start
  | passed _ _ ih => exact ih
  | entered _ enters ih => exact ih.enter enters.farther
  | left _ enters ih =>
      exact ih.leave keyed enters.found enters.farther (spreadWalk_followSpreads ..)

theorem entered_again {name : String} {rest : List String} {entry : Registry.Entry}
    (here : WalkState registry node path ignored (name :: rest) depths) (keyed : registry.Keyed)
    (enters : Enters registry path ignored depths name entry) (recorded : name ∈ depths.keys) :
    (∃ known, depths.get? name = some known ∧ path.length < known) ∧
      (walkThrough registry path depths name entry).keys = depths.keys := by
  constructor
  · obtain ⟨known, found⟩ := OrderedMap.mem_keys_iff.1 recorded
    refine ⟨known, found, Nat.lt_of_not_le ?_⟩
    intro near
    exact enters.farther ⟨known, near, found⟩
  · have through := spreadWalk_followSpreads registry (name :: path) [entry.definition.name]
      (Document.Selection.allSpreads entry.definition.selections) (depths.insert name path.length)
    exact through.keys_eq_of_recorded (here.invariant keyed).settled.closedOff recorded enters.off
      enters.found

end WalkState

/-- In a registry built from documents, cycles included, the external fragments of a node stand in
the order in which a plain depth-first walk meets them first. Wherever the walk that finds them
enters a recorded fragment again, it does so at a smaller depth, and the names recorded when it
leaves the fragment are the same in the same order. -/
theorem externalFragments_in_order_of_meeting {schema : Schema} {settings : Settings}
    {documents : List SourceDocument} {registry : Registry}
    (built : Registry.build schema settings documents = .ok registry) (node : Document.Node) :
    (externalFragments registry node).keys = firstMeetings registry node ∧
      WalkState registry node [] node.localFragments [] (externalFragments registry node) ∧
      ∀ path ignored name rest depths entry,
        WalkState registry node path ignored (name :: rest) depths →
        Enters registry path ignored depths name entry → name ∈ depths.keys →
          (∃ known, depths.get? name = some known ∧ path.length < known) ∧
            (walkThrough registry path depths name entry).keys = depths.keys := by
  have keyed := Registry.keyed_of_build built
  refine ⟨keys_externalFragments keyed node, WalkState.start.finish, ?_⟩
  intro path ignored name rest depths entry here enters recorded
  exact here.entered_again keyed enters recorded

def mutualDocuments : List SourceDocument :=
  [.ofSpreads "a.graphql" [("A", ["C"]), ("C", ["A"])] []]

def mutualFront : Registry.Entry :=
  ⟨"a_generated.py", ["AFragment"], "User", .ofSpreads "A" "User" ["C"]⟩

def mutualBack : Registry.Entry :=
  ⟨"a_generated.py", ["CFragment"], "User", .ofSpreads "C" "User" ["A"]⟩

def mutualRegistry : Registry where
  entries := [("A", mutualFront), ("C", mutualBack)]
  nodup := by decide

/-- The node leads to `C` by way of `A` before it spreads it itself. -/
def mutualSelections : Document.Node := .selectionSet [.spread "A" [], .spread "C" []]

theorem spreads_mutual :
    Document.Selection.allSpreads mutualFront.definition.selections = ["C"] ∧
      Document.Selection.allSpreads mutualBack.definition.selections = ["A"] := by
  decide

theorem firstMeetings_mutual : firstMeetings mutualRegistry mutualSelections = ["A", "C"] := by
  obtain ⟨front, back⟩ := spreads_mutual
  have given : mutualSelections.spreads.filter
      (fun name => name ∉ mutualSelections.localFragments) = ["A", "C"] := by decide
  have first : mutualRegistry.get? "A" = some mutualFront := rfl
  have second : mutualRegistry.get? "C" = some mutualBack := rfl
  rw [firstMeetings, given, meetings_of_get? (by decide) first, front, List.singleton_append,
    meetings_of_get? (by decide) second, back, List.singleton_append, meetings_of_mem (by decide),
    meetings_of_mem (by decide), meetings_nil]
  rfl

theorem enters_mutual : Enters mutualRegistry [] [] .empty "A" mutualFront where
  foreign := by decide
  off := by decide
  found := rfl
  farther := by
    intro within
    obtain ⟨_, _, impossible⟩ := within
    cases impossible

theorem walkThrough_mutual : walkThrough mutualRegistry [] .empty "A" mutualFront =
    (OrderedMap.empty.insert "A" 0).insert "C" 1 := by
  obtain ⟨front, back⟩ := spreads_mutual
  have enters : Enters mutualRegistry ["A"] ["A"] (OrderedMap.empty.insert "A" 0) "C"
      mutualBack := by
    refine ⟨by decide, by decide, rfl, ?_⟩
    intro within
    obtain ⟨_, _, impossible⟩ := within
    cases impossible
  have named : mutualFront.definition.name = "A" := rfl
  rw [walkThrough, front, named]
  refine (followSpreads_of_enters enters).trans ?_
  rw [followSpreads, walkThrough, back, followSpreads_of_passed, followSpreads]
  · rfl
  · intro entry again
    exact again.off (by decide)

theorem externalFragments_in_order_of_meeting_mutual :
    Registry.build userSchema {} mutualDocuments = .ok mutualRegistry ∧
      (externalFragments mutualRegistry mutualSelections).keys = ["A", "C"] ∧
      ∃ depths entry, WalkState mutualRegistry mutualSelections [] [] ["C"] depths ∧
        Enters mutualRegistry [] [] depths "C" entry ∧ depths.get? "C" = some 1 ∧
          (walkThrough mutualRegistry [] depths "C" entry).keys = depths.keys := by
  have built : Registry.build userSchema {} mutualDocuments = .ok mutualRegistry := by
    decide +kernel
  obtain ⟨order, -, again⟩ := externalFragments_in_order_of_meeting built mutualSelections
  have outset : WalkState mutualRegistry mutualSelections [] [] ["A", "C"] .empty := .start
  have here := outset.left enters_mutual
  have behind : (walkThrough mutualRegistry [] .empty "A" mutualFront).get? "C" = some 1 := by
    rw [walkThrough_mutual]
    rfl
  have enters : Enters mutualRegistry [] [] (walkThrough mutualRegistry [] .empty "A" mutualFront)
      "C" mutualBack := by
    refine ⟨by decide, by decide, rfl, ?_⟩
    intro within
    obtain ⟨depth, near, found⟩ := within
    cases behind.symm.trans found
    exact absurd near (by decide)
  have same := again [] [] "C" [] _ mutualBack here enters (OrderedMap.mem_keys_of_get? behind)
  exact ⟨built, order.trans firstMeetings_mutual, _, mutualBack, here, enters, behind, same.2⟩

end FragmentImports
