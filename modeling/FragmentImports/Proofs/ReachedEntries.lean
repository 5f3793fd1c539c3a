import FragmentImports.Proofs.DocumentOrder

/-!
What a plan depends on. A walk looks up the spreads of a node and those of the fragments that it
records, and nothing else: registries that answer alike for these names give the same plan, whatever
else they hold and in whatever order.
-/

namespace FragmentImports

def Registry.AgreeOn (registry other : Registry) (names : List String) : Prop :=
  ∀ name ∈ names, registry.get? name = other.get? name

instance (registry other : Registry) (names : List String) :
    Decidable (registry.AgreeOn other names) :=
  inferInstanceAs (Decidable (∀ name ∈ names, registry.get? name = other.get? name))

def Registry.AgreeInside (registry other : Registry) (names : List String) : Prop :=
  ∀ name ∈ names, ∀ entry, registry.get? name = some entry →
    registry.AgreeOn other (Document.Selection.allSpreads entry.definition.selections)

namespace SpreadWalk

variable {registry other : Registry} {path ignored spreads : List String}
  {before after : SpreadDepths}

theorem mem_keys (walk : SpreadWalk registry path ignored spreads before after) {name : String}
    (known : name ∈ before.keys) : name ∈ after.keys := by
  obtain ⟨depth, found⟩ := OrderedMap.mem_keys_iff.1 known
  obtain ⟨_, -, still⟩ := walk.within ⟨depth, Nat.le_refl depth, found⟩
  exact OrderedMap.mem_keys_of_get? still

/-- A walk goes through another registry that agrees on the spreads it is given and on those of
every fragment that it ends up recording. -/
theorem of_agreement (walk : SpreadWalk registry path ignored spreads before after)
    (given : registry.AgreeOn other spreads) (inside : registry.AgreeInside other after.keys) :
    SpreadWalk other path ignored spreads before after := by
  induction walk with
  | finished => exact .finished
  | @passed _ _ name _ _ _ skipped _ ih =>
      rw [Registry.AgreeOn, List.forall_mem_cons] at given
      have alike : name ∉ registry.keys ↔ name ∉ other.keys := by
        rw [← OrderedMap.get?_eq_none_iff, ← OrderedMap.get?_eq_none_iff, given.1]
      rw [alike] at skipped
      exact .passed skipped (ih given.2 inside)
  | @entered path _ name _ before _ _ entry foreign off found farther through onward ihThrough
      ihOnward =>
      rw [Registry.AgreeOn, List.forall_mem_cons] at given
      have recorded : name ∈ (before.insert name path.length).keys :=
        OrderedMap.mem_keys_of_get? (OrderedMap.get?_insert_self before name path.length)
      have below := inside name (onward.mem_keys (through.mem_keys recorded)) entry found
      exact .entered foreign off (given.1 ▸ found) farther
        (ihThrough below fun inner known => inside inner (onward.mem_keys known))
        (ihOnward given.2 inside)

theorem agreeOn_keys (walk : SpreadWalk registry path ignored spreads before after)
    (given : registry.AgreeOn other spreads) (inside : registry.AgreeInside other after.keys)
    (known : registry.AgreeOn other before.keys) : registry.AgreeOn other after.keys := by
  induction walk with
  | finished => exact known
  | passed _ _ ih =>
      rw [Registry.AgreeOn, List.forall_mem_cons] at given
      exact ih given.2 inside known
  | @entered path _ name _ before _ _ entry _ _ found _ through onward ihThrough ihOnward =>
      rw [Registry.AgreeOn, List.forall_mem_cons] at given
      have grown : registry.AgreeOn other (before.insert name path.length).keys := by
        intro recorded member
        rw [OrderedMap.mem_keys_iff] at member
        by_cases same : name = recorded
        · exact same ▸ given.1
        · simp only [OrderedMap.get?_insert_of_ne before path.length same] at member
          exact known recorded (OrderedMap.mem_keys_iff.2 member)
      have recorded : name ∈ (before.insert name path.length).keys :=
        OrderedMap.mem_keys_of_get? (OrderedMap.get?_insert_self before name path.length)
      have below := inside name (onward.mem_keys (through.mem_keys recorded)) entry found
      exact ihOnward given.2 inside
        (ihThrough below (fun inner later => inside inner (onward.mem_keys later)) grown)

end SpreadWalk

namespace Registry

variable {registry other : Registry} {node : Document.Node}

/-- Two registries give the same answers for whatever a node spreads and for whatever is spread by
the fragments that it depends on under the first of them. -/
structure AgreeBelow (registry other : Registry) (node : Document.Node) : Prop where
  given : registry.AgreeOn other node.spreads
  inside : registry.AgreeInside other (externalFragments registry node).keys

theorem AgreeBelow.externalFragments_eq (agree : registry.AgreeBelow other node) :
    externalFragments other node = externalFragments registry node :=
  (spreadWalk_externalFragments other node).unique
    ((spreadWalk_externalFragments registry node).of_agreement agree.given agree.inside)

theorem AgreeBelow.agreeOn_externalFragments (agree : registry.AgreeBelow other node) :
    registry.AgreeOn other (externalFragments registry node).keys := by
  refine (spreadWalk_externalFragments registry node).agreeOn_keys agree.given agree.inside ?_
  intro name member
  cases member

theorem registered_congr {depths : OrderedMap String Int}
    (agree : registry.AgreeOn other depths.keys) :
    other.registered depths = registry.registered depths := by
  apply List.filterMap_congr
  rintro ⟨name, depth⟩ member
  have same := agree name (List.mem_map.2 ⟨_, member, rfl⟩)
  simp only [same]

/-- The plan of a file and its import statements are the same under every registry that agrees with
the first one on what the node spreads and on what is spread by the fragments that it depends on
there. -/
theorem resolve_depends_on_reached (agree : registry.AgreeBelow other node)
    (context : ImportContext) (importer : String) :
    externalFragments other node = externalFragments registry node ∧
      other.resolve node = registry.resolve node ∧
      (other.resolve node).statements context importer =
        (registry.resolve node).statements context importer := by
  have depths := agree.externalFragments_eq
  have keys : registry.AgreeOn other
      ((externalFragments registry node).mapValues Int.ofNat).keys := by
    rw [OrderedMap.keys_mapValues]
    exact agree.agreeOn_externalFragments
  have plans : other.resolve node = registry.resolve node := by
    rw [resolve, resolve, plan, plan, importSources, importSources, depths, registered_congr keys]
  exact ⟨depths, plans, by rw [plans]⟩

end Registry

/-- `C` as in `cyclicRegistry` behind a fragment of its own; `A` is another fragment and `B` is
gone. -/
def changedRegistry : Registry where
  entries := [("D", ⟨"d.py", ["D"], "User", .ofSpreads "D" "User" ["C"]⟩),
    ("C", ⟨"c.py", ["C"], "User", .ofSpreads "C" "User" ["C"]⟩),
    ("A", ⟨"other.py", [], "Node", .ofSpreads "A" "Node" []⟩)]
  nodup := by decide

def straySelections : Document.Node := .selectionSet [.spread "C" [], .spread "Z" []]

theorem eq_of_chain_stray {length : Nat} {name : String}
    (chain : SpreadChain cyclicRegistry straySelections length name) : name = "C" := by
  induction chain with
  | @direct name spread _ registered =>
      have among : name ∈ ["C", "Z"] := spread
      rcases List.mem_cons.1 among with first | second
      · exact first
      · rw [List.mem_singleton.1 second] at registered
        exact absurd registered (by decide)
  | @through _ via name _ edge ih =>
      subst ih
      obtain ⟨entry, filed, spread, -⟩ := edge
      cases filed
      exact List.mem_singleton.1 spread

theorem agreeBelow_changed : cyclicRegistry.AgreeBelow changedRegistry straySelections where
  given := by decide
  inside := by
    intro name member entry found
    obtain ⟨length, chain⟩ := (mem_keys_externalFragments (by decide)).1 member
    cases eq_of_chain_stray chain
    cases found
    decide

theorem resolve_depends_on_reached_changed :
    cyclicRegistry.AgreeBelow changedRegistry straySelections ∧
      changedRegistry.resolve straySelections = cyclicRegistry.resolve straySelections :=
  ⟨agreeBelow_changed,
    (Registry.resolve_depends_on_reached agreeBelow_changed ⟨[], ""⟩ "q.py").2.1⟩

end FragmentImports
