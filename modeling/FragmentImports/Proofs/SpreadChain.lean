import FragmentImports.Proofs.SpreadWalk
import Mathlib.Order.Bounds.Basic

/-!
External fragments and chains of spreads. The walk reports exactly the registered names that some
chain reaches from a foreign spread of the node, each at the length of its shortest chain.
-/

namespace FragmentImports

/-- A chain of registered names from a foreign spread of the node to a name, each of them spread in
the registered definition of the one before. The length counts the steps between fragments. -/
inductive SpreadChain (registry : Registry) (node : Document.Node) : Nat → String → Prop where
  | direct {name} (spread : name ∈ node.spreads) (foreign : name ∉ node.localFragments)
      (registered : name ∈ registry.keys) : SpreadChain registry node 0 name
  | through {length via name} (front : SpreadChain registry node length via)
      (edge : registry.Spreads via name) : SpreadChain registry node (length + 1) name

variable {registry : Registry} {node : Document.Node}

theorem SpreadChain.registered {length : Nat} {name : String}
    (chain : SpreadChain registry node length name) : name ∈ registry.keys := by
  cases chain with
  | direct _ _ registered => exact registered
  | through _ edge =>
      obtain ⟨_, _, _, registered⟩ := edge
      exact registered

theorem SpreadChain.zero_iff {name : String} : SpreadChain registry node 0 name ↔
    name ∈ node.spreads ∧ name ∉ node.localFragments ∧ name ∈ registry.keys := by
  constructor
  · intro chain
    cases chain with
    | direct spread foreign registered => exact ⟨spread, foreign, registered⟩
  · rintro ⟨spread, foreign, registered⟩
    exact .direct spread foreign registered

theorem SpreadWalk.chain_of_get? {path ignored spreads : List String} {before after : SpreadDepths}
    (walk : SpreadWalk registry path ignored spreads before after)
    (reached : ∀ name ∈ spreads, name ∉ ignored → name ∈ registry.keys →
      SpreadChain registry node path.length name)
    (recorded : ∀ name depth, before.get? name = some depth →
      SpreadChain registry node depth name) :
    ∀ name depth, after.get? name = some depth → SpreadChain registry node depth name := by
  induction walk with
  | finished => exact recorded
  | passed _ _ ih =>
      exact ih (fun name member => reached name (List.mem_cons_of_mem _ member)) recorded
  | @entered path _ fresh _ before _ _ entry foreign _ found _ _ _ ihThrough ihOnward =>
      have here : SpreadChain registry node path.length fresh :=
        reached fresh (List.mem_cons_self ..) foreign (OrderedMap.mem_keys_of_get? found)
      have below : ∀ name ∈ Document.Selection.allSpreads entry.definition.selections,
          name ∉ [entry.definition.name] → name ∈ registry.keys →
            SpreadChain registry node (fresh :: path).length name := by
        intro name spread _ registered
        exact .through here ⟨entry, found, spread, registered⟩
      have noted : ∀ name depth, (before.insert fresh path.length).get? name = some depth →
          SpreadChain registry node depth name := by
        intro name depth known
        by_cases same : fresh = name
        · subst same
          rw [OrderedMap.get?_insert_self, Option.some.injEq] at known
          exact known ▸ here
        · rw [OrderedMap.get?_insert_of_ne before path.length same] at known
          exact recorded name depth known
      exact ihOnward (fun name member => reached name (List.mem_cons_of_mem _ member))
        (ihThrough below noted)

theorem spreadWalk_externalFragments (registry : Registry) (node : Document.Node) :
    SpreadWalk registry [] node.localFragments node.spreads .empty
      (externalFragments registry node) :=
  spreadWalk_followSpreads registry [] node.localFragments node.spreads .empty

theorem chain_of_get?_externalFragments {name : String} {depth : Nat}
    (found : (externalFragments registry node).get? name = some depth) :
    SpreadChain registry node depth name := by
  refine (spreadWalk_externalFragments registry node).chain_of_get? ?_ ?_ name depth found
  · intro other spread foreign registered
    exact .direct spread foreign registered
  · intro other known impossible
    cases impossible

/-- No chain is shorter than the depth recorded for its last name. -/
theorem within_of_chain (keyed : registry.Keyed) {length : Nat} {name : String}
    (chain : SpreadChain registry node length name) :
    (externalFragments registry node).Within name length := by
  have walk := spreadWalk_externalFragments registry node
  have nothingAbove : ∀ name ∈ ([] : List String),
      SpreadDepths.Within .empty name ([] : List String).length := by
    intro name member
    cases member
  have settled : SettledOff registry [] (externalFragments registry node) := by
    refine walk.settledOff keyed nothingAbove ?_
    intro via depth _ impossible
    cases impossible
  induction chain with
  | direct spread foreign registered =>
      exact walk.within_spreads nothingAbove _ spread foreign registered
  | @through length via name _ edge ih =>
      obtain ⟨depth, below, found⟩ := ih
      have step : (externalFragments registry node).Within name (depth + 1) :=
        settled via depth (List.not_mem_nil) found name edge
      exact step.mono (Nat.succ_le_succ below)

theorem mem_keys_externalFragments (keyed : registry.Keyed) {name : String} :
    name ∈ (externalFragments registry node).keys ↔
      ∃ length, SpreadChain registry node length name := by
  rw [OrderedMap.mem_keys_iff]
  constructor
  · rintro ⟨depth, found⟩
    exact ⟨depth, chain_of_get?_externalFragments found⟩
  · rintro ⟨length, chain⟩
    obtain ⟨depth, -, found⟩ := within_of_chain keyed chain
    exact ⟨depth, found⟩

theorem isLeast_of_get?_externalFragments (keyed : registry.Keyed) {name : String} {depth : Nat}
    (found : (externalFragments registry node).get? name = some depth) :
    IsLeast {length | SpreadChain registry node length name} depth := by
  constructor
  · exact chain_of_get?_externalFragments found
  · intro length chain
    obtain ⟨known, below, again⟩ := within_of_chain keyed chain
    rw [found, Option.some.injEq] at again
    exact again ▸ below

theorem get?_externalFragments_iff (keyed : registry.Keyed) {name : String} {depth : Nat} :
    (externalFragments registry node).get? name = some depth ↔
      IsLeast {length | SpreadChain registry node length name} depth := by
  constructor
  · exact isLeast_of_get?_externalFragments keyed
  · intro least
    obtain ⟨known, -, found⟩ := within_of_chain keyed least.1
    rw [found, least.unique (isLeast_of_get?_externalFragments keyed found)]

theorem get?_externalFragments_zero_iff (keyed : registry.Keyed) {name : String} :
    (externalFragments registry node).get? name = some 0 ↔
      name ∈ node.spreads ∧ name ∉ node.localFragments ∧ name ∈ registry.keys := by
  rw [get?_externalFragments_iff keyed, ← SpreadChain.zero_iff]
  constructor
  · exact fun least => least.1
  · intro chain
    exact ⟨chain, fun length _ => Nat.zero_le length⟩

/-- For every graph of spreads, cycles included, a name is external exactly when a chain ends in it,
and its depth is the least length of such a chain. -/
theorem externalFragments_shortest_chains (registry : Registry) (keyed : registry.Keyed)
    (node : Document.Node) (name : String) :
    (name ∈ (externalFragments registry node).keys ↔
        ∃ length, SpreadChain registry node length name) ∧
      ∀ depth, (externalFragments registry node).get? name = some depth ↔
        IsLeast {length | SpreadChain registry node length name} depth :=
  ⟨mem_keys_externalFragments keyed, fun _ => get?_externalFragments_iff keyed⟩

def Document.Selection.ofSpreads (spreads : List String) : List Document.Selection :=
  .field none "id" [] [] none :: spreads.map fun spread => .spread spread []

def Document.Fragment.ofSpreads (name onType : String) (spreads : List String) :
    Document.Fragment where
  description? := none
  name := name
  onType := onType
  directives := []
  selections := Document.Selection.ofSpreads spreads

/-- Two fragments that spread each other; the second one leads to a third that spreads itself. -/
def cyclicRegistry : Registry where
  entries := [("A", ⟨"a.py", ["A"], "User", .ofSpreads "A" "User" ["B"]⟩),
    ("B", ⟨"b.py", ["B"], "User", .ofSpreads "B" "User" ["A", "C"]⟩),
    ("C", ⟨"c.py", ["C"], "User", .ofSpreads "C" "User" ["C"]⟩)]
  nodup := by decide

theorem externalFragments_shortest_chains_cyclic :
    cyclicRegistry.Keyed ∧
      (externalFragments cyclicRegistry
        (.selectionSet [.spread "A" [], .spread "B" []])).get? "C" = some 1 := by
  have keyed : cyclicRegistry.Keyed := by decide
  refine ⟨keyed, ?_⟩
  apply ((externalFragments_shortest_chains cyclicRegistry keyed _ "C").2 1).2
  constructor
  · have first : SpreadChain cyclicRegistry
        (.selectionSet [.spread "A" [], .spread "B" []]) 0 "B" :=
      .direct (by decide) (by decide) (by decide)
    exact .through first ⟨_, rfl, by decide, by decide⟩
  · intro length chain
    cases chain with
    | direct spread _ _ => exact absurd spread (by decide)
    | @through before _ _ _ _ => exact Nat.succ_le_succ (Nat.zero_le before)

end FragmentImports
