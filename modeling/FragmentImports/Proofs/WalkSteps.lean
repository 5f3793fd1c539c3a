import FragmentImports.Proofs.SpreadChain
import Mathlib.Data.List.Perm.Subperm
import Mathlib.Logic.Hydra

/-!
The walk one step at a time, with the calls that are open at a moment. A call that is made has one
fragment more on its path than the call that makes it, so there is less and less left to do, and the
walk ends on every graph. No path repeats a name, so no call lies deeper than there are registered
fragments.
-/

namespace FragmentImports

/-- A call of the walk that has not returned: its level, the fragments on its path, the names that
it ignores and the spreads that it has not come to. -/
structure OpenCall where
  level : Nat
  path : List String
  ignored : List String
  pending : List String
  deriving DecidableEq, Repr

namespace OpenCall

def target? (registry : Registry) (depths : SpreadDepths) (call : OpenCall) (name : String) :
    Option Registry.Entry :=
  (registry.get? name).filter fun _ =>
    name ∉ call.ignored && name ∉ call.path && !depths.reached name call.level

def inside (call : OpenCall) (name : String) (entry : Registry.Entry) : OpenCall where
  level := call.level + 1
  path := name :: call.path
  ignored := [entry.definition.name]
  pending := Document.Selection.allSpreads entry.definition.selections

variable {registry : Registry} {depths : SpreadDepths} {call : OpenCall} {name : String}
  {entry : Registry.Entry}

theorem target?_eq_some_iff : call.target? registry depths name = some entry ↔
    registry.get? name = some entry ∧ name ∉ call.ignored ∧ name ∉ call.path ∧
      ¬depths.Within name call.level := by
  simp [target?, Option.filter_eq_some_iff, ← SpreadDepths.reached_iff, and_assoc]

theorem target?_of_skipped (skipped : name ∈ call.ignored ∨ name ∈ call.path ∨
    name ∉ registry.keys ∨ depths.Within name call.level) :
    call.target? registry depths name = none := by
  rw [Option.eq_none_iff_forall_ne_some]
  intro entry goes
  obtain ⟨found, foreign, off, farther⟩ := target?_eq_some_iff.1 goes
  rcases skipped with ignored | onPath | unregistered | reached
  · exact foreign ignored
  · exact off onPath
  · exact unregistered (OrderedMap.mem_keys_of_get? found)
  · exact farther reached

/-- How much a call can still bring about: the registered names off its path, then its spreads. -/
def weight (registry : Registry) (call : OpenCall) : Nat × Nat :=
  (registry.keys.countP fun name => decide (name ∉ call.path), call.pending.length)

def Lighter (registry : Registry) : OpenCall → OpenCall → Prop :=
  InvImage (Prod.Lex (· < ·) (· < ·)) (weight registry)

theorem wellFounded_lighter (registry : Registry) : WellFounded (Lighter registry) :=
  InvImage.wf (weight registry) (WellFounded.prod_lex Nat.lt_wfRel.wf Nat.lt_wfRel.wf)

theorem lighter_onward {rest : List String} (pending : call.pending = name :: rest) :
    Lighter registry { call with pending := rest } call := by
  have shorter : rest.length < call.pending.length := by
    rw [pending]
    exact Nat.lt_succ_self rest.length
  exact .right _ shorter

theorem lighter_inside (found : registry.get? name = some entry) (off : name ∉ call.path) :
    Lighter registry (call.inside name entry) call :=
  .left _ _ (countP_notMem_cons_lt (OrderedMap.mem_keys_of_get? found) off)

/-- Calls inside each other. On the path of each stand as many registered names as there are calls
around it, none of them twice. -/
inductive Nested (registry : Registry) : List OpenCall → Prop where
  | none : Nested registry []
  | call {call callers} (around : Nested registry callers) (apart : call.path.Nodup)
      (registered : call.path ⊆ registry.keys) (leveled : call.path.length = call.level)
      (deep : call.level = callers.length) : Nested registry (call :: callers)

namespace Nested

variable {calls callers : List OpenCall}

theorem path_of_mem (nested : Nested registry calls) (listed : call ∈ calls) :
    call.path.Nodup ∧ call.path ⊆ registry.keys ∧ call.path.length = call.level := by
  induction nested with
  | none => cases listed
  | call _ apart registered leveled _ ih =>
      rcases List.mem_cons.1 listed with rfl | outer
      · exact ⟨apart, registered, leveled⟩
      · exact ih outer

theorem length_le (nested : Nested registry calls) : calls.length ≤ registry.keys.length + 1 := by
  cases nested with
  | none => exact Nat.zero_le _
  | call _ apart registered leveled deep =>
      have short := (List.subperm_of_subset apart registered).length_le
      rw [List.length_cons, ← deep, ← leveled]
      exact Nat.succ_le_succ short

theorem onward (nested : Nested registry (call :: callers)) (rest : List String) :
    Nested registry ({ call with pending := rest } :: callers) := by
  cases nested with
  | call around apart registered leveled deep =>
      exact .call around apart registered leveled deep

theorem inside (nested : Nested registry (call :: callers))
    (found : registry.get? name = some entry) (off : name ∉ call.path) :
    Nested registry (call.inside name entry :: call :: callers) := by
  have around := nested
  cases nested with
  | call _ apart registered leveled deep =>
      refine .call around (List.nodup_cons.2 ⟨off, apart⟩) ?_ (congrArg Nat.succ leveled)
        (congrArg Nat.succ deep)
      exact List.cons_subset.2 ⟨OrderedMap.mem_keys_of_get? found, registered⟩

theorem level_lt (nested : Nested registry (call :: callers))
    (found : registry.get? name = some entry) (off : name ∉ call.path) :
    call.level < registry.keys.length := by
  have below := (nested.inside found off).length_le
  cases nested with
  | call _ _ _ _ deep =>
      rw [List.length_cons, List.length_cons, ← deep] at below
      exact Nat.le_of_succ_le_succ below

end Nested

end OpenCall

/-- The walk at a moment: its open calls, the innermost first, and what all of them have recorded.
-/
structure Traversal where
  calls : List OpenCall
  depths : SpreadDepths
  deriving DecidableEq

namespace Traversal

def start (node : Document.Node) : Traversal where
  calls := [{ level := 0, path := [], ignored := node.localFragments, pending := node.spreads }]
  depths := .empty

/-- The next moment, unless no call is open: the innermost call returns, or it takes a spread, which
it passes over or else records at its level and makes a call for. -/
def next? (registry : Registry) : Traversal → Option Traversal
  | ⟨[], _⟩ => none
  | ⟨call :: callers, depths⟩ =>
      match call.pending with
      | [] => some ⟨callers, depths⟩
      | name :: rest =>
          let onward := { call with pending := rest }
          match call.target? registry depths name with
          | none => some ⟨onward :: callers, depths⟩
          | some entry =>
              some ⟨call.inside name entry :: onward :: callers, depths.insert name call.level⟩

def advance (registry : Registry) (now : Traversal) : Traversal :=
  (next? registry now).getD now

def momentAt (registry : Registry) (node : Document.Node) (count : Nat) : Traversal :=
  (advance registry)^[count] (start node)

inductive Step (registry : Registry) : Traversal → Traversal → Prop where
  | returned {call callers depths} (done : call.pending = []) :
      Step registry ⟨call :: callers, depths⟩ ⟨callers, depths⟩
  | passed {call callers name rest depths} (pending : call.pending = name :: rest)
      (skipped : call.target? registry depths name = none) :
      Step registry ⟨call :: callers, depths⟩ ⟨{ call with pending := rest } :: callers, depths⟩
  | entered {call callers name rest depths entry} (pending : call.pending = name :: rest)
      (goes : call.target? registry depths name = some entry) :
      Step registry ⟨call :: callers, depths⟩
        ⟨call.inside name entry :: { call with pending := rest } :: callers,
          depths.insert name call.level⟩

variable {registry : Registry} {now later : Traversal}

theorem next?_eq_some_iff : next? registry now = some later ↔ Step registry now later := by
  constructor
  · intro next
    rcases now with ⟨_ | ⟨call, callers⟩, depths⟩
    · cases next
    · rw [next?] at next
      split at next
      · next done =>
          cases next
          exact .returned done
      · next name rest pending =>
          dsimp only at next
          split at next
          · next skipped =>
              cases next
              exact .passed pending skipped
          · next entry goes =>
              cases next
              exact .entered pending goes
  · intro step
    cases step with
    | returned done => simp only [next?, done]
    | passed pending skipped => simp only [next?, pending, skipped]
    | entered pending goes => simp only [next?, pending, goes]

theorem advance_of_step (step : Step registry now later) : advance registry now = later := by
  rw [advance, next?_eq_some_iff.2 step, Option.getD_some]

theorem cutExpand_calls {call : OpenCall} (instead callers : List OpenCall)
    (lighter : ∀ other ∈ instead, OpenCall.Lighter registry other call) :
    Relation.CutExpand (OpenCall.Lighter registry) ↑(instead ++ callers) ↑(call :: callers) := by
  refine ⟨instead, call, lighter, ?_⟩
  rw [← Multiset.coe_add, ← Multiset.cons_coe, ← Multiset.singleton_add, add_comm, add_assoc,
    add_comm (callers : Multiset OpenCall)]

theorem cutExpand_of_step (step : Step registry now later) :
    Relation.CutExpand (OpenCall.Lighter registry) ↑later.calls ↑now.calls := by
  cases step with
  | @returned call callers depths done => exact cutExpand_calls [] callers (by simp)
  | @passed call callers name rest depths pending skipped =>
      refine cutExpand_calls [_] callers ?_
      rw [List.forall_mem_singleton]
      exact OpenCall.lighter_onward pending
  | @entered call callers name rest depths entry pending goes =>
      obtain ⟨found, -, off, -⟩ := OpenCall.target?_eq_some_iff.1 goes
      refine cutExpand_calls [_, _] callers ?_
      rw [List.forall_mem_cons, List.forall_mem_singleton]
      exact ⟨OpenCall.lighter_inside found off, OpenCall.lighter_onward pending⟩

theorem wellFounded_next? (registry : Registry) :
    WellFounded fun later now : Traversal => next? registry now = some later := by
  have ends := InvImage.wf (fun now : Traversal => (now.calls : Multiset OpenCall))
    (OpenCall.wellFounded_lighter registry).cutExpand
  refine Subrelation.wf ?_ ends
  intro later now next
  exact cutExpand_of_step (next?_eq_some_iff.1 next)

end Traversal

/-- A call that has taken all its spreads returns to its callers, with what the walk records. -/
theorem SpreadWalk.exists_return {registry : Registry} {path ignored spreads : List String}
    {before after : SpreadDepths} (walk : SpreadWalk registry path ignored spreads before after)
    (callers : List OpenCall) :
    ∃ count, (Traversal.advance registry)^[count]
      ⟨⟨path.length, path, ignored, spreads⟩ :: callers, before⟩ = ⟨callers, after⟩ := by
  induction walk generalizing callers with
  | @finished path ignored depths =>
      let call : OpenCall := ⟨path.length, path, ignored, []⟩
      have step : Traversal.Step registry ⟨call :: callers, depths⟩ _ := .returned rfl
      exact ⟨1, Traversal.advance_of_step step⟩
  | @passed path ignored name rest before _ skipped _ ih =>
      let call : OpenCall := ⟨path.length, path, ignored, name :: rest⟩
      have step : Traversal.Step registry ⟨call :: callers, before⟩ _ :=
        .passed rfl (OpenCall.target?_of_skipped skipped)
      obtain ⟨onward, back⟩ := ih callers
      refine ⟨onward + 1, ?_⟩
      rw [Function.iterate_succ_apply, Traversal.advance_of_step step]
      exact back
  | @entered path ignored name rest before _ _ entry foreign off found farther _ _ ihThrough
      ihOnward =>
      let call : OpenCall := ⟨path.length, path, ignored, name :: rest⟩
      have step : Traversal.Step registry ⟨call :: callers, before⟩ _ :=
        .entered rfl (OpenCall.target?_eq_some_iff.2 ⟨found, foreign, off, farther⟩)
      obtain ⟨through, returned⟩ := ihThrough ({ call with pending := rest } :: callers)
      obtain ⟨onward, back⟩ := ihOnward callers
      refine ⟨onward + (through + 1), ?_⟩
      rw [Function.iterate_add_apply, Function.iterate_succ_apply, Traversal.advance_of_step step]
      exact (congrArg _ returned).trans back

namespace Traversal

theorem exists_momentAt_end (registry : Registry) (node : Document.Node) :
    ∃ count, momentAt registry node count = ⟨[], externalFragments registry node⟩ :=
  (spreadWalk_externalFragments registry node).exists_return []

structure Bounded (registry : Registry) (now : Traversal) : Prop where
  nested : OpenCall.Nested registry now.calls
  recorded : ∀ name depth, now.depths.get? name = some depth → depth < registry.keys.length

variable {registry : Registry} {now later : Traversal}

theorem bounded_start (registry : Registry) (node : Document.Node) :
    Bounded registry (start node) where
  nested := .call .none List.nodup_nil (List.nil_subset _) rfl rfl
  recorded := by
    intro name depth impossible
    cases impossible

theorem Bounded.step (bounded : Bounded registry now) (step : Step registry now later) :
    Bounded registry later := by
  obtain ⟨nested, recorded⟩ := bounded
  cases step with
  | returned done =>
      cases nested with
      | call around _ _ _ _ => exact ⟨around, recorded⟩
  | passed pending skipped => exact ⟨nested.onward _, recorded⟩
  | @entered call callers name rest depths entry pending goes =>
      obtain ⟨found, -, off, -⟩ := OpenCall.target?_eq_some_iff.1 goes
      refine ⟨(nested.onward rest).inside found off, ?_⟩
      intro other depth known
      rw [OrderedMap.get?_insert] at known
      split at known
      · cases known
        exact nested.level_lt found off
      · exact recorded other depth known

theorem bounded_momentAt (registry : Registry) (node : Document.Node) (count : Nat) :
    Bounded registry (momentAt registry node count) := by
  induction count with
  | zero => exact bounded_start registry node
  | succ count ih =>
      rw [momentAt, Function.iterate_succ_apply', ← momentAt, advance]
      cases next : next? registry (momentAt registry node count) with
      | none => exact ih
      | some later => exact ih.step (next?_eq_some_iff.1 next)

/-- A step records a fragment at a level and makes a call for it, one level deeper. -/
structure GoesInto (now later : Traversal) (name : String) (level : Nat) : Prop where
  recorded : later.depths = now.depths.insert name level
  called : ∃ inside callers, later.calls = inside :: callers ∧
    callers.length = now.calls.length ∧ inside.path.head? = some name ∧ inside.level = level + 1

theorem goesInto_of_step (step : Step registry now later) :
    (later.depths = now.depths ∧ later.calls.length ≤ now.calls.length) ∨
      ∃ name level, GoesInto now later name level ∧
        (now.depths.get? name = none ∨
          ∃ known, now.depths.get? name = some known ∧ level < known) := by
  cases step with
  | returned done => exact Or.inl ⟨rfl, Nat.le_succ _⟩
  | passed pending skipped => exact Or.inl ⟨rfl, Nat.le_refl _⟩
  | @entered call callers name rest depths entry pending goes =>
      obtain ⟨-, -, -, farther⟩ := OpenCall.target?_eq_some_iff.1 goes
      refine Or.inr ⟨name, call.level, ⟨rfl, _, _, rfl, rfl, rfl, rfl⟩, ?_⟩
      cases known : depths.get? name with
      | none => exact Or.inl rfl
      | some depth =>
          refine Or.inr ⟨depth, rfl, Nat.lt_of_not_le ?_⟩
          intro near
          exact farther ⟨depth, near, known⟩

/-- On every graph of spreads, cycles and misnamed definitions included, the walk ends with the
external fragments of the node. At every moment the path of each open call holds distinct registered
names, as many as its level tells; there is at most one open call more than there are registered
fragments, and every recorded depth is below their number. Whenever a fragment is gone into, that is
recorded for the first time or at a smaller depth than before. -/
theorem ends_on_every_graph (registry : Registry) (node : Document.Node) :
    (WellFounded fun later now : Traversal => next? registry now = some later) ∧
      (∃ count, momentAt registry node count = ⟨[], externalFragments registry node⟩) ∧
      ∀ count,
        let now := momentAt registry node count
        (∀ call ∈ now.calls,
          call.path.Nodup ∧ call.path ⊆ registry.keys ∧ call.path.length = call.level) ∧
        now.calls.length ≤ registry.keys.length + 1 ∧
        (∀ name depth, now.depths.get? name = some depth → depth < registry.keys.length) ∧
        ∀ later, next? registry now = some later →
          (later.depths = now.depths ∧ later.calls.length ≤ now.calls.length) ∨
            ∃ name level, GoesInto now later name level ∧
              (now.depths.get? name = none ∨
                ∃ known, now.depths.get? name = some known ∧ level < known) := by
  refine ⟨wellFounded_next? registry, exists_momentAt_end registry node, ?_⟩
  intro count now
  obtain ⟨nested, recorded⟩ := bounded_momentAt registry node count
  refine ⟨?_, nested.length_le, recorded, ?_⟩
  · intro call listed
    exact nested.path_of_mem listed
  · intro later next
    exact goesInto_of_step (next?_eq_some_iff.1 next)

/-- Three fragments that lead to each other; the first is registered under a name that its
definition does not have. -/
def misnamedRegistry : Registry where
  entries := [("A", ⟨"a.py", ["A"], "User", .ofSpreads "B" "User" ["A", "B", "C"]⟩),
    ("B", ⟨"b.py", ["B"], "User", .ofSpreads "B" "User" ["A"]⟩),
    ("C", ⟨"c.py", ["C"], "User", .ofSpreads "C" "User" ["C", "B"]⟩)]
  nodup := by decide

def misnamedNode : Document.Node := .selectionSet [.spread "A" [], .spread "B" []]

theorem ends_on_every_graph_misnamed :
    (momentAt misnamedRegistry misnamedNode 6).calls.length = misnamedRegistry.keys.length + 1 ∧
      ∃ later, next? misnamedRegistry (momentAt misnamedRegistry misnamedNode 10) = some later ∧
        ∃ known level, (momentAt misnamedRegistry misnamedNode 10).depths.get? "B" = some known ∧
          GoesInto (momentAt misnamedRegistry misnamedNode 10) later "B" level ∧ level < known := by
  obtain ⟨-, -, moments⟩ := ends_on_every_graph misnamedRegistry misnamedNode
  have before : (momentAt misnamedRegistry misnamedNode 10).depths.get? "B" = some 2 := by
    decide +kernel
  have after : (momentAt misnamedRegistry misnamedNode 11).depths.get? "B" = some 0 := by
    decide +kernel
  have next : next? misnamedRegistry (momentAt misnamedRegistry misnamedNode 10) =
      some (momentAt misnamedRegistry misnamedNode 11) := by
    decide +kernel
  obtain ⟨-, -, -, steps⟩ := moments 10
  refine ⟨by decide +kernel, _, next, 2, ?_⟩
  rcases steps _ next with ⟨same, -⟩ | ⟨name, level, goes, lower⟩
  · rw [same, before] at after
    cases after
  · have recorded := after
    rw [goes.recorded, OrderedMap.get?_insert] at recorded
    split at recorded
    · next called =>
        cases called
        rcases lower with first | ⟨known, found, lower⟩
        · cases before.symm.trans first
        · cases before.symm.trans found
          exact ⟨level, before, goes, lower⟩
    · cases before.symm.trans recorded

end Traversal

theorem depth_lt_of_get?_externalFragments {registry : Registry} {node : Document.Node}
    {name : String} {depth : Nat}
    (found : (externalFragments registry node).get? name = some depth) :
    depth < registry.keys.length := by
  obtain ⟨count, ended⟩ := Traversal.exists_momentAt_end registry node
  have bounded := Traversal.bounded_momentAt registry node count
  rw [ended] at bounded
  exact bounded.recorded name depth found

end FragmentImports
