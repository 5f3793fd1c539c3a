import FragmentImports.Registry

/-!
Which registered fragments a part of a document depends on, and how many spreads lie between. The
walk follows spreads depth first and enters a fragment again only when it gets there on a shorter
chain.
-/

namespace FragmentImports

theorem countP_notMem_cons_lt {names path : List String} {name : String} (member : name ∈ names)
    (off : name ∉ path) :
    names.countP (fun other => decide (other ∉ name :: path)) <
      names.countP (fun other => decide (other ∉ path)) := by
  induction names with
  | nil => simp at member
  | cons head rest ih =>
      have shorter : rest.countP (fun other => decide (other ∉ name :: path)) ≤
          rest.countP (fun other => decide (other ∉ path)) := by
        apply List.countP_mono_left
        intro other _ outside
        simp only [List.mem_cons, not_or, decide_eq_true_eq] at outside ⊢
        exact outside.2
      by_cases same : head = name
      · subst same
        simp only [List.countP_cons, List.mem_cons, true_or, not_true_eq_false, decide_false, off,
          not_false_eq_true, decide_true]
        simp only [List.mem_cons] at shorter
        simpa using Nat.lt_succ_of_le shorter
      · have inside : name ∈ rest := by
          rcases List.mem_cons.1 member with equal | inside
          · exact absurd equal.symm same
          · exact inside
        have smaller := ih inside
        simp only [List.countP_cons, List.mem_cons, same, false_or] at smaller ⊢
        omega

/-- How many spreads lie behind the first one on the way to a fragment. -/
abbrev SpreadDepths := OrderedMap String Nat

def SpreadDepths.reached (depths : SpreadDepths) (name : String) (depth : Nat) : Bool :=
  (depths.get? name).any fun known => known ≤ depth

/-- Takes spreads met behind a path of fragments, the latest of them first. Ignored names, names on
the path and unregistered names are passed over. -/
def followSpreads (registry : Registry) (path ignored : List String) (spreads : List String)
    (depths : SpreadDepths) : SpreadDepths :=
  match spreads with
  | [] => depths
  | name :: rest =>
      if skipped : name ∈ ignored ∨ name ∈ path then followSpreads registry path ignored rest depths
      else match found : registry.get? name with
        | none => followSpreads registry path ignored rest depths
        | some entry =>
            if depths.reached name path.length then followSpreads registry path ignored rest depths
            else
              have := countP_notMem_cons_lt (OrderedMap.mem_keys_of_get? found)
                (not_or.1 skipped).2
              let inside := followSpreads registry (name :: path) [entry.definition.name]
                (Document.Selection.allSpreads entry.definition.selections)
                (depths.insert name path.length)
              followSpreads registry path ignored rest inside
termination_by (registry.keys.countP (fun name => decide (name ∉ path)), spreads.length)
decreasing_by
  · exact .right _ (Nat.lt_succ_self _)
  · exact .right _ (Nat.lt_succ_self _)
  · exact .right _ (Nat.lt_succ_self _)
  · exact .left _ _ this
  · exact .right _ (Nat.lt_succ_self _)

/-- The registered fragments that a node depends on, in the order in which the walk meets them, each
with the least number of fragments between. -/
def externalFragments (registry : Registry) (node : Document.Node) : SpreadDepths :=
  followSpreads registry [] node.localFragments node.spreads .empty

end FragmentImports
