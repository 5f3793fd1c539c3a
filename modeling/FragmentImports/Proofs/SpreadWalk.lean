import FragmentImports.Usage
import FragmentImports.Proofs.Registry

/-!
The walk along spreads, step by step. What has been recorded is only ever lowered, names on the path
keep their depths, and a fragment that the walk has left is settled: whatever it spreads is known at
most one step behind it.
-/

namespace FragmentImports

def Registry.Spreads (registry : Registry) (via name : String) : Prop :=
  ∃ entry, registry.get? via = some entry ∧
    name ∈ Document.Selection.allSpreads entry.definition.selections ∧ name ∈ registry.keys

theorem Registry.Spreads.source_mem {registry : Registry} {via name : String}
    (edge : registry.Spreads via name) : via ∈ registry.keys := by
  obtain ⟨entry, found, -, -⟩ := edge
  exact OrderedMap.mem_keys_of_get? found

namespace SpreadDepths

/-- A name is recorded at a depth or below. -/
def Within (depths : SpreadDepths) (name : String) (bound : Nat) : Prop :=
  ∃ depth ≤ bound, depths.get? name = some depth

theorem reached_iff {depths : SpreadDepths} {name : String} {bound : Nat} :
    depths.reached name bound = true ↔ depths.Within name bound := by
  unfold reached Within
  cases found : depths.get? name with
  | none => simp
  | some depth => simp

theorem Within.mono {depths : SpreadDepths} {name : String} {bound larger : Nat}
    (within : depths.Within name bound) (le : bound ≤ larger) : depths.Within name larger := by
  obtain ⟨depth, below, found⟩ := within
  exact ⟨depth, Nat.le_trans below le, found⟩

theorem within_insert_self (depths : SpreadDepths) (name : String) (depth : Nat) :
    Within (depths.insert name depth) name depth :=
  ⟨depth, Nat.le_refl depth, OrderedMap.get?_insert_self depths name depth⟩

theorem Within.insert {depths : SpreadDepths} {name other : String} {depth bound : Nat}
    (within : depths.Within other bound) (farther : ¬depths.Within name depth) :
    Within (OrderedMap.insert depths name depth) other bound := by
  by_cases same : name = other
  · subst same
    have closer : depth ≤ bound := by
      by_contra beyond
      exact farther (within.mono (Nat.le_of_lt (Nat.lt_of_not_le beyond)))
    exact (within_insert_self depths name depth).mono closer
  · obtain ⟨known, below, found⟩ := within
    exact ⟨known, below, by rw [OrderedMap.get?_insert_of_ne depths depth same]; exact found⟩

end SpreadDepths

/-- The walk behind a path of fragments as a derivation: it passes over a spread, or it records the
name, walks through its definition and goes on with what is recorded by then. -/
inductive SpreadWalk (registry : Registry) :
    (path ignored spreads : List String) → (before after : SpreadDepths) → Prop where
  | finished {path ignored depths} : SpreadWalk registry path ignored [] depths depths
  | passed {path ignored name rest before after}
      (skipped : name ∈ ignored ∨ name ∈ path ∨ name ∉ registry.keys ∨
        before.Within name path.length)
      (onward : SpreadWalk registry path ignored rest before after) :
      SpreadWalk registry path ignored (name :: rest) before after
  | entered {path ignored name rest before inside after entry}
      (foreign : name ∉ ignored) (off : name ∉ path) (found : registry.get? name = some entry)
      (farther : ¬before.Within name path.length)
      (through : SpreadWalk registry (name :: path) [entry.definition.name]
        (Document.Selection.allSpreads entry.definition.selections)
        (before.insert name path.length) inside)
      (onward : SpreadWalk registry path ignored rest inside after) :
      SpreadWalk registry path ignored (name :: rest) before after

theorem spreadWalk_followSpreads (registry : Registry) (path ignored spreads : List String)
    (depths : SpreadDepths) :
    SpreadWalk registry path ignored spreads depths
      (followSpreads registry path ignored spreads depths) := by
  induction path, ignored, spreads, depths using followSpreads.induct registry with
  | case1 path ignored depths =>
      rw [followSpreads]
      exact .finished
  | case2 path ignored depths name rest skipped ih =>
      rw [followSpreads, dif_pos skipped]
      exact .passed (skipped.imp_right Or.inl) ih
  | case3 path ignored depths name rest kept absent ih =>
      rw [followSpreads, dif_neg kept]
      split
      · exact .passed (Or.inr (Or.inr (Or.inl (OrderedMap.get?_eq_none_iff.1 absent)))) ih
      · next entry found => cases absent.symm.trans found
  | case4 path ignored depths name rest kept entry found reached ih =>
      rw [followSpreads, dif_neg kept]
      split
      · next absent => cases absent.symm.trans found
      · rw [if_pos reached]
        exact .passed (Or.inr (Or.inr (Or.inr (SpreadDepths.reached_iff.1 reached)))) ih
  | case5 path ignored depths name rest kept entry found farther _ inside ihThrough ihOnward =>
      rw [followSpreads, dif_neg kept]
      split
      · next absent => cases absent.symm.trans found
      · next other again =>
          cases found.symm.trans again
          rw [if_neg farther]
          have unreached : ¬depths.Within name path.length := by
            rwa [SpreadDepths.reached_iff] at farther
          exact .entered (not_or.1 kept).1 (not_or.1 kept).2 found unreached ihThrough ihOnward

namespace SpreadWalk

variable {registry : Registry} {path ignored spreads : List String} {before after : SpreadDepths}

theorem within (walk : SpreadWalk registry path ignored spreads before after) {name : String}
    {bound : Nat} (known : before.Within name bound) : after.Within name bound := by
  induction walk with
  | finished => exact known
  | passed _ _ ih => exact ih known
  | entered _ _ _ farther _ _ ihThrough ihOnward =>
      exact ihOnward (ihThrough (known.insert farther))

theorem get?_of_mem_path (walk : SpreadWalk registry path ignored spreads before after)
    {name : String} (member : name ∈ path) : after.get? name = before.get? name := by
  induction walk with
  | finished => rfl
  | passed _ _ ih => exact ih member
  | @entered path _ fresh _ before _ _ _ _ off _ _ _ _ ihThrough ihOnward =>
      have other : fresh ≠ name := by
        intro same
        exact off (same ▸ member)
      rw [ihOnward member, ihThrough (List.mem_cons_of_mem _ member),
        OrderedMap.get?_insert_of_ne before path.length other]

theorem within_spreads (walk : SpreadWalk registry path ignored spreads before after)
    (above : ∀ name ∈ path, before.Within name path.length) :
    ∀ name ∈ spreads, name ∉ ignored → name ∈ registry.keys → after.Within name path.length := by
  induction walk with
  | finished =>
      intro name member
      cases member
  | passed skipped onward ih =>
      intro name member foreign registered
      rcases List.mem_cons.1 member with rfl | later
      · rcases skipped with ignored | onPath | unregistered | reached
        · exact absurd ignored foreign
        · exact onward.within (above name onPath)
        · exact absurd registered unregistered
        · exact onward.within reached
      · exact ih above name later foreign registered
  | @entered path _ fresh _ before inside _ _ _ _ _ farther through onward _ ihOnward =>
      intro name member foreign registered
      rcases List.mem_cons.1 member with rfl | later
      · have reached := SpreadDepths.within_insert_self before name path.length
        exact onward.within (through.within reached)
      · have still : ∀ other ∈ path, inside.Within other path.length := by
          intro other onPath
          exact through.within ((above other onPath).insert farther)
        exact ihOnward still name later foreign registered

end SpreadWalk

/-- Off the path, whatever a recorded fragment spreads is known at most one step behind it. -/
def SettledOff (registry : Registry) (path : List String) (depths : SpreadDepths) : Prop :=
  ∀ via depth, via ∉ path → depths.get? via = some depth →
    ∀ name, registry.Spreads via name → depths.Within name (depth + 1)

namespace SpreadWalk

variable {registry : Registry} {path ignored spreads : List String} {before after : SpreadDepths}

theorem settledOff_insert {name : String} (settled : SettledOff registry path before)
    (farther : ¬before.Within name path.length) :
    SettledOff registry (name :: path) (before.insert name path.length) := by
  intro via depth off found target edge
  rw [List.mem_cons, not_or] at off
  rw [OrderedMap.get?_insert_of_ne before path.length (Ne.symm off.1)] at found
  exact (settled via depth off.2 found target edge).insert farther

/-- The fragment at the end of the path is settled once its definition has been walked through. Its
own name is ignored there, which hides nothing: it is recorded already. -/
theorem settledOff_leave (keyed : registry.Keyed) {name : String} {entry : Registry.Entry}
    {inside : SpreadDepths} (found : registry.get? name = some entry)
    (above : ∀ other ∈ name :: path,
      SpreadDepths.Within (before.insert name path.length) other (path.length + 1))
    (through : SpreadWalk registry (name :: path) [entry.definition.name]
      (Document.Selection.allSpreads entry.definition.selections)
      (before.insert name path.length) inside)
    (settled : SettledOff registry (name :: path) inside) : SettledOff registry path inside := by
  intro via depth off known target edge
  by_cases same : via = name
  · subst same
    have kept : inside.get? via = some path.length := by
      rw [through.get?_of_mem_path (List.mem_cons_self ..), OrderedMap.get?_insert_self]
    cases known.symm.trans kept
    obtain ⟨other, again, spread, registered⟩ := edge
    cases found.symm.trans again
    by_cases own : target = via
    · subst own
      exact ⟨path.length, Nat.le_succ _, kept⟩
    · have foreign : target ∉ [entry.definition.name] := by
        rw [List.mem_singleton, keyed.name_eq found]
        exact own
      exact through.within_spreads above target spread foreign registered
  · exact settled via depth (by simp [same, off]) known target edge

theorem settledOff (walk : SpreadWalk registry path ignored spreads before after)
    (keyed : registry.Keyed) (above : ∀ name ∈ path, before.Within name path.length)
    (settled : SettledOff registry path before) : SettledOff registry path after := by
  induction walk with
  | finished => exact settled
  | passed _ _ ih => exact ih above settled
  | @entered path _ name _ before inside _ entry _ _ found farther through _ ihThrough ihOnward =>
      have recorded : ∀ other ∈ name :: path,
          SpreadDepths.Within (before.insert name path.length) other (path.length + 1) := by
        intro other member
        rcases List.mem_cons.1 member with rfl | onPath
        · exact (SpreadDepths.within_insert_self before other path.length).mono (Nat.le_succ _)
        · exact ((above other onPath).insert farther).mono (Nat.le_succ _)
      have walked := ihThrough recorded (settledOff_insert settled farther)
      have still : ∀ other ∈ path, inside.Within other path.length := by
        intro other onPath
        exact through.within ((above other onPath).insert farther)
      exact ihOnward still (settledOff_leave keyed found recorded through walked)

end SpreadWalk

end FragmentImports
