/-!
Finite maps in insertion order: a key keeps the place of its first insertion and the value of its
last.
-/

namespace FragmentImports

def assign {κ α : Type} [DecidableEq κ] : List (κ × α) → κ → α → List (κ × α)
  | [], key, value => [(key, value)]
  | entry :: rest, key, value =>
      if entry.1 = key then (key, value) :: rest else entry :: assign rest key value

def valueOf? {κ α : Type} [DecidableEq κ] : List (κ × α) → κ → Option α
  | [], _ => none
  | entry :: rest, key => if entry.1 = key then some entry.2 else valueOf? rest key

theorem map_fst_assign {κ α : Type} [DecidableEq κ] (entries : List (κ × α)) (key : κ)
    (value : α) :
    (assign entries key value).map Prod.fst =
      if key ∈ entries.map Prod.fst then entries.map Prod.fst
      else entries.map Prod.fst ++ [key] := by
  induction entries with
  | nil => simp [assign]
  | cons entry rest ih =>
      by_cases same : entry.1 = key
      · simp [assign, same]
      · have other : key ≠ entry.1 := fun equal => same equal.symm
        by_cases member : key ∈ rest.map Prod.fst
        · simp only [assign, same, if_false, List.map_cons, ih, if_pos member]
          rw [if_pos (List.mem_cons_of_mem _ member)]
        · simp only [assign, same, if_false, List.map_cons, ih, if_neg member]
          rw [if_neg (by simp [other, member])]
          rfl

theorem nodup_assign {κ α : Type} [DecidableEq κ] {entries : List (κ × α)}
    (distinct : (entries.map Prod.fst).Nodup) (key : κ) (value : α) :
    ((assign entries key value).map Prod.fst).Nodup := by
  rw [map_fst_assign]
  split
  · exact distinct
  · next absent =>
      rw [List.nodup_append]
      refine ⟨distinct, by simp, ?_⟩
      intro a ha b hb equal
      simp only [List.mem_singleton] at hb
      exact absent (hb ▸ equal ▸ ha)

theorem valueOf?_assign {κ α : Type} [DecidableEq κ] (entries : List (κ × α)) (key other : κ)
    (value : α) :
    valueOf? (assign entries key value) other =
      if key = other then some value else valueOf? entries other := by
  induction entries with
  | nil => simp [assign, valueOf?]
  | cons entry rest ih =>
      by_cases same : entry.1 = key
      · subst same
        by_cases hit : entry.1 = other <;> simp [assign, valueOf?, hit]
      · by_cases hit : entry.1 = other
        · have miss : key ≠ other := fun equal => same (hit.trans equal.symm)
          simp only [assign, if_neg same, valueOf?, if_pos hit, if_neg miss]
        · simp [assign, valueOf?, same, hit, ih]

/-- A map listed in the order in which its keys were first inserted. -/
structure OrderedMap (κ α : Type) where
  entries : List (κ × α)
  nodup : (entries.map Prod.fst).Nodup
  deriving DecidableEq

namespace OrderedMap

variable {κ α β : Type} [DecidableEq κ]

def empty : OrderedMap κ α := ⟨[], List.nodup_nil⟩

def keys (map : OrderedMap κ α) : List κ := map.entries.map Prod.fst

def values (map : OrderedMap κ α) : List α := map.entries.map Prod.snd

def size (map : OrderedMap κ α) : Nat := map.entries.length

def get? (map : OrderedMap κ α) (key : κ) : Option α := valueOf? map.entries key

def contains (map : OrderedMap κ α) (key : κ) : Bool := (map.get? key).isSome

def insert (map : OrderedMap κ α) (key : κ) (value : α) : OrderedMap κ α :=
  ⟨assign map.entries key value, nodup_assign map.nodup key value⟩

def ofList (pairs : List (κ × α)) : OrderedMap κ α :=
  pairs.foldl (fun map pair => map.insert pair.1 pair.2) empty

def mapValues (f : α → β) (map : OrderedMap κ α) : OrderedMap κ β :=
  ⟨map.entries.map fun entry => (entry.1, f entry.2), by
    simpa [List.map_map, Function.comp_def] using map.nodup⟩

theorem get?_insert (map : OrderedMap κ α) (key other : κ) (value : α) :
    (map.insert key value).get? other = if key = other then some value else map.get? other :=
  valueOf?_assign map.entries key other value

theorem keys_insert (map : OrderedMap κ α) (key : κ) (value : α) :
    (map.insert key value).keys = if key ∈ map.keys then map.keys else map.keys ++ [key] :=
  map_fst_assign map.entries key value

theorem mem_keys_of_get? {map : OrderedMap κ α} {key : κ} {value : α}
    (found : map.get? key = some value) : key ∈ map.keys := by
  obtain ⟨entries, nodup⟩ := map
  simp only [get?, keys] at found ⊢
  clear nodup
  induction entries with
  | nil => simp [valueOf?] at found
  | cons head rest ih =>
      by_cases same : head.1 = key
      · simp [same]
      · simp only [valueOf?, if_neg same] at found
        exact List.mem_cons_of_mem _ (ih found)

end OrderedMap

end FragmentImports
