import FragmentImports.OrderedMap
import Mathlib.Data.List.Nodup

/-!
Laws of maps in insertion order. A look-up finds exactly the entries, and a map is determined by its
keys in order together with what a look-up answers.
-/

namespace FragmentImports.OrderedMap

variable {κ α β : Type} [DecidableEq κ]

theorem valueOf?_eq_some_iff {entries : List (κ × α)} (distinct : (entries.map Prod.fst).Nodup)
    (key : κ) (value : α) : valueOf? entries key = some value ↔ (key, value) ∈ entries := by
  induction entries with
  | nil => simp [valueOf?]
  | cons head rest ih =>
      rcases head with ⟨first, item⟩
      rw [List.map_cons, List.nodup_cons] at distinct
      by_cases same : first = key
      · subst same
        have later : (first, value) ∉ rest := by
          intro member
          exact distinct.1 (List.mem_map.2 ⟨(first, value), member, rfl⟩)
        simp only [valueOf?, if_true, Option.some.injEq, List.mem_cons, Prod.mk.injEq, true_and,
          later, or_false]
        exact eq_comm
      · have other : key ≠ first := fun equal => same equal.symm
        simp only [valueOf?, if_neg same, ih distinct.2, List.mem_cons, Prod.mk.injEq, other,
          false_and, false_or]

theorem get?_eq_some_iff (map : OrderedMap κ α) (key : κ) (value : α) :
    map.get? key = some value ↔ (key, value) ∈ map.entries :=
  valueOf?_eq_some_iff map.nodup key value

@[simp] theorem get?_empty (key : κ) : (empty : OrderedMap κ α).get? key = none := rfl

omit [DecidableEq κ] in
@[simp] theorem keys_empty : (empty : OrderedMap κ α).keys = [] := rfl

theorem mem_keys_iff {map : OrderedMap κ α} {key : κ} :
    key ∈ map.keys ↔ ∃ value, map.get? key = some value := by
  constructor
  · intro member
    obtain ⟨⟨found, value⟩, inside, rfl⟩ := List.mem_map.1 member
    exact ⟨value, (get?_eq_some_iff map found value).2 inside⟩
  · rintro ⟨value, found⟩
    exact mem_keys_of_get? found

theorem get?_eq_none_iff {map : OrderedMap κ α} {key : κ} :
    map.get? key = none ↔ key ∉ map.keys := by
  rw [mem_keys_iff, Option.eq_none_iff_forall_ne_some, not_exists]

theorem get?_insert_self (map : OrderedMap κ α) (key : κ) (value : α) :
    (map.insert key value).get? key = some value := by
  rw [get?_insert, if_pos rfl]

theorem get?_insert_of_ne (map : OrderedMap κ α) {key other : κ} (value : α) (ne : key ≠ other) :
    (map.insert key value).get? other = map.get? other := by
  rw [get?_insert, if_neg ne]

theorem assign_of_notMem {entries : List (κ × α)} {key : κ} (absent : key ∉ entries.map Prod.fst)
    (value : α) : assign entries key value = entries ++ [(key, value)] := by
  induction entries with
  | nil => rfl
  | cons head rest ih =>
      rw [List.map_cons, List.mem_cons, not_or] at absent
      rw [assign, if_neg (Ne.symm absent.1), ih absent.2, List.cons_append]

theorem entries_insert_of_absent {map : OrderedMap κ α} {key : κ} (absent : map.get? key = none)
    (value : α) : (map.insert key value).entries = map.entries ++ [(key, value)] :=
  assign_of_notMem (get?_eq_none_iff.1 absent) value

theorem mem_of_mem_entries_ofList {pairs : List (κ × α)} {entry : κ × α}
    (member : entry ∈ (ofList pairs).entries) : entry ∈ pairs := by
  obtain ⟨key, value⟩ := entry
  have found := (get?_eq_some_iff _ _ _).2 member
  have held : ∀ map : OrderedMap κ α,
      (pairs.foldl (fun map pair => map.insert pair.1 pair.2) map).get? key = some value →
      map.get? key = some value ∨ (key, value) ∈ pairs := by
    clear member found
    induction pairs with
    | nil => exact fun _ known => Or.inl known
    | cons pair rest ih =>
        intro map known
        rcases ih _ known with here | later
        · rw [get?_insert] at here
          split at here
          · next same =>
              right
              rw [← same, ← Option.some.inj here]
              exact List.mem_cons_self
          · exact Or.inl here
        · exact Or.inr (List.mem_cons_of_mem _ later)
  rcases held _ found with nothing | listed
  · cases nothing
  · exact listed

omit [DecidableEq κ] in
@[simp] theorem keys_mapValues (f : α → β) (map : OrderedMap κ α) :
    (map.mapValues f).keys = map.keys := by
  simp [keys, mapValues]

omit [DecidableEq κ] in
@[simp] theorem entries_mapValues (f : α → β) (map : OrderedMap κ α) :
    (map.mapValues f).entries = map.entries.map fun entry => (entry.1, f entry.2) := rfl

theorem get?_mapValues (f : α → β) (map : OrderedMap κ α) (key : κ) :
    (map.mapValues f).get? key = (map.get? key).map f := by
  apply Option.ext
  intro value
  simp only [get?_eq_some_iff, entries_mapValues, List.mem_map, Option.map_eq_some_iff,
    Prod.mk.injEq, Prod.exists]
  constructor
  · rintro ⟨_, item, member, rfl, rfl⟩
    exact ⟨item, member, rfl⟩
  · rintro ⟨item, member, rfl⟩
    exact ⟨key, item, member, rfl, rfl⟩

theorem entries_eq_map_keys {map : OrderedMap κ α} {value : κ → α}
    (values : ∀ key ∈ map.keys, map.get? key = some (value key)) :
    map.entries = map.keys.map fun key => (key, value key) := by
  rw [keys, List.map_map]
  refine (List.map_id _).symm.trans (List.map_congr_left ?_)
  rintro ⟨key, item⟩ member
  have found : map.get? key = some item := (get?_eq_some_iff map key item).2 member
  have known := values key (mem_keys_of_get? found)
  rw [found, Option.some.injEq] at known
  simp [known]

end FragmentImports.OrderedMap
