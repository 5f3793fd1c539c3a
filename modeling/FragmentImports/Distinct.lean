/-!
Lists without repetitions: of equal elements the first one stays.
-/

namespace FragmentImports

variable {α : Type} [DecidableEq α]

def addDistinct (kept : List α) (item : α) : List α :=
  if item ∈ kept then kept else kept ++ [item]

def distinct (items : List α) : List α := items.foldl addDistinct []

theorem mem_addDistinct (kept : List α) (item other : α) :
    other ∈ addDistinct kept item ↔ other ∈ kept ∨ other = item := by
  unfold addDistinct
  split
  · next member =>
      constructor
      · exact Or.inl
      · rintro (inside | rfl)
        · exact inside
        · exact member
  · simp

theorem nodup_addDistinct {kept : List α} (distinct : kept.Nodup) (item : α) :
    (addDistinct kept item).Nodup := by
  unfold addDistinct
  split
  · exact distinct
  · next absent =>
      rw [List.nodup_append]
      refine ⟨distinct, by simp, ?_⟩
      intro a ha b hb equal
      rw [List.mem_singleton] at hb
      exact absent (hb ▸ equal ▸ ha)

theorem addDistinct_of_mem {kept : List α} {item : α} (member : item ∈ kept) :
    addDistinct kept item = kept := if_pos member

theorem addDistinct_sublist (kept : List α) (item : α) :
    (addDistinct kept item).Sublist (kept ++ [item]) := by
  unfold addDistinct
  split
  · exact List.sublist_append_left kept [item]
  · exact List.Sublist.refl _

theorem mem_foldl_addDistinct (kept items : List α) (other : α) :
    other ∈ items.foldl addDistinct kept ↔ other ∈ kept ∨ other ∈ items := by
  induction items generalizing kept with
  | nil => simp
  | cons item rest ih => rw [List.foldl_cons, ih, mem_addDistinct, List.mem_cons, or_assoc]

theorem nodup_foldl_addDistinct {kept : List α} (distinct : kept.Nodup) (items : List α) :
    (items.foldl addDistinct kept).Nodup := by
  induction items generalizing kept with
  | nil => exact distinct
  | cons item rest ih => exact ih (nodup_addDistinct distinct item)

theorem foldl_addDistinct_sublist (kept items : List α) :
    (items.foldl addDistinct kept).Sublist (kept ++ items) := by
  induction items generalizing kept with
  | nil => simp
  | cons item rest ih =>
      have head := (addDistinct_sublist kept item).append_right rest
      rw [List.append_assoc, List.singleton_append] at head
      exact (ih (addDistinct kept item)).trans head

theorem foldl_addDistinct_of_nodup (kept : List α) {items : List α}
    (distinct : (kept ++ items).Nodup) :
    items.foldl addDistinct kept = kept ++ items := by
  induction items generalizing kept with
  | nil => simp
  | cons item rest ih =>
      have absent : item ∉ kept := by
        intro member
        exact (List.nodup_append.1 distinct).2.2 item member item List.mem_cons_self rfl
      rw [List.append_cons] at distinct
      rw [List.foldl_cons, addDistinct, if_neg absent, ih _ distinct, ← List.append_cons]

theorem mem_distinct {items : List α} {item : α} : item ∈ distinct items ↔ item ∈ items := by
  simp [distinct, mem_foldl_addDistinct]

theorem nodup_distinct (items : List α) : (distinct items).Nodup :=
  nodup_foldl_addDistinct List.nodup_nil items

theorem distinct_append_singleton (items : List α) (item : α) :
    distinct (items ++ [item]) = addDistinct (distinct items) item := by
  rw [distinct, List.foldl_append]
  rfl

theorem distinct_eq_self_iff {items : List α} : distinct items = items ↔ items.Nodup := by
  constructor
  · intro same
    rw [← same]
    exact nodup_distinct items
  · intro unrepeated
    exact foldl_addDistinct_of_nodup [] unrepeated

/-- A list with repetitions gets shorter. -/
theorem length_distinct_eq_iff {items : List α} :
    (distinct items).length = items.length ↔ items.Nodup := by
  have kept : (distinct items).Sublist items := foldl_addDistinct_sublist [] items
  rw [← distinct_eq_self_iff]
  exact ⟨kept.eq_of_length, congrArg List.length⟩

theorem distinct_map {β : Type} [DecidableEq β] {f : α → β} (injective : Function.Injective f)
    (items : List α) : distinct (items.map f) = (distinct items).map f := by
  have step : ∀ (kept : List α) item,
      addDistinct (kept.map f) (f item) = (addDistinct kept item).map f := by
    intro kept item
    have listed : f item ∈ kept.map f ↔ item ∈ kept := by
      rw [List.mem_map]
      constructor
      · rintro ⟨other, member, same⟩
        exact injective same ▸ member
      · intro member
        exact ⟨item, member, rfl⟩
    by_cases member : item ∈ kept
    · rw [addDistinct_of_mem member, addDistinct_of_mem (listed.2 member)]
    · rw [addDistinct, addDistinct, if_neg member, if_neg (mt listed.1 member), List.map_append,
        List.map_singleton]
  have run : ∀ (kept : List α),
      (items.map f).foldl addDistinct (kept.map f) = (items.foldl addDistinct kept).map f := by
    induction items with
    | nil => intro kept; rfl
    | cons item rest ih =>
        intro kept
        rw [List.map_cons, List.foldl_cons, List.foldl_cons, step, ih]
  exact run []

end FragmentImports
