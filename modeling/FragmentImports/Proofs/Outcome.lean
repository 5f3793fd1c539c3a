import Mathlib.Data.List.Forall2

/-!
Laws of results that may be faults: what stands behind a success, and the first fault of a list that
is gone through.
-/

namespace FragmentImports

variable {α β ε ε' : Type}

theorem mapError_eq_ok {result : Except ε α} {f : ε → ε'} {value : α} :
    result.mapError f = .ok value ↔ result = .ok value := by
  cases result with
  | error fault => constructor <;> intro same <;> cases same
  | ok held => constructor <;> intro same <;> cases same <;> rfl

theorem exists_of_bind_eq_ok {first : Except ε α} {next : α → Except ε β} {value : β}
    (run : first >>= next = .ok value) :
    ∃ middle, first = .ok middle ∧ next middle = .ok value := by
  cases first with
  | error fault => cases run
  | ok middle => exact ⟨middle, rfl, run⟩

theorem exists_of_mem_mapM {f : α → Except ε β} {items : List α} {results : List β}
    (run : items.mapM f = .ok results) :
    ∀ result ∈ results, ∃ item ∈ items, f item = .ok result := by
  induction items generalizing results with
  | nil =>
      cases run
      exact List.forall_mem_nil _
  | cons item rest ih =>
      rw [List.mapM_cons] at run
      obtain ⟨first, here, behind⟩ := exists_of_bind_eq_ok run
      obtain ⟨later, ahead, ending⟩ := exists_of_bind_eq_ok behind
      cases ending
      refine List.forall_mem_cons.2 ⟨⟨item, List.mem_cons_self, here⟩, fun result member => ?_⟩
      obtain ⟨other, listed, found⟩ := ih ahead result member
      exact ⟨other, List.mem_cons_of_mem _ listed, found⟩

/-- A list is gone through to its end or up to the first item that has a fault. -/
theorem mapM_ok_or_first_error (f : α → Except ε β) (items : List α) :
    (∃ results, items.mapM f = .ok results ∧
      List.Forall₂ (fun item result => f item = .ok result) items results) ∨
    ∃ before item after fault, items = before ++ item :: after ∧
      (∀ earlier ∈ before, ∃ result, f earlier = .ok result) ∧ f item = .error fault ∧
        items.mapM f = .error fault := by
  induction items with
  | nil => exact Or.inl ⟨[], rfl, .nil⟩
  | cons item rest ih =>
      cases here : f item with
      | error fault =>
          refine Or.inr ⟨[], item, rest, fault, rfl, List.forall_mem_nil _, here, ?_⟩
          rw [List.mapM_cons, here]
          rfl
      | ok result =>
          rcases ih with ⟨results, run, each⟩ | ⟨before, later, after, fault, rfl, fine, bad, run⟩
          · refine Or.inl ⟨result :: results, ?_, .cons here each⟩
            rw [List.mapM_cons, here, run]
            rfl
          · refine Or.inr ⟨item :: before, later, after, fault, rfl,
              List.forall_mem_cons.2 ⟨⟨result, here⟩, fine⟩, bad, ?_⟩
            rw [List.mapM_cons, here, run]
            rfl

end FragmentImports
