import ExtensionProxy.Proofs.Changes

/-!
# The queue of deferred tasks

The tasks that wait are in the order in which they were scheduled, whatever happens.  A drain starts
what was scheduled below its limit; nothing is ever added there, so it comes to an end.
-/

set_option autoImplicit false

namespace ExtensionProxy

variable {κ : Type}

namespace Step

variable {c d : Ledger κ}

/-- What a step does to the queue. -/
theorem tasks_cases (step : Step c d) :
    (∃ owner code, d.context.tasks = c.context.tasks.schedule owner code) ∨
    (d.context.tasks.tasks.Sublist c.context.tasks.tasks ∧
      d.context.tasks.nextSeq = c.context.tasks.nextSeq) := by
  have change := step.tasks_become
  generalize d.context.tasks = after at change ⊢
  cases change with
  | same => exact .inr ⟨.refl _, rfl⟩
  | schedule owner code => exact .inl ⟨owner, code, rfl⟩
  | cancel owner => exact .inr ⟨List.filter_sublist, rfl⟩
  | take limit task rest taken =>
    obtain ⟨all, -, next⟩ := TaskQueue.takeBelow_eq_some taken
    exact .inr ⟨all ▸ List.sublist_cons_self _ _, next⟩

theorem ordered (h : c.context.tasks.IsOrdered) (step : Step c d) : d.context.tasks.IsOrdered := by
  rcases step.tasks_cases with ⟨owner, code, tasks⟩ | ⟨sub, next⟩
  · rw [tasks]
    exact h.schedule owner code
  · exact h.sublist sub next

/-- Nothing is scheduled below a limit that was reached. -/
theorem below_shrinks (step : Step c d) {limit : Nat} (old : limit ≤ c.context.tasks.nextSeq) :
    (d.context.tasks.below limit).Sublist (c.context.tasks.below limit) ∧
      c.context.tasks.nextSeq ≤ d.context.tasks.nextSeq := by
  rcases step.tasks_cases with ⟨owner, code, tasks⟩ | ⟨sub, next⟩
  · rw [tasks]
    refine ⟨?_, Nat.le_succ _⟩
    simp [TaskQueue.below, TaskQueue.schedule, Nat.not_lt_of_le old]
  · exact ⟨sub.filter _, Nat.le_of_eq next.symm⟩

end Step

namespace Path

variable {c d : Ledger κ}

theorem ordered (path : Path c d) (h : c.context.tasks.IsOrdered) : d.context.tasks.IsOrdered := by
  induction path with
  | refl => exact h
  | tail _ step ih => exact step.ordered ih

theorem below_shrinks (path : Path c d) {limit : Nat} (old : limit ≤ c.context.tasks.nextSeq) :
    (d.context.tasks.below limit).Sublist (c.context.tasks.below limit) ∧
      c.context.tasks.nextSeq ≤ d.context.tasks.nextSeq := by
  induction path with
  | refl => exact ⟨.refl _, Nat.le_refl _⟩
  | tail _ step ih =>
    obtain ⟨sub, next⟩ := step.below_shrinks (Nat.le_trans old ih.2)
    exact ⟨sub.trans ih.1, Nat.le_trans ih.2 next⟩

end Path

end ExtensionProxy
