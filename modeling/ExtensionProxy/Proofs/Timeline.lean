import ExtensionProxy.Proofs.Step

/-!
# When something happened

Histories only grow.  A moment of a history was added by one of the steps of the path, so what is
known of that step is known of the moment.
-/

set_option autoImplicit false

namespace ExtensionProxy

variable {κ : Type}

namespace History

/-- A moment, with everything before it, that a history has and an older one has not. -/
structure Adds (older newer : History κ) (moment : Moment κ) (past : History κ) : Prop where
  /-- The newer history has the moment. -/
  there : moment :: past <:+ newer
  /-- It came after everything in the older one. -/
  after : older <:+ past

variable {older newer past : History κ} {moment first : Moment κ}

@[simp, grind .] theorem not_adds_self : ¬Adds older older moment past := fun h => by
  have there := h.there.length_le
  have after := h.after.length_le
  simp only [List.length_cons] at there
  omega

@[simp, grind =] theorem adds_cons : Adds older (first :: newer) moment past ↔
    older <:+ newer ∧ moment = first ∧ past = newer ∨ Adds older newer moment past := by
  constructor
  · rintro ⟨there, after⟩
    rcases List.suffix_cons_iff.mp there with same | there
    · cases same
      exact .inl ⟨after, rfl, rfl⟩
    · exact .inr ⟨there, after⟩
  · rintro (⟨after, rfl, rfl⟩ | ⟨there, after⟩)
    · exact ⟨List.suffix_refl _, after⟩
    · exact ⟨there.trans (List.suffix_cons _ _), after⟩

/-- Where one moment was added it is that one. -/
theorem adds_single : Adds older (first :: older) moment past ↔ moment = first ∧ past = older := by
  simp

/-- At most the call that destroys an instance is added. -/
@[simp, grind =] theorem adds_farewell {c : Ledger κ} {target : InstanceId} :
    Adds older (c.farewell target ++ newer) moment past ↔
      (older <:+ newer ∧ past = newer ∧ ∃ found, c.context.instance? target = some found ∧
        found.isAlive = false ∧
        moment = ⟨.began (.call (.dropped target found.code)), c.context, c.held⟩) ∨
      Adds older newer moment past := by
  simp only [Ledger.farewell]
  cases there : c.context.instance? target with
  | none => simp
  | some found => cases alive : found.isAlive <;> simp [alive, and_comm]

/-- At most the return of a binding is added. -/
@[simp, grind =] theorem adds_release? {c : Ledger κ} {binding : Option BindingId} :
    Adds older (c.release? binding).history moment past ↔
      (older <:+ c.history ∧ past = c.history ∧ ∃ given, binding = some given ∧
        moment = ⟨.released given, c.context, c.held.erase given⟩) ∨
      Adds older c.history moment past := by
  cases binding <;> simp [Ledger.release?, and_comm]

theorem Adds.grow {newest : History κ} (adds : Adds older newer moment past)
    (grown : newer <:+ newest) : Adds older newest moment past :=
  ⟨adds.there.trans grown, adds.after⟩

theorem Adds.since {oldest : History κ} (adds : Adds older newer moment past)
    (grown : oldest <:+ older) : Adds oldest newer moment past :=
  ⟨adds.there, grown.trans adds.after⟩

/-- Of two moments of one history one was earlier. -/
theorem suffix_total {first second : History κ} (one : first <:+ newer) (two : second <:+ newer) :
    first <:+ second ∨ second <:+ first :=
  List.suffix_or_suffix_of_suffix one two

/-- A moment at the top of an older history is another one than the latest. -/
theorem earlier_of_ne {latest : Moment κ} (there : moment :: past <:+ latest :: older)
    (apart : moment ≠ latest) : moment :: past <:+ older :=
  (List.suffix_cons_iff.mp there).resolve_left fun same => apart (List.cons.inj same).1

/-- Of two moments of one history one was earlier, unless they are one. -/
theorem same_or_earlier {other : Moment κ} {past' : History κ} (there : moment :: past <:+ newer)
    (there' : other :: past' <:+ newer) :
    moment :: past = other :: past' ∨ moment :: past <:+ past' ∨ other :: past' <:+ past := by
  rcases suffix_total there there' with old | old
  · exact (List.suffix_cons_iff.mp old).imp_right .inl
  · exact (List.suffix_cons_iff.mp old).imp Eq.symm .inr

/-- What never happens after it has happened happens once. -/
theorem unique_of (P : Happening κ → Prop)
    (never : ∀ {one other : Moment κ} {past past' : History κ}, one :: past <:+ newer →
      P one.what → P other.what → ¬other :: past' <:+ past)
    {other : Moment κ} {past' : History κ} (there : moment :: past <:+ newer)
    (there' : other :: past' <:+ newer) (what : P moment.what) (what' : P other.what) :
    moment :: past = other :: past' := by
  rcases same_or_earlier there there' with same | before | before
  · exact same
  · exact (never there' what' what before).elim
  · exact (never there what what' before).elim

/-- A moment of a history is old, or it was added. -/
theorem old_or_adds (grown : older <:+ newer) (there : moment :: past <:+ newer) :
    moment :: past <:+ older ∨ Adds older newer moment past := by
  rcases suffix_total grown there with before | new
  · rcases List.suffix_cons_iff.mp before with same | before
    · exact .inl (same ▸ List.suffix_refl _)
    · exact .inr ⟨there, before⟩
  · exact .inl new

end History

/-! ## What only grows -/

namespace Step

variable {c d : Ledger κ}

theorem records_grow (step : Step c d) : c.context.recordCount ≤ d.context.recordCount := by
  cases step with
  | load => exact Nat.le_succ _
  | _ => exact Nat.le_refl _

theorem dispatches_grow (step : Step c d) : c.context.dispatches ≤ d.context.dispatches := by
  cases step with
  | dispatch => exact Nat.le_succ _
  | _ => exact Nat.le_refl _

/-- Nothing that has happened is forgotten. -/
theorem history_grows (step : Step c d) : c.history <:+ d.history := by
  cases step with
  | deliver | unbind | decline | renounce => exact ⟨[_, _], rfl⟩
  | duplicate | discard | leave => exact ⟨Ledger.farewell _ _ ++ [_], List.append_assoc _ [_] _⟩
  | clean => exact ⟨Ledger.farewell _ _ ++ [_, _], List.append_assoc _ [_, _] _⟩
  | cleaned id record | discardBare id record =>
    cases record.module with
    | none => exact ⟨[_], rfl⟩
    | some binding => exact ⟨[_, _], rfl⟩
  | adopt id record | cleanBare id record =>
    cases record.module with
    | none => exact ⟨[_, _], rfl⟩
    | some binding => exact ⟨[_, _, _], rfl⟩
  | _ => first | exact ⟨[], rfl⟩ | exact ⟨[_], rfl⟩

end Step

namespace Path

variable {c d : Ledger κ}

/-- Nothing that has happened is forgotten. -/
theorem history_grows (path : Path c d) : c.history <:+ d.history := by
  induction path with
  | refl => exact List.suffix_refl _
  | tail _ step ih => exact ih.trans step.history_grows

theorem records_grow (path : Path c d) : c.context.recordCount ≤ d.context.recordCount := by
  induction path with
  | refl => exact Nat.le_refl _
  | tail _ step ih => exact Nat.le_trans ih step.records_grow

theorem dispatches_grow (path : Path c d) : c.context.dispatches ≤ d.context.dispatches := by
  induction path with
  | refl => exact Nat.le_refl _
  | tail _ step ih => exact Nat.le_trans ih step.dispatches_grow

end Path

/-! ## The step that added a moment -/

/-- Every moment was added by a step. -/
theorem Path.adds {c d : Ledger κ} (path : Path c d) {moment : Moment κ} {past : History κ}
    (there : moment :: past <:+ d.history) :
    moment :: past <:+ c.history ∨
      ∃ before after, Path c before ∧ Step before after ∧ Path after d ∧
        History.Adds before.history after.history moment past := by
  induction path with
  | refl => exact .inl there
  | @tail before after path step ih =>
    rcases History.old_or_adds step.history_grows there with old | adds
    · rcases ih old with first | ⟨c', d', path', step', rest, adds⟩
      · exact .inl first
      · exact .inr ⟨c', d', path', step', rest.tail step, adds⟩
    · exact .inr ⟨before, after, path, step, .refl, adds⟩

end ExtensionProxy
