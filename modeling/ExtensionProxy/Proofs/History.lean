import ExtensionProxy.Proxy.History

/-!
# Reading a history

What a history says about the call stack and about one dispatch.  A history lists its latest moment
first, so a moment with everything before it is a suffix `moment :: past`; of two moments one was
earlier if its suffix lies in the past of the other.
-/

set_option autoImplicit false

namespace ExtensionProxy

variable {κ : Type}

/-! ## The stack -/

/-- What something does to what is going on. -/
def Happening.shift : Happening κ → List (Activity κ) → List (Activity κ)
  | .began activity, stack => activity :: stack
  | .ended _, stack => stack.tail
  | _, stack => stack

/-- What belongs together. -/
inductive Strand where
  /-- The parts of one dispatch. -/
  | dispatch (number : Nat)
  /-- The drains that were stopped. -/
  | breaks
  deriving DecidableEq

/-- What something is a part of.  The calls that deliver a notice are no parts of its dispatch: they
are also made by drains. -/
def Happening.strand? : Happening κ → Option Strand
  | .dispatched number _ => some (.dispatch number)
  | .fannedOut number _ => some (.dispatch number)
  | .reached number _ => some (.dispatch number)
  | .settled number _ => some (.dispatch number)
  | .broken => some .breaks
  | _ => none

namespace History

/-- What was going on at the end of a history, the innermost first. -/
def stack : History κ → List (Activity κ)
  | [] => []
  | moment :: past => moment.what.shift (stack past)

/-! ## One dispatch -/

/-- The moments that belong together. -/
def about (strand : Strand) (history : History κ) : History κ :=
  history.filter fun moment => moment.what.strand? == some strand

theorem mem_about {history : History κ} {moment : Moment κ} {strand : Strand} :
    moment ∈ history.about strand ↔ moment ∈ history ∧ moment.what.strand? = some strand := by
  simp [about]

theorem exists_suffix_of_mem {history : History κ} {moment : Moment κ} (there : moment ∈ history) :
    ∃ past, moment :: past <:+ history := by
  obtain ⟨newer, past, rfl⟩ := List.append_of_mem there
  exact ⟨past, List.suffix_append newer _⟩

/-- The notice of a dispatch and the sub-extensions that were registered when it fanned out. -/
def fanOut? (number : Nat) (history : History κ) :
    Option (Notice × List (ExtensionHandle × Registration)) :=
  (history.about (.dispatch number)).findSome? fun moment =>
    match moment.what with
    | .fannedOut _ notice => some (notice, moment.context.registry.entries)
    | _ => none

/-- The instances that the notice of a dispatch has got to, in this order. -/
def turns (number : Nat) (history : History κ) : List InstanceId :=
  ((history.about (.dispatch number)).filterMap fun moment =>
    match moment.what with
    | .reached _ target => some target
    | _ => none).reverse

/-- How many of them were alive when the notice got to them. -/
def aliveTurns (number : Nat) (history : History κ) : Nat :=
  (history.about (.dispatch number)).countP fun moment =>
    match moment.what with
    | .reached _ target => moment.context.isAlive target
    | _ => false

/-- What came of a dispatch, once it has come to its end. -/
def outcome? (number : Nat) (history : History κ) : Option DispatchOutcome :=
  (history.about (.dispatch number)).findSome? fun moment =>
    match moment.what with
    | .settled _ outcome => some outcome
    | _ => none

/-! ## One more moment -/

theorem about_cons (moment : Moment κ) (past : History κ) (strand : Strand) :
    about strand (moment :: past)
      = if moment.what.strand? = some strand then moment :: about strand past
        else about strand past := by
  by_cases h : moment.what.strand? = some strand <;> simp [about, h]

/-- A moment that belongs elsewhere adds nothing to what is known here. -/
theorem about_cons_of_ne {moment : Moment κ} {other : Strand}
    (here : moment.what.strand? = some other) {strand : Strand} (h : other ≠ strand)
    (past : History κ) : about strand (moment :: past) = about strand past := by
  rw [about_cons, here, if_neg fun same => h (Option.some.inj same)]

section

variable {what : Happening κ} {context : Context κ} {held : List BindingId} {past : History κ}
  {number : Nat}

/-- The listing of a dispatch is what was registered when it fanned out. -/
theorem fanOut?_cons :
    fanOut? number (⟨what, context, held⟩ :: past) = match what with
      | .fannedOut other notice =>
        if other = number then some (notice, context.registry.entries) else fanOut? number past
      | _ => fanOut? number past := by
  simp only [fanOut?, about_cons]
  cases what <;>
    simp only [Happening.strand?, Option.some.injEq, Strand.dispatch.injEq, reduceCtorEq, if_false] <;>
    split <;> simp [*]

/-- Each turn comes after those before it. -/
theorem turns_cons :
    turns number (⟨what, context, held⟩ :: past) = match what with
      | .reached other target =>
        if other = number then turns number past ++ [target] else turns number past
      | _ => turns number past := by
  simp only [turns, about_cons]
  cases what <;>
    simp only [Happening.strand?, Option.some.injEq, Strand.dispatch.injEq, reduceCtorEq, if_false] <;>
    split <;> simp [*]

theorem aliveTurns_cons :
    aliveTurns number (⟨what, context, held⟩ :: past) = match what with
      | .reached other target =>
        if other = number ∧ context.isAlive target = true then aliveTurns number past + 1
        else aliveTurns number past
      | _ => aliveTurns number past := by
  simp only [aliveTurns, about_cons]
  cases what <;>
    simp only [Happening.strand?, Option.some.injEq, Strand.dispatch.injEq, reduceCtorEq, if_false] <;>
    split <;> simp [*, List.countP_cons]
  split <;> simp

/-- The outcome of a dispatch is the one with which it came to its end. -/
theorem outcome?_cons :
    outcome? number (⟨what, context, held⟩ :: past) = match what with
      | .settled other outcome => if other = number then some outcome else outcome? number past
      | _ => outcome? number past := by
  simp only [outcome?, about_cons]
  cases what <;>
    simp only [Happening.strand?, Option.some.injEq, Strand.dispatch.injEq, reduceCtorEq, if_false] <;>
    split <;> simp [*]

end

/-! ## Places -/

section

variable {history : History κ} {moment : Moment κ} {past : History κ} {n : Nat}

/-- What is left of a history from a place on begins with the moment at that place. -/
theorem drop_of_getElem? (there : history[n]? = some moment) :
    history.drop n = moment :: history.drop (n + 1) := by
  obtain ⟨long, rfl⟩ := List.getElem?_eq_some_iff.mp there
  exact List.drop_eq_getElem_cons long

/-- The moment at a place of a history, with everything before it. -/
theorem suffix_of_getElem? (there : history[n]? = some moment) :
    moment :: history.drop (n + 1) <:+ history :=
  drop_of_getElem? there ▸ List.drop_suffix n history

/-- A place that is nearer to the beginning of a list tells of a later moment. -/
theorem suffix_drop_of_getElem? (there : history[n]? = some moment) {k : Nat} (le : k ≤ n) :
    moment :: history.drop (n + 1) <:+ history.drop k :=
  drop_of_getElem? there ▸ List.drop_suffix_drop_left history le

/-- Every moment has its place. -/
theorem exists_getElem?_of_suffix (there : moment :: past <:+ history) :
    ∃ n, history[n]? = some moment ∧ past = history.drop (n + 1) := by
  obtain ⟨newer, rfl⟩ := there
  refine ⟨newer.length, by simp, ?_⟩
  rw [List.drop_append]
  simp

/-- What comes after the moment at a place stands before it. -/
theorem mem_take_of_suffix (there : history[n]? = some moment) {later : Moment κ}
    (begun : later :: past <:+ history) (after : moment :: history.drop (n + 1) <:+ past) :
    later ∈ history.take n := by
  rw [← drop_of_getElem? there] at after
  obtain ⟨newer, whole⟩ := begun
  obtain ⟨between, rfl⟩ := after
  have split : newer ++ later :: between ++ history.drop n = history.take n ++ history.drop n := by
    rw [List.take_append_drop, List.append_assoc, List.cons_append]
    exact whole
  rw [← List.append_cancel_right split]
  exact List.mem_append_right _ List.mem_cons_self

end

end History

end ExtensionProxy
