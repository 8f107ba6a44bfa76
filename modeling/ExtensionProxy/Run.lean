/-!
# Runs

A run works on a state and either returns a value or is stopped; in both cases the state it reached
stays.  Being stopped is how foreign code panics: everything up the stack is left, but nothing that
was done is undone.  What has to be put back on the way out is put back by `Run.ensuring`.

`Lens` names a part of a state, and `Run.zoom` lets a run on the part work on the whole.
-/

set_option autoImplicit false

namespace ExtensionProxy

/-- Why a run was stopped. -/
inductive Stop where
  /-- Foreign code panicked, with a message if its payload was a text. -/
  | panic (message : Option String)
  /-- Calls of foreign code were nested more deeply than the stack allows. -/
  | tooDeep
  /-- More memory was asked for than there is. -/
  | outOfMemory
  deriving DecidableEq, Repr

/-- A run on a state: the result, and the state reached. -/
def Run (σ α : Type) := σ → Except Stop α × σ

namespace Run

variable {σ τ α β : Type}

instance : Monad (Run σ) where
  pure value := fun s => (.ok value, s)
  bind run next := fun s =>
    match run s with
    | (.ok value, reached) => next value reached
    | (.error stop, reached) => (.error stop, reached)

/-- The state. -/
def get : Run σ σ := fun s => (.ok s, s)

/-- A view of the state. -/
def gets (view : σ → α) : Run σ α := fun s => (.ok (view s), s)

/-- Changes the state. -/
def modify (change : σ → σ) : Run σ Unit := fun s => (.ok (), change s)

/-- Stops the run. -/
def stop (why : Stop) : Run σ α := fun s => (.error why, s)

/-- Stops the run by a panic. -/
def panic (message : Option String) : Run σ α := stop (.panic message)

/-- Does the last act however the run ends. -/
def ensuring (run : Run σ α) (last : Run σ Unit) : Run σ α := fun s =>
  match run s with
  | (result, reached) =>
    match last reached with
    | (.ok (), final) => (result, final)
    | (.error stop, final) => (.error stop, final)

/-- Does the last act only if the run is stopped. -/
def onStop (run : Run σ α) (last : Run σ Unit) : Run σ α := fun s =>
  match run s with
  | (.ok value, reached) => (.ok value, reached)
  | (.error stop, reached) => (.error stop, (last reached).2)

/-- Changes the state when the run is over, by how it ended. -/
def concluding (run : Run σ α) (change : Except Stop α → σ → σ) : Run σ α := fun s =>
  match run s with
  | (result, reached) => (result, change result reached)

/-- Runs to the end and tells how it ended; nothing is stopped beyond. -/
def contain (run : Run σ α) : Run σ (Except Stop α) := fun s =>
  match run s with
  | (result, reached) => (.ok result, reached)

end Run

/-- A part of a state that can be read and written; what is written is read back, and the last
write counts. -/
structure Lens (σ τ : Type) where
  /-- Reads the part. -/
  get : σ → τ
  /-- Writes the part. -/
  set : τ → σ → σ
  /-- What was written is read back. -/
  get_set : ∀ part s, get (set part s) = part
  /-- Of two writes the second counts. -/
  set_set : ∀ first second s, set second (set first s) = set second s

namespace Lens

variable {σ τ υ : Type}

/-- Changes the part. -/
def modify (lens : Lens σ τ) (change : τ → τ) (s : σ) : σ := lens.set (change (lens.get s)) s

/-- The whole state as a part of itself. -/
def whole : Lens σ σ := ⟨id, fun part _ => part, fun _ _ => rfl, fun _ _ _ => rfl⟩

/-- A part of a part. -/
def into (outer : Lens σ τ) (inner : Lens τ υ) : Lens σ υ where
  get s := inner.get (outer.get s)
  set part s := outer.set (inner.set part (outer.get s)) s
  get_set part s := by simp [outer.get_set, inner.get_set]
  set_set first second s := by simp [outer.get_set, outer.set_set, inner.set_set]

end Lens

namespace Run

variable {σ τ α : Type}

/-- Lets a run on a part work on the whole. -/
def zoom (lens : Lens σ τ) (run : Run τ α) : Run σ α := fun s =>
  match run (lens.get s) with
  | (result, part) => (result, lens.set part s)

/-! ## How runs go on -/

variable {β : Type} (s : σ) (next : α → Run σ β)

@[simp] theorem pure_apply (value : α) : (pure value : Run σ α) s = (.ok value, s) := rfl

@[simp] theorem pure_bind_apply (value : α) : (pure value >>= next) s = next value s := rfl

@[simp] theorem get_bind_apply (next : σ → Run σ β) : (get >>= next) s = next s s := rfl

@[simp] theorem gets_bind_apply (view : σ → α) : (gets view >>= next) s = next (view s) s := rfl

@[simp] theorem modify_bind_apply (change : σ → σ) (next : Unit → Run σ β) :
    (modify change >>= next) s = next () (change s) := rfl

@[simp] theorem modify_apply (change : σ → σ) : modify change s = (.ok (), change s) := rfl

/-- A run that came to a value goes on with it. -/
theorem bind_apply_of_ok {run : Run σ α} {s reached : σ} {value : α}
    (h : run s = (.ok value, reached)) : (run >>= next) s = next value reached := by
  change (match run s with | (.ok value, reached) => _ | (.error stop, reached) => _) = _
  rw [h]

/-- A run that was stopped does not go on. -/
theorem bind_apply_of_error {run : Run σ α} {s reached : σ} {stop : Stop}
    (h : run s = (.error stop, reached)) : (run >>= next) s = (.error stop, reached) := by
  change (match run s with | (.ok value, reached) => _ | (.error stop, reached) => _) = _
  rw [h]

/-- What goes on in the same way from every value comes to the same. -/
theorem bind_apply_congr {run : Run σ α} {next other : α → Run σ β} {s : σ}
    (same : ∀ value reached, run s = (.ok value, reached) → next value reached = other value reached) :
    (run >>= next) s = (run >>= other) s := by
  cases ran : run s with
  | mk result reached =>
    cases result with
    | ok value =>
      rw [bind_apply_of_ok next ran, bind_apply_of_ok other ran]
      exact same value reached ran
    | error stop => rw [bind_apply_of_error next ran, bind_apply_of_error other ran]

/-- What holds where the first run ends, and is kept by whatever goes on from there, holds at the end. -/
theorem bind_snd (holds : σ → Prop) {run : Run σ α} {next : α → Run σ β} {s : σ}
    (first : holds (run s).2)
    (rest : ∀ value reached, run s = (.ok value, reached) → holds reached →
      holds (next value reached).2) : holds ((run >>= next) s).2 := by
  cases ran : run s with
  | mk result reached =>
    rw [ran] at first
    cases result with
    | ok value =>
      rw [bind_apply_of_ok next ran]
      exact rest value reached ran first
    | error stop =>
      rw [bind_apply_of_error next ran]
      exact first

theorem bind_bind_apply {γ : Type} (run : Run σ α) (next : α → Run σ β) (last : β → Run σ γ)
    (s : σ) : ((run >>= next) >>= last) s = (run >>= fun value => next value >>= last) s := by
  cases ran : run s with
  | mk result reached =>
    cases result with
    | ok value =>
      rw [bind_apply_of_ok _ ran]
      cases went : next value reached with
      | mk result' reached' =>
        cases result' with
        | ok value' =>
          rw [bind_apply_of_ok _ went]
          exact bind_apply_of_ok _ ((bind_apply_of_ok _ ran).trans went)
        | error stop =>
          rw [bind_apply_of_error _ went]
          exact bind_apply_of_error _ ((bind_apply_of_ok _ ran).trans went)
    | error stop =>
      rw [bind_apply_of_error _ ran]
      exact bind_apply_of_error _ (bind_apply_of_error _ ran)

@[simp] theorem concluding_apply (run : Run σ α) (change : Except Stop α → σ → σ) :
    concluding run change s = ((run s).1, change (run s).1 (run s).2) := rfl

/-- The last act works on the state that the run reached. -/
theorem ensuring_snd (run : Run σ α) (last : Run σ Unit) :
    (ensuring run last s).2 = (last (run s).2).2 := by
  simp only [ensuring]
  split <;> rename_i h <;> simp [h]

/-- What comes to a value came to one in every part. -/
theorem of_bind_ok {run : Run σ α} {next : α → Run σ β} {s reached : σ} {value : β}
    (h : (run >>= next) s = (.ok value, reached)) :
    ∃ first mid, run s = (.ok first, mid) ∧ next first mid = (.ok value, reached) := by
  cases ran : run s with
  | mk result mid =>
    cases result with
    | ok first => exact ⟨first, mid, rfl, (bind_apply_of_ok next ran).symm.trans h⟩
    | error stop => cases (bind_apply_of_error next ran).symm.trans h

theorem of_ensuring_ok {run : Run σ α} {last : Run σ Unit} {s reached : σ} {value : α}
    (h : ensuring run last s = (.ok value, reached)) :
    ∃ mid, run s = (.ok value, mid) ∧ last mid = (.ok (), reached) := by
  simp only [ensuring] at h
  split at h
  · next final done =>
    obtain ⟨first, rfl⟩ := Prod.mk.inj h
    exact ⟨(run s).2, Prod.ext first rfl, done⟩
  · cases (Prod.mk.inj h).1

/-- A run that came to a value has no last act. -/
theorem onStop_apply_of_ok {run : Run σ α} {s reached : σ} {value : α}
    (h : run s = (.ok value, reached)) (last : Run σ Unit) :
    onStop run last s = (.ok value, reached) := by
  simp only [onStop, h]

theorem onStop_apply_of_error {run : Run σ α} {s reached : σ} {stop : Stop}
    (h : run s = (.error stop, reached)) (last : Run σ Unit) :
    onStop run last s = (.error stop, (last reached).2) := by
  simp only [onStop, h]

theorem zoom_fst (lens : Lens σ τ) (run : Run τ α) (s : σ) :
    (zoom lens run s).1 = (run (lens.get s)).1 := rfl

/-- Both the run and the last act have to come to their ends. -/
theorem ensuring_isOk (run : Run σ α) (last : Run σ Unit) :
    (ensuring run last s).1.isOk = ((run s).1.isOk && (last (run s).2).1.isOk) := by
  simp only [ensuring]
  split <;> rename_i h <;> simp [h, Except.isOk, Except.toBool]

end Run

end ExtensionProxy
