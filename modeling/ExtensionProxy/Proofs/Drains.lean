import ExtensionProxy.Proofs.Runs
import ExtensionProxy.Proofs.Timeline

/-!
# Drains at the top of the stack

Drains are begun by the host or by code that runs.  Where the host begins all of them, when nothing is
going on, no drain begins within another one, nothing else is going on while a drain takes what waits,
and every drain comes to its end.
-/

set_option autoImplicit false

namespace ExtensionProxy

variable {κ : Type}

/-- Whether a drain begins. -/
def Happening.isDrain : Happening κ → Bool
  | .began (.drain _) => true
  | _ => false

theorem Happening.isDrain_iff {what : Happening κ} :
    what.isDrain = true ↔ ∃ limit, what = .began (.drain limit) := by
  constructor
  · intro drains
    unfold Happening.isDrain at drains
    split at drains
    · exact ⟨_, rfl⟩
    · cases drains
  · rintro ⟨limit, rfl⟩
    rfl

namespace History

variable {history past : History κ}

/-- Drains begin when nothing is going on. -/
def DrainsOutermost (history : History κ) : Prop :=
  ∀ moment past limit, moment :: past <:+ history → moment.what = .began (.drain limit) →
    stack past = []

theorem DrainsOutermost.mono {older newer : History κ} (h : newer.DrainsOutermost)
    (grown : older <:+ newer) : older.DrainsOutermost :=
  fun moment past limit there => h moment past limit (there.trans grown)

theorem drainsOutermost_cons {moment : Moment κ} : DrainsOutermost (moment :: past) ↔
    (moment.what.isDrain = true → stack past = []) ∧ past.DrainsOutermost := by
  refine ⟨fun h => ⟨fun drains => ?_, h.mono (List.suffix_cons _ _)⟩,
    fun ⟨latest, older⟩ other before limit there what => ?_⟩
  · obtain ⟨limit, what⟩ := Happening.isDrain_iff.mp drains
    exact h moment past limit (List.suffix_refl _) what
  · rcases List.suffix_cons_iff.mp there with same | there
    · cases same
      exact latest (Happening.isDrain_iff.mpr ⟨limit, what⟩)
    · exact older other before limit there what

instance decidableDrainsOutermost : (history : History κ) → Decidable history.DrainsOutermost
  | [] => .isTrue fun _ _ _ there => nomatch List.suffix_nil.mp there
  | moment :: past =>
    have := decidableDrainsOutermost past
    decidable_of_iff ((moment.what.isDrain = true → (stack past).isEmpty = true) ∧
      DrainsOutermost past) (by rw [drainsOutermost_cons, List.isEmpty_iff])

/-- Whatever is on the stack began, and it has been on the stack ever since. -/
theorem exists_began {activity : Activity κ} {upper rest : List (Activity κ)}
    (going : stack history = upper ++ activity :: rest) :
    ∃ moment past, moment :: past <:+ history ∧ moment.what = .began activity ∧ stack past = rest ∧
      ∀ between, moment :: past <:+ between → between <:+ history →
        activity :: rest <:+ stack between := by
  -- On the history, for every stack above: what ends on top of the activity was pushed after it.
  induction history generalizing upper with
  | nil => simp [stack] at going
  | cons moment past ih =>
    have older : ∀ {upper : List (Activity κ)}, stack past = upper ++ activity :: rest →
        ∃ first before, first :: before <:+ moment :: past ∧ first.what = .began activity ∧
          stack before = rest ∧ ∀ between, first :: before <:+ between →
            between <:+ moment :: past → activity :: rest <:+ stack between := by
      intro upper' going'
      obtain ⟨first, before, there, what, below, since⟩ := ih going'
      refine ⟨first, before, there.trans (List.suffix_cons _ _), what, below,
        fun between after inside => ?_⟩
      rcases List.suffix_cons_iff.mp inside with rfl | inside
      · exact ⟨upper, going.symm⟩
      · exact since between after inside
    cases what : moment.what with
    | began top =>
      rw [stack, what, Happening.shift] at going
      cases upper with
      | nil =>
        obtain ⟨rfl, below⟩ := List.cons.inj going
        refine ⟨moment, past, List.suffix_refl _, what, below, fun between after inside => ?_⟩
        have same := after.eq_of_length_le inside.length_le
        have whole : stack between = top :: rest := by
          rw [← same, stack, what, Happening.shift, below]
        exact ⟨[], whole.symm⟩
      | cons first upper => exact older (List.cons.inj going).2
    | ended top =>
      rw [stack, what, Happening.shift] at going
      cases whole : stack past with
      | nil =>
        rw [whole] at going
        simp at going
      | cons first below =>
        rw [whole, List.tail_cons] at going
        exact @older (first :: upper) (whole.trans (congrArg (List.cons first) going))
    | _ =>
      rw [stack, what] at going
      exact older going

end History

/-! ## Drains -/

namespace Step

variable {c d : Ledger κ} {moment : Moment κ} {past : History κ}

/-- A drain begins with the next number of the queue for its limit. -/
theorem drains (step : Step c d) (adds : History.Adds c.history d.history moment past) {limit : Nat}
    (what : moment.what = .began (.drain limit)) :
    past = c.history ∧ d.history = moment :: past ∧ moment.context = c.context ∧
      limit = c.context.tasks.nextSeq := by
  cases step with
  | drain =>
    obtain ⟨rfl, rfl⟩ := History.adds_single.mp adds
    cases what
    exact ⟨rfl, rfl, rfl, rfl⟩
  | enter target found call ready asks =>
    obtain ⟨rfl, rfl⟩ := History.adds_single.mp adds
    cases what
  | _ => grind

/-- A drain comes to its end when nothing waits below its limit. -/
theorem completes (step : Step c d) (adds : History.Adds c.history d.history moment past)
    (what : moment.what = .drained) :
    past = c.history ∧ ∃ limit rest, c.stack = .drain limit :: rest ∧
      c.context.tasks.takeBelow limit = none := by
  cases step with
  | drained limit rest top done =>
    obtain ⟨rfl, rfl⟩ := History.adds_single.mp adds
    exact ⟨rfl, limit, rest, top, done⟩
  | _ => grind

/-- What ends was on top of the stack, and a drain that ends has come to its end or was stopped. -/
theorem ends (step : Step c d) (adds : History.Adds c.history d.history moment past)
    {activity : Activity κ} (what : moment.what = .ended activity) :
    past = c.history ∧ (∃ rest, c.stack = activity :: rest) ∧ ∀ limit, activity = .drain limit →
      ∃ last before, c.history = last :: before ∧ (last.what = .drained ∨ last.what = .broken) := by
  cases step with
  | endDrain limit rest top finished =>
    obtain ⟨rfl, rfl⟩ := History.adds_single.mp adds
    cases what
    exact ⟨rfl, ⟨rest, top⟩, fun _ _ => finished⟩
  | _ => grind

end Step

/-! ## Drains at the top of the stack -/

namespace History

/-- A drain on top of the stack is all there is, and no drain began after it. -/
theorem drain_alone {history : History κ} (outermost : history.DrainsOutermost) {limit : Nat}
    {rest : List (Activity κ)} (top : history.stack = .drain limit :: rest) :
    rest = [] ∧ ∃ drain past, drain :: past <:+ history ∧ drain.what = .began (.drain limit) ∧
      ∀ other before bound, other :: before <:+ history → other.what = .began (.drain bound) →
        other :: before <:+ drain :: past := by
  obtain ⟨drain, past, there, what, below, since⟩ := @exists_began _ _ _ [] _ top
  refine ⟨below.symm.trans (outermost drain past limit there what), drain, past, there, what,
    fun other before bound there' what' => ?_⟩
  rcases suffix_total there there' with old | new
  · rcases List.suffix_cons_iff.mp old with same | old
    · exact same ▸ List.suffix_refl _
    · have going := since before old ((List.suffix_cons _ _).trans there')
      rw [outermost other before bound there' what'] at going
      cases List.suffix_nil.mp going
  · exact new

/-- What began when nothing was going on is going on at the bottom of the stack until it ends. -/
theorem ends_or_goes {start : Moment κ} {earlier : History κ} {activity : Activity κ}
    (what : start.what = .began activity) (alone : stack earlier = []) (now : History κ)
    (after : start :: earlier <:+ now) :
    (∀ between, start :: earlier <:+ between → between <:+ now →
      [activity] <:+ stack between) ∨
    ∃ ended before other, Adds (start :: earlier) now ended before ∧ ended.what = .ended other ∧
      stack before = [activity] ∧ ∀ between, start :: earlier <:+ between → between <:+ before →
        [activity] <:+ stack between := by
  induction now with
  | nil => cases List.suffix_nil.mp after
  | cons moment past ih =>
    rcases List.suffix_cons_iff.mp after with same | old
    · refine .inl fun between since inside => ?_
      have whole := since.eq_of_length_le (same ▸ inside.length_le)
      rw [← whole, stack, what, alone]
      exact List.suffix_refl _
    rcases ih old with goes | ⟨ended, before, other, adds, ends, top, since⟩
    · have whole := goes past old (List.suffix_refl _)
      have extend : [activity] <:+ stack (moment :: past) → ∀ between,
          start :: earlier <:+ between → between <:+ moment :: past → [activity] <:+ stack between := by
        intro last between since inside
        rcases List.suffix_cons_iff.mp inside with rfl | inside
        · exact last
        · exact goes between since inside
      -- Only an end with nothing above the activity is its own.
      cases happened : moment.what with
      | began top =>
        refine .inl (extend ?_)
        rw [stack, happened]
        exact whole.trans (List.suffix_cons _ _)
      | ended top =>
        obtain ⟨upper, split⟩ := whole
        cases upper with
        | nil =>
          exact .inr ⟨moment, past, top, ⟨List.suffix_refl _, old⟩, happened, split.symm, goes⟩
        | cons first upper =>
          refine .inl (extend ?_)
          rw [stack, happened, ← split]
          exact ⟨upper, rfl⟩
      | _ =>
        refine .inl (extend ?_)
        rw [stack, happened]
        exact whole
    · exact .inr ⟨ended, before, other, adds.grow (List.suffix_cons _ _), ends, top, since⟩

end History

namespace Path

variable {c : Ledger κ}

/-- A drain that began when nothing was going on has come to its end, or was stopped, when nothing is
going on again. -/
theorem drain_done (path : Path Ledger.empty c) (quiet : c.stack = []) {drain : Moment κ}
    {earlier : History κ} {limit : Nat} (there : drain :: earlier <:+ c.history)
    (what : drain.what = .began (.drain limit)) (alone : History.stack earlier = []) :
    ∃ last before, History.Adds (drain :: earlier) c.history last before ∧
      (last.what = .drained ∨ last.what = .broken) ∧ History.stack before = [.drain limit] ∧
      ∀ between, drain :: earlier <:+ between → between <:+ before →
        [.drain limit] <:+ History.stack between := by
  rcases History.ends_or_goes what alone c.history there with goes |
    ⟨ended, now, other, adds, ends, top, since⟩
  · have going := goes c.history there (List.suffix_refl _)
    rw [show History.stack c.history = [] from quiet] at going
    cases List.suffix_nil.mp going
  obtain ⟨a, b, first, step, rest, adds'⟩ := path.added adds.there
  obtain ⟨rfl, ⟨below, top'⟩, finished⟩ := step.ends adds' ends
  obtain ⟨rfl, rfl⟩ := List.cons.inj (top'.symm.trans top)
  obtain ⟨last, before, history, what'⟩ := finished limit rfl
  have inside : a.history <:+ c.history := (List.suffix_cons _ _).trans adds.there
  have after : drain :: earlier <:+ before := by
    refine History.earlier_of_ne (history ▸ adds.after) fun same => ?_
    rw [same] at what
    rcases what' with drained | broken
    · cases what.symm.trans drained
    · cases what.symm.trans broken
  refine ⟨last, before, ⟨history ▸ inside, after⟩, what', ?_, fun between later within =>
    since between later (within.trans (history ▸ List.suffix_cons _ _))⟩
  rw [← top, history, History.stack]
  rcases what' with drained | broken
  · rw [drained]
    rfl
  · rw [broken]
    rfl

end Path

end ExtensionProxy
