import ExtensionProxy.Proofs.IdentityCache
import ExtensionProxy.Proofs.Runs
import ExtensionProxy.Proofs.Timeline

/-!
# Registered documents and the open workspace

Wrappers are numbered in the order in which they are made.  So the wrapper of a document is registered
until the document is evicted, and never again after that; and a workspace that is opened is another
one than all that were open before.
-/

set_option autoImplicit false

namespace ExtensionProxy

variable {κ : Type}

/-! ## What a step does to them -/

/-- What a step does to the registered documents. -/
inductive Ledger.Rewraps (c d : Ledger κ) : Prop
  /-- Nothing. -/
  | same (documents : d.context.documents = c.context.documents) (wrapped : d.wrapped = c.wrapped)
  /-- A document that is not registered gets a new wrapper. -/
  | enroll (doc : DocumentHandle) (new : c.context.documents.get? doc = none)
      (documents : d.context.documents = c.context.documents.insert doc ⟨c.wrapped.length⟩)
      (wrapped : d.wrapped = c.wrapped ++ [doc])
  /-- A wrapper is made in vain. -/
  | waste (doc : DocumentHandle) (documents : d.context.documents = c.context.documents)
      (wrapped : d.wrapped = c.wrapped ++ [doc])
  /-- A document is evicted. -/
  | evict (doc : DocumentHandle) (documents : d.context.documents = c.context.documents.erase doc)
      (wrapped : d.wrapped = c.wrapped) (moment : Moment κ)
      (history : d.history = moment :: c.history)
      (what : moment.what = .evicted doc (c.context.documents.get? doc))

/-- What a step does to the open workspace. -/
inductive Ledger.Reopens (c d : Ledger κ) : Prop
  /-- Nothing. -/
  | same (workspace : d.context.workspace = c.context.workspace) (opened : d.opened = c.opened)
  /-- A new one replaces it. -/
  | replace (workspace : d.context.workspace = some ⟨c.opened⟩) (opened : d.opened = c.opened + 1)
      (moment : Moment κ) (history : d.history = moment :: c.history)
      (what : moment.what = .workspaceSet c.context.workspace (some ⟨c.opened⟩))
  /-- It is taken away. -/
  | shut (workspace : d.context.workspace = none) (opened : d.opened = c.opened)
      (moment : Moment κ) (history : d.history = moment :: c.history)
      (what : moment.what = .workspaceSet c.context.workspace none)

namespace Step

variable {c d : Ledger κ} {moment : Moment κ} {past : History κ}

theorem rewraps (step : Step c d) : c.Rewraps d := by
  cases step with
  | enroll doc new => exact .enroll doc new rfl rfl
  | waste doc => exact .waste doc rfl rfl
  | evict doc => exact .evict doc rfl rfl _ rfl rfl
  | _ => exact .same rfl rfl

theorem reopens (step : Step c d) : c.Reopens d := by
  cases step with
  | openWorkspace => exact .replace rfl rfl _ rfl rfl
  | shutWorkspace => exact .shut rfl rfl _ rfl rfl
  | _ => exact .same rfl rfl

/-- What a moment tells of the documents and of the workspace still holds after the step. -/
theorem tells (step : Step c d) (adds : History.Adds c.history d.history moment past) :
    d.context.documents = moment.context.documents ∧
      d.context.workspace = moment.context.workspace := by
  have context : ∀ (e : Ledger κ) given, (e.release? given).context = e.context := fun _ _ => rfl
  cases step with
  | _ =>
    grind [Ledger.note, Ledger.evict, Ledger.setWorkspace, Ledger.openWorkspace, Ledger.setTasks,
      Ledger.free, Ledger.release, Ledger.unregister, Ledger.register, Ledger.bind,
      Ledger.changeRecord, Ledger.changeInstance, Ledger.append, Ledger.letGo, Ledger.reap,
      Ledger.mark, Ledger.eraseRecord, Ledger.advance, Ledger.changeSignal, Context.modifyRecord,
      Context.modifyInstance]

/-- A document is evicted by a step of its own. -/
theorem evicts (step : Step c d) (adds : History.Adds c.history d.history moment past)
    {doc : DocumentHandle} {found : Option DocumentId} (what : moment.what = .evicted doc found) :
    d.history = moment :: c.history ∧ past = c.history ∧
      d.context.documents = c.context.documents.erase doc := by
  cases step with
  | evict other =>
    obtain ⟨rfl, rfl⟩ := History.adds_single.mp adds
    cases what
    exact ⟨rfl, rfl, rfl⟩
  | _ => grind

/-- The workspace is replaced by a step of its own. -/
theorem sets (step : Step c d) (adds : History.Adds c.history d.history moment past)
    {before now : Option WorkspaceId} (what : moment.what = .workspaceSet before now) :
    d.history = moment :: c.history ∧ past = c.history ∧ before = c.context.workspace ∧
      d.context.workspace = now ∧ (now = none ∨ now = some ⟨c.opened⟩) := by
  cases step with
  | openWorkspace =>
    obtain ⟨rfl, rfl⟩ := History.adds_single.mp adds
    cases what
    exact ⟨rfl, rfl, rfl, rfl, .inr rfl⟩
  | shutWorkspace =>
    obtain ⟨rfl, rfl⟩ := History.adds_single.mp adds
    cases what
    exact ⟨rfl, rfl, rfl, rfl, .inl rfl⟩
  | _ => grind

end Step

/-! ## Every wrapper was made once -/

/-- What is registered was made for the document, and so was what was registered before; the same for
workspaces. -/
structure Ledger.Wraps (c : Ledger κ) : Prop where
  made : ∀ doc wrapper, c.context.documents.get? doc = some wrapper →
    c.wrapped[wrapper.index]? = some doc
  madeBefore : ∀ moment ∈ c.history, ∀ doc wrapper,
    moment.context.documents.get? doc = some wrapper → c.wrapped[wrapper.index]? = some doc
  opened : ∀ workspace, c.context.workspace = some workspace → workspace.index < c.opened
  openedBefore : ∀ moment ∈ c.history, ∀ workspace, moment.context.workspace = some workspace →
    workspace.index < c.opened

namespace Step

variable {c d : Ledger κ}

theorem wrapped_grows (step : Step c d) {n : Nat} {doc : DocumentHandle}
    (made : c.wrapped[n]? = some doc) : d.wrapped[n]? = some doc := by
  cases step.rewraps with
  | same _ wrapped | evict _ _ wrapped => rw [wrapped, made]
  | enroll _ _ _ wrapped | waste _ _ wrapped =>
    rw [wrapped, List.getElem?_append_left (List.getElem?_eq_some_iff.mp made).1, made]

theorem opened_grows (step : Step c d) : c.opened ≤ d.opened := by
  cases step.reopens with
  | same _ opened | shut _ opened => exact Nat.le_of_eq opened.symm
  | replace _ opened => exact opened ▸ Nat.le_succ _

theorem wraps (h : c.Wraps) (step : Step c d) : d.Wraps := by
  have made : ∀ doc wrapper, d.context.documents.get? doc = some wrapper →
      d.wrapped[wrapper.index]? = some doc := by
    intro doc wrapper there
    cases step.rewraps with
    | same documents | waste _ documents =>
      rw [documents] at there
      exact step.wrapped_grows (h.made doc wrapper there)
    | enroll other new documents wrapped =>
      rw [documents, IdentityCache.get?_insert] at there
      split at there
      · next same =>
        cases there
        rw [wrapped, same]
        exact List.getElem?_concat_length
      · exact step.wrapped_grows (h.made doc wrapper there)
    | evict other documents =>
      rw [documents, IdentityCache.get?_erase] at there
      split at there
      · cases there
      · exact step.wrapped_grows (h.made doc wrapper there)
  have opened : ∀ workspace, d.context.workspace = some workspace → workspace.index < d.opened := by
    intro workspace there
    cases step.reopens with
    | same same opened =>
      rw [same] at there
      exact opened ▸ h.opened workspace there
    | replace now opened =>
      cases now.symm.trans there
      exact opened ▸ Nat.lt_succ_self _
    | shut now => cases now.symm.trans there
  refine ⟨made, fun moment there doc wrapper known => ?_, opened,
    fun moment there workspace known => ?_⟩
  all_goals
    obtain ⟨newer, past, split⟩ := List.append_of_mem there
    rcases History.old_or_adds step.history_grows
      (⟨newer, split.symm⟩ : moment :: past <:+ d.history) with old | adds
  · exact step.wrapped_grows (h.madeBefore moment (old.subset List.mem_cons_self) doc wrapper known)
  · exact made doc wrapper ((step.tells adds).1 ▸ known)
  · exact Nat.lt_of_lt_of_le (h.openedBefore moment (old.subset List.mem_cons_self) workspace known)
      step.opened_grows
  · exact opened workspace ((step.tells adds).2.trans known)

end Step

theorem Path.wraps {c : Ledger κ} (path : Path Ledger.empty c) : c.Wraps := by
  induction path with
  | refl =>
    refine ⟨fun _ _ there => ?_, fun _ there => (List.not_mem_nil there).elim, fun _ there => ?_,
      fun _ there => (List.not_mem_nil there).elim⟩
    · cases there
    · cases there
  | tail _ step ih => exact step.wraps ih

/-! ## Since a moment -/

namespace History

/-- A document was evicted after a history. -/
def Evicts (since history : History κ) (doc : DocumentHandle) : Prop :=
  ∃ moment past found, Adds since history moment past ∧ moment.what = .evicted doc found

/-- The workspace was replaced after a history, for the last time by a given one or by none. -/
def LastSet (since history : History κ) (now : Option WorkspaceId) : Prop :=
  ∃ moment past before, Adds since history moment past ∧ moment.what = .workspaceSet before now ∧
    ∀ later between before' now', Adds (moment :: past) history later between →
      later.what ≠ .workspaceSet before' now'

/-- The wrapper of a document is registered until the document is evicted, and never after that. -/
def RegisteredUntilEvicted (since history : History κ)
    (documents : IdentityCache .document DocumentId) (doc : DocumentHandle) (wrapper : DocumentId) :
    Prop :=
  (documents.get? doc = some wrapper ∧ ¬Evicts since history doc) ∨
    (Evicts since history doc ∧ ∀ other, documents.get? other ≠ some wrapper)

variable {oldest older newer : History κ}

theorem Evicts.grow {doc : DocumentHandle} (h : Evicts oldest older doc) (grown : older <:+ newer) :
    Evicts oldest newer doc := by
  obtain ⟨moment, past, found, adds, what⟩ := h
  exact ⟨moment, past, found, adds.grow grown, what⟩

theorem Evicts.since {doc : DocumentHandle} (h : Evicts older newer doc)
    (grown : oldest <:+ older) : Evicts oldest newer doc := by
  obtain ⟨moment, past, found, adds, what⟩ := h
  exact ⟨moment, past, found, adds.since grown, what⟩

/-- The workspace was replaced for the last time once. -/
theorem LastSet.unique {now other : Option WorkspaceId} (h : LastSet oldest newer now)
    (h' : LastSet oldest newer other) : now = other := by
  obtain ⟨moment, past, before, adds, what, last⟩ := h
  obtain ⟨moment', past', before', adds', what', last'⟩ := h'
  rcases same_or_earlier adds.there adds'.there with same | old | new
  · rw [(List.cons.inj same).1, what'] at what
    cases what
    rfl
  · exact absurd what' (last moment' past' _ _ ⟨adds'.there, old⟩)
  · exact absurd what (last' moment past _ _ ⟨adds.there, new⟩)

/-- The last replacement stays the last one as long as there is no other. -/
theorem lastSet_iff_of_unset {now : Option WorkspaceId} (grown : older <:+ newer)
    (unset : ∀ moment past before now, Adds older newer moment past →
      moment.what ≠ .workspaceSet before now) : LastSet oldest newer now ↔ LastSet oldest older now := by
  constructor
  · rintro ⟨moment, past, before, adds, what, last⟩
    rcases old_or_adds grown adds.there with earlier | new
    · exact ⟨moment, past, before, ⟨earlier, adds.after⟩, what,
        fun later between _ _ adds' => last later between _ _ (adds'.grow grown)⟩
    · exact absurd what (unset moment past _ _ new)
  · rintro ⟨moment, past, before, adds, what, last⟩
    refine ⟨moment, past, before, adds.grow grown, what, fun later between _ _ adds' => ?_⟩
    rcases old_or_adds grown adds'.there with earlier | new
    · exact last later between _ _ ⟨earlier, adds'.after⟩
    · exact unset later between _ _ new

/-- Where a moment was added in one piece, nothing was added after it. -/
theorem not_adds_of_single {first moment : Moment κ} {past before : History κ}
    (there : moment :: past <:+ first :: older) (after : older <:+ past) {later : Moment κ} :
    ¬Adds (moment :: past) (first :: older) later before := by
  intro adds
  rcases List.suffix_cons_iff.mp there with same | inside
  · exact not_adds_self (same ▸ adds)
  · exact Nat.not_succ_le_self _ (inside.trans after).length_le

end History

namespace Step

variable {c d : Ledger κ} {doc : DocumentHandle} {wrapper : DocumentId}

/-- A registered document stays registered unless it is evicted. -/
theorem registered (step : Step c d) (there : c.context.documents.get? doc = some wrapper)
    (kept : ¬History.Evicts c.history d.history doc) :
    d.context.documents.get? doc = some wrapper := by
  cases step.rewraps with
  | same documents | waste _ documents => rw [documents, there]
  | enroll other new documents =>
    have different : doc ≠ other := by
      rintro rfl
      cases new.symm.trans there
    rw [documents, IdentityCache.get?_insert, if_neg different, there]
  | evict other documents _ moment history what =>
    have different : doc ≠ other := by
      rintro rfl
      exact kept ⟨moment, c.history, _, history ▸ History.adds_single.mpr ⟨rfl, rfl⟩, what⟩
    rw [documents, IdentityCache.get?_erase, if_neg different, there]

/-- The open workspace stays open unless it is replaced. -/
theorem unset (step : Step c d) (none : ∀ moment past before now,
    History.Adds c.history d.history moment past → moment.what ≠ .workspaceSet before now) :
    d.context.workspace = c.context.workspace := by
  cases step.reopens with
  | same same => exact same
  | replace _ _ moment history what | shut _ _ moment history what =>
    exact absurd what (none moment c.history _ _ (history ▸ History.adds_single.mpr ⟨rfl, rfl⟩))

/-- Evicting a document takes away the only registration that its wrapper can have. -/
theorem unregistered (step : Step c d) (wraps : c.Wraps)
    (made : c.wrapped[wrapper.index]? = some doc)
    (evicts : History.Evicts c.history d.history doc) (other : DocumentHandle) :
    d.context.documents.get? other ≠ some wrapper := by
  intro again
  obtain ⟨moment, past, found, adds, what⟩ := evicts
  rw [(step.evicts adds what).2.2, IdentityCache.get?_erase] at again
  split at again
  · cases again
  · next different =>
    cases made.symm.trans (wraps.made other wrapper again)
    exact different rfl

/-- A wrapper that is not registered any more is never registered again. -/
theorem stays_unregistered (step : Step c d) (made : c.wrapped[wrapper.index]? = some doc)
    (gone : ∀ other, c.context.documents.get? other ≠ some wrapper) (other : DocumentHandle) :
    d.context.documents.get? other ≠ some wrapper := by
  intro again
  cases step.rewraps with
  | same documents | waste _ documents => exact gone other (documents ▸ again)
  | enroll its new documents =>
    rw [documents, IdentityCache.get?_insert] at again
    split at again
    · cases again
      exact Nat.lt_irrefl _ (List.getElem?_eq_some_iff.mp made).1
    · exact gone other again
  | evict its documents =>
    rw [documents, IdentityCache.get?_erase] at again
    split at again
    · cases again
    · exact gone other again

end Step

namespace Path

variable {c : Ledger κ} {first : Moment κ} {older : History κ}

/-- A document that was registered is registered until it is evicted. -/
theorem registered_since (path : Path Ledger.empty c) (there : first :: older <:+ c.history)
    {doc : DocumentHandle} {wrapper : DocumentId}
    (known : first.context.documents.get? doc = some wrapper) :
    History.RegisteredUntilEvicted (first :: older) c.history c.context.documents doc wrapper := by
  induction path with
  | refl => cases List.suffix_nil.mp there
  | @tail b d path step ih =>
    have grown := step.history_grows
    have wraps := Path.wraps path
    -- The moment is older than the step, or the step itself added it.
    rcases History.old_or_adds grown there with old | adds
    · have made := wraps.madeBefore first (old.subset List.mem_cons_self) doc wrapper known
      rcases ih old with ⟨still, unevicted⟩ | ⟨evicted, gone⟩
      · by_cases evicts : History.Evicts b.history d.history doc
        · exact .inr ⟨evicts.since old, step.unregistered wraps made evicts⟩
        · refine .inl ⟨step.registered still evicts, fun ⟨moment, past, found, adds, what⟩ => ?_⟩
          rcases History.old_or_adds grown adds.there with before | new
          · exact unevicted ⟨moment, past, found, ⟨before, adds.after⟩, what⟩
          · exact evicts ⟨moment, past, found, new, what⟩
      · exact .inr ⟨evicted.grow grown, step.stays_unregistered made gone⟩
    · refine .inl ⟨(step.tells adds).1 ▸ known, fun ⟨moment, past, found, adds', what⟩ => ?_⟩
      have new : History.Adds b.history d.history moment past :=
        ⟨adds'.there, adds.after.trans ((List.suffix_cons _ _).trans adds'.after)⟩
      rw [(step.evicts new what).1] at adds adds'
      exact History.not_adds_of_single adds.there adds.after adds'

/-- The workspace that was open is still open, or it was replaced, and the one that is open now is the
one that replaced it last; it is another one. -/
theorem workspace_since (path : Path Ledger.empty c) (there : first :: older <:+ c.history) :
    (c.context.workspace = first.context.workspace ∧
        ∀ now, ¬History.LastSet (first :: older) c.history now) ∨
      (History.LastSet (first :: older) c.history c.context.workspace ∧
        ∀ workspace, c.context.workspace = some workspace →
          first.context.workspace ≠ some workspace) := by
  induction path with
  | refl => cases List.suffix_nil.mp there
  | @tail b d path step ih =>
    have grown := step.history_grows
    have wraps := Path.wraps path
    rcases History.old_or_adds grown there with old | adds
    · -- A new workspace is another one than the old, as its number was not given out by then.
      by_cases sets : ∃ moment past before now,
        History.Adds b.history d.history moment past ∧ moment.what = .workspaceSet before now
      · obtain ⟨moment, past, before, now, adds, what⟩ := sets
        obtain ⟨history, -, -, rfl, now⟩ := step.sets adds what
        refine .inr ⟨⟨moment, past, before, adds.since old, what, fun later between _ _ adds' => ?_⟩,
          fun workspace opened known => ?_⟩
        · rw [history] at adds adds'
          exact (History.not_adds_of_single adds.there adds.after adds').elim
        · rcases now with none | some
          · cases none.symm.trans opened
          · cases some.symm.trans opened
            exact Nat.lt_irrefl _ (wraps.openedBefore first (old.subset List.mem_cons_self) _ known)
      · have unset : ∀ moment past before now, History.Adds b.history d.history moment past →
            moment.what ≠ .workspaceSet before now :=
          fun moment past before now adds what => sets ⟨moment, past, before, now, adds, what⟩
        rw [step.unset unset]
        rcases ih old with ⟨still, unreplaced⟩ | ⟨last, other⟩
        · exact .inl ⟨still, fun now last =>
            unreplaced now ((History.lastSet_iff_of_unset grown unset).mp last)⟩
        · exact .inr ⟨(History.lastSet_iff_of_unset grown unset).mpr last, other⟩
    · refine .inl ⟨(step.tells adds).2, fun now ⟨moment, past, before, adds', what, _⟩ => ?_⟩
      have new : History.Adds b.history d.history moment past :=
        ⟨adds'.there, adds.after.trans ((List.suffix_cons _ _).trans adds'.after)⟩
      rw [(step.sets new what).1] at adds adds'
      exact History.not_adds_of_single adds.there adds.after adds'

end Path

end ExtensionProxy
