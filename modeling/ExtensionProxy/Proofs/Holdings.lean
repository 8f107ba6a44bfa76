import ExtensionProxy.Proofs.Step

/-!
# Who holds what

What is true of slots, records, bindings and instances after every path of steps: a record is in at
most one slot; no two records hold one binding or own one instance; a record that owns an instance
holds the binding from which the instance was made; and a binding that a factory is being called
for belongs to no record yet.
-/

set_option autoImplicit false

namespace ExtensionProxy.Ledger

variable {κ : Type} {c d : Ledger κ}

/-! ## Slots -/

/-- Every record was made, also one that is only named in a slot, and no record is in two slots. -/
structure Filing (c : Ledger κ) : Prop where
  /-- Records are counted. -/
  made : ∀ id, c.context.recordCount ≤ id.index → c.context.record? id = none
  /-- The records in the slots were made. -/
  named : ∀ slot id, c.context.slots.get? slot = some id → id.index < c.context.recordCount
  /-- No record is in two slots. -/
  apart : ∀ slot other id, c.context.slots.get? slot = some id →
    c.context.slots.get? other = some id → slot = other

namespace Filing

/-- A record that is there was made. -/
theorem lt_of_found (h : Filing c) {id : RecordId} {record : Record}
    (found : c.context.record? id = some record) : id.index < c.context.recordCount := by
  refine Nat.lt_of_not_le fun beyond => ?_
  rw [h.made id beyond] at found
  cases found

/-- The records may change as long as none is made. -/
theorem of_records (h : Filing c) (slots : d.context.slots = c.context.slots)
    (count : d.context.recordCount = c.context.recordCount)
    (records : ∀ id, c.context.record? id = none → d.context.record? id = none) : Filing d :=
  ⟨fun id beyond => records id (h.made id (count ▸ beyond)), by rw [slots, count]; exact h.named,
    by rw [slots]; exact h.apart⟩

theorem of_eq (h : Filing c) (slots : d.context.slots = c.context.slots)
    (count : d.context.recordCount = c.context.recordCount)
    (records : d.context.records = c.context.records) : Filing d :=
  h.of_records slots count fun id absent => by rwa [Context.record?, records]

end Filing

theorem record?_changeRecord_of_none {id : RecordId} (c : Ledger κ) (other : RecordId)
    (change : Record → Record) (absent : c.context.record? id = none) :
    (c.changeRecord other change).context.record? id = none := by
  rw [changeRecord, Context.record?_modifyRecord]
  split <;> simp [absent]

theorem record?_eraseRecord (c : Ledger κ) (id other : RecordId) :
    (c.eraseRecord id).context.record? other
      = if other = id then none else c.context.record? other :=
  OrderedMap.get?_erase c.context.records id other

theorem Filing.step (h : Filing c) (step : Step c d) : Filing d := by
  cases step with
  | take slot =>
    have sub : ∀ other id, (c.context.slots.erase slot).get? other = some id →
        c.context.slots.get? other = some id := by
      intro other id found
      rw [OrderedMap.get?_erase] at found
      split at found
      · cases found
      · exact found
    exact ⟨h.made, fun other id found => h.named other id (sub other id found),
      fun first second id one two => h.apart first second id (sub first id one) (sub second id two)⟩
  | put slot id loose made =>
    have cases_of : ∀ other found, (c.context.slots.insert slot id).get? other = some found →
        (other = slot ∧ found = id) ∨ c.context.slots.get? other = some found := by
      intro other found there
      rw [OrderedMap.get?_insert] at there
      split at there
      · next same => exact .inl ⟨same, (Option.some.inj there).symm⟩
      · exact .inr there
    refine ⟨h.made, fun other found there => ?_, fun first second found one two => ?_⟩
    · rcases cases_of other found there with ⟨-, rfl⟩ | old
      · exact made
      · exact h.named other found old
    · rcases cases_of first found one with ⟨rfl, rfl⟩ | oldOne
      · rcases cases_of second found two with ⟨rfl, -⟩ | oldTwo
        · rfl
        · exact absurd oldTwo (loose second)
      · rcases cases_of second found two with ⟨rfl, rfl⟩ | oldTwo
        · exact absurd oldOne (loose first)
        · exact h.apart first second found oldOne oldTwo
  | load record bare alone =>
    refine ⟨fun id beyond => ?_, fun slot id found => Nat.lt_succ_of_lt (h.named slot id found),
      h.apart⟩
    have other : id ≠ ⟨c.context.recordCount⟩ := by
      rintro rfl
      exact Nat.not_succ_le_self _ beyond
    rw [Context.record?, OrderedMap.get?_insert, if_neg other]
    exact h.made id (Nat.le_of_succ_le beyond)
  | discard id =>
    refine h.of_records rfl rfl fun other absent => ?_
    exact (record?_eraseRecord c id other).trans (by simp [absent])
  | discardBare id =>
    refine h.of_records rfl rfl fun other absent => ?_
    exact (record?_eraseRecord c id other).trans (by simp [absent])
  | restage id | construct id | adopt id | clean id | cleaned id | cleanBare id =>
    exact h.of_records rfl rfl fun other absent =>
      record?_changeRecord_of_none c id _ absent
  | _ => exact h.of_eq rfl rfl rfl

/-! ## Bindings under construction -/

end ExtensionProxy.Ledger

namespace ExtensionProxy

variable {κ : Type}

/-- The binding whose factory is being called, if that is what goes on. -/
def Activity.build? : Activity κ → Option BindingId
  | .call (.create binding _ _) => some binding
  | _ => none

/-- The binding whose factory begins to be called, if that is what happens. -/
def Happening.build? : Happening κ → Option BindingId
  | .began activity => activity.build?
  | _ => none

/-- What is no call of a factory adds no binding to those under construction. -/
theorem Happening.shift_builds {what : Happening κ} (h : what.build? = none)
    (stack : List (Activity κ)) :
    ((what.shift stack).filterMap Activity.build?).Sublist (stack.filterMap Activity.build?) := by
  cases what with
  | began activity =>
    have none : activity.build? = none := h
    simp [shift, none]
  | ended activity => exact (List.tail_sublist stack).filterMap _
  | _ => exact .refl _

end ExtensionProxy

namespace ExtensionProxy.Ledger

variable {κ : Type} {c d : Ledger κ}

/-- The bindings whose factories are being called, the innermost first. -/
def builds (c : Ledger κ) : List BindingId := c.stack.filterMap Activity.build?

theorem builds_note {what : Happening κ} (h : what.build? = none) (c : Ledger κ) :
    (c.note what).builds.Sublist c.builds :=
  Happening.shift_builds h c.stack

theorem builds_reap (target : InstanceId) (c : Ledger κ) : (c.reap target).builds = c.builds := by
  simp only [builds, stack, reap, farewell]
  split
  · split <;> rfl
  · rfl

theorem builds_release? (binding : Option BindingId) (c : Ledger κ) :
    (c.release? binding).builds = c.builds := by
  cases binding <;> rfl

/-! ## What a step does to who holds what -/

/-- The record that is made next holds nothing yet, and making it changes no record. -/
theorem Filing.load (h : Filing c) (record : Record) (bare : record.module = none)
    (alone : record.target = none) (other : RecordId) :
    (((c.context.records.insert ⟨c.context.recordCount⟩ record).get? other).bind fun record =>
        record.module) = c.module? other ∧
      (((c.context.records.insert ⟨c.context.recordCount⟩ record).get? other).bind fun record =>
        record.target) = c.target? other := by
  rw [OrderedMap.get?_insert]
  by_cases same : other = ⟨c.context.recordCount⟩
  · have absent := h.made other (same ▸ Nat.le_refl _)
    simp [same, bare, alone, module?, target?, same ▸ absent]
  · simp [same, module?, target?, Context.record?]

/-- What a step does to bindings and instances. -/
inductive Transfer (c d : Ledger κ) : Prop
  /-- Nothing changes hands. -/
  | same (modules : d.module? = c.module?) (targets : d.target? = c.target?)
      (instances : d.owned? = c.owned?) (next : c.next ≤ d.next)
      (builds : d.builds.Sublist c.builds)
  /-- A new binding comes under construction. -/
  | construct (modules : d.module? = c.module?) (targets : d.target? = c.target?)
      (instances : d.owned? = c.owned?) (next : d.next = c.next + 1)
      (held : d.held = ⟨c.next⟩ :: c.held) (builds : d.builds = ⟨c.next⟩ :: c.builds)
  /-- A record without an instance takes a new instance and the binding that it was made from. -/
  | gain (id : RecordId) (fresh : InstanceId) (binding : BindingId) (alone : c.target? id = none)
      (unmade : c.owned? fresh = none) (next : d.next = c.next)
      (builds : c.builds = binding :: d.builds)
      (modules : ∀ other, d.module? other = if other = id then some binding else c.module? other)
      (targets : ∀ other, d.target? other = if other = id then some fresh else c.target? other)
      (instances : ∀ other, d.owned? other = if other = fresh then some binding
        else c.owned? other) (new : fresh = ⟨c.context.instances.length⟩)
  /-- A record lets go of its instance. -/
  | part (id : RecordId) (target : InstanceId) (lets : c.target? id = some target)
      (next : d.next = c.next) (builds : d.builds = c.builds)
      (modules : ∀ other, d.module? other = c.module? other ∨ other = id ∧ d.module? other = none)
      (targets : ∀ other, d.target? other = if other = id then none else c.target? other)
      (instances : ∀ other, d.owned? other = if other = target then none else c.owned? other)
  /-- A record without an instance lets go of its binding. -/
  | bare (id : RecordId) (alone : c.target? id = none) (next : d.next = c.next)
      (builds : d.builds = c.builds)
      (modules : ∀ other, d.module? other = if other = id then none else c.module? other)
      (targets : d.target? = c.target?) (instances : d.owned? = c.owned?)

theorem Filing.transfer (filing : Filing c) (step : Step c d) : Transfer c d := by
  cases step with
  | load record bare alone =>
    exact .same (funext fun id => (filing.load record bare alone id).1)
      (funext fun id => (filing.load record bare alone id).2) rfl (Nat.le_refl _) (.refl _)
  | restage id stage =>
    exact .same (module?_changeRecord_of_same c id fun _ => rfl)
      (target?_changeRecord_of_same c id fun _ => rfl) rfl (Nat.le_refl _) (.refl _)
  | probe => exact .same rfl rfl rfl (Nat.le_succ _) (.refl _)
  | bind => exact .same rfl rfl rfl (Nat.le_succ _) (.refl _)
  | construct id code context =>
    exact .construct (module?_changeRecord_of_same c.bind id fun _ => rfl)
      (target?_changeRecord_of_same c.bind id fun _ => rfl) rfl rfl rfl rfl
  | decline binding code context rest top =>
    exact .same rfl rfl rfl (Nat.le_refl _) ((List.tail_sublist _).filterMap _)
  | adopt id record binding code made context rest top found alone free =>
    have before : c.builds = binding :: rest.filterMap Activity.build? := by
      rw [builds, top]
      rfl
    have after : (c.note (.ended (.call (.create binding code context)))).builds
        = rest.filterMap Activity.build? :=
      congrArg (fun stack => stack.tail.filterMap Activity.build?) top
    refine .gain id _ binding ((target?_of_found c found).trans alone) (owned?_length c) rfl ?_
      (fun other => ?_) (fun other => ?_) (owned?_append c made binding) rfl
    · refine before.trans (congrArg (List.cons binding) (Eq.symm ?_))
      exact (builds_release? record.module _).trans after
    · exact module?_changeRecord_of_found (release? record.module _) found other _
    · exact target?_changeRecord_of_found (release? record.module _) found other _
  | duplicate binding code made context rest top =>
    refine .same rfl rfl (funext fun other => ?_) (Nat.le_refl _) ?_
    · rw [owned?_letGo, owned?_append]
      by_cases same : other = ⟨c.context.instances.length⟩
      · rw [if_pos same, same, owned?_length]
      · rw [if_neg same]
        exact if_neg same
    · rw [letGo, builds_reap]
      exact (List.tail_sublist _).filterMap _
  | clean id record target found owns =>
    have modules : ((c.note (.cleaning record)).changeRecord id fun record =>
        { record with target := none }).module? = c.module? :=
      module?_changeRecord_of_same (c.note (.cleaning record)) id fun _ => rfl
    exact .part id target ((target?_of_found c found).trans owns) rfl (builds_reap _ _)
      (fun other => .inl (congrFun modules other))
      (fun other => target?_changeRecord_of_found (c.note (.cleaning record)) found other _)
      (owned?_letGo _ target)
  | cleaned id record now found alone same freed =>
    exact .bare id ((target?_of_found c found).trans alone) rfl (builds_release? _ _)
      (fun other => module?_changeRecord_of_found (c.release? record.module) found other _)
      (target?_changeRecord_of_same (c.release? record.module) id fun _ => rfl) rfl
  | cleanBare id record found alone =>
    exact .bare id ((target?_of_found c found).trans alone) rfl (builds_release? _ _)
      (fun other => module?_changeRecord_of_found
        ((c.note (.cleaning record)).release? record.module) found other _)
      (target?_changeRecord_of_same ((c.note (.cleaning record)).release? record.module) id
        fun _ => rfl) rfl
  | discard id record target found owns =>
    refine .part id target ((target?_of_found c found).trans owns) rfl (builds_reap _ _)
      (fun other => ?_) (target?_eraseRecord (c.note (.discarded record)) id)
      (owned?_letGo _ target)
    refine (module?_eraseRecord (c.note (.discarded record)) id other).symm ▸ ?_
    by_cases same : other = id
    · exact .inr ⟨same, if_pos same⟩
    · exact .inl (if_neg same)
  | discardBare id record found alone =>
    refine .bare id ((target?_of_found c found).trans alone) rfl (builds_release? _ _)
      (module?_eraseRecord (c.note (.discarded record)) id) (funext fun other => ?_) rfl
    refine (target?_eraseRecord (c.note (.discarded record)) id other).trans ?_
    by_cases same : other = id
    · rw [if_pos same, same, target?_of_found c found, alone]
    · exact if_neg same
  | enter target found call ready asks =>
    refine .same rfl rfl (owned?_mark _ _ _) (Nat.le_refl _) (builds_note ?_ _)
    rcases asks with rfl | ⟨dialog, rfl⟩ <;> rfl
  | deliver | redeliver =>
    exact .same rfl rfl (owned?_mark _ _ _) (Nat.le_refl _) (builds_note rfl _)
  | leave target call rest top callback =>
    refine .same rfl rfl (owned?_mark _ _ _) (Nat.le_refl _) ?_
    rw [builds_reap]
    exact (List.tail_sublist _).filterMap _
  | _ =>
    first
    | exact .same rfl rfl rfl (Nat.le_refl _) (.refl _)
    | exact .same rfl rfl rfl (Nat.le_refl _) (builds_note rfl _)

/-! ## Records, bindings and instances -/

/-- Who holds what. -/
structure Holdings (c : Ledger κ) : Prop where
  /-- A record holds a binding that was taken. -/
  bound : ∀ id binding, c.module? id = some binding → binding.index < c.next
  /-- No binding is held by two records. -/
  apart : ∀ id other binding, c.module? id = some binding → c.module? other = some binding →
    id = other
  /-- A record that owns an instance holds the binding from which it was made. -/
  owns : ∀ id target, c.target? id = some target →
    ∃ binding, c.owned? target = some binding ∧ c.module? id = some binding
  /-- An instance that is owned is owned by a record. -/
  owned : ∀ target binding, c.owned? target = some binding → ∃ id, c.target? id = some target
  /-- A binding under construction was taken, and no record holds it yet. -/
  building : ∀ binding ∈ c.builds, binding.index < c.next ∧ c.IsUnclaimed binding
  /-- No binding is under construction twice. -/
  builders : c.builds.Nodup

namespace Holdings

/-- No two records own one instance. -/
theorem single (h : Holdings c) {id other : RecordId} {target : InstanceId}
    (one : c.target? id = some target) (two : c.target? other = some target) : id = other := by
  obtain ⟨binding, owned, holds⟩ := h.owns id target one
  obtain ⟨second, owned', holds'⟩ := h.owns other target two
  rw [owned] at owned'
  cases owned'
  exact h.apart id other binding holds holds'

/-- A record that is not initialized owns no instance. -/
theorem alone_of_uninitialized (h : Holdings c) {id : RecordId} {record : Record}
    (found : c.context.record? id = some record) (bare : ¬record.isInitialized = true) :
    record.target = none := by
  cases owns : record.target with
  | none => rfl
  | some target =>
    obtain ⟨binding, -, holds⟩ := h.owns id target ((target?_of_found c found).trans owns)
    have module : record.module = some binding := (module?_of_found c found).symm.trans holds
    exact absurd (by simp [Record.isInitialized, owns, module]) bare

theorem step (h : Holdings c) (filing : Filing c) (step : Step c d) : Holdings d := by
  have single := @h.single
  obtain ⟨bound, apart, owns, owned, building, builders⟩ := h
  cases filing.transfer step with
  | same modules targets instances next builds =>
    have inside := builds.subset
    rw [← modules] at bound apart owns
    rw [← targets, ← instances] at owns owned
    refine ⟨fun id binding holds => Nat.lt_of_lt_of_le (bound id binding holds) next, apart, owns,
      owned, fun binding under => ?_, builders.sublist builds⟩
    obtain ⟨taken, unclaimed⟩ := building binding (inside under)
    exact ⟨Nat.lt_of_lt_of_le taken next, fun id => modules ▸ unclaimed id⟩
  | construct modules targets instances next held builds =>
    have fresh : c.IsUnclaimed ⟨c.next⟩ := fun id holds => Nat.lt_irrefl _ (bound id _ holds)
    have modules := congrFun modules
    have targets := congrFun targets
    have instances := congrFun instances
    refine ⟨?_, ?_, ?_, ?_, ?_, ?_⟩
    · grind
    · grind
    · grind
    · grind
    · grind [IsUnclaimed]
    · grind
  | gain id fresh binding alone unmade next builds modules targets instances =>
    have under : binding ∈ c.builds := by simp [builds]
    have inside : ∀ other ∈ d.builds, other ∈ c.builds ∧ other ≠ binding := by grind
    refine ⟨?_, ?_, ?_, ?_, ?_, ?_⟩
    · grind
    · grind [IsUnclaimed]
    · grind
    · grind
    · grind [IsUnclaimed]
    · grind
  | part id target lets next builds modules targets instances =>
    refine ⟨?_, ?_, ?_, ?_, ?_, builds ▸ builders⟩
    · grind
    · grind
    · grind
    · grind
    · grind [IsUnclaimed]
  | bare id alone next builds modules targets instances =>
    have targets := congrFun targets
    have instances := congrFun instances
    refine ⟨?_, ?_, ?_, ?_, ?_, builds ▸ builders⟩
    · grind
    · grind
    · grind
    · grind
    · grind [IsUnclaimed]

end Holdings

/-! ## Bindings that are nobody's -/

/-- A binding that was taken, is under construction no longer and belongs to no record.  It will never
belong to one again. -/
structure IsSpent (c : Ledger κ) (binding : BindingId) : Prop where
  /-- It was taken. -/
  taken : binding.index < c.next
  /-- No record holds it. -/
  unclaimed : c.IsUnclaimed binding
  /-- Its factory is not being called. -/
  built : binding ∉ c.builds

/-- What a record held and holds no more belongs to nobody. -/
theorem Holdings.spent_of_parted (h : Holdings c) {id : RecordId} {binding : BindingId}
    (holds : c.module? id = some binding) (next : d.next = c.next)
    (builds : d.builds.Sublist c.builds) (parted : d.module? id ≠ some binding)
    (modules : ∀ other, other ≠ id → d.module? other = c.module? other) : d.IsSpent binding := by
  refine ⟨next ▸ h.bound id binding holds, fun other held => ?_, fun under => ?_⟩
  · by_cases same : other = id
    · exact parted (same ▸ held)
    · rw [modules other same] at held
      exact same (h.apart other id binding held holds)
  · exact (h.building binding (builds.subset under)).2 id holds

/-- What is under construction is among the bindings that are. -/
theorem mem_builds {binding : BindingId} {code : κ} {context : ExtensionContext}
    (going : .call (.create binding code context) ∈ c.stack) : binding ∈ c.builds :=
  List.mem_filterMap.mpr ⟨_, going, rfl⟩

theorem exists_of_mem_builds {binding : BindingId} (under : binding ∈ c.builds) :
    ∃ code context, .call (.create binding code context) ∈ c.stack := by
  obtain ⟨activity, going, build⟩ := List.mem_filterMap.mp under
  cases activity with
  | call request =>
    cases request with
    | create other code context =>
      cases build
      exact ⟨code, context, going⟩
    | _ => cases build
  | _ => cases build

/-- A binding that is nobody's may be given back. -/
theorem IsSpent.release {binding : BindingId} (h : c.IsSpent binding) : Step c (c.release binding) :=
  .release c binding h.taken h.unclaimed fun _ _ going => h.built (mem_builds going)

theorem IsSpent.step {binding : BindingId} (h : c.IsSpent binding) (filing : Filing c)
    (step : Step c d) : d.IsSpent binding := by
  obtain ⟨taken, unclaimed, built⟩ := h
  cases filing.transfer step with
  | same modules targets instances next builds =>
    exact ⟨Nat.lt_of_lt_of_le taken next, fun id => modules ▸ unclaimed id,
      fun inside => built (builds.subset inside)⟩
  | construct modules targets instances next held builds =>
    refine ⟨by omega, fun id => modules ▸ unclaimed id, fun inside => ?_⟩
    rcases List.mem_cons.mp (builds ▸ inside) with rfl | old
    · exact Nat.lt_irrefl _ taken
    · exact built old
  | gain | part | bare =>
    refine ⟨by omega, ?_, ?_⟩
    · grind [IsUnclaimed]
    · grind

end ExtensionProxy.Ledger
