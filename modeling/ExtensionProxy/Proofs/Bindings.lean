import ExtensionProxy.Proofs.Holdings
import ExtensionProxy.Proofs.Timeline

/-!
# When bindings are held

A binding is held from when it is taken until it is given back.  What a record holds and what is under
construction was not given back, unless somebody gave it back by hand.
-/

set_option autoImplicit false

namespace ExtensionProxy

variable {κ : Type}

/-- Somebody gives back by hand what may be a record's. -/
def Happening.unbinds : Happening κ → Bool
  | .unbound _ => true
  | _ => false

namespace History

/-- A binding was given back. -/
def GaveBack (history : History κ) (binding : BindingId) : Prop :=
  ∃ moment ∈ history, moment.what = .released binding

/-- Nobody gave back by hand what others may hold. -/
def NoneUnbound (history : History κ) : Prop :=
  ∀ moment ∈ history, moment.what.unbinds = false

instance (history : History κ) : Decidable history.NoneUnbound :=
  inferInstanceAs (Decidable (∀ moment ∈ history, moment.what.unbinds = false))

variable {moment : Moment κ} {past older newer : History κ} {binding : BindingId}

@[simp, grind =] theorem gaveBack_cons : GaveBack (moment :: past) binding ↔
    moment.what = .released binding ∨ GaveBack past binding := by
  simp [GaveBack]

@[simp, grind =] theorem gaveBack_farewell {c : Ledger κ} {target : InstanceId} :
    GaveBack (c.farewell target ++ past) binding ↔ GaveBack past binding := by
  simp only [Ledger.farewell]
  split
  · split <;> simp
  · rfl

@[simp, grind =] theorem gaveBack_release? {c : Ledger κ} {given : Option BindingId} :
    GaveBack (c.release? given).history binding ↔
      given = some binding ∨ GaveBack c.history binding := by
  cases given <;> simp [Ledger.release?]

theorem NoneUnbound.mono (h : NoneUnbound newer) (grown : older <:+ newer) : NoneUnbound older :=
  fun moment there => h moment (grown.subset there)

end History

/-! ## Bindings are held until they are given back -/

namespace Ledger

/-- Bindings are held as long as they are needed, unless somebody gives them back by hand. -/
structure Kept (c : Ledger κ) : Prop where
  /-- No binding is held twice. -/
  once : c.held.Nodup
  /-- What is held was taken. -/
  taken : ∀ binding ∈ c.held, binding.index < c.next
  /-- What was given back was taken and is not held. -/
  given : ∀ binding, c.history.GaveBack binding → binding.index < c.next ∧ binding ∉ c.held
  /-- What a record holds is held. -/
  claimed : ∀ id binding, c.module? id = some binding → binding ∈ c.held
  /-- What is under construction is held. -/
  building : ∀ binding ∈ c.builds, binding ∈ c.held

/-- What a step does to the bindings that are held. -/
inductive Reholds (c d : Ledger κ) : Prop
  /-- Nothing. -/
  | same (held : d.held = c.held) (next : c.next ≤ d.next)
      (gaveBack : ∀ binding, d.history.GaveBack binding ↔ c.history.GaveBack binding)
  /-- A new one is taken. -/
  | take (held : d.held = ⟨c.next⟩ :: c.held) (next : d.next = c.next + 1)
      (gaveBack : ∀ binding, d.history.GaveBack binding ↔ c.history.GaveBack binding)
  /-- One is given back that belongs to nobody afterwards, unless it is given back by hand. -/
  | giveBack (given : BindingId) (held : d.held = c.held.erase given) (next : d.next = c.next)
      (gaveBack : ∀ binding, d.history.GaveBack binding ↔
        given = binding ∨ c.history.GaveBack binding)
      (spent : c.Holdings → d.history.NoneUnbound → d.IsSpent given)

/-- What a record lets go of is given back, if it held anything. -/
theorem Reholds.of_parted {c d : Ledger κ} {id : RecordId} {back : Option BindingId}
    (holds : c.module? id = back) (next : d.next = c.next) {builds : List BindingId}
    (same : d.builds = builds) (fewer : builds.Sublist c.builds)
    (away : c.Holdings → ∀ binding, back = some binding → d.module? id ≠ some binding)
    (modules : ∀ other, other ≠ id → d.module? other = c.module? other)
    (held : d.held = (c.release? back).held)
    (gaveBack : ∀ binding, d.history.GaveBack binding ↔
      back = some binding ∨ c.history.GaveBack binding) : c.Reholds d := by
  cases back with
  | none => exact .same held (Nat.le_of_eq next.symm) (by simpa using gaveBack)
  | some given =>
    exact .giveBack given held next (by simpa using gaveBack) fun holdings _ =>
      holdings.spent_of_parted holds next (same ▸ fewer) (away holdings given rfl) modules

end Ledger

namespace Step

variable {c d : Ledger κ}

theorem reholds (step : Step c d) : c.Reholds d := by
  cases step with
  | bind => exact .take rfl rfl fun _ => .rfl
  | construct id code context => exact .take rfl rfl (by simp)
  | unbind binding =>
    refine .giveBack binding rfl rfl (by simp) fun _ none => ?_
    cases none _ (List.mem_cons_of_mem _ List.mem_cons_self)
  | release binding taken unclaimed unbuilt =>
    refine .giveBack binding rfl rfl (by simp) fun _ _ => ⟨taken, unclaimed, fun under => ?_⟩
    obtain ⟨code, context, going⟩ := Ledger.exists_of_mem_builds under
    exact unbuilt code context going
  | decline binding code context rest top =>
    have builds : c.builds = binding :: rest.filterMap Activity.build? := by
      rw [Ledger.builds, top]
      rfl
    refine .giveBack binding rfl rfl (by simp) fun holdings _ => ?_
    obtain ⟨taken, unclaimed⟩ := holdings.building binding (builds ▸ List.mem_cons_self)
    refine ⟨taken, unclaimed, fun under => ?_⟩
    have fresh := (List.nodup_cons.mp (builds ▸ holdings.builders)).1
    exact fresh (congrArg (fun stack => stack.tail.filterMap Activity.build?) top ▸ under)
  | adopt id record binding code made context rest top found alone free =>
    have builds : c.builds = binding :: rest.filterMap Activity.build? := by
      rw [Ledger.builds, top]
      rfl
    have modules := Ledger.module?_changeRecord_of_found (Ledger.release? record.module
      ((((c.note (.ended (.call (.create binding code context)))).append made binding).register
        record.handle ⟨record.descriptor.name, ⟨c.context.instances.length⟩⟩))) found
    have ended : (c.note (.ended (.call (.create binding code context)))).builds
        = rest.filterMap Activity.build? :=
      congrArg (fun stack => stack.tail.filterMap Activity.build?) top
    refine .of_parted (Ledger.module?_of_found c found) rfl
      ((Ledger.builds_release? record.module _).trans ended) (builds ▸ List.sublist_cons_self _ _)
      (fun holdings given holds held => ?_)
      (fun other different => (modules other _).trans (if_neg different)) rfl fun given => ?_
    · cases ((modules id _).trans (if_pos rfl)).symm.trans held
      exact (holdings.building binding (builds ▸ List.mem_cons_self)).2 id
        ((Ledger.module?_of_found c found).trans holds)
    · simp
  | cleaned id record now found alone same =>
    have modules := Ledger.module?_changeRecord_of_found (c.release? record.module) found
    refine .of_parted ((Ledger.module?_of_found c found).trans same) rfl
      (Ledger.builds_release? record.module _) (.refl _) (fun _ given _ held => ?_)
      (fun other different => (modules other _).trans (if_neg different)) rfl fun given => ?_
    · cases ((modules id _).trans (if_pos rfl)).symm.trans held
    · simp
  | cleanBare id record found alone =>
    have modules := Ledger.module?_changeRecord_of_found
      ((c.note (.cleaning record)).release? record.module) found
    refine .of_parted (Ledger.module?_of_found c found) rfl
      (Ledger.builds_release? record.module _) (.refl _) (fun _ given _ held => ?_)
      (fun other different => (modules other _).trans (if_neg different)) rfl fun given => ?_
    · cases ((modules id _).trans (if_pos rfl)).symm.trans held
    · simp
  | discardBare id record found alone =>
    have modules := Ledger.module?_eraseRecord (c.note (.discarded record)) id
    refine .of_parted (Ledger.module?_of_found c found) rfl
      (Ledger.builds_release? record.module _) (.refl _) (fun _ given _ held => ?_)
      (fun other different => (modules other).trans (if_neg different)) rfl fun given => ?_
    · cases ((modules id).trans (if_pos rfl)).symm.trans held
    · exact History.gaveBack_release?.trans (by simp)
  | probe => exact .same rfl (Nat.le_succ _) fun _ => .rfl
  | _ => exact .same rfl (Nat.le_refl _) (by simp)

/-- Only what was held or under construction is claimed, and what comes under construction is a new
binding. -/
theorem claims (filing : c.Filing) (step : Step c d) :
    (∀ id binding, d.module? id = some binding →
      (∃ other, c.module? other = some binding) ∨ binding ∈ c.builds) ∧
    ∀ binding ∈ d.builds, binding ∈ c.builds ∨ binding = ⟨c.next⟩ ∧ d.held = ⟨c.next⟩ :: c.held := by
  cases filing.transfer step with
  | same modules targets instances next builds =>
    exact ⟨fun id binding holds => .inl ⟨id, modules ▸ holds⟩,
      fun binding under => .inl (builds.subset under)⟩
  | construct modules targets instances next held builds =>
    refine ⟨fun id binding holds => .inl ⟨id, modules ▸ holds⟩, fun binding under => ?_⟩
    rcases List.mem_cons.mp (builds ▸ under) with same | old
    · exact .inr ⟨same, held⟩
    · exact .inl old
  | gain id fresh binding alone unmade next builds modules targets instances =>
    refine ⟨fun other given holds => ?_, fun given under => .inl (builds ▸ List.mem_cons_of_mem _ under)⟩
    rw [modules] at holds
    split at holds
    · cases holds
      exact .inr (builds ▸ List.mem_cons_self)
    · exact .inl ⟨other, holds⟩
  | part id target lets next builds modules targets instances =>
    refine ⟨fun other given holds => ?_, fun given under => .inl (builds ▸ under)⟩
    rcases modules other with same | ⟨-, none⟩
    · exact .inl ⟨other, same ▸ holds⟩
    · cases none.symm.trans holds
  | bare id alone next builds modules targets instances =>
    refine ⟨fun other given holds => ?_, fun given under => .inl (builds ▸ under)⟩
    rw [modules] at holds
    split at holds
    · cases holds
    · exact .inl ⟨other, holds⟩

theorem kept (h : c.Kept) (filing : c.Filing) (holdings : c.Holdings) (step : Step c d)
    (none : d.history.NoneUnbound) : d.Kept := by
  obtain ⟨once, taken, given, claimed, building⟩ := h
  obtain ⟨claims, builds⟩ := step.claims filing
  have held_of : ∀ id binding, d.module? id = some binding → binding ∈ c.held := by
    intro id binding holds
    rcases claims id binding holds with ⟨other, holds⟩ | under
    · exact claimed other binding holds
    · exact building binding under
  cases step.reholds with
  | same held next gaveBack =>
    refine ⟨held ▸ once, fun binding there => ?_, fun binding back => ?_,
      fun id binding holds => held ▸ held_of id binding holds, fun binding under => ?_⟩
    · exact Nat.lt_of_lt_of_le (taken binding (held ▸ there)) next
    · obtain ⟨old, away⟩ := given binding ((gaveBack binding).mp back)
      exact ⟨Nat.lt_of_lt_of_le old next, held ▸ away⟩
    · rcases builds binding under with old | ⟨rfl, now⟩
      · exact held ▸ building binding old
      · exact now ▸ List.mem_cons_self
  | take held next gaveBack =>
    have fresh : (⟨c.next⟩ : BindingId) ∉ c.held := fun there => Nat.lt_irrefl _ (taken _ there)
    refine ⟨held ▸ List.nodup_cons.mpr ⟨fresh, once⟩, fun binding there => ?_,
      fun binding back => ?_, fun id binding holds => ?_, fun binding under => ?_⟩
    · rcases List.mem_cons.mp (held ▸ there) with rfl | old
      · rw [next]
        exact Nat.lt_succ_self _
      · exact next ▸ Nat.lt_succ_of_lt (taken binding old)
    · obtain ⟨old, away⟩ := given binding ((gaveBack binding).mp back)
      refine ⟨next ▸ Nat.lt_succ_of_lt old, fun there => ?_⟩
      rcases List.mem_cons.mp (held ▸ there) with rfl | there
      · exact Nat.lt_irrefl _ old
      · exact away there
    · exact held ▸ List.mem_cons_of_mem _ (held_of id binding holds)
    · rcases builds binding under with old | ⟨rfl, -⟩
      · exact held ▸ List.mem_cons_of_mem _ (building binding old)
      · exact held ▸ List.mem_cons_self
  | giveBack back held next gaveBack spent =>
    have spent := spent holdings none
    have stays : ∀ binding, binding ≠ back → binding ∈ c.held → binding ∈ d.held :=
      fun binding other there => held ▸ (List.mem_erase_of_ne other).mpr there
    refine ⟨held ▸ once.erase back, fun binding there => ?_, fun binding gone => ?_,
      fun id binding holds => ?_, fun binding under => ?_⟩
    · exact next ▸ taken binding (List.mem_of_mem_erase (held ▸ there))
    · rcases (gaveBack binding).mp gone with rfl | old
      · exact ⟨spent.taken, held ▸ fun there => (once.mem_erase_iff.mp there).1 rfl⟩
      · obtain ⟨old, away⟩ := given binding old
        exact ⟨next ▸ old, fun there => away (List.mem_of_mem_erase (held ▸ there))⟩
    · refine stays binding (fun same => ?_) (held_of id binding holds)
      exact spent.unclaimed id (same ▸ holds)
    · rcases builds binding under with old | ⟨rfl, now⟩
      · exact stays binding (fun same => spent.built (same ▸ under)) (building binding old)
      · exact now ▸ List.mem_cons_self

end Step

end ExtensionProxy
