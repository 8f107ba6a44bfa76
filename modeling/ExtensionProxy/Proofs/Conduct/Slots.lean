import ExtensionProxy.Proofs.Conduct.Lifecycle
import ExtensionProxy.Proxy.Service

/-!
# Working on what is in a slot is lawful

A record that is taken out of its slot is in no other, so nobody else can reach it until it is put
back.  Taking, working and putting back together are lawful without any licence: at the beginning
the record was in a slot, and what is in a slot may be changed by anyone.
-/

set_option autoImplicit false

namespace ExtensionProxy

open Ledger

variable {κ μ α : Type} {c : Ledger κ} {call : Caller κ μ} {s : State κ μ}

namespace Lawful

/-- A record that is in no slot is put into one; the record that was there is dropped. -/
theorem storeRecord (lawful : call.IsLawful) (sound : s.ledger.Sound) (slot : String) (id : RecordId)
    (loose : s.ledger.IsLoose id) (made : id.index < s.recordCount) :
    Lawful { shelf := some id } s.ledger s.ledger.stack true
      (ExtensionProxy.storeRecord call.noting slot id s) := by
  simp only [ExtensionProxy.storeRecord, Run.get_bind_apply, Run.modify_bind_apply]
  let stored : State κ μ := { s with slots := s.slots.insert slot id }
  have step : Step s.ledger stored.ledger := .put s.ledger slot id loose made
  have others : ∀ other, s.ledger.IsLoose other → some id ≠ some other →
      stored.ledger.IsLoose other := by
    intro other free different place there
    have now := (OrderedMap.get?_insert s.slots slot place id).symm.trans there
    split at now
    · exact different now
    · exact free place now
  have start : ∀ own, Exec { record := own, shelf := some id } s.ledger true stored.ledger :=
    fun own => ⟨.single step, ⟨fun other _ => others other, fun _ _ _ _ _ => rfl⟩, by simp,
      fun _ _ _ => rfl, fun _ other above below => absurd below (Nat.not_lt_of_le above),
      fun _ => rfl⟩
  cases before : s.slots.get? slot with
  | none => exact done (s := stored) (start none) rfl
  | some old =>
    have inner := dropRecord (s := stored) lawful (step.sound sound) old
    have both := (start (some old)).trans (inner.exec.widen (fun _ same => .inl same) (by simp) rfl)
    change Lawful _ _ _ _ (ExtensionProxy.dropRecord call.noting old stored)
    refine ⟨both.hide_record fun other same _ free => ?_, inner.stack⟩
    cases same
    exact free slot before

end Lawful

/-- What is in a slot and taken out of it is in no slot any more, and what is in no slot stays
there. -/
theorem Exec.take (sound : c.Sound) {slot : String} {id : RecordId}
    (there : c.context.slots.get? slot = some id) :
    Exec {} c true { c with context.slots := c.context.slots.erase slot } ∧
      Ledger.IsLoose { c with context.slots := c.context.slots.erase slot } id := by
  refine ⟨⟨.single (.take c slot), ⟨fun other _ free _ place now => ?_, fun _ _ _ _ _ => rfl⟩,
    nofun, fun _ _ _ => rfl, fun _ other above below => absurd below (Nat.not_lt_of_le above),
    fun _ => rfl⟩, fun place now => ?_⟩
  · have old := (OrderedMap.get?_erase c.context.slots slot place).symm.trans now
    split at old
    · cases old
    · exact free place old
  · have old := (OrderedMap.get?_erase c.context.slots slot place).symm.trans now
    split at old
    · cases old
    · next different => exact different (sound.filing.apart place slot id old there)

/-- A slot is empty, or names a record that was thrown away, or the record in it is taken out. -/
theorem takeRecord_cases (slot : String) (sound : s.ledger.Sound) :
    (∃ reached, takeRecord slot s = (.ok none, reached) ∧ Exec {} s.ledger true reached.ledger ∧
      reached.ledger.stack = s.ledger.stack) ∨
    (∃ id record reached, takeRecord slot s = (.ok (some (id, record)), reached) ∧
      ¬s.ledger.IsLoose id ∧ reached.record? id = some record ∧ reached.ledger.IsLoose id ∧
      Exec {} s.ledger true reached.ledger ∧ reached.ledger.stack = s.ledger.stack) := by
  cases there : s.slots.get? slot with
  | none =>
    refine .inl ⟨s, ?_, .refl nofun, rfl⟩
    simp only [takeRecord, Run.get_bind_apply, there]
    rfl
  | some id =>
    obtain ⟨exec, loose⟩ := Exec.take sound there
    let taken : State κ μ := { s with slots := s.slots.erase slot }
    have run : takeRecord slot s = (.ok ((s.record? id).map fun record => (id, record)), taken) := by
      simp only [takeRecord, Run.get_bind_apply, there]
      rfl
    cases found : s.record? id with
    | none => exact .inl ⟨taken, by rw [run, found]; rfl, exec, rfl⟩
    | some record =>
      exact .inr ⟨id, record, taken, by rw [run, found]; rfl, fun free => free slot there, found,
        loose, exec, rfl⟩

namespace Lawful

/-- Whoever works on a record that was taken out of a slot needs no licence for it. -/
theorem unshelve {reached : State κ μ} {base : List (Activity κ)} {id : RecordId}
    {out : Except Stop α × State κ μ} (slotted : ¬c.IsLoose id)
    (taken : Exec {} c true reached.ledger)
    (work : Lawful { record := some id } reached.ledger base true out) :
    Lawful {} c base true out := by
  have start : Exec { record := some id } c true reached.ledger := taken.weaken nofun
  have whole := start.trans work.exec
  refine ⟨whole.hide_record fun other same _ free => ?_, work.stack⟩
  cases same
  exact slotted free

/-- Work on the record in a slot is lawful if it is lawful to whom the record was handed. -/
theorem withRecord (lawful : call.IsLawful) (sound : s.ledger.Sound) (slot : String)
    {work : RecordId → Record → Run (State κ μ) α}
    (works : ∀ id record (reached : State κ μ), reached.ledger.Sound →
      reached.record? id = some record → reached.ledger.IsLoose id →
      Lawful { record := some id } reached.ledger reached.ledger.stack true
        (work id record reached)) :
    Lawful {} s.ledger s.ledger.stack true
      (ExtensionProxy.withRecord call.noting slot work s) := by
  simp only [ExtensionProxy.withRecord]
  rcases takeRecord_cases slot sound with
    ⟨reached, run, exec, stack⟩ | ⟨id, record, reached, run, slotted, found, loose, exec, stack⟩
  · rw [Run.bind_apply_of_ok _ run]
    exact done exec stack
  · rw [Run.bind_apply_of_ok _ run]
    have first := works id record reached (exec.path.sound sound) found loose
    have made := (exec.path.sound sound).filing.lt_of_found found
    have second := storeRecord lawful (first.exec.path.sound (exec.path.sound sound)) slot id
      (first.exec.keeps.loose id made loose nofun)
      (Nat.lt_of_lt_of_le made first.exec.path.records_grow)
    have inside : Lawful { shelf := some id } reached.ledger s.ledger.stack true
        (Run.ensuring (work id record) (ExtensionProxy.storeRecord call.noting slot id) reached) :=
      ensuring ⟨first.exec.widen (fun _ same => .inr same) nofun rfl, first.stack.trans stack⟩ second
    have start : Exec { shelf := some id } s.ledger true reached.ledger := exec.weaken nofun
    have whole := start.trans inside.exec
    refine map ⟨whole.hide_shelf fun other same _ free => ?_, inside.stack⟩
    cases same
    exact slotted free

/-- The record in a slot is taken out and unloaded. -/
theorem unloadSlot (lawful : call.IsLawful) (sound : s.ledger.Sound) (slot : String) :
    Lawful {} s.ledger s.ledger.stack true (ExtensionProxy.unloadSlot call.noting slot s) := by
  simp only [ExtensionProxy.unloadSlot]
  rcases takeRecord_cases slot sound with
    ⟨reached, run, exec, stack⟩ | ⟨id, record, reached, run, slotted, found, loose, exec, stack⟩
  · rw [Run.bind_apply_of_ok _ run]
    exact done exec stack
  · rw [Run.bind_apply_of_ok _ run]
    exact map (unshelve slotted exec
      (stack ▸ unloadRecord lawful (exec.path.sound sound) id record found loose))

/-- The record in a slot is taken out and dropped. -/
theorem dropSlot (lawful : call.IsLawful) (sound : s.ledger.Sound) (slot : String) :
    Lawful {} s.ledger s.ledger.stack true (ExtensionProxy.dropSlot call.noting slot s) := by
  simp only [ExtensionProxy.dropSlot]
  rcases takeRecord_cases slot sound with
    ⟨reached, run, exec, stack⟩ | ⟨id, record, reached, run, slotted, found, loose, exec, stack⟩
  · rw [Run.bind_apply_of_ok _ run]
    exact done exec stack
  · rw [Run.bind_apply_of_ok _ run]
    exact map (unshelve slotted exec (stack ▸ dropRecord lawful (exec.path.sound sound) id))

end Lawful

/-! ## Loading -/

/-- A record is made, or the ledger stays as it is. -/
theorem loadRecord_cases (site : Site κ) (handle : ExtensionHandle) (path : String)
    (s : State κ μ) :
    (∃ result reached, loadRecord site handle path s = (result, reached) ∧
      (result = .ok none ∨ ∃ stop, result = .error stop) ∧ reached.ledger = s.ledger) ∨
    (∃ record reached, loadRecord site handle path s = (.ok (some ⟨s.recordCount⟩), reached) ∧
      record.module = none ∧ record.target = none ∧
      reached.ledger = { s.ledger with
        context.records := s.records.insert ⟨s.recordCount⟩ record
        context.recordCount := s.recordCount + 1 }) := by
  simp only [loadRecord]
  cases site.descriptor path with
  | error cause => exact .inl ⟨.ok none, s.tell _, rfl, .inl rfl, rfl⟩
  | ok descriptor =>
    cases place : descriptor.modulePath? site.settings.loader with
    | none =>
      simp only [place]
      exact .inl ⟨_, s, rfl, .inr ⟨_, rfl⟩, rfl⟩
    | some modulePath =>
      simp only [place]
      exact .inr ⟨⟨handle, descriptor, modulePath, .probed, none, none⟩, _, rfl, rfl, rfl, rfl⟩

namespace Lawful

/-- The new record is put into a slot. -/
theorem loadSlot (lawful : call.IsLawful) (sound : s.ledger.Sound) (site : Site κ) (slot : String)
    (handle : ExtensionHandle) (path : String) :
    Lawful {} s.ledger s.ledger.stack true
      (ExtensionProxy.loadSlot site call.noting slot handle path s) := by
  simp only [ExtensionProxy.loadSlot]
  rcases loadRecord_cases site handle path s with
    ⟨result, reached, run, rfl | ⟨stop, rfl⟩, same⟩ | ⟨record, reached, run, bare, alone, ledger⟩
  · rw [Run.bind_apply_of_ok _ run]
    exact done (same ▸ .refl nofun) (congrArg Ledger.stack same)
  · rw [Run.bind_apply_of_error _ run]
    exact ⟨same ▸ .refl nofun, congrArg Ledger.stack same⟩
  · rw [Run.bind_apply_of_ok _ run]
    have step : Step s.ledger reached.ledger := ledger ▸ .load s.ledger record bare alone
    have stack : reached.ledger.stack = s.ledger.stack := by rw [ledger]; rfl
    have slots : reached.ledger.context.slots = s.slots := by rw [ledger]; rfl
    have loose : reached.ledger.IsLoose ⟨s.recordCount⟩ := fun place there =>
      Nat.lt_irrefl _ (sound.filing.named place _ (slots ▸ there))
    have start : Exec { shelf := some ⟨s.recordCount⟩ } s.ledger true reached.ledger := by
      refine ⟨.single step, ⟨fun other _ free _ place => ?_, fun other made _ _ _ => ?_⟩, nofun,
        fun _ _ _ => ?_, fun _ other above below => ?_, fun _ => ?_⟩
      · rw [slots]
        exact free place
      · rw [ledger]
        refine (OrderedMap.get?_insert _ _ _ _).trans (if_neg ?_)
        rintro rfl
        exact Nat.lt_irrefl _ made
      · rw [ledger]
      · rw [ledger] at below
        exact absurd below (Nat.not_lt_of_le above)
      · rw [ledger]
    have inner := storeRecord lawful (step.sound sound) slot ⟨s.recordCount⟩ loose
      (by rw [show reached.recordCount = s.recordCount + 1 from
        congrArg (fun d : Ledger κ => d.context.recordCount) ledger]; exact Nat.lt_succ_self _)
    have whole := start.trans inner.exec
    refine map ⟨whole.hide_shelf fun other same made _ => ?_, inner.stack.trans stack⟩
    cases same
    exact Nat.lt_irrefl _ made

end Lawful

end ExtensionProxy
