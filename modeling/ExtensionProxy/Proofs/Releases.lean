import ExtensionProxy.Proofs.Attempts
import ExtensionProxy.Proofs.Stages

/-!
# Which handlers a cleanup leaves

Cleaning a record up drops the handlers of its handle from the signals of the registered documents and
of the open workspace, once, before the instance is destroyed.  A handler is left if the wrapper it is
connected to is no longer registered, if the record had no instance to be released, or if the instance
connects it while it is being destroyed; and in no other case.
-/

set_option autoImplicit false

namespace ExtensionProxy

variable {κ μ : Type} {s reached : State κ μ} {id : RecordId} {record : Record}

/-- No handler of an owner is connected to a topic. -/
def State.IsClear (s : State κ μ) (topic : Topic) (owner : ExtensionHandle) : Prop :=
  ∀ slot ∈ (s.observers.signal topic).slots, slot.owner ≠ some owner

/-- Releasing the handlers of a record got at all of them on a topic. -/
structure Releases (s reached : State κ μ) (record : Record) (topic : Topic) : Prop where
  /-- None was connected meanwhile and is there still. -/
  quiet : ∀ slot ∈ (reached.observers.signal topic).slots, slot.owner = some record.handle →
    slot.id < s.ledger.nextHandler topic
  /-- Each that was there before was on a wrapper that is registered, the record having an instance to
  be released, or somebody else disconnected it. -/
  reached : ∀ slot ∈ (s.observers.signal topic).slots, slot.owner = some record.handle →
    record.target ≠ none ∧ s.isReachable topic = true ∨
      slot ∉ (reached.observers.signal topic).slots

/-- A handler that is connected after a cleanup was connected before, and was not to be released, or it
came meanwhile. -/
theorem CleansUp.connected (cleans : CleansUp s id record (.ok (.ok ())) reached) {topic : Topic}
    {slot : Slot κ} (now : slot ∈ (reached.observers.signal topic).slots)
    (owned : slot.owner = some record.handle) :
    slot ∈ (s.observers.signal topic).slots ∧ (record.target = none ∨ s.isReachable topic = false) ∨
      s.ledger.nextHandler topic ≤ slot.id := by
  cases cleans with
  | bare _ alone ledger =>
    have same : reached.observers = s.observers :=
      congrArg (fun c : Ledger κ => c.context.observers) ledger
    exact .inl ⟨same ▸ now, .inl alone⟩
  | done left _ target owns path found ledger =>
    have same : reached.observers = left.observers :=
      congrArg (fun c : Ledger κ => c.context.observers) ledger
    have dropped : ((s.detach id record).ledger.letGo target).context.observers
        = s.observers.dropOwner s.isReachable record.handle := rfl
    have old := Path.connected path (same ▸ now)
    rw [dropped, Ledger.nextHandler, dropped, Observers.signal_dropOwner] at old
    cases meant : s.isReachable topic with
    | false =>
      rw [meant] at old
      exact old.imp_left fun there => ⟨there, .inr rfl⟩
    | true =>
      rw [meant] at old
      refine old.imp_left fun there => ?_
      have other := (List.mem_filter.mp there).2
      simp [owned] at other

/-- Cleaning a record up leaves no handler of its handle on a topic if and only if releasing them got at
all of them.  It does not get at a wrapper that is no longer registered. -/
theorem cleanupRecord_clears_iff {site : Site κ} {foreign : (proxyInterface κ μ).Foreign}
    {levels : Nat} (path : Path Ledger.empty s.ledger) (found : s.record? id = some record)
    (loose : s.ledger.IsLoose id)
    (ran : cleanupRecord (Caller.noting ((proxyInterface κ μ).call (serve site) foreign levels)) id
      record s = (.ok (.ok ()), reached)) (topic : Topic) :
    reached.IsClear topic record.handle ↔ Releases s reached record topic := by
  have cleans := cleanupRecord_cases (call_lawful site foreign levels)
    (Path.sound path Ledger.empty_sound) found loose
  rw [ran] at cleans
  constructor
  · intro clear
    exact ⟨fun slot there owned => absurd owned (clear slot there),
      fun slot _ owned => .inr fun there => clear slot there owned⟩
  · intro releases slot there owned
    rcases cleans.connected there owned with ⟨before, apart⟩ | new
    · rcases releases.reached slot before owned with ⟨owns, meant⟩ | gone
      · rcases apart with alone | unmeant
        · exact owns alone
        · rw [meant] at unmeant
          cases unmeant
      · exact gone there
    · exact Nat.not_lt_of_le new (releases.quiet slot there owned)

/-! ## A document that is open, and one that was closed before -/

namespace Sample

/-- A record is initialized and connects a handler to a document; then something else is done. -/
def connecting (last : Program (proxyInterface Unit Unit) Unit) : State Unit Unit :=
  after () (fun _ => .done ()) do
    let _ ← ask (.load "a" ⟨1⟩ "e/a.plugin")
    let _ ← ask (.init "a")
    let doc ← ask (.addDocument ⟨7⟩)
    let _ ← ask (.connect (.document doc .saved) (some ⟨1⟩) ())
    last

/-- The record is taken out of its slot. -/
def cleanable (last : Program (proxyInterface Unit Unit) Unit) : State Unit Unit :=
  takeOut (connecting last) "a"

theorem cleanable_path (last : Program (proxyInterface Unit Unit) Unit) :
    Path Ledger.empty (cleanable last).ledger :=
  takeOut_path (reached () (fun _ => .done ()) _).ledger.path "a"

theorem cleanUp_ok {s : State Unit Unit} {record : Record} (found : s.record? ⟨0⟩ = some record)
    (came : value? (cleanUp s).1 = some ()) :
    cleanupRecord idle ⟨0⟩ record s = (.ok (.ok ()), (cleanUp s).2) :=
  (cleanUp_apply found).symm.trans (Prod.ext (eq_of_value? came) rfl)

/-- The document is registered, and its handler is dropped. -/
theorem cleanable_clear : ∃ record, (cleanable (.done ())).record? ⟨0⟩ = some record ∧
    ((cleanable (.done ())).observers.signal (.document ⟨0⟩ .saved)).slots
      = [⟨1, some record.handle, ()⟩] ∧
    cleanupRecord idle ⟨0⟩ record (cleanable (.done ()))
      = (.ok (.ok ()), (cleanUp (cleanable (.done ()))).2) ∧
    (cleanUp (cleanable (.done ()))).2.IsClear (.document ⟨0⟩ .saved) record.handle := by
  have facts : ((cleanable (.done ())).record? ⟨0⟩).map (fun record =>
      (record.handle, record.target)) = some (⟨1⟩, some ⟨0⟩) := by decide +kernel
  obtain ⟨record, found, fact⟩ := Option.map_eq_some_iff.mp facts
  obtain ⟨handle, owns⟩ := Prod.mk.inj fact
  have ran := cleanUp_ok found (by decide +kernel)
  have before : ((cleanable (.done ())).observers.signal (.document ⟨0⟩ .saved)).slots
      = [⟨1, some ⟨1⟩, ()⟩] := by decide +kernel
  have after : ((cleanUp (cleanable (.done ()))).2.observers.signal (.document ⟨0⟩ .saved)).slots
      = [] := by decide +kernel
  have releases : Releases (cleanable (.done ())) (cleanUp (cleanable (.done ()))).2 record
      (.document ⟨0⟩ .saved) := by
    refine ⟨fun slot there => ?_, fun slot _ _ => .inl ⟨by simp [owns], by decide +kernel⟩⟩
    rw [after] at there
    cases there
  exact ⟨record, found, handle ▸ before, ran, (cleanupRecord_clears_iff (cleanable_path _) found
    (loose_of_empty (by decide +kernel) _) ran _).mpr releases⟩

/-- The document was evicted. -/
def evict : Program (proxyInterface Unit Unit) Unit := do
  let _ ← ask (.removeDocument ⟨7⟩)

/-- Its handler stays connected, although the sub-extension is cleaned up. -/
theorem cleanable_not_clear : ∃ record, Path Ledger.empty (cleanable evict).ledger ∧
    (cleanable evict).record? ⟨0⟩ = some record ∧
    cleanupRecord idle ⟨0⟩ record (cleanable evict) = (.ok (.ok ()), (cleanUp (cleanable evict)).2) ∧
    ((cleanUp (cleanable evict)).2.observers.signal (.document ⟨0⟩ .saved)).slots
      = [⟨1, some record.handle, ()⟩] ∧
    ¬(cleanUp (cleanable evict)).2.IsClear (.document ⟨0⟩ .saved) record.handle := by
  have facts : ((cleanable evict).record? ⟨0⟩).map (fun record => record.handle) = some ⟨1⟩ := by
    decide +kernel
  obtain ⟨record, found, handle⟩ := Option.map_eq_some_iff.mp facts
  have left : ((cleanUp (cleanable evict)).2.observers.signal (.document ⟨0⟩ .saved)).slots
      = [⟨1, some record.handle, ()⟩] := by
    rw [handle]
    decide +kernel
  refine ⟨record, cleanable_path _, found, cleanUp_ok found (by decide +kernel), left,
    fun clear => clear ⟨1, some record.handle, ()⟩ ?_ rfl⟩
  rw [left]
  exact List.mem_singleton_self _

end Sample

end ExtensionProxy
