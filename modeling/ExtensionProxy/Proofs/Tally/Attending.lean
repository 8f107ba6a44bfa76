import ExtensionProxy.Proofs.IdentityCache
import ExtensionProxy.Proofs.Tally.Calls

/-!
# What a tally attends to

Between two events the handlers of a tally stand on the registered wrappers, one set of three for each
notice that opened the document since it was last closed, and on no other wrapper that is still to
come.  Every event of the host keeps this: a character is counted once for each set, a saved document
gets one report for each set, and when a document is closed its count goes and its wrapper with it.
-/

set_option autoImplicit false

namespace ExtensionProxy

variable {κ μ : Type}

/-! ## What events say of a document -/

namespace HostEvent

/-- The document is created or opened. -/
def opens (doc : DocumentHandle) : HostEvent → Bool
  | .document .created other => other = doc
  | .document .opened other => other = doc
  | _ => false

/-- A character was typed into the document. -/
def types (doc : DocumentHandle) : HostEvent → Bool
  | .editor other note => other = doc && note.kind = some .charAdded
  | _ => false

def saves (doc : DocumentHandle) : HostEvent → Bool
  | .document .saved other => other = doc
  | _ => false

def closes (doc : DocumentHandle) : HostEvent → Bool
  | .document .closed other => other = doc
  | _ => false

theorem saves_iff {doc : DocumentHandle} {event : HostEvent} :
    event.saves doc = true ↔ event = .document .saved doc := by
  cases event with
  | document moment other => cases moment <;> simp [saves]
  | _ => simp [saves]

end HostEvent

/-- How a document stands with a tally. -/
structure Standing where
  /-- How many notices opened it since it was last closed. -/
  openings : Nat := 0
  /-- How many characters are counted. -/
  typed : Nat := 0
  deriving DecidableEq, Repr

namespace Standing

/-- A character is counted once for each notice that opened the document. -/
def after (doc : DocumentHandle) (standing : Standing) (event : HostEvent) : Standing :=
  if event.opens doc then { standing with openings := standing.openings + 1 }
  else if event.types doc then { standing with typed := standing.typed + standing.openings }
  else if event.closes doc then {}
  else standing

/-- An event says nothing of other documents. -/
theorem after_of_document_ne {event : HostEvent} {doc : DocumentHandle}
    (other : event.document? ≠ some doc) (standing : Standing) :
    standing.after doc event = standing := by
  cases event with
  | document moment about =>
    have different : about ≠ doc := fun same => other (congrArg some same)
    cases moment <;>
      simp [after, HostEvent.opens, HostEvent.types, HostEvent.closes, different]
  | editor about note =>
    have different : about ≠ doc := fun same => other (congrArg some same)
    simp [after, HostEvent.opens, HostEvent.types, HostEvent.closes, different]
  | _ => simp [after, HostEvent.opens, HostEvent.types, HostEvent.closes]

end Standing

/-- What a tally observes of a document, by topic. -/
def TallyCode.observer? (id : TallyId) (doc : DocumentHandle) : Topic → Option TallyCode
  | .editor _ .charAdded => some (.typed id doc)
  | .document _ .saved => some (.saved id doc)
  | .document _ .closed => some (.closed id doc)
  | _ => none

/-! ## Counting -/

namespace Tally

@[simp] theorem count_track (tally : Tally) (doc other : DocumentHandle) :
    (tally.track doc).count other = tally.count other := by
  simp only [count, track, OrderedMap.get?_alter]
  split
  · next same => rw [same]; simp
  · rfl

theorem count_type_iterate (tally : Tally) (doc other : DocumentHandle) (n : Nat) :
    ((fun tally => tally.type doc)^[n] tally).count other =
      tally.count other + if other = doc then n else 0 := by
  induction n generalizing tally with
  | zero => simp
  | succ n ih =>
    rw [Function.iterate_succ_apply, ih]
    simp only [count, type, OrderedMap.get?_alter]
    split
    · next same => rw [same]; simp; omega
    · rfl

theorem count_forget_iterate (tally : Tally) (doc other : DocumentHandle) (n : Nat) :
    ((fun tally => tally.forget doc)^[n + 1] tally).count other =
      if other = doc then 0 else tally.count other := by
  induction n generalizing tally with
  | zero =>
    simp only [Function.iterate_succ_apply, Function.iterate_zero, id_eq, count, forget,
      OrderedMap.get?_erase]
    split <;> rfl
  | succ n ih =>
    rw [Function.iterate_succ_apply, ih]
    simp only [count, forget, OrderedMap.get?_erase]
    split <;> rfl

end Tally

/-! ## The affairs between events -/

namespace Affairs

variable {a : Affairs κ}

theorem change_iterate (f : Tally → Tally) (n : Nat) :
    (fun a : Affairs κ => a.change f)^[n] a = a.change f^[n] := by
  induction n generalizing a with
  | zero => simp [change]
  | succ n ih =>
    rw [Function.iterate_succ_apply, ih]
    simp only [change, Option.map_map]
    rfl

def addReports (a : Affairs κ) (doc : DocumentHandle) (n : Nat) : Affairs κ :=
  { a with reports := fun other => a.reports other + if other = doc then n else 0 }

theorem saved_iterate (id : TallyId) (doc : DocumentHandle) (n : Nat) (kept : a.tally.isSome) :
    (fun a : Affairs κ => a.observed (.saved id doc))^[n] a = a.addReports doc n := by
  induction n generalizing a with
  | zero => simp [addReports]
  | succ n ih =>
    have still : (a.observed (.saved id doc)).tally.isSome := kept
    rw [Function.iterate_succ_apply, ih still]
    simp only [observed, addReports, kept, true_and]
    congr 1
    funext other
    split <;> omega

/-- A tally that is told of a document takes it up and connects a handler to each of three topics. -/
theorem noticed_eq {id : TallyId} {doc : DocumentHandle} {wrapper : DocumentId}
    (isDoc : a.wrappers[wrapper.index]? = some doc) (kept : a.tally.isSome) :
    a.noticed id (.documentOpened wrapper) =
      { a.change fun tally => tally.track doc with
        handlers := fun topic own => a.handlers topic own + if topic.document? = some wrapper ∧
          TallyCode.observer? id doc topic = some own then 1 else 0 } := by
  obtain ⟨tally, kept⟩ := Option.isSome_iff_exists.mp kept
  simp only [noticed, isDoc, kept, addHandler, change, Nat.add_assoc]
  congr 1
  funext topic own
  congr 1
  cases topic with
  | document other signal =>
    cases signal <;> simp [Topic.document?, TallyCode.observer?, eq_comm]
  | editor other kind => cases kind <;> simp [Topic.document?, TallyCode.observer?, eq_comm]
  | workspace other signal => simp [Topic.document?]

/-- Registers a document. -/
def enroll (a : Affairs κ) (doc : DocumentHandle) : Affairs κ :=
  match a.documents.get? doc with
  | some _ => a
  | none => { a with
      documents := a.documents.insert doc ⟨a.wrappers.length⟩
      wrappers := a.wrappers ++ [doc] }

def evict (a : Affairs κ) (doc : DocumentHandle) : Affairs κ :=
  { a with documents := a.documents.erase doc }

end Affairs

namespace TallyPart

/-- The affairs between events. -/
structure Attends (part : TallyPart κ μ) (id : TallyId) (standing : DocumentHandle → Standing)
    (a : Affairs κ) : Prop where
  registers : part.Registers id a
  idle : ∀ topic, a.marks topic = []
  counts : ∃ tally, a.tally = some tally ∧ ∀ doc, tally.count doc = (standing doc).typed
  untyped : ∀ doc, (standing doc).openings = 0 → (standing doc).typed = 0
  unopened : ∀ doc, a.documents.get? doc = none → (standing doc).openings = 0
  wrapped : ∀ doc wrapper, a.documents.get? doc = some wrapper →
    a.wrappers[wrapper.index]? = some doc
  /-- The handlers on the wrapper of a registered document. -/
  watched : ∀ doc wrapper, a.documents.get? doc = some wrapper →
    ∀ topic own, topic.document? = some wrapper → a.handlers topic own =
      if TallyCode.observer? id doc topic = some own then (standing doc).openings else 0
  /-- On wrappers that are still to come there are none. -/
  fresh : ∀ topic wrapper, topic.document? = some wrapper → a.wrappers.length ≤ wrapper.index →
    ∀ own, a.handlers topic own = 0
  plain : ∀ topic, topic.document? = none → ∀ own, a.handlers topic own = 0

namespace Attends

variable {part : TallyPart κ μ} {id : TallyId} {standing : DocumentHandle → Standing} {a : Affairs κ}

/-- A wrapper is that of one document only. -/
theorem eq_of_wrapper (attends : part.Attends id standing a) {doc other : DocumentHandle}
    {wrapper : DocumentId} (there : a.documents.get? doc = some wrapper)
    (there' : a.documents.get? other = some wrapper) : other = doc :=
  Option.some.inj ((attends.wrapped other wrapper there').symm.trans
    (attends.wrapped doc wrapper there))

theorem enroll (attends : part.Attends id standing a) (doc : DocumentHandle) :
    part.Attends id standing (a.enroll doc) := by
  unfold Affairs.enroll
  split
  · exact attends
  · next new =>
    exact {
      registers := attends.registers
      idle := attends.idle
      counts := attends.counts
      untyped := attends.untyped
      unopened := by
        intro other absent
        rw [IdentityCache.get?_insert] at absent
        split at absent
        · cases absent
        · exact attends.unopened other absent
      wrapped := by
        intro other wrapper there
        rw [IdentityCache.get?_insert] at there
        split at there
        · next same =>
          cases there
          simp [same]
        · have old := attends.wrapped other wrapper there
          rw [List.getElem?_append_left (List.getElem?_eq_some_iff.mp old).1, old]
      watched := by
        intro other wrapper there topic own of
        rw [IdentityCache.get?_insert] at there
        split at there
        · next same =>
          cases there
          have none := attends.fresh topic _ of (Nat.le_refl _) own
          simp only [none, same, attends.unopened doc new, ite_self]
        · exact attends.watched other wrapper there topic own of
      fresh := by
        intro topic wrapper of late
        rw [List.length_append] at late
        exact attends.fresh topic wrapper of (Nat.le_of_succ_le late)
      plain := attends.plain }

theorem addReports (attends : part.Attends id standing a) (doc : DocumentHandle) (n : Nat) :
    part.Attends id standing (a.addReports doc n) :=
  ⟨attends.registers, attends.idle, attends.counts, attends.untyped, attends.unopened,
    attends.wrapped, attends.watched, attends.fresh, attends.plain⟩

/-- Every set of handlers counts the character. -/
theorem type (attends : part.Attends id standing a) (doc : DocumentHandle) :
    part.Attends id (Function.update standing doc
        ⟨(standing doc).openings, (standing doc).typed + (standing doc).openings⟩)
      (a.change (fun tally => tally.type doc)^[(standing doc).openings]) := by
  have openings : ∀ other, (Function.update standing doc
      ⟨(standing doc).openings, (standing doc).typed + (standing doc).openings⟩ other).openings =
        (standing other).openings := by
    intro other
    by_cases same : other = doc
    · rw [same, Function.update_self]
    · rw [Function.update_of_ne same]
  exact {
    registers := attends.registers
    idle := attends.idle
    counts := by
      obtain ⟨tally, kept, counts⟩ := attends.counts
      refine ⟨(fun tally : Tally => tally.type doc)^[(standing doc).openings] tally,
        congrArg (Option.map _) kept, fun other => ?_⟩
      rw [Tally.count_type_iterate, counts, Function.update_apply]
      split
      · next same => rw [same]
      · rfl
    untyped := by
      intro other none
      rw [openings] at none
      have untyped := attends.untyped other none
      rw [Function.update_apply]
      split
      · next same =>
        rw [same] at none untyped
        simp only [none, untyped]
      · exact untyped
    unopened := fun other absent => (openings other).trans (attends.unopened other absent)
    wrapped := attends.wrapped
    watched := by
      intro other wrapper there topic own of
      rw [openings]
      exact attends.watched other wrapper there topic own of
    fresh := attends.fresh
    plain := attends.plain }

/-- A closed document is forgotten, together with what was connected to its wrapper. -/
theorem close (attends : part.Attends id standing a) (doc : DocumentHandle) :
    part.Attends id (Function.update standing doc {})
      ((a.change (fun tally => tally.forget doc)^[(standing doc).openings]).evict doc) where
  registers := attends.registers
  idle := attends.idle
  counts := by
    obtain ⟨tally, kept, counts⟩ := attends.counts
    refine ⟨(fun tally : Tally => tally.forget doc)^[(standing doc).openings] tally,
      congrArg (Option.map _) kept, fun other => ?_⟩
    by_cases same : other = doc
    · rw [same, Function.update_self]
      cases opened : (standing doc).openings with
      | zero => exact (counts doc).trans (attends.untyped doc opened)
      | succ n => exact (Tally.count_forget_iterate tally doc doc n).trans (if_pos rfl)
    · rw [Function.update_of_ne same, ← counts other]
      cases (standing doc).openings with
      | zero => rfl
      | succ n => exact (Tally.count_forget_iterate tally doc other n).trans (if_neg same)
  untyped := by
    intro other none
    rw [Function.update_apply] at none ⊢
    split
    · rfl
    · next different =>
      rw [if_neg different] at none
      exact attends.untyped other none
  unopened := by
    intro other absent
    have absent : (a.documents.erase doc).get? other = none := absent
    rw [IdentityCache.get?_erase] at absent
    rw [Function.update_apply]
    split
    · rfl
    · next different =>
      rw [if_neg different] at absent
      exact attends.unopened other absent
  wrapped := by
    intro other wrapper there
    have there : (a.documents.erase doc).get? other = some wrapper := there
    rw [IdentityCache.get?_erase] at there
    split at there
    · cases there
    · exact attends.wrapped other wrapper there
  watched := by
    intro other wrapper there topic own of
    have there : (a.documents.erase doc).get? other = some wrapper := there
    rw [IdentityCache.get?_erase] at there
    split at there
    · cases there
    · next different =>
      rw [Function.update_of_ne different]
      exact attends.watched other wrapper there topic own of
  fresh := attends.fresh
  plain := attends.plain

/-- A notice that opens the document connects one more set of handlers. -/
theorem reopen (attends : part.Attends id standing a) {doc : DocumentHandle} {wrapper : DocumentId}
    (there : a.documents.get? doc = some wrapper) :
    part.Attends id (Function.update standing doc
        ⟨(standing doc).openings + 1, (standing doc).typed⟩)
      (a.noticed id (.documentOpened wrapper)) := by
  obtain ⟨tally, kept, counts⟩ := attends.counts
  have isDoc := attends.wrapped doc wrapper there
  rw [Affairs.noticed_eq isDoc (kept ▸ rfl)]
  exact {
    registers := attends.registers
    idle := attends.idle
    counts := by
      refine ⟨tally.track doc, congrArg (Option.map _) kept, fun other => ?_⟩
      rw [Tally.count_track, counts, Function.update_apply]
      split
      · next same => rw [same]
      · rfl
    untyped := by
      intro other none
      rw [Function.update_apply] at none ⊢
      split at none
      · cases none
      · next different =>
        rw [if_neg different]
        exact attends.untyped other none
    unopened := by
      intro other absent
      have different : other ≠ doc := by
        rintro rfl
        exact absurd (there.symm.trans absent) nofun
      rw [Function.update_of_ne different]
      exact attends.unopened other absent
    wrapped := attends.wrapped
    watched := by
      intro other wrapper' there' topic own of
      have watched := attends.watched other wrapper' there' topic own of
      show a.handlers topic own + _ = _
      rw [watched, of, Function.update_apply]
      by_cases same : other = doc
      · rw [same] at there' ⊢
        have same := Option.some.inj (there'.symm.trans there)
        simp only [same, true_and, if_true]
        split <;> rfl
      · have different : some wrapper' ≠ some wrapper := by
          rintro ⟨⟩
          exact same (attends.eq_of_wrapper there there')
        simp only [different, same, false_and, if_false, Nat.add_zero]
    fresh := by
      intro topic wrapper' of late own
      have different : topic.document? ≠ some wrapper := by
        rw [of]
        rintro equal
        cases equal
        exact Nat.not_le_of_lt (List.getElem?_eq_some_iff.mp isDoc).1 late
      show a.handlers topic own + _ = _
      rw [attends.fresh topic wrapper' of late own]
      simp only [different, false_and, if_false, Nat.add_zero]
    plain := by
      intro topic none own
      show a.handlers topic own + _ = _
      rw [attends.plain topic none own, none]
      rfl }

end Attends

end TallyPart

end ExtensionProxy
