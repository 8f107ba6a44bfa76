import ExtensionProxy.Proofs.Outcomes
import ExtensionProxy.Proofs.Runs

/-!
# Whether the stage of a record tells what it holds

A record keeps its stage beside its module and its instance, and the three are written one by one.  The
stage is right as long as every initialization and every cleanup comes to its end.  It stays behind when
cleaning up is refused or stopped, when a factory is stopped, and when an instance cannot be registered;
and cleaning up a record without an instance leaves the stage as it is.
-/

set_option autoImplicit false

namespace ExtensionProxy

variable {κ μ : Type}

/-! ## What a record goes through -/

/-- What the host does with a record, and what comes of it. -/
inductive Handling where
  | init (result : Except Stop (Except Cause Bool))
  | cleanup (result : Except Stop (Except Cause Unit))

/-- One initialization or cleanup, with the record before and after it. -/
structure Treatment where
  what : Handling
  before : Record
  after : Record

/-- What a record went through since it was loaded, the latest first, and what it is now.  Whoever
treats it has taken it out of its slot; between two treatments anything may happen that leaves it as it
is. -/
inductive Treated (site : Site κ) (foreign : (proxyInterface κ μ).Foreign) (id : RecordId) :
    List Treatment → Record → State κ μ → Prop
  | load {handle : ExtensionHandle} {path : String} {record : Record} {s reached : State κ μ}
      (start : Path Ledger.empty s.ledger)
      (ran : loadRecord site handle path s = (.ok (some id), reached))
      (now : reached.record? id = some record) : Treated site foreign id [] record reached
  | meanwhile {course : List Treatment} {record : Record} {s later : State κ μ}
      (before : Treated site foreign id course record s) (path : Path s.ledger later.ledger)
      (now : later.record? id = some record) : Treated site foreign id course record later
  | init {course : List Treatment} {record after : Record} {s reached : State κ μ} {levels : Nat}
      {result : Except Stop (Except Cause Bool)}
      (before : Treated site foreign id course record s) (loose : s.ledger.IsLoose id)
      (ran : initRecord site (Caller.noting ((proxyInterface κ μ).call (serve site) foreign levels))
        id record s = (result, reached))
      (now : reached.record? id = some after) :
      Treated site foreign id (⟨.init result, record, after⟩ :: course) after reached
  | cleanup {course : List Treatment} {record after : Record} {s reached : State κ μ} {levels : Nat}
      {result : Except Stop (Except Cause Unit)}
      (before : Treated site foreign id course record s) (loose : s.ledger.IsLoose id)
      (ran : cleanupRecord (Caller.noting ((proxyInterface κ μ).call (serve site) foreign levels))
        id record s = (result, reached))
      (now : reached.record? id = some after) :
      Treated site foreign id (⟨.cleanup result, record, after⟩ :: course) after reached

/-! ## What the stage says -/

/-- The stage of a record tells what it holds. -/
structure Record.Agrees (record : Record) : Prop where
  /-- It is initialized exactly if it holds a module and an instance. -/
  initialized : record.stage = .initialized ↔ record.isInitialized = true
  /-- A record that is probed or cleaned up holds neither. -/
  bare : record.stage = .probed ∨ record.stage = .cleanedUp →
    record.module = none ∧ record.target = none
  /-- No record stays loaded. -/
  passing : record.stage ≠ .loaded

/-- An instance of the record was registered. -/
def WasInitialized (course : List Treatment) : Prop :=
  ∃ treatment ∈ course, treatment.what = .init (.ok (.ok true))

/-- The stage is right from the beginning until now. -/
structure Accords (course : List Treatment) (now : Record) : Prop where
  /-- It always tells what the record holds. -/
  agree : ∀ record, record = now ∨ (∃ treatment ∈ course, record = treatment.before) →
    record.Agrees
  /-- Whenever a record that was initialized is cleaned up, it is cleaned up. -/
  cleaned : ∀ treatment past, treatment :: past <:+ course →
    treatment.what = .cleanup (.ok (.ok ())) → WasInitialized past →
    treatment.after.stage = .cleanedUp

/-- An initialization or a cleanup came to its end: it was not stopped, not refused, and no instance was
made in vain. -/
def Handling.IsSettled : Handling → Prop
  | .init (.ok (.ok _)) => True
  | .init (.ok (.error (.handleTaken _))) => True
  | .init _ => False
  | .cleanup (.ok (.ok ())) => True
  | .cleanup _ => False

/-- Every treatment came to its end, and no record was cleaned up after its factory had made an instance
and then declined to make another. -/
structure Unbroken (course : List Treatment) : Prop where
  settled : ∀ treatment ∈ course, treatment.what.IsSettled
  kept : ∀ treatment past, treatment :: past <:+ course →
    treatment.what = .cleanup (.ok (.ok ())) → WasInitialized past →
    treatment.before.stage ≠ .probed

/-! ## One treatment -/

namespace Record

/-- What becomes of a record that is cleaned up. -/
inductive Cleans (record : Record) : Except Stop (Except Cause Unit) → Record → Prop
  | bare (alone : record.target = none) : Cleans record (.ok (.ok ())) { record with module := none }
  | refused (owns : record.target ≠ none) (cause : Cause) :
      Cleans record (.ok (.error cause)) { record with target := none }
  | stopped (owns : record.target ≠ none) (why : Stop) :
      Cleans record (.error why) { record with target := none }
  | done (owns : record.target ≠ none) :
      Cleans record (.ok (.ok ()))
        { record with target := none, module := none, stage := .cleanedUp }

variable {record after : Record}

theorem Agrees.stage_of_owns (agrees : record.Agrees)
    (whole : record.target ≠ none → record.isInitialized = true) (owns : record.target ≠ none) :
    record.stage = .initialized :=
  agrees.initialized.mpr (whole owns)

/-- A record without an instance that tells what it holds holds no module. -/
theorem Agrees.module_of_alone (agrees : record.Agrees) (alone : record.target = none) :
    record.module = none := by
  have late : record.stage ≠ .initialized := fun there => by
    simpa [isInitialized, alone] using agrees.initialized.mp there
  refine (agrees.bare ?_).1
  cases stage : record.stage with
  | probed => exact .inl rfl
  | loaded => exact absurd stage agrees.passing
  | initialized => exact absurd stage late
  | cleanedUp => exact .inr rfl

/-- A right stage stays right if and only if initializing comes to its end. -/
theorem Agrees.init_iff {result : Except Stop (Except Cause Bool)} (agrees : record.Agrees)
    (comes : Initializes record result after) :
    after.Agrees ↔ (Handling.init result).IsSettled := by
  cases comes with
  | already | taken | unbound => exact iff_of_true agrees trivial
  | declined alone =>
    refine iff_of_true ⟨?_, fun _ => ⟨agrees.module_of_alone alone, alone⟩, by simp⟩ trivial
    simp [isInitialized, alone]
  | made target binding => exact iff_of_true ⟨by simp [isInitialized], by simp, by simp⟩ trivial
  | duplicate | stopped => exact iff_of_false (fun agrees => agrees.passing rfl) id

/-- A right stage stays right if and only if cleaning up comes to its end. -/
theorem Agrees.cleanup_iff {result : Except Stop (Except Cause Unit)} (agrees : record.Agrees)
    (whole : record.target ≠ none → record.isInitialized = true)
    (comes : record.Cleans result after) :
    after.Agrees ↔ (Handling.cleanup result).IsSettled := by
  cases comes with
  | bare alone =>
    have same : { record with module := none } = record := by
      rw [← agrees.module_of_alone alone]
    rw [same]
    exact iff_of_true agrees trivial
  | refused owns | stopped owns =>
    refine iff_of_false (fun late => ?_) id
    simpa [isInitialized] using late.initialized.mp (agrees.stage_of_owns whole owns)
  | done => exact iff_of_true ⟨by simp [isInitialized], fun _ => ⟨rfl, rfl⟩, by simp⟩ trivial

/-- A cleanup that comes to its end leaves the record cleaned up unless it was probed. -/
theorem Agrees.cleanedUp_iff (agrees : record.Agrees)
    (whole : record.target ≠ none → record.isInitialized = true)
    (comes : record.Cleans (.ok (.ok ())) after) :
    after.stage = .cleanedUp ↔ record.stage ≠ .probed := by
  cases comes with
  | bare alone =>
    have late : record.stage ≠ .initialized := fun there => by
      simpa [isInitialized, alone] using agrees.initialized.mp there
    have passing := agrees.passing
    cases stage : record.stage <;> simp_all
  | done owns => simp [agrees.stage_of_owns whole owns]

end Record

/-- What cleaning up does to the record. -/
theorem CleansUp.cleans {s reached : State κ μ} {id : RecordId} {record : Record}
    {result : Except Stop (Except Cause Unit)} (comes : CleansUp s id record result reached)
    (found : s.record? id = some record) :
    ∃ after, reached.record? id = some after ∧ record.Cleans result after := by
  have owned : ∀ {target}, record.target = some target → record.target ≠ none := by simp_all
  cases comes with
  | bare _ alone ledger =>
    have now := congrArg (fun c : Ledger κ => c.context.record? id) ledger
    exact ⟨_, now.trans (State.record?_modifyRecord found _), .bare alone⟩
  | refused target owns => exact ⟨_, State.record?_detach found, .refused (owned owns) _⟩
  | stopped why _ target owns path now => exact ⟨_, now, .stopped (owned owns) why⟩
  | done left _ target owns path now ledger =>
    have after := congrArg (fun c : Ledger κ => c.context.record? id) ledger
    exact ⟨_, after.trans (State.record?_modifyRecord now _), .done (owned owns)⟩

/-! ## All treatments -/

/-- A record that was just loaded holds nothing. -/
theorem loadRecord_ok {site : Site κ} {handle : ExtensionHandle} {path : String} {id : RecordId}
    {s reached : State κ μ} (ran : loadRecord site handle path s = (.ok (some id), reached)) :
    Step s.ledger reached.ledger ∧ ∃ record, reached.record? id = some record ∧
      record.stage = .probed ∧ record.module = none ∧ record.target = none := by
  simp only [loadRecord] at ran
  cases read : site.descriptor path with
  | error cause =>
    rw [read] at ran
    cases (Prod.mk.inj ran).1
  | ok descriptor =>
    cases place : descriptor.modulePath? site.settings.loader with
    | none =>
      simp only [read, place] at ran
      cases (Prod.mk.inj ran).1
    | some modulePath =>
      let record : Record := ⟨handle, descriptor, modulePath, .probed, none, none⟩
      simp only [read, place] at ran
      obtain ⟨same, rfl⟩ := Prod.mk.inj ran
      cases same
      exact ⟨.load s.ledger record rfl rfl, record,
        (OrderedMap.get?_insert _ _ _ _).trans (if_pos rfl), rfl, rfl, rfl⟩

namespace Treated

variable {site : Site κ} {foreign : (proxyInterface κ μ).Foreign} {id : RecordId}
  {course : List Treatment} {record : Record} {s : State κ μ}

theorem found (treated : Treated site foreign id course record s) : s.record? id = some record := by
  cases treated <;> assumption

theorem path (treated : Treated site foreign id course record s) : Path Ledger.empty s.ledger := by
  induction treated with
  | load start ran => exact start.tail (loadRecord_ok ran).1
  | meanwhile before path now ih => exact ih.trans path
  | @init course record after s reached levels result before loose ran now ih =>
    have lawful := Lawful.initRecord (call_lawful site foreign levels)
      (Path.sound ih Ledger.empty_sound) site id _ before.found loose
    rw [ran] at lawful
    exact ih.trans lawful.exec.path
  | @cleanup course record after s reached levels result before loose ran now ih =>
    have lawful := Lawful.cleanupRecord (call_lawful site foreign levels)
      (Path.sound ih Ledger.empty_sound) id _ before.found loose
    rw [ran] at lawful
    exact ih.trans lawful.exec.path

/-- A record that owns an instance is initialized. -/
theorem whole (treated : Treated site foreign id course record s) :
    record.target ≠ none → record.isInitialized = true := by
  intro owns
  refine Classical.byContradiction fun bare => owns ?_
  exact (Path.sound treated.path Ledger.empty_sound).holdings.alone_of_uninitialized treated.found bare

end Treated

theorem unbroken_nil : Unbroken [] :=
  ⟨fun _ there => absurd there List.not_mem_nil,
    fun _ _ there => absurd (List.suffix_nil.mp there) (List.cons_ne_nil _ _)⟩

theorem accords_cons {treatment : Treatment} {course : List Treatment} {now : Record}
    (after : treatment.after = now) :
    Accords (treatment :: course) now ↔ Accords course treatment.before ∧ now.Agrees ∧
      (treatment.what = .cleanup (.ok (.ok ())) → WasInitialized course → now.stage = .cleanedUp) := by
  subst after
  constructor
  · rintro ⟨agree, cleaned⟩
    refine ⟨⟨fun record old => agree record (.inr ?_), fun other past there =>
      cleaned other past (there.trans (List.suffix_cons _ _))⟩, agree _ (.inl rfl),
      cleaned treatment course (List.suffix_refl _)⟩
    rcases old with rfl | ⟨other, there, rfl⟩
    · exact ⟨treatment, List.mem_cons_self, rfl⟩
    · exact ⟨other, List.mem_cons_of_mem _ there, rfl⟩
  · rintro ⟨⟨agree, cleaned⟩, now, last⟩
    refine ⟨fun record old => ?_, fun other past there what was => ?_⟩
    · rcases old with rfl | ⟨other, there, rfl⟩
      · exact now
      · rcases List.mem_cons.mp there with rfl | there
        · exact agree _ (.inl rfl)
        · exact agree _ (.inr ⟨other, there, rfl⟩)
    · rcases List.suffix_cons_iff.mp there with same | there
      · cases same
        exact last what was
      · exact cleaned other past there what was

theorem unbroken_cons {treatment : Treatment} {course : List Treatment} :
    Unbroken (treatment :: course) ↔ Unbroken course ∧ treatment.what.IsSettled ∧
      (treatment.what = .cleanup (.ok (.ok ())) → WasInitialized course →
        treatment.before.stage ≠ .probed) := by
  constructor
  · rintro ⟨settled, kept⟩
    exact ⟨⟨fun other there => settled other (List.mem_cons_of_mem _ there), fun other past there =>
      kept other past (there.trans (List.suffix_cons _ _))⟩, settled _ List.mem_cons_self,
      kept treatment course (List.suffix_refl _)⟩
  · rintro ⟨⟨settled, kept⟩, now, last⟩
    refine ⟨fun other there => ?_, fun other past there what was => ?_⟩
    · rcases List.mem_cons.mp there with rfl | there
      · exact now
      · exact settled other there
    · rcases List.suffix_cons_iff.mp there with same | there
      · cases same
        exact last what was
      · exact kept other past there what was

/-- The stage of a record is right as long as its treatments come to their ends, and no longer.  It is
wrong as soon as an initialization is stopped or makes an instance in vain, or a cleanup is refused or
stopped; and a record that was initialized is not cleaned up by a cleanup that finds it probed. -/
theorem Treated.accords_iff {site : Site κ} {foreign : (proxyInterface κ μ).Foreign} {id : RecordId}
    {course : List Treatment} {record : Record} {s : State κ μ}
    (treated : Treated site foreign id course record s) :
    s.record? id = some record ∧ (Accords course record ↔ Unbroken course) := by
  refine ⟨treated.found, ?_⟩
  induction treated with
  | load start ran now =>
    obtain ⟨-, record, found, stage, module, target⟩ := loadRecord_ok ran
    cases now.symm.trans found
    refine iff_of_true ⟨fun other old => ?_, fun _ _ there =>
      absurd (List.suffix_nil.mp there) (List.cons_ne_nil _ _)⟩ unbroken_nil
    rcases old with rfl | ⟨_, there, -⟩
    · exact ⟨by simp [stage, Record.isInitialized, module], fun _ => ⟨module, target⟩, by simp [stage]⟩
    · cases there
  | meanwhile before path now ih => exact ih
  | @init course record after s reached levels result before loose ran now ih =>
    obtain ⟨result', reached', after', ran', now', comes⟩ := initRecord_cases site
      (call_lawful site foreign levels) (Path.sound before.path Ledger.empty_sound) before.found loose
    rw [ran] at ran'
    obtain ⟨rfl, rfl⟩ := Prod.mk.inj ran'
    cases now.symm.trans now'
    rw [accords_cons rfl, unbroken_cons, ih]
    refine and_congr_right fun unbroken => ?_
    have agrees : record.Agrees := (ih.mpr unbroken).agree record (.inl rfl)
    simp [agrees.init_iff comes]
  | @cleanup course record after s reached levels result before loose ran now ih =>
    have comes := cleanupRecord_cases (call_lawful site foreign levels)
      (Path.sound before.path Ledger.empty_sound) before.found loose
    rw [ran] at comes
    obtain ⟨after', now', cleans⟩ := comes.cleans before.found
    cases now.symm.trans now'
    rw [accords_cons rfl, unbroken_cons, ih]
    refine and_congr_right fun unbroken => ?_
    have agrees : record.Agrees := (ih.mpr unbroken).agree record (.inl rfl)
    rw [agrees.cleanup_iff before.whole cleans]
    refine and_congr_right fun settled => imp_congr_right fun what => imp_congr_right fun _ => ?_
    cases what
    exact agrees.cleanedUp_iff before.whole cleans

/-! ## A record that is cleaned up, and one that is cleaned up while it is in use -/

namespace Sample

/-- Foreign code that does nothing, called on a small stack. -/
def idle : Caller Unit Unit :=
  Caller.noting ((proxyInterface Unit Unit).call (serve (site ())) (foreign fun _ => .done ()) 8)

/-- Treats the first record as it is now. -/
def treat {α : Type} (work : Record → Run (State Unit Unit) α) : Run (State Unit Unit) α := fun s =>
  match s.record? ⟨0⟩ with
  | some record => work record s
  | none => Run.stop .tooDeep s

theorem treat_apply {α : Type} {work : Record → Run (State Unit Unit) α} {s : State Unit Unit}
    {record : Record} (found : s.record? ⟨0⟩ = some record) : treat work s = work record s := by
  simp [treat, found]

/-- Initializes the first record. -/
def setUp : Run (State Unit Unit) (Except Cause Bool) :=
  treat (initRecord (site ()) idle ⟨0⟩)

/-- Cleans the first record up. -/
def cleanUp : Run (State Unit Unit) (Except Cause Unit) := treat (cleanupRecord idle ⟨0⟩)

theorem cleanUp_apply {s : State Unit Unit} {record : Record} (found : s.record? ⟨0⟩ = some record) :
    cleanUp s = cleanupRecord idle ⟨0⟩ record s :=
  treat_apply found

/-- The value that a run came to. -/
theorem eq_of_toOption {ε α : Type} {result : Except ε α} {value : α}
    (h : result.toOption = some value) : result = .ok value := by
  cases result with
  | ok other => exact congrArg Except.ok (Option.some.inj h)
  | error why => cases h

/-- What a treatment came to. -/
def value? {α : Type} (result : Except Stop (Except Cause α)) : Option α :=
  result.toOption.bind Except.toOption

theorem eq_of_value? {α : Type} {result : Except Stop (Except Cause α)} {value : α}
    (h : value? result = some value) : result = .ok (.ok value) := by
  obtain ⟨inner, outer, same⟩ := Option.bind_eq_some_iff.mp h
  rw [eq_of_toOption outer, eq_of_toOption same]

/-- What a record went through that is treated in the small life. -/
abbrev TreatedHere (course : List Treatment) (record : Record) (s : State Unit Unit) : Prop :=
  Treated (site ()) (foreign fun _ => .done ()) ⟨0⟩ course record s

section

variable {course : List Treatment} {record after : Record} {s : State Unit Unit}

theorem loose_of_empty (empty : s.slots = .empty) (id : RecordId) : s.ledger.IsLoose id := by
  intro slot there
  change s.slots.get? slot = some id at there
  rw [empty] at there
  cases there

theorem TreatedHere.setUp {made : Bool} (treated : TreatedHere course record s)
    (empty : s.slots = .empty) (came : value? (setUp s).1 = some made)
    (now : (setUp s).2.record? ⟨0⟩ = some after) :
    TreatedHere (⟨.init (.ok (.ok made)), record, after⟩ :: course) after (setUp s).2 := by
  rw [← eq_of_value? came]
  exact .init treated (loose_of_empty empty _) (treat_apply treated.found).symm now

theorem TreatedHere.cleanUp (treated : TreatedHere course record s) (empty : s.slots = .empty)
    (now : (cleanUp s).2.record? ⟨0⟩ = some after) :
    TreatedHere (⟨.cleanup (cleanUp s).1, record, after⟩ :: course) after (cleanUp s).2 :=
  .cleanup treated (loose_of_empty empty _) (treat_apply treated.found).symm now

end

/-- A record is loaded. -/
def load : Except Stop (Option RecordId) × State Unit Unit :=
  loadRecord (site ()) ⟨1⟩ "e/a.plugin" (State.create (site ()) { configDir := "cfg" } ())

/-- It was loaded. -/
def bare : State Unit Unit := load.2

theorem bare_treated (foreign : (proxyInterface Unit Unit).Foreign) :
    ∃ record, Treated (site ()) foreign ⟨0⟩ [] record bare := by
  have came : load.1.toOption = some (some ⟨0⟩) := by decide +kernel
  obtain ⟨record, found⟩ := Option.isSome_iff_exists.mp
    (show (load.2.record? ⟨0⟩).isSome = true by decide +kernel)
  have start : Reached (site ()) foreign 8 false
      (State.create (site ()) { configDir := "cfg" } ()) := .create _ _
  exact ⟨record, .load start.ledger.path (Prod.ext (eq_of_toOption came) rfl) found⟩

theorem setUp_treated : ∃ record now, now.stage = .initialized ∧
    TreatedHere [⟨.init (.ok (.ok true)), record, now⟩] now (setUp bare).2 := by
  obtain ⟨record, treated⟩ : ∃ record, TreatedHere [] record bare := bare_treated _
  have facts : ((setUp bare).2.record? ⟨0⟩).map (fun record => record.stage) = some .initialized := by
    decide +kernel
  obtain ⟨now, found, stage⟩ := Option.map_eq_some_iff.mp facts
  exact ⟨record, now, stage, treated.setUp (by decide +kernel) (by decide +kernel) found⟩

/-- A record that is initialized and cleaned up has the right stage all the time. -/
theorem cleanUp_accords : ∃ record now after,
    TreatedHere [⟨.cleanup (.ok (.ok ())), now, after⟩, ⟨.init (.ok (.ok true)), record, now⟩] after
      (cleanUp (setUp bare).2).2 ∧
    Accords [⟨.cleanup (.ok (.ok ())), now, after⟩, ⟨.init (.ok (.ok true)), record, now⟩] after ∧
    after.stage = .cleanedUp := by
  obtain ⟨record, now, stage, treated⟩ := setUp_treated
  have facts : ((cleanUp (setUp bare).2).2.record? ⟨0⟩).map (fun record => record.stage)
      = some .cleanedUp := by decide +kernel
  obtain ⟨after, found, cleaned⟩ := Option.map_eq_some_iff.mp facts
  have came : (cleanUp (setUp bare).2).1 = .ok (.ok ()) := eq_of_value? (by decide +kernel)
  have whole := treated.cleanUp (by decide +kernel) found
  rw [came] at whole
  have unbroken : Unbroken
      [⟨.cleanup (.ok (.ok ())), now, after⟩, ⟨.init (.ok (.ok true)), record, now⟩] := by
    simp [unbroken_cons, unbroken_nil, Handling.IsSettled, stage]
  exact ⟨record, now, after, whole, (Treated.accords_iff whole).2.mpr unbroken, cleaned⟩

/-- Its instance begins to show help. -/
def enter (s : State Unit Unit) : State Unit Unit :=
  (s.modifyInstance ⟨0⟩ fun found => { found with running := true }).note
    (.began (.call (.help ⟨0⟩ ())))

/-- Its instance has shown help. -/
def leave (s : State Unit Unit) : State Unit Unit :=
  (leaveInstance idle ⟨0⟩ (s.note (.ended (.call (.help ⟨0⟩ ()))))).2

section

variable {course : List Treatment} {record after : Record} {s : State Unit Unit}

theorem enter_step {found : Instance Unit} (ready : s.ledger.IsReady ⟨0⟩ found) :
    Step s.ledger (enter s).ledger :=
  .enter s.ledger ⟨0⟩ found _ ready (.inl rfl)

theorem TreatedHere.enter (treated : TreatedHere course record s) (found : Instance Unit)
    (there : s.instances = [found]) (owned : found.owned = true) (idle : found.running = false) :
    TreatedHere course record (enter s) := by
  have ready : s.ledger.IsReady ⟨0⟩ found :=
    ⟨by simp [State.ledger, Context.instance?, there], owned, idle⟩
  exact treated.meanwhile (.single (enter_step ready)) treated.found

/-- While a record is cleaned up whatever was going on goes on. -/
theorem cleanUp_stack (treated : TreatedHere course record s) (empty : s.slots = .empty) :
    (cleanUp s).2.ledger.stack = s.ledger.stack := by
  have lawful := Lawful.cleanupRecord (call_lawful (site ()) (foreign fun _ => .done ()) 8)
    (Path.sound treated.path Ledger.empty_sound) ⟨0⟩ record treated.found (loose_of_empty empty _)
  rw [cleanUp_apply treated.found]
  exact lawful.stack

theorem TreatedHere.leave {rest : List (Activity Unit)} (treated : TreatedHere course record s)
    (top : s.ledger.stack = .call (.help ⟨0⟩ ()) :: rest)
    (same : (leave s).record? ⟨0⟩ = s.record? ⟨0⟩) : TreatedHere course record (leave s) := by
  have step := Step.leave s.ledger ⟨0⟩ (.help ⟨0⟩ ()) rest top rfl
  have inner := Lawful.leaveInstance (s := s.note (.ended (.call (.help ⟨0⟩ ()))))
    (call_lawful (site ()) (foreign fun _ => .done ()) 8) ⟨0⟩
    (step.sound (Path.sound treated.path Ledger.empty_sound))
  exact treated.meanwhile ((Relation.ReflTransGen.single step).trans inner.exec.path)
    (same.trans treated.found)

end

/-- A record is cleaned up while its instance is running, which is refused, and again after that, which
is not.  It holds nothing then and is still marked as initialized. -/
theorem cleanUp_not_accords : ∃ course record,
    TreatedHere course record (cleanUp (leave (cleanUp (enter (setUp bare).2)).2)).2 ∧
    (cleanUp (leave (cleanUp (enter (setUp bare).2)).2)).1 = .ok (.ok ()) ∧
    WasInitialized course ∧ record.stage = .initialized ∧ record.module = none ∧
    record.target = none ∧ ¬Accords course record := by
  obtain ⟨record, first, -, treated⟩ := setUp_treated
  have entered := treated.enter ⟨(), ⟨0⟩, true, false⟩ (by decide +kernel) rfl rfl
  obtain ⟨second, found⟩ := Option.isSome_iff_exists.mp
    (show ((cleanUp (enter (setUp bare).2)).2.record? ⟨0⟩).isSome = true by decide +kernel)
  have top := cleanUp_stack entered (by decide +kernel)
  have parted := entered.cleanUp (by decide +kernel) found
  have left := parted.leave top (by decide +kernel)
  have facts : ((cleanUp (leave (cleanUp (enter (setUp bare).2)).2)).2.record? ⟨0⟩).map
      (fun record => (record.stage, record.module, record.target))
      = some (.initialized, none, none) := by decide +kernel
  obtain ⟨last, found, fact⟩ := Option.map_eq_some_iff.mp facts
  obtain ⟨stage, fact⟩ := Prod.mk.inj fact
  obtain ⟨module, target⟩ := Prod.mk.inj fact
  refine ⟨_, last, left.cleanUp (by decide +kernel) found, eq_of_value? (by decide +kernel),
    ⟨⟨.init (.ok (.ok true)), record, first⟩, by simp, rfl⟩, stage, module, target,
    fun accords => ?_⟩
  have late := (accords.agree last (.inl rfl)).initialized.mp stage
  simp [Record.isInitialized, module] at late

end Sample

end ExtensionProxy
