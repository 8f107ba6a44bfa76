import ExtensionProxy.IdentityCache.System
import ExtensionProxy.Proofs.Course
import ExtensionProxy.Proofs.Foreign
import ExtensionProxy.Proofs.IdentityCache

/-!
# Caches under re-entrant makers

The code that builds a wrapper may use the cache and may be stopped.  The two collections of the cache
stay in step all the same, and its entries are those of a list to which a registration appends and
from which nothing but taking out removes.

A course lists what has happened to a cache, the first moment first.  `Follows` says what a moment
does, `Passage` how the building of a wrapper encloses what its maker does.
-/

set_option autoImplicit false

namespace ExtensionProxy

/-! ## Courses -/

variable {κ μ : Type}

/-- What has happened, in order. -/
abbrev CacheCourse := List CacheMoment

namespace CacheCourse

/-- The cache at the end, given the cache at the start. -/
def nowFrom (before : IdentityCache .document Nat) : CacheCourse → IdentityCache .document Nat
  | [] => before
  | moment :: rest => nowFrom moment.cache rest

/-- The entries that are there and were not there before. -/
def appeared (before after : List (DocumentHandle × Nat)) : List (DocumentHandle × Nat) :=
  after.filter fun entry => entry ∉ before

/-- The entries that came to be registered, in order, given those at the start. -/
def registeredFrom (before : List (DocumentHandle × Nat)) :
    CacheCourse → List (DocumentHandle × Nat)
  | [] => []
  | moment :: rest =>
    appeared before moment.cache.entries ++ registeredFrom moment.cache.entries rest

/-- The cache at the end of what happened to a new cache. -/
def now (course : CacheCourse) : IdentityCache .document Nat := nowFrom .empty course

/-- The entries that came to be registered in a new cache, in order. -/
def registered (course : CacheCourse) : List (DocumentHandle × Nat) := registeredFrom [] course

variable (past : CacheCourse) (moment : CacheMoment)

@[simp] theorem now_concat : now (past ++ [moment]) = moment.cache := by
  rw [now]
  generalize IdentityCache.empty = before
  induction past generalizing before with
  | nil => rfl
  | cons first rest ih => exact ih first.cache

theorem registered_concat : registered (past ++ [moment])
    = registered past ++ appeared (now past).entries moment.cache.entries := by
  have step : ∀ before : IdentityCache .document Nat,
      registeredFrom before.entries (past ++ [moment]) = registeredFrom before.entries past ++
        appeared (nowFrom before past).entries moment.cache.entries := by
    induction past with
    | nil =>
      intro before
      simp only [List.nil_append, registeredFrom, nowFrom, List.append_nil]
    | cons first rest ih =>
      intro before
      simp only [List.cons_append, registeredFrom, nowFrom, ih, List.append_assoc]
  exact step .empty

/-! ## What a moment does -/

/-- A new wrapper is registered for a handle that had none. -/
structure Registers (past : CacheCourse) (handle : DocumentHandle) (serial : Nat)
    (next : IdentityCache .document Nat) : Prop where
  absent : (now past).get? handle = none
  fresh : ∀ entry ∈ registered past, entry.2 < serial
  next : next = (now past).insert handle serial

theorem Registers.there {past : CacheCourse} {handle : DocumentHandle} {serial : Nat}
    {next : IdentityCache .document Nat} (registers : Registers past handle serial next) :
    next.get? handle = some serial := by
  rw [registers.next, IdentityCache.get?_insert, if_pos rfl]

/-- What a moment does to the cache. -/
def Follows (past : CacheCourse) (moment : CacheMoment) : Prop :=
  match moment.what with
  | .makes handle => (now past).get? handle = none ∧ moment.cache = now past
  | .made _ _ => moment.cache = now past
  | .added handle (.ok serial) =>
    ((now past).get? handle = some serial ∧ moment.cache = now past) ∨
      Registers past handle serial moment.cache
  | .added _ (.error _) => moment.cache = now past
  | .inserted handle (some serial) => Registers past handle serial moment.cache
  | .inserted handle none => (now past).contains handle = true ∧ moment.cache = now past
  | .took handle serial =>
    serial = (now past).get? handle ∧ moment.cache = (now past).erase handle
  | .cleared evicted => evicted = (now past).entries ∧ moment.cache = .empty

/-- A moment leaves the cache as it was, registers one wrapper, takes one out, or takes all out. -/
theorem Follows.cases {past : CacheCourse} {moment : CacheMoment} (follows : Follows past moment) :
    moment.cache = now past ∨ (∃ handle serial, Registers past handle serial moment.cache) ∨
      (∃ handle serial, moment.what = .took handle serial ∧
        moment.cache = (now past).erase handle) ∨
      ∃ evicted, moment.what = .cleared evicted ∧ moment.cache = .empty := by
  obtain ⟨what, cache⟩ := moment
  cases what with
  | makes handle => exact .inl follows.2
  | made handle result => exact .inl follows
  | added handle result =>
    cases result with
    | error why => exact .inl follows
    | ok serial => exact follows.imp And.right fun registers => .inl ⟨handle, serial, registers⟩
  | inserted handle result =>
    cases result with
    | none => exact .inl follows.2
    | some serial => exact .inr (.inl ⟨handle, serial, follows⟩)
  | took handle serial => exact .inr (.inr (.inl ⟨handle, serial, rfl, follows.2⟩))
  | cleared evicted => exact .inr (.inr (.inr ⟨evicted, rfl, follows.2⟩))

/-- Every moment follows from what was before it. -/
abbrev Lawful (course : CacheCourse) : Prop := Course.Lawful Follows course

namespace Lawful

variable {course past : CacheCourse} {moment : CacheMoment}

theorem inStep (lawful : Lawful course) : (now course).InStep := by
  induction lawful with
  | nil => exact .empty
  | @concat past moment lawful follows ih =>
    rw [now_concat]
    rcases follows.cases with same | ⟨handle, serial, registers⟩ | ⟨handle, _, -, took⟩ |
      ⟨_, -, cleared⟩
    · exact same ▸ ih
    · exact registers.next ▸ ih.insert registers.absent serial
    · exact took ▸ ih.erase handle
    · exact cleared ▸ .empty

/-- Only a registration adds to the entries that came to be registered. -/
theorem registered_cases (lawful : Lawful past) (follows : Follows past moment) :
    (registered (past ++ [moment]) = registered past ∧
      moment.cache.entries.Sublist (now past).entries) ∨
    ∃ handle serial, Registers past handle serial moment.cache ∧
      registered (past ++ [moment]) = registered past ++ [(handle, serial)] ∧
      moment.cache.entries = (now past).entries ++ [(handle, serial)] := by
  have none_new : moment.cache.entries.Sublist (now past).entries →
      registered (past ++ [moment]) = registered past := by
    intro fewer
    rw [registered_concat, appeared, List.filter_eq_nil_iff.mpr, List.append_nil]
    intro entry there
    simpa using fewer.subset there
  rcases follows.cases with same | ⟨handle, serial, registers⟩ | ⟨handle, _, -, took⟩ |
    ⟨_, -, cleared⟩
  · have fewer : moment.cache.entries.Sublist (now past).entries := same ▸ .refl _
    exact .inl ⟨none_new fewer, fewer⟩
  · have entries : moment.cache.entries = (now past).entries ++ [(handle, serial)] :=
      registers.next ▸ IdentityCache.entries_insert lawful.inStep registers.absent serial
    have new : (handle, serial) ∉ (now past).entries := by
      rw [lawful.inStep.mem_entries, registers.absent]
      exact (Option.some_ne_none serial).symm
    refine .inr ⟨handle, serial, registers, ?_, entries⟩
    rw [registered_concat, entries, appeared, List.filter_append, List.filter_eq_nil_iff.mpr]
    · simp [new]
    · intro entry there
      simpa using there
  · have fewer : moment.cache.entries.Sublist (now past).entries := by
      rw [took, IdentityCache.entries_erase lawful.inStep]
      exact List.filter_sublist
    exact .inl ⟨none_new fewer, fewer⟩
  · have fewer : moment.cache.entries.Sublist (now past).entries := by
      rw [cleared]
      exact List.nil_sublist _
    exact .inl ⟨none_new fewer, fewer⟩

/-- Wrappers are built one after the other. -/
theorem numbered (lawful : Lawful course) :
    (registered course).Pairwise fun first second => first.2 < second.2 := by
  induction lawful with
  | nil => exact .nil
  | concat lawful follows ih =>
    rcases registered_cases lawful follows with ⟨same, -⟩ | ⟨handle, serial, registers, more, -⟩
    · exact same ▸ ih
    · rw [more]
      refine List.pairwise_append.mpr ⟨ih, List.pairwise_singleton _ _, fun entry there new same => ?_⟩
      rw [List.mem_singleton.mp same]
      exact registers.fresh entry there

/-- The entries are listed in the order in which they came to be registered. -/
theorem in_order (lawful : Lawful course) : (now course).entries.Sublist (registered course) := by
  induction lawful with
  | nil => exact .slnil
  | concat lawful follows ih =>
    rw [now_concat]
    rcases registered_cases lawful follows with ⟨same, fewer⟩ | ⟨handle, serial, -, more, entries⟩
    · exact same ▸ fewer.trans ih
    · rw [more, entries]
      exact ih.append_right _

/-- The entry of a handle is its latest registration. -/
theorem latest (lawful : Lawful course) {entry : DocumentHandle × Nat}
    (there : entry ∈ (now course).entries) :
    ∃ before later, registered course = before ++ entry :: later ∧
      ∀ other ∈ later, other.1 ≠ entry.1 := by
  induction lawful with
  | nil => cases there
  | @concat past moment lawful follows ih =>
    rw [now_concat] at there
    rcases registered_cases lawful follows with ⟨same, fewer⟩ | ⟨handle, serial, registers, more, entries⟩
    · exact same ▸ ih (fewer.subset there)
    · rw [more]
      rw [entries, List.mem_append, List.mem_singleton] at there
      rcases there with old | rfl
      · obtain ⟨before, later, split, apart⟩ := ih old
        refine ⟨before, later ++ [(handle, serial)], by rw [split]; simp, fun other later => ?_⟩
        rcases List.mem_append.mp later with late | last
        · exact apart other late
        · rw [List.mem_singleton.mp last]
          rintro rfl
          have inStep := Lawful.inStep lawful
          have absent := inStep.get?_eq_none.mp registers.absent
          rw [← inStep.keys_entries] at absent
          exact absent (List.mem_map_of_mem old)
      · exact ⟨registered past, [], rfl, nofun⟩

/-- A handle keeps its wrapper unless it is taken out. -/
theorem keeps_wrapper (lawful : Lawful past) (follows : Follows past moment)
    {handle : DocumentHandle} {serial : Nat} (there : (now past).get? handle = some serial) :
    moment.cache.get? handle = some serial ∨ moment.what = .took handle (some serial) ∨
      ∃ evicted, moment.what = .cleared evicted ∧ (handle, serial) ∈ evicted := by
  rcases follows.cases with same | ⟨other, new, registers⟩ | ⟨other, taken, what, took⟩ |
    ⟨evicted, what, -⟩
  · exact .inl (same ▸ there)
  · rw [registers.next, IdentityCache.get?_insert, if_neg]
    · exact .inl there
    · rintro rfl
      exact Option.some_ne_none serial (there.symm.trans registers.absent)
  · by_cases same : handle = other
    · subst same
      simp only [Follows, what] at follows
      exact .inr (.inl (by rw [what, follows.1, there]))
    · rw [took, IdentityCache.get?_erase, if_neg same]
      exact .inl there
  · simp only [Follows, what] at follows
    exact .inr (.inr ⟨evicted, what, follows.1 ▸ (lawful.inStep.mem_entries handle serial).mpr there⟩)

/-- What a request for a wrapper gave out is what is registered then. -/
theorem added (follows : Follows past moment) {handle : DocumentHandle} {serial : Nat}
    (what : moment.what = .added handle (.ok serial)) : moment.cache.get? handle = some serial := by
  simp only [Follows, what] at follows
  rcases follows with ⟨there, same⟩ | registers
  · exact same ▸ there
  · exact registers.there

end Lawful

/-! ## Makers -/

/-- What foreign code does between its start and its end: one request after the other.  Where a maker
is run, there is foreign code again between its start and its end. -/
inductive Passage : CacheCourse → Prop
  | nil : Passage []
  /-- A wrapper is given out at once: it was there, or none but its handle is needed to build it. -/
  | added (handle : DocumentHandle) (serial : Nat) (now : IdentityCache .document Nat)
      {rest : CacheCourse} (more : Passage rest) : Passage (⟨.added handle (.ok serial), now⟩ :: rest)
  /-- A wrapper is given out after a maker has run. -/
  | made (handle : DocumentHandle) (serial : Nat) (begun returned now : IdentityCache .document Nat)
      {inner rest : CacheCourse} (within : Passage inner) (more : Passage rest) :
      Passage (⟨.makes handle, begun⟩ :: (inner ++ ⟨.made handle (.ok ()), returned⟩ ::
        ⟨.added handle (.ok serial), now⟩ :: rest))
  /-- No wrapper is given out because its maker was stopped. -/
  | stopped (handle : DocumentHandle) (why : Stop) (begun returned now : IdentityCache .document Nat)
      {inner rest : CacheCourse} (within : Passage inner) (more : Passage rest) :
      Passage (⟨.makes handle, begun⟩ :: (inner ++ ⟨.made handle (.error why), returned⟩ ::
        ⟨.added handle (.error why), now⟩ :: rest))
  | inserted (handle : DocumentHandle) (serial : Option Nat) (now : IdentityCache .document Nat)
      {rest : CacheCourse} (more : Passage rest) : Passage (⟨.inserted handle serial, now⟩ :: rest)
  | took (handle : DocumentHandle) (serial : Option Nat) (now : IdentityCache .document Nat)
      {rest : CacheCourse} (more : Passage rest) : Passage (⟨.took handle serial, now⟩ :: rest)
  | cleared (evicted : List (DocumentHandle × Nat)) (now : IdentityCache .document Nat)
      {rest : CacheCourse} (more : Passage rest) : Passage (⟨.cleared evicted, now⟩ :: rest)

theorem Passage.append {first second : CacheCourse} (one : Passage first) (two : Passage second) :
    Passage (first ++ second) := by
  induction one with
  | nil => exact two
  | added handle serial now more ih => exact .added handle serial now ih
  | made handle serial begun returned now within more _ ih =>
    simpa using Passage.made handle serial begun returned now within ih
  | stopped handle why begun returned now within more _ ih =>
    simpa using Passage.stopped handle why begun returned now within ih
  | inserted handle serial now more ih => exact .inserted handle serial now ih
  | took handle serial now more ih => exact .took handle serial now ih
  | cleared evicted now more ih => exact .cleared evicted now ih

end CacheCourse

/-! ## How foreign code changes the cache -/

namespace CacheWorld

open CacheCourse

theorem course_note (what : CacheHappening) (world : CacheWorld μ) :
    (world.note what).course = world.course ++ [⟨what, world.cache⟩] := by
  simp [note, course]

/-- The record tells what the cache is, and every wrapper that was registered was built. -/
structure Sound (world : CacheWorld μ) : Prop where
  lawful : Lawful world.course
  current : now world.course = world.cache
  built : ∀ entry ∈ registered world.course, entry.2 ≤ world.built

/-- A change of the cache that is put on record at once. -/
theorem Sound.note {world : CacheWorld μ} (sound : world.Sound) {what : CacheHappening}
    {cache : IdentityCache .document Nat} {built : Nat} (follows : Follows world.course ⟨what, cache⟩)
    (grows : world.built ≤ built)
    (new : ∀ handle serial, cache.get? handle = some serial → world.cache.get? handle = none →
      serial ≤ built) :
    (({ world with cache := cache, built := built } : CacheWorld μ).note what).Sound := by
  have course := course_note what ({ world with cache := cache, built := built } : CacheWorld μ)
  change _ = world.course ++ [⟨what, cache⟩] at course
  refine ⟨course ▸ .concat sound.lawful follows, by rw [course]; exact now_concat _ _,
    fun entry there => ?_⟩
  have old : entry ∈ registered world.course → entry.2 ≤ built := fun there =>
    Nat.le_trans (sound.built entry there) grows
  rw [course] at there
  rcases CacheCourse.Lawful.registered_cases sound.lawful follows with
    ⟨same, -⟩ | ⟨handle, serial, registers, more, -⟩
  · exact old (same ▸ there)
  · rw [more] at there
    rcases List.mem_append.mp there with before | last
    · exact old before
    · rw [List.mem_singleton.mp last]
      exact new handle serial registers.there (sound.current ▸ registers.absent)

/-- Something that leaves the cache alone is put on record. -/
theorem Sound.note_same {world : CacheWorld μ} (sound : world.Sound) {what : CacheHappening}
    {built : Nat} (grows : world.built ≤ built)
    (follows : Follows world.course ⟨what, world.cache⟩) :
    (({ world with built := built } : CacheWorld μ).note what).Sound := by
  exact sound.note follows grows fun handle serial there absent =>
    absurd (there.symm.trans absent) (Option.some_ne_none serial)

/-- A registration is put on record. -/
theorem Sound.note_registered {world : CacheWorld μ} (sound : world.Sound) {what : CacheHappening}
    {handle : DocumentHandle} (absent : world.cache.get? handle = none)
    (follows : Registers world.course handle (world.built + 1)
      (world.cache.insert handle (world.built + 1)) →
      Follows world.course ⟨what, world.cache.insert handle (world.built + 1)⟩) :
    (({ world with cache := world.cache.insert handle (world.built + 1), built := world.built + 1 } :
      CacheWorld μ).note what).Sound := by
  have registers : Registers world.course handle (world.built + 1)
      (world.cache.insert handle (world.built + 1)) :=
    ⟨sound.current.symm ▸ absent, fun entry old => Nat.lt_succ_of_le (sound.built entry old),
      by rw [sound.current]⟩
  refine sound.note (follows registers) (Nat.le_succ _) fun other serial there before => ?_
  rw [IdentityCache.get?_insert, before] at there
  split at there
  · exact Nat.le_of_eq (Option.some.inj there).symm
  · exact absurd there.symm (Option.some_ne_none serial)

/-- What foreign code does to a world: the record goes on to tell what the cache is, and what happened
was lawfully nested. -/
structure Conduct (world next : CacheWorld μ) : Prop where
  sound : next.Sound
  passage : ∃ new, next.course = world.course ++ new ∧ Passage new

/-- Given that the record told what the cache was. -/
def Keeps (world next : CacheWorld μ) : Prop := world.Sound → Conduct world next

theorem Keeps.refl (world : CacheWorld μ) : Keeps world world := fun sound =>
  ⟨sound, [], (List.append_nil _).symm, .nil⟩

theorem Keeps.trans {world middle next : CacheWorld μ} (first : Keeps world middle)
    (second : Keeps middle next) : Keeps world next := by
  intro sound
  obtain ⟨sound, one, course, passage⟩ := first sound
  obtain ⟨sound, two, course', passage'⟩ := second sound
  refine ⟨sound, one ++ two, ?_, passage.append passage'⟩
  rw [course', course, List.append_assoc]

/-! ## Requests for a wrapper -/

/-- Registers the wrapper that was built for a handle unless another is registered by now, and gives
out the one that is. -/
def settle (handle : DocumentHandle) (serial : Nat) : Run (CacheWorld μ) Nat := fun world =>
  (.ok (world.cache.register handle serial).1,
    { world with cache := (world.cache.register handle serial).2 })

/-- A wrapper that is registered is given out; nothing is built. -/
theorem addWith_of_registered {world : CacheWorld μ} {handle : DocumentHandle} {serial : Nat}
    (make : Run (CacheWorld μ) Nat) (there : world.cache.get? handle = some serial) :
    IdentityCache.addWith cacheLens handle make world = (.ok serial, world) := by
  simp [IdentityCache.addWith, cacheLens, there]

/-- Where none is registered one is built, and then it is seen who registered first. -/
theorem addWith_of_absent {world : CacheWorld μ} {handle : DocumentHandle}
    (make : Run (CacheWorld μ) Nat) (absent : world.cache.get? handle = none) :
    IdentityCache.addWith cacheLens handle make world = (make >>= settle handle) world := by
  simp only [IdentityCache.addWith, cacheLens, Run.gets_bind_apply, absent]
  rfl

/-- What is given out of a wrapper just built can be put on record. -/
theorem settled_sound {world : CacheWorld μ} (sound : world.Sound) (handle : DocumentHandle) :
    ∃ serial next, (build >>= settle handle) world = (.ok serial, next) ∧
      (next.note (.added handle (.ok serial))).Sound ∧ next.course = world.course := by
  have unfolded : (build >>= settle handle) world
      = settle handle (world.built + 1) { world with built := world.built + 1 } := rfl
  rw [unfolded]
  cases there : world.cache.get? handle with
  | some serial =>
    refine ⟨serial, { world with built := world.built + 1 }, ?_, ?_, rfl⟩
    · simp [settle, IdentityCache.register, there]
    · exact sound.note_same (Nat.le_succ _) (.inl ⟨sound.current.symm ▸ there, sound.current.symm⟩)
  | none =>
    let serial := world.built + 1
    refine ⟨serial, { world with cache := world.cache.insert handle serial, built := serial }, ?_,
      sound.note_registered there .inr, rfl⟩
    simp [settle, IdentityCache.register, there, serial]

/-- What is registered is given out, and nothing happens but that. -/
theorem given_keeps {world : CacheWorld μ} (sound : world.Sound) {handle : DocumentHandle}
    {serial : Nat} (make : Run (CacheWorld μ) Nat) (there : world.cache.get? handle = some serial) :
    Conduct world ((IdentityCache.addWith cacheLens handle make world).2.note
      (.added handle (IdentityCache.addWith cacheLens handle make world).1)) := by
  have follows : Follows world.course ⟨.added handle (.ok serial), world.cache⟩ :=
    .inl ⟨sound.current.symm ▸ there, sound.current.symm⟩
  rw [addWith_of_registered make there]
  exact ⟨sound.note_same (Nat.le_refl _) follows, _, course_note _ _, .added _ _ _ .nil⟩

theorem add_keeps (handle : DocumentHandle) (call : (cacheInterface κ μ).Caller)
    (world : CacheWorld μ) : Keeps world (cacheService κ μ call (.add handle) world).2 := by
  intro sound
  change Conduct world ((IdentityCache.addWith cacheLens handle build world).2.note
    (.added handle (IdentityCache.addWith cacheLens handle build world).1))
  cases there : world.cache.get? handle with
  | some serial => exact given_keeps sound build there
  | none =>
    obtain ⟨serial, next, run, settled, same⟩ := settled_sound sound handle
    rw [addWith_of_absent build there, run]
    exact ⟨settled, _, (course_note _ _).trans (congrArg (· ++ _) same), .added _ _ _ .nil⟩

/-- A maker may do with the cache what it likes; its wrapper is settled in the cache that it leaves. -/
theorem addWith_keeps {call : (cacheInterface κ μ).Caller}
    (lawful : ∀ maker world, Keeps world (call maker world).2) (handle : DocumentHandle) (maker : κ)
    (world : CacheWorld μ) :
    Keeps world (cacheService κ μ call (.addWith handle maker) world).2 := by
  intro sound
  let made := IdentityCache.addWith cacheLens handle (buildWith call handle maker) world
  change Conduct world (made.2.note (.added handle made.1))
  cases there : world.cache.get? handle with
  | some serial => exact given_keeps sound _ there
  | none =>
    let begun := world.note (.makes handle)
    have first : begun.course = world.course ++ [⟨.makes handle, world.cache⟩] := course_note _ _
    have start : begun.Sound :=
      sound.note_same (Nat.le_refl _) ⟨sound.current.symm ▸ there, sound.current.symm⟩
    obtain ⟨after, inner, course, within⟩ := lawful maker begun start
    cases run : call maker begun with
    | mk result returned =>
      rw [run] at after course
      have returned_sound : (returned.note (.made handle result)).Sound :=
        after.note_same (Nat.le_refl _) after.current.symm
      have second := course_note (.made handle result) returned
      have noted : Run.concluding (call maker) (fun result => note (.made handle result)) begun
          = (result, returned.note (.made handle result)) := by
        rw [Run.concluding_apply, run]
      have unfolded : made = (Run.concluding (call maker) (fun result => note (.made handle result))
          >>= fun _ => build >>= settle handle) begun :=
        (addWith_of_absent _ there).trans (Run.bind_bind_apply _ _ _ begun)
      rw [unfolded]
      cases result with
      | error why =>
        rw [Run.bind_apply_of_error _ noted]
        refine ⟨returned_sound.note_same (Nat.le_refl _) returned_sound.current.symm, _, ?_,
          .stopped handle why world.cache returned.cache returned.cache within .nil⟩
        rw [course_note, second, course, first]
        simp [note]
      | ok value =>
        obtain ⟨serial, next, run, settled, same⟩ := settled_sound returned_sound handle
        rw [Run.bind_apply_of_ok _ noted, run]
        refine ⟨settled, _, ?_, .made handle serial world.cache returned.cache next.cache within .nil⟩
        rw [course_note, same, second, course, first]
        simp

/-- Foreign code that calls foreign code lawfully requests lawfully. -/
theorem cacheService_keeps {call : (cacheInterface κ μ).Caller}
    (lawful : ∀ maker world, Keeps world (call maker world).2) (request : CacheRequest κ μ)
    (world : CacheWorld μ) : Keeps world (cacheService κ μ call request world).2 := by
  cases request with
  | add handle => exact add_keeps handle call world
  | addWith handle maker => exact addWith_keeps lawful handle maker world
  | remember change =>
    intro sound
    exact ⟨⟨sound.lawful, sound.current, sound.built⟩, [], (List.append_nil _).symm, .nil⟩
  | insert handle =>
    intro sound
    let serial := world.built + 1
    have built : build world = (.ok serial, { world with built := serial }) := rfl
    by_cases taken : world.cache.contains handle = true
    · have inserted : IdentityCache.insertNew world.cache handle serial = none := if_pos taken
      have run : cacheService κ μ call (.insert handle) world = (.ok none,
          ({ world with built := serial } : CacheWorld μ).note (.inserted handle none)) := by
        rw [cacheService, Run.bind_apply_of_ok _ built, Run.get_bind_apply, inserted]
        rfl
      rw [run]
      exact ⟨sound.note_same (Nat.le_succ _) ⟨sound.current.symm ▸ taken, sound.current.symm⟩, _,
        course_note _ _, .inserted _ _ _ .nil⟩
    · have absent : world.cache.get? handle = none := Option.not_isSome_iff_eq_none.mp taken
      have inserted : IdentityCache.insertNew world.cache handle serial
          = some (world.cache.insert handle serial) := if_neg taken
      have run : cacheService κ μ call (.insert handle) world = (.ok (some serial),
          ({ world with cache := world.cache.insert handle serial, built := serial } :
            CacheWorld μ).note (.inserted handle (some serial))) := by
        rw [cacheService, Run.bind_apply_of_ok _ built, Run.get_bind_apply, inserted]
        rfl
      rw [run]
      exact ⟨sound.note_registered absent id, _, course_note _ _, .inserted _ _ _ .nil⟩
  | take handle =>
    intro sound
    have follows : Follows world.course
        ⟨.took handle (world.cache.get? handle), world.cache.erase handle⟩ :=
      sound.current.symm ▸ ⟨rfl, rfl⟩
    refine ⟨sound.note follows (Nat.le_refl world.built) fun other serial there absent => ?_, _,
      course_note _ _, .took _ _ _ .nil⟩
    change (world.cache.erase handle).get? other = some serial at there
    rw [IdentityCache.get?_erase, absent, ite_self] at there
    exact absurd there.symm (Option.some_ne_none serial)
  | clear =>
    intro sound
    have follows : Follows world.course ⟨.cleared world.cache.entries, .empty⟩ :=
      ⟨sound.current.symm ▸ rfl, rfl⟩
    exact ⟨sound.note follows (Nat.le_refl world.built) nofun, _, course_note _ _, .cleared _ _ .nil⟩

/-! ## Every life of a cache -/

/-- What is true of a cache, whatever its makers do. -/
structure Orderly (world : CacheWorld μ) : Prop where
  /-- The record tells what the cache is. -/
  current : now world.course = world.cache
  /-- At every point the two collections are in step, so everything that the cache tells agrees. -/
  agrees : ∀ past, past <+: world.course → (now past).Agrees
  /-- Wrappers are registered one after the other, none of them twice. -/
  numbered : (registered world.course).Pairwise fun first second => first.2 < second.2
  /-- At every point the entries are listed in the order of their registration, -/
  in_order : ∀ past, past <+: world.course → (now past).entries.Sublist (registered past)
  /-- and the entry of a handle is its latest one. -/
  latest : ∀ past, past <+: world.course → ∀ entry ∈ (now past).entries, ∃ before later,
    registered past = before ++ entry :: later ∧ ∀ other ∈ later, other.1 ≠ entry.1
  /-- What a request for a wrapper gives out is what is looked up right afterwards. -/
  added : ∀ past handle serial cache,
    past ++ [⟨.added handle (.ok serial), cache⟩] <+: world.course → cache.get? handle = some serial
  /-- A registered handle keeps its wrapper until it is taken out, alone or with all others. -/
  keeps : ∀ past moment, past ++ [moment] <+: world.course → ∀ handle serial,
    (now past).get? handle = some serial →
      moment.cache.get? handle = some serial ∨ moment.what = .took handle (some serial) ∨
        ∃ evicted, moment.what = .cleared evicted ∧ (handle, serial) ∈ evicted
  /-- A registration that is refused changes nothing, -/
  refused : ∀ past handle cache, past ++ [⟨.inserted handle none, cache⟩] <+: world.course →
    (now past).contains handle = true ∧ cache = now past
  /-- nor does a maker that is stopped, beyond what happened between its start and its end. -/
  makers : (∀ past handle result cache, past ++ [⟨.made handle result, cache⟩] <+: world.course →
      cache = now past) ∧
    (∀ past handle why cache, past ++ [⟨.added handle (.error why), cache⟩] <+: world.course →
      cache = now past) ∧ Passage world.course

/-- Whatever programs a host runs on a new cache and whatever the makers do, to any depth: the cache is
an ordered map whose wrappers keep their identity. -/
theorem live_cache_orderly (foreign : (cacheInterface κ μ).Foreign) (levels : Nat)
    (programs : List (Program (cacheInterface κ μ) Unit)) (memory : μ) :
    ((cacheInterface κ μ).live (cacheService κ μ) foreign levels programs
      { cache := .empty, built := 0, memory := memory }).Orderly := by
  have sound : ({ cache := .empty, built := 0, memory := memory } : CacheWorld μ).Sound :=
    ⟨.nil, rfl, nofun⟩
  obtain ⟨⟨lawful, current, -⟩, new, course, passage⟩ :=
    (cacheInterface κ μ).live_keeps Keeps.refl Keeps.trans (fun _ => cacheService_keeps) foreign
      levels programs _ sound
  obtain rfl : _ = new := course
  have was : ∀ {past}, past <+: _ → CacheCourse.Lawful past := lawful.of_prefix
  refine ⟨current, fun past earlier => (CacheCourse.Lawful.inStep (was earlier)).agrees,
    CacheCourse.Lawful.numbered lawful, fun past earlier => CacheCourse.Lawful.in_order (was earlier),
    fun past earlier entry => CacheCourse.Lawful.latest (was earlier),
    fun past handle serial cache here => CacheCourse.Lawful.added (lawful.follows here) rfl,
    fun past moment here handle serial => ?_, fun past handle cache here => lawful.follows here,
    fun past handle result cache here => lawful.follows here,
    fun past handle why cache here => lawful.follows here, passage⟩
  exact CacheCourse.Lawful.keeps_wrapper (was ((List.prefix_append past [moment]).trans here))
    (lawful.follows here)

end CacheWorld

end ExtensionProxy
