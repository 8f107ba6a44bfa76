import ExtensionProxy.Boundary.Entry
import ExtensionProxy.Proofs.Text

/-!
# The host's table of categories

The host tells how many categories there are and gives them one by one; the proxy stops asking when the
host has no more.  So a count that is too large does no harm to what is read: it is the first rows, as
many as were counted and are there.

But room is made for the count before the first row is asked for, and the count is not looked at for that.
Above a number of rows that no list can hold this is a panic, on every machine.  Below it there may be no
memory for them, which is for the machine to say: all that is said holds for every amount of memory that
a machine gives to one request.  Either way the process ends.
-/

set_option autoImplicit false

namespace ExtensionProxy.Boundary

/-! ## What rows say -/

/-- The bytes of a pointer up to the first zero. -/
structure Bytes.IsTerminated (bytes body : Bytes) : Prop where
  noZero : 0 ∉ body
  front : bytes = body ∨ ∃ rest, bytes = body ++ 0 :: rest

/-- What a pointer says: its bytes up to the zero are the text, and there is nothing to be read from the
null pointer or from bytes that are no text. -/
inductive Bytes.Says : Option Bytes → String → Prop
  | null : Says none ""
  | text {bytes body : Bytes} {text : String} (terminated : bytes.IsTerminated body)
      (same : text.toUTF8 = ⟨body.toArray⟩) : Says (some bytes) text
  | malformed {bytes body : Bytes} (terminated : bytes.IsTerminated body)
      (noText : ∀ text : String, text.toUTF8 ≠ ⟨body.toArray⟩) : Says (some bytes) ""

/-- The items of a text: what is between semicolons and not empty. -/
def HasItems (text : String) (items : List String) : Prop :=
  ∃ parts : List (List Char), parts ≠ [] ∧ [';'].intercalate parts = text.toList ∧
    (∀ part ∈ parts, ';' ∉ part) ∧ items = (parts.filter fun part => part ≠ []).map String.ofList

/-- What a row of the host says. -/
structure RawCategory.Says (raw : RawCategory) (row : CategoryRow) : Prop where
  handle : row.handle = raw.handle
  name : Bytes.Says raw.name row.name
  title : Bytes.Says raw.title row.title
  patterns : ∃ text, Bytes.Says raw.patterns text ∧ HasItems text row.patterns

theorem Bytes.isTerminated_terminated (bytes : Bytes) : bytes.IsTerminated bytes.terminated where
  noZero := by
    intro mem
    simpa using List.mem_takeWhile_imp mem
  front := by
    have whole := List.takeWhile_append_dropWhile (p := (· ≠ (0 : UInt8))) (l := bytes)
    cases rest : bytes.dropWhile (· ≠ (0 : UInt8)) with
    | nil =>
      rw [rest, List.append_nil] at whole
      exact .inl whole.symm
    | cons b rest' =>
      have stopped := List.head?_dropWhile_not (· ≠ (0 : UInt8)) bytes
      rw [rest] at stopped whole
      obtain rfl : b = 0 := by simpa using stopped
      exact .inr ⟨rest', whole.symm⟩

theorem fromUTF8?_eq_some_iff {bytes : ByteArray} {text : String} :
    String.fromUTF8? bytes = some text ↔ text.toUTF8 = bytes := by
  unfold String.fromUTF8?
  constructor
  · intro read
    split at read
    · cases read
      rfl
    · cases read
  · rintro rfl
    exact dif_pos text.isValidUTF8

/-- What is read is what the pointer says. -/
theorem Bytes.says_readOr (pointer : Option Bytes) : Bytes.Says pointer (Bytes.readOr pointer) := by
  cases pointer with
  | none => exact .null
  | some bytes =>
    have terminated := isTerminated_terminated bytes
    cases read : String.fromUTF8? ⟨bytes.terminated.toArray⟩ with
    | some text =>
      have same : Bytes.readOr (some bytes) = text := by simp [readOr, read?, read]
      exact same ▸ .text terminated (fromUTF8?_eq_some_iff.mp read)
    | none =>
      have same : Bytes.readOr (some bytes) = "" := by simp [readOr, read?, read]
      refine same ▸ .malformed terminated fun text whole => ?_
      rw [fromUTF8?_eq_some_iff.mpr whole] at read
      cases read

theorem hasItems_splitItems (text : String) : HasItems text (splitItems ';' text) := by
  refine ⟨splitEvery ';' text.toList, ?_, ?_, fun part => notMem_of_mem_splitEvery, ?_⟩
  · rw [splitEvery_eq_splitOn, List.splitOn_eq_splitOnP]
    exact List.splitOnP_ne_nil _ _
  · rw [splitEvery_eq_splitOn, List.intercalate_splitOn]
  · have same : (fun part : List Char => !part.isEmpty) = fun part => decide (part ≠ []) := by
      funext part
      cases part <;> rfl
    rw [splitItems, same]

theorem RawCategory.says_read (raw : RawCategory) : raw.Says raw.read where
  handle := rfl
  name := Bytes.says_readOr raw.name
  title := Bytes.says_readOr raw.title
  patterns := ⟨_, Bytes.says_readOr raw.patterns, hasItems_splitItems _⟩

/-! ## What is read of the table -/

namespace HostTable

/-- There is room for a number of rows: a list can hold so many, and the machine gives the memory. -/
structure HasRoom (memory count : Nat) : Prop where
  le_mostRows : count ≤ mostRows
  given : count * rowSize ≤ memory

/-- The categories are read, and they are what the rows say. -/
def Gives (memory : Nat) (table : HostTable) (rows : List RawCategory) : Prop :=
  ∃ read, List.Forall₂ RawCategory.Says rows read ∧
    ∀ {σ : Type} (s : σ), ((table.categories memory).read : Run σ (List CategoryRow)) s = (.ok read, s)

/-- No categories are read, and whoever asks for them is stopped. -/
def Stops (memory : Nat) (table : HostTable) (why : Stop) : Prop :=
  ∀ {σ : Type} (s : σ), ((table.categories memory).read : Run σ (List CategoryRow)) s = (.error why, s)

theorem forall₂_says_read (rows : List RawCategory) :
    List.Forall₂ RawCategory.Says rows (rows.map RawCategory.read) := by
  induction rows with
  | nil => exact .nil
  | cons raw rows ih => exact .cons raw.says_read ih

section

variable {memory : Nat} {table : HostTable} {count : Nat} {rows : List RawCategory}

/-- How a table is read depends on the count and the memory alone. -/
theorem categories_of_count (memory : Nat) (counted : table.categoryCount = some count)
    (given : table.categoryAt = some rows) :
    HasRoom memory count ∧ table.categories memory = .rows ((rows.take count).map RawCategory.read) ∨
      ¬ HasRoom memory count ∧ mostRows < count ∧ table.categories memory = .tooLong ∨
      ¬ HasRoom memory count ∧ count ≤ mostRows ∧ table.categories memory = .tooLarge := by
  simp only [categories, counted, given]
  by_cases long : mostRows < count
  · exact .inr (.inl ⟨fun room => Nat.not_le.mpr long room.le_mostRows, long, if_pos long⟩)
  · rw [if_neg long]
    by_cases large : memory < count * rowSize
    · exact .inr (.inr ⟨fun room => Nat.not_le.mpr large room.given, Nat.not_lt.mp long, if_pos large⟩)
    · exact .inl ⟨⟨Nat.not_lt.mp long, Nat.not_lt.mp large⟩, if_neg large⟩

end

end HostTable

/-! ## Reloading -/

section

variable {κ μ : Type} {s : State κ μ}

theorem reloadCategories_of_rows {rows : List CategoryRow} (table : s.host.categories = .rows rows) :
    ∃ next, reloadCategories s = (.ok (), next) ∧ next.categories = s.categories.reload rows := by
  unfold reloadCategories
  rw [Run.get_bind_apply, table]
  exact ⟨_, rfl, rfl⟩

/-- The state in which it is looked up what to do about reloaded categories. -/
def reloading (s : State κ μ) : State κ μ :=
  ({ s with dispatches := s.dispatches + 1 }.note (.dispatched s.dispatches .categoriesReloaded)).tell
    ⟨.debug, "Dispatching host notification", [("event", HostEvent.categoriesReloaded.name)]⟩

/-- A table that can be read is what the categories are rebuilt from. -/
theorem dispatch_of_rows {rows : List CategoryRow} (call : Caller κ μ)
    (table : s.host.categories = .rows rows) :
    ∃ next, dispatch call .categoriesReloaded s = (.ok { resolved := true }, next) ∧
      next.categories = s.categories.reload rows := by
  obtain ⟨next, reloaded, categories⟩ := reloadCategories_of_rows (s := reloading s) table
  have routed : routeEvent call .categoriesReloaded s.dispatches (reloading s) =
      (.ok { resolved := true }, next) := Run.bind_apply_of_ok _ reloaded
  exact ⟨next.note (.settled s.dispatches { resolved := true }), Run.bind_apply_of_ok _ routed,
    categories⟩

/-- A table that cannot be read stops the dispatch. -/
theorem dispatch_of_stop {why : Stop} (call : Caller κ μ)
    (stops : (s.host.categories.read : Run (State κ μ) (List CategoryRow)) = Run.stop why) :
    dispatch call .categoriesReloaded s = (.error why, reloading s) := by
  have reloaded : reloadCategories (reloading s) = (.error why, reloading s) := by
    rw [reloadCategories, Run.get_bind_apply]
    exact Run.bind_apply_of_error _ (congrFun stops (reloading s))
  have routed : routeEvent call .categoriesReloaded s.dispatches (reloading s) =
      (.error why, reloading s) := Run.bind_apply_of_error _ reloaded
  change (routeEvent call .categoriesReloaded s.dispatches >>= _) (reloading s) = _
  exact Run.bind_apply_of_error _ routed

end

/-! ## Under an entry point -/

section

variable {σ α : Type} {run : Run σ (Except Fault α)} {s reached : σ}

theorem guard_of_ok {value : α} (entry : String) (ran : run s = (.ok (.ok value), reached)) :
    guard entry run s = (.ok (.ok value), reached) := by
  have contained : contain run s = (.ok (.ok value), reached) := by simp [contain, ran]
  exact Run.bind_apply_of_ok _ contained

theorem guard_of_panic {message : String} (entry : String)
    (ran : run s = (.error (.panic (some message)), reached)) :
    guard entry run s = (.ok (.error ((Fatal.panic message).event entry)), reached) := by
  have contained : contain run s = (.ok (.error (.panic message)), reached) := by
    simp [contain, ran, Fatal.ofStop]
  exact Run.bind_apply_of_ok _ contained

theorem guard_of_outOfMemory (entry : String) (ran : run s = (.error .outOfMemory, reached)) :
    guard entry run s = (.error .outOfMemory, reached) := by
  have contained : contain run s = (.error .outOfMemory, reached) := by simp [contain, ran]
  exact Run.bind_apply_of_error _ contained

end

namespace HostRun

variable {run : HostRun} {site : Site Code} {raw : RawEvent} {next : World}

theorem enter_dispatch_of_ok {value : Returned} (proxy : run.proxy = some site)
    (ran : dispatchRaw (run.means site) (some raw) run.world = (.ok (.ok value), next)) :
    run.enter true (.dispatch (some raw)) run.world = (.ok (.ok (value, run.proxy)), next) := by
  simp only [enter, proxyGiven, proxy]
  exact Run.bind_apply_of_ok _ ran

theorem enter_dispatch_of_error {why : Stop} (proxy : run.proxy = some site)
    (ran : dispatchRaw (run.means site) (some raw) run.world = (.error why, next)) :
    run.enter true (.dispatch (some raw)) run.world = (.error why, next) := by
  simp only [enter, proxyGiven, proxy]
  exact Run.bind_apply_of_error _ ran

/-- What an entry point does under its guard. -/
def faulting (run : HostRun) (proxyPassed : Bool) (entry : Entry) :
    Run World (Except Fault (Returned × Option (Site Code))) := do
  let result ← run.enter proxyPassed entry
  pure (result.mapError Cause.fault)

/-- A dispatch that comes to its end is returned from. -/
theorem call_dispatch_of_ok {value : Returned} (proxy : run.proxy = some site)
    (ran : dispatchRaw (run.means site) (some raw) run.world = (.ok (.ok value), next)) :
    run.call true (.dispatch (some raw)) = (.ok value, { run with world := next }) := by
  have faulting : run.faulting true (.dispatch (some raw)) run.world =
      (.ok (.ok (value, run.proxy)), next) := Run.bind_apply_of_ok _ (enter_dispatch_of_ok proxy ran)
  have guarded := guard_of_ok (Entry.dispatch (some raw)).name faulting
  unfold HostRun.faulting at guarded
  simp only [call, guarded]

/-- A panic under a dispatch is told before the process ends. -/
theorem call_dispatch_of_panic {message : String} (proxy : run.proxy = some site)
    (ran : dispatchRaw (run.means site) (some raw) run.world =
      (.error (.panic (some message)), next)) :
    run.call true (.dispatch (some raw)) =
      (.error (some ((Fatal.panic message).event "modproxy_proxy_dispatch")),
        { run with world := next }) := by
  have faulting : run.faulting true (.dispatch (some raw)) run.world =
      (.error (.panic (some message)), next) :=
    Run.bind_apply_of_error _ (enter_dispatch_of_error proxy ran)
  have guarded := guard_of_panic (Entry.dispatch (some raw)).name faulting
  unfold HostRun.faulting at guarded
  simp only [call, guarded]
  rfl

/-- A dispatch that lacks memory ends the process. -/
theorem call_dispatch_of_outOfMemory (proxy : run.proxy = some site)
    (ran : dispatchRaw (run.means site) (some raw) run.world = (.error .outOfMemory, next)) :
    run.call true (.dispatch (some raw)) = (.error none, { run with world := next }) := by
  have faulting : run.faulting true (.dispatch (some raw)) run.world = (.error .outOfMemory, next) :=
    Run.bind_apply_of_error _ (enter_dispatch_of_error proxy ran)
  have guarded := guard_of_outOfMemory (Entry.dispatch (some raw)).name faulting
  unfold HostRun.faulting at guarded
  simp only [call, guarded]

/-- The number 14 is that of reloaded categories. -/
theorem read_categoriesReloaded (kind : raw.kind = 14) :
    raw.read = (some .categoriesReloaded, []) := by
  rw [RawEvent.read, kind]
  rfl

theorem dispatchRaw_of_ok {call : Caller Code Memory} {world : World} {outcome : DispatchOutcome}
    (kind : raw.kind = 14)
    (ran : dispatch call .categoriesReloaded world = (.ok outcome, next)) :
    dispatchRaw call (some raw) world = (.ok (.ok (.truth outcome.handled)), next) := by
  simp only [dispatchRaw, read_categoriesReloaded kind]
  exact Run.bind_apply_of_ok _ ran

theorem dispatchRaw_of_error {call : Caller Code Memory} {world : World} {why : Stop}
    (kind : raw.kind = 14)
    (ran : dispatch call .categoriesReloaded world = (.error why, next)) :
    dispatchRaw call (some raw) world = (.error why, next) := by
  simp only [dispatchRaw, read_categoriesReloaded kind]
  change (dispatch call .categoriesReloaded >>= _) world = _
  exact Run.bind_apply_of_error _ ran

/-- The categories were reloaded from the rows of the host, and the host is told that nothing handled the
event. -/
structure Reloads (run : HostRun) (raw : RawEvent) (rows : List RawCategory) : Prop where
  returned : (run.call true (.dispatch (some raw))).1 = .ok (.truth false)
  rebuilt : ∃ read, List.Forall₂ RawCategory.Says rows read ∧
    (run.call true (.dispatch (some raw))).2.world.categories = run.world.categories.reload read

section

variable {memory : Nat} {table : HostTable}

theorem reloads_of_rows {rows : List RawCategory} (proxy : run.proxy = some site)
    (host : run.world.host = table.view memory) (kind : raw.kind = 14)
    (read : table.categories memory = .rows (rows.map RawCategory.read)) : run.Reloads raw rows := by
  have table_eq : run.world.host.categories = .rows (rows.map RawCategory.read) := by rw [host]; exact read
  obtain ⟨next, ran, categories⟩ := dispatch_of_rows (run.means site) table_eq
  have called := call_dispatch_of_ok proxy (dispatchRaw_of_ok kind ran)
  refine ⟨by rw [called], rows.map RawCategory.read, HostTable.forall₂_says_read rows, ?_⟩
  rw [called]
  exact categories

theorem call_of_tooLong (proxy : run.proxy = some site) (host : run.world.host = table.view memory)
    (kind : raw.kind = 14) (read : table.categories memory = .tooLong) :
    (run.call true (.dispatch (some raw))).1 =
      .error (some ((Fatal.panic "capacity overflow").event "modproxy_proxy_dispatch")) := by
  have stops : (run.world.host.categories.read : Run World _) =
      Run.stop (.panic (some "capacity overflow")) := by
    rw [host]
    exact congrArg CategoryTable.read read
  rw [call_dispatch_of_panic proxy (dispatchRaw_of_error kind (dispatch_of_stop _ stops))]

theorem call_of_tooLarge (proxy : run.proxy = some site) (host : run.world.host = table.view memory)
    (kind : raw.kind = 14) (read : table.categories memory = .tooLarge) :
    (run.call true (.dispatch (some raw))).1 = .error none := by
  have stops : (run.world.host.categories.read : Run World _) = Run.stop .outOfMemory := by
    rw [host]
    exact congrArg CategoryTable.read read
  rw [call_dispatch_of_outOfMemory proxy (dispatchRaw_of_error kind (dispatch_of_stop _ stops))]

end

end HostRun

/-- The first rows are read exactly if there is room for as many as the host counts; if no list can hold
them, asking for them is a panic. -/
theorem HostTable.gives_iff {table : HostTable} {count : Nat} {rows : List RawCategory} (memory : Nat)
    (counted : table.categoryCount = some count) (given : table.categoryAt = some rows) :
    (table.Gives memory (rows.take count) ↔ HasRoom memory count) ∧
      (table.Stops memory (.panic (some "capacity overflow")) ↔ mostRows < count) := by
  rcases categories_of_count memory counted given with
    ⟨room, read⟩ | ⟨noRoom, long, read⟩ | ⟨noRoom, fits, read⟩
  · have gives : table.Gives memory (rows.take count) :=
      ⟨_, forall₂_says_read _, fun s => by rw [read]; rfl⟩
    have goesOn : ¬ table.Stops memory (.panic (some "capacity overflow")) := fun stops => by
      have stopped := stops ()
      rw [read] at stopped
      cases stopped
    simp [gives, goesOn, room, room.le_mostRows]
  · have stops : table.Stops memory (.panic (some "capacity overflow")) := fun s => by rw [read]; rfl
    have nothing : ¬ table.Gives memory (rows.take count) := fun ⟨_, _, gives⟩ => by
      cases (stops ()).symm.trans (gives ())
    simp [nothing, stops, noRoom, long]
  · have stops : table.Stops memory .outOfMemory := fun s => by rw [read]; rfl
    have nothing : ¬ table.Gives memory (rows.take count) := fun ⟨_, _, gives⟩ => by
      cases (stops ()).symm.trans (gives ())
    have noPanic : ¬ table.Stops memory (.panic (some "capacity overflow")) := fun panics => by
      cases (stops ()).symm.trans (panics ())
    simp [nothing, noPanic, noRoom, fits]

/-- The first rows are read, and a dispatch that the categories were reloaded returns, exactly if there is
room for as many rows as the host counts.  If no list can hold them the process ends with a panic, and
otherwise for want of memory. -/
theorem categories_reloaded_iff {table : HostTable} {count : Nat} {rows : List RawCategory} (memory : Nat)
    (counted : table.categoryCount = some count) (given : table.categoryAt = some rows) :
    (table.Gives memory (rows.take count) ↔ HostTable.HasRoom memory count) ∧
    (table.Stops memory (.panic (some "capacity overflow")) ↔ HostTable.mostRows < count) ∧
    ∀ {run : HostRun} {site : Site Code} {raw : RawEvent}, run.proxy = some site →
      run.world.host = table.view memory → raw.kind = 14 →
      (run.Reloads raw (rows.take count) ↔ HostTable.HasRoom memory count) ∧
      ((run.call true (.dispatch (some raw))).1 = .error
          (some ((Fatal.panic "capacity overflow").event "modproxy_proxy_dispatch")) ↔
        HostTable.mostRows < count) ∧
      ((run.call true (.dispatch (some raw))).1 = .error none ↔
        ¬ HostTable.HasRoom memory count ∧ count ≤ HostTable.mostRows) := by
  obtain ⟨gives, panics⟩ := HostTable.gives_iff memory counted given
  refine ⟨gives, panics, fun {run site raw} proxy host kind => ?_⟩
  rcases HostTable.categories_of_count memory counted given with
    ⟨room, read⟩ | ⟨noRoom, long, read⟩ | ⟨noRoom, fits, read⟩
  · have reloads := HostRun.reloads_of_rows proxy host kind read
    simp [reloads, reloads.returned, room, room.le_mostRows]
  · have ends := HostRun.call_of_tooLong proxy host kind read
    have stopped : ¬ run.Reloads raw (rows.take count) := fun reloads => by
      cases ends.symm.trans reloads.returned
    simp [ends, stopped, noRoom, long]
  · have ends := HostRun.call_of_tooLarge proxy host kind read
    have stopped : ¬ run.Reloads raw (rows.take count) := fun reloads => by
      cases ends.symm.trans reloads.returned
    simp [ends, stopped, noRoom, fits]

namespace Sample

/-- A row whose title is missing and whose patterns have an empty item. -/
def sourceRow : RawCategory := ⟨⟨1⟩, some [97], none, some [99, 59, 59, 104, 0, 59]⟩

/-- A host that counts some categories and has one. -/
def counting (count : Nat) : HostTable :=
  { categoryCount := some count, categoryAt := some [sourceRow] }

/-- A proxy without files. -/
def loneSite : Site Code := { files := .empty, binder := .libraries }

/-- A process of this host with a proxy, on a machine that gives so many bytes to one request. -/
def reloader (memory count : Nat) : HostRun :=
  { HostRun.start memory (counting count) [] .empty with proxy := some loneSite }

/-- The event that the categories were reloaded. -/
def reloadedEvent : RawEvent := ⟨14, ⟨0⟩, ⟨0⟩, ⟨0⟩, ⟨0⟩, none, ⟨⟨0, 0, 0, 0, 0, 0, 0, 0, none⟩, none⟩⟩

/-- A host that counts five categories and has one, on a machine with just the memory for five rows. -/
theorem five_counted_reloads :
    (counting 5).categoryCount = some 5 ∧ (counting 5).categoryAt = some [sourceRow] ∧
      (counting 5).Gives 400 [sourceRow] ∧ (reloader 400 5).Reloads reloadedEvent [sourceRow] := by
  have room : HostTable.HasRoom 400 5 := ⟨by decide, by decide⟩
  have counted : (counting 5).categoryCount = some 5 := rfl
  have given : (counting 5).categoryAt = some [sourceRow] := rfl
  have proxy : (reloader 400 5).proxy = some loneSite := rfl
  have host : (reloader 400 5).world.host = (counting 5).view 400 := rfl
  have kind : reloadedEvent.kind = 14 := rfl
  obtain ⟨gives, -, call⟩ := categories_reloaded_iff 400 counted given
  exact ⟨counted, given, gives.mpr room, (call proxy host kind).1.mpr room⟩

/-- A host that has one category and counts more than any list can hold: no machine has the memory. -/
theorem overcount_not_read :
    115292150460684698 < UInt64.size ∧ ∀ memory : Nat,
      (counting 115292150460684698).Stops memory (.panic (some "capacity overflow")) ∧
      ¬ (counting 115292150460684698).Gives memory [sourceRow] ∧
      ((reloader memory 115292150460684698).call true (.dispatch (some reloadedEvent))).1 =
        .error (some ⟨.error, "Fatal failure at host entry point, aborting",
          [("entry", "modproxy_proxy_dispatch"), ("error", "panic: capacity overflow")]⟩) := by
  have long : HostTable.mostRows < 115292150460684698 := by decide
  refine ⟨by decide, fun memory => ?_⟩
  have read : (counting 115292150460684698).categories memory = .tooLong := by
    simp only [counting, HostTable.categories]
    rw [if_pos long]
  have stops : (counting 115292150460684698).Stops memory (.panic (some "capacity overflow")) :=
    fun s => by
      rw [read]
      rfl
  refine ⟨stops, fun ⟨_, _, gives⟩ => ?_, ?_⟩
  · cases (stops ()).symm.trans (gives ())
  · have proxy : (reloader memory 115292150460684698).proxy = some loneSite := rfl
    exact HostRun.call_of_tooLong proxy rfl rfl read

end Sample

end ExtensionProxy.Boundary
