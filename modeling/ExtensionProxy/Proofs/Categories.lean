import ExtensionProxy.Proofs.Classification
import ExtensionProxy.Proofs.Containment

/-!
# Which categories are stale

Every wrapper ever built can still be held by somebody, so staleness is a statement about all of them and
not only about those that are registered.  A reload marks exactly the wrappers that it evicts, and builds
one for each handle of the new table; so a wrapper is not stale exactly as long as its handle looks up to
it.  Rows whose handle has come before build nothing.

`Exact` says this of the categories at one time.  Marking, evicting and building are the three steps of a
reload; after the first two everything is stale and nothing is registered, whatever there was before.
-/

set_option autoImplicit false

namespace ExtensionProxy

variable {κ μ : Type}

namespace Categories

/-- The categories after the host has reloaded the tables, one after the other. -/
def rebuilt (tables : List (List CategoryRow)) : Categories := tables.foldl reload {}

/-- The rows of a table in order, of those with one handle the first. -/
def firstRows : List CategoryRow → List CategoryRow
  | [] => []
  | row :: rows => row :: (firstRows rows).filter fun other => other.handle ≠ row.handle

/-- A wrapper is not stale exactly if its handle looks up to it. -/
structure Exact (categories : Categories) : Prop where
  inStep : categories.cache.InStep
  /-- What is registered is a wrapper for its handle, and not stale. -/
  registered : ∀ handle id, categories.lookup handle = some id →
    ∃ category, categories.wrapper? id = some category ∧ category.row.handle = handle ∧
      category.stale = false
  /-- What is not stale is registered. -/
  fresh : ∀ id category, categories.wrapper? id = some category → category.stale = false →
    categories.lookup category.row.handle = some id

variable {categories : Categories} {id : CategoryId} {row : CategoryRow} {rows : List CategoryRow}
  {category : Category}

theorem exact_empty : Exact {} where
  inStep := .empty
  registered _ _ found := by cases found
  fresh _ _ found := by cases found

theorem Exact.stale_iff (isExact : categories.Exact) (found : categories.wrapper? id = some category) :
    category.stale = false ↔ categories.lookup category.row.handle = some id := by
  constructor
  · exact isExact.fresh id category found
  · intro there
    obtain ⟨other, found', -, fresh⟩ := isExact.registered _ _ there
    rwa [Option.some.inj (found.symm.trans found')]

/-- What is listed is what some handle looks up to. -/
theorem Exact.mem_list (isExact : categories.Exact) :
    id ∈ categories.list ↔ ∃ handle, categories.lookup handle = some id := by
  rw [list, IdentityCache.values, List.mem_filterMap]
  constructor
  · rintro ⟨handle, -, there⟩
    exact ⟨handle, there⟩
  · rintro ⟨handle, there⟩
    refine ⟨handle, ?_, there⟩
    rw [← isExact.inStep.contains_iff]
    exact Option.isSome_iff_exists.mpr ⟨id, there⟩

/-- What is listed is a wrapper that is not stale. -/
theorem Exact.exists_of_mem_list (isExact : categories.Exact) (mem : id ∈ categories.list) :
    ∃ category, categories.wrapper? id = some category ∧ category.stale = false := by
  obtain ⟨handle, there⟩ := isExact.mem_list.mp mem
  obtain ⟨category, found, -, fresh⟩ := isExact.registered handle id there
  exact ⟨category, found, fresh⟩

/-! ## Marking and evicting -/

theorem index_inj {id other : CategoryId} : id.index = other.index ↔ id = other := by
  cases id
  cases other
  simp

theorem wrapper?_markStale (categories : Categories) (id other : CategoryId) :
    (categories.markStale id).wrapper? other = (categories.wrapper? other).map fun category =>
      { category with stale := category.stale || decide (other = id) } := by
  simp only [markStale, wrapper?, List.getElem?_modify, index_inj]
  by_cases same : id = other
  · subst same
    cases categories.wrappers[id.index]? <;> simp
  · cases categories.wrappers[other.index]? <;> simp [same, Ne.symm same]

theorem wrapper?_foldl_markStale (ids : List CategoryId) (categories : Categories) (other : CategoryId) :
    (ids.foldl markStale categories).wrapper? other = (categories.wrapper? other).map fun category =>
      { category with stale := category.stale || decide (other ∈ ids) } := by
  induction ids generalizing categories with
  | nil => simp
  | cons id ids ih =>
    rw [List.foldl_cons, ih, wrapper?_markStale, Option.map_map]
    congr 1
    funext category
    simp [Bool.or_assoc]

/-- After everything was marked and evicted every wrapper is there as before, and stale. -/
theorem Exact.wrapper?_clear (isExact : categories.Exact) (id : CategoryId) :
    categories.clear.wrapper? id = (categories.wrapper? id).map fun category =>
      { category with stale := true } := by
  change (categories.list.foldl markStale categories).wrapper? id = _
  rw [wrapper?_foldl_markStale]
  cases found : categories.wrapper? id with
  | none => rfl
  | some category =>
    -- What was not stale was listed, and so has been marked.
    have marked : (category.stale || decide (id ∈ categories.list)) = true := by
      cases stale : category.stale with
      | true => rfl
      | false =>
        have listed : id ∈ categories.list :=
          isExact.mem_list.mpr ⟨_, isExact.fresh id category found stale⟩
        simp [listed]
    rw [Option.map_some, Option.map_some, marked]

theorem Exact.clear (isExact : categories.Exact) : categories.clear.Exact where
  inStep := .empty
  registered _ _ found := by cases found
  fresh id category found fresh := by
    rw [isExact.wrapper?_clear] at found
    obtain ⟨old, -, rfl⟩ := Option.map_eq_some_iff.mp found
    cases fresh

/-! ## Building -/

theorem add_of_contains (there : categories.cache.contains row.handle = true) :
    categories.add row = categories := if_pos there

theorem add_of_absent (absent : categories.cache.contains row.handle = false) :
    categories.add row =
      { wrappers := categories.wrappers ++ [{ row := row }]
        cache := categories.cache.insert row.handle ⟨categories.wrappers.length⟩ } :=
  if_neg (by simp [absent])

theorem lookup_eq_none (absent : categories.cache.contains row.handle = false) :
    categories.lookup row.handle = none :=
  Option.not_isSome_iff_eq_none.mp (ne_true_of_eq_false absent)

/-- Building leaves the wrappers that there are, and adds one. -/
theorem wrapper?_add_of_absent (absent : categories.cache.contains row.handle = false)
    (id : CategoryId) :
    (categories.add row).wrapper? id =
      if id = ⟨categories.wrappers.length⟩ then some { row := row } else categories.wrapper? id := by
  rw [add_of_absent absent, wrapper?]
  by_cases new : id = ⟨categories.wrappers.length⟩
  · subst new
    rw [if_pos rfl]
    exact List.getElem?_concat_length
  · have other : id.index ≠ categories.wrappers.length := fun index => new (index_inj.mp index)
    rw [if_neg new, wrapper?, List.getElem?_append]
    split
    · rfl
    · rename_i beyond
      rw [List.getElem?_eq_none (by simp; omega), List.getElem?_eq_none (by omega)]

/-- A wrapper that is there stays. -/
theorem wrapper?_add (row : CategoryRow) (found : categories.wrapper? id = some category) :
    (categories.add row).wrapper? id = some category := by
  cases there : categories.cache.contains row.handle with
  | true => rwa [add_of_contains there]
  | false =>
    have old : id ≠ ⟨categories.wrappers.length⟩ := by
      rintro rfl
      simp [wrapper?] at found
    rw [wrapper?_add_of_absent there, if_neg old, found]

theorem lookup_add_of_absent (absent : categories.cache.contains row.handle = false)
    (handle : CategoryHandle) :
    (categories.add row).lookup handle =
      if handle = row.handle then some ⟨categories.wrappers.length⟩ else categories.lookup handle := by
  rw [add_of_absent absent]
  exact IdentityCache.get?_insert categories.cache row.handle handle _

theorem Exact.add_of_absent (isExact : categories.Exact)
    (absent : categories.cache.contains row.handle = false) : (categories.add row).Exact where
  inStep := inStep_add isExact.inStep row
  registered handle id found := by
    rw [lookup_add_of_absent absent] at found
    split at found
    · rename_i same
      cases found
      exact ⟨{ row := row }, by rw [wrapper?_add_of_absent absent, if_pos rfl], same.symm, rfl⟩
    · obtain ⟨category, found, facts⟩ := isExact.registered handle id found
      exact ⟨category, wrapper?_add row found, facts⟩
  fresh id category found fresh := by
    rw [wrapper?_add_of_absent absent] at found
    rw [lookup_add_of_absent absent]
    split at found
    · rename_i new
      cases found
      rw [if_pos rfl, new]
    · have looked := isExact.fresh id category found fresh
      -- An older wrapper that is not stale is registered, so its handle is another one.
      rw [if_neg, looked]
      intro same
      rw [same, lookup_eq_none absent] at looked
      cases looked

theorem Exact.add (isExact : categories.Exact) (row : CategoryRow) : (categories.add row).Exact := by
  cases there : categories.cache.contains row.handle with
  | true => rwa [add_of_contains there]
  | false => exact isExact.add_of_absent there

/-- A new wrapper is listed last. -/
theorem Exact.list_add_of_absent (isExact : categories.Exact)
    (absent : categories.cache.contains row.handle = false) :
    (categories.add row).list = categories.list ++ [⟨categories.wrappers.length⟩] := by
  have new : categories.cache.get? row.handle = none := lookup_eq_none absent
  have inserted := isExact.inStep.insert new (⟨categories.wrappers.length⟩ : CategoryId)
  rw [Categories.add_of_absent absent, list, list, ← inserted.agrees.values, ← isExact.inStep.agrees.values,
    IdentityCache.entries_insert isExact.inStep new, List.map_append, List.map_singleton]

/-- What is listed, as it can be seen. -/
def listed (categories : Categories) : List (Option Category) :=
  categories.list.map categories.wrapper?

theorem Exact.listed_add_of_absent (isExact : categories.Exact)
    (absent : categories.cache.contains row.handle = false) :
    (categories.add row).listed = categories.listed ++ [some { row := row }] := by
  have kept : categories.list.map (categories.add row).wrapper? = categories.listed := by
    refine List.map_congr_left fun id mem => ?_
    obtain ⟨category, found, -⟩ := isExact.exists_of_mem_list mem
    rw [wrapper?_add row found, found]
  rw [listed, isExact.list_add_of_absent absent, List.map_append, kept, List.map_singleton,
    wrapper?_add_of_absent absent, if_pos rfl]

/-! ## Building from a table -/

theorem Exact.addAll (isExact : categories.Exact) (rows : List CategoryRow) :
    (rows.foldl Categories.add categories).Exact := by
  induction rows generalizing categories with
  | nil => exact isExact
  | cons row rows ih => exact ih (isExact.add row)

theorem wrapper?_addAll (rows : List CategoryRow) (found : categories.wrapper? id = some category) :
    (rows.foldl add categories).wrapper? id = some category := by
  induction rows generalizing categories with
  | nil => exact found
  | cons row rows ih => exact ih (wrapper?_add row found)

/-- What a table adds is new. -/
theorem Exact.mem_list_addAll (isExact : categories.Exact)
    (mem : id ∈ (rows.foldl Categories.add categories).list) :
    id ∈ categories.list ∨ categories.wrapper? id = none := by
  induction rows generalizing categories with
  | nil => exact .inl mem
  | cons row rows ih =>
    cases there : categories.cache.contains row.handle with
    | true =>
      rw [List.foldl_cons, add_of_contains there] at mem
      exact ih isExact mem
    | false =>
      rcases ih (isExact.add row) mem with listed | unknown
      · rw [isExact.list_add_of_absent there, List.mem_append, List.mem_singleton] at listed
        rcases listed with old | rfl
        · exact .inl old
        · exact .inr (by simp [wrapper?])
      · cases found : categories.wrapper? id with
        | none => exact .inr rfl
        | some category =>
          rw [wrapper?_add row found] at unknown
          cases unknown

/-- A table adds its first rows, but for the handles that are registered. -/
theorem Exact.listed_addAll (isExact : categories.Exact) (rows : List CategoryRow) :
    (rows.foldl Categories.add categories).listed = categories.listed ++
      ((firstRows rows).filter fun row => !categories.cache.contains row.handle).map
        fun row => some { row := row } := by
  induction rows generalizing categories with
  | nil => simp [firstRows]
  | cons row rows ih =>
    rw [List.foldl_cons, ih (isExact.add row), firstRows, List.filter_cons]
    cases there : categories.cache.contains row.handle with
    | true =>
      -- The later rows of the handle are left out with it.
      have same : (firstRows rows).filter (fun other => !categories.cache.contains other.handle) =
          ((firstRows rows).filter fun other => other.handle ≠ row.handle).filter fun other =>
            !categories.cache.contains other.handle := by
        rw [List.filter_filter]
        refine List.filter_congr fun other _ => ?_
        by_cases again : other.handle = row.handle
        · simp [again, there]
        · simp [again]
      rw [add_of_contains there, same]
      simp
    | false =>
      have contains : ∀ handle, (categories.add row).cache.contains handle =
          (decide (handle = row.handle) || categories.cache.contains handle) := by
        intro handle
        change ((categories.add row).lookup handle).isSome = _
        rw [lookup_add_of_absent there]
        by_cases again : handle = row.handle
        · simp [again]
        · simp only [again, if_false, decide_false, Bool.false_or]
          rfl
      rw [isExact.listed_add_of_absent there, List.append_assoc, List.filter_filter]
      simp [contains, Bool.and_comm]

/-! ## Reloading -/

theorem Exact.reload (isExact : categories.Exact) (rows : List CategoryRow) :
    (categories.reload rows).Exact :=
  isExact.clear.addAll rows

/-- What one reload does: the table is mirrored by new wrappers, and those of before are stale. -/
structure Replaces (before : Categories) (rows : List CategoryRow) (after : Categories) : Prop where
  /-- The first rows of the table are listed in its order, as they are. -/
  listed : after.list.map after.wrapper? = (firstRows rows).map fun row => some { row := row }
  /-- Whatever was built before is stale, whatever the table says of its handle. -/
  stale : ∀ id category, before.wrapper? id = some category →
    after.wrapper? id = some { category with stale := true }
  /-- What is listed was not there before. -/
  new : ∀ id ∈ after.list, before.wrapper? id = none

theorem Exact.replaces (isExact : categories.Exact) (rows : List CategoryRow) :
    Replaces categories rows (categories.reload rows) where
  listed := by
    refine (isExact.clear.listed_addAll rows).trans ?_
    have nothing : ∀ handle, categories.clear.cache.contains handle = false := fun _ => rfl
    have bare : categories.clear.listed = [] := rfl
    simp [nothing, bare]
  stale id category found := by
    refine wrapper?_addAll rows ?_
    rw [isExact.wrapper?_clear, found, Option.map_some]
  new id mem := by
    rcases isExact.clear.mem_list_addAll mem with old | unknown
    · cases old
    · rw [isExact.wrapper?_clear] at unknown
      exact Option.map_eq_none_iff.mp unknown

theorem exact_rebuilt (tables : List (List CategoryRow)) : (rebuilt tables).Exact := by
  rw [rebuilt]
  generalize start : ({} : Categories) = categories
  have isExact : categories.Exact := start ▸ exact_empty
  clear start
  induction tables generalizing categories with
  | nil => exact isExact
  | cons rows tables ih => exact ih _ (isExact.reload rows)

theorem rebuilt_concat (tables : List (List CategoryRow)) (rows : List CategoryRow) :
    rebuilt (tables ++ [rows]) = (rebuilt tables).reload rows := by
  rw [rebuilt, List.foldl_concat, rebuilt]

/-! ## Looking up a name -/

/-- The first that is listed with a name. -/
structure IsFirst (categories : Categories) (name : String) (id : CategoryId) : Prop where
  listed : ∃ front back, categories.list = front ++ id :: back ∧
    ∀ other ∈ front, ∀ category, categories.wrapper? other = some category → category.row.name ≠ name
  named : ∃ category, categories.wrapper? id = some category ∧ category.row.name = name ∧
    category.stale = false

theorem Exact.isFirst_of_findByName (isExact : categories.Exact) {name : String}
    (found : categories.findByName name = some id) : IsFirst categories name id := by
  rw [findByName, List.find?_eq_some_iff_append] at found
  obtain ⟨named, front, back, whole, others⟩ := found
  have mem : id ∈ categories.list := whole ▸ List.mem_append_right _ List.mem_cons_self
  obtain ⟨category, there, fresh⟩ := isExact.exists_of_mem_list mem
  simp only [there, beq_iff_eq] at named
  refine ⟨⟨front, back, whole, fun other before category found => ?_⟩, category, there, named, fresh⟩
  simpa [found] using others other before

theorem findByName_eq_none {name : String} (nothing : categories.findByName name = none)
    (mem : id ∈ categories.list) (found : categories.wrapper? id = some category) :
    category.row.name ≠ name := by
  rw [findByName, List.find?_eq_none] at nothing
  simpa [found] using nothing id mem

end Categories

/-! ## Categories of a proxy -/

/-- Nothing but a reload changes the categories. -/
theorem Step.categories_cases {c d : Ledger κ} (step : Step c d) :
    d.categories = c.categories ∨ ∃ rows, d.categories = c.categories.reload rows := by
  cases step with
  | reload rows => exact .inr ⟨rows, rfl⟩
  | _ => exact .inl rfl

/-- The categories of a proxy have been rebuilt from some tables. -/
theorem Path.categories_rebuilt {c : Ledger κ} (path : Path Ledger.empty c) :
    ∃ tables, c.categories = Categories.rebuilt tables := by
  induction path with
  | refl => exact ⟨[], rfl⟩
  | tail _ step ih =>
    obtain ⟨tables, before⟩ := ih
    rcases step.categories_cases with same | ⟨rows, reloaded⟩
    · exact ⟨tables, same.trans before⟩
    · exact ⟨tables ++ [rows], by rw [reloaded, before, Categories.rebuilt_concat]⟩

/-- What is left of a dispatch when the observers of a category have run. -/
def settleCategory (number : Nat) (emission : Signal.Emission) : Run (State κ μ) DispatchOutcome := do
  Run.note (.settled number { resolved := true, observers := emission.ran })
  pure { resolved := true, observers := emission.ran }

/-- A dispatch of a category comes to one emission, with what the previous handle looks up to. -/
theorem dispatch_categorySet_apply (call : Caller κ μ) (doc : DocumentHandle)
    (previous : Option CategoryHandle) (s : State κ μ) :
    ∃ wrapper t, addDocument doc (s.begun (.categorySet doc previous)) = (.ok wrapper, t) ∧
      t.categories = s.categories ∧
      dispatch call (.categorySet doc previous) s =
        (emitTopic call (.document wrapper .categoryChanged)
          (.category (previous.bind t.categories.lookup)) >>= settleCategory s.dispatches) t := by
  obtain ⟨wrapper, t, added, reached⟩ := addDocument_apply doc (s.begun (.categorySet doc previous))
  refine ⟨wrapper, t, added, by rw [reached]; rfl, ?_⟩
  rw [dispatch_apply, routeEvent, setCategory, Run.bind_bind_apply, Run.bind_apply_of_ok _ added]
  rw [Run.bind_bind_apply, Run.get_bind_apply]
  exact Run.bind_bind_apply _ _ _ t

/-- Staleness of categories is exact. -/
structure StalenessExact (κ μ : Type) : Prop where
  /-- After any reloads, of all wrappers ever built exactly those are not stale that their handles look
  up to. -/
  stale_iff : ∀ tables id category, (Categories.rebuilt tables).wrapper? id = some category →
    (category.stale = false ↔ (Categories.rebuilt tables).lookup category.row.handle = some id)
  /-- A reload mirrors its table by new wrappers, and no wrapper survives it. -/
  replaces : ∀ tables rows, Categories.Replaces (Categories.rebuilt tables) rows
    (Categories.rebuilt (tables ++ [rows]))
  /-- A name gives the first wrapper that is listed with it, which is not stale. -/
  named : ∀ tables name id, (Categories.rebuilt tables).findByName name = some id →
    Categories.IsFirst (Categories.rebuilt tables) name id
  /-- It gives nothing only if no wrapper is listed with it. -/
  unnamed : ∀ tables name, (Categories.rebuilt tables).findByName name = none →
    ∀ id ∈ (Categories.rebuilt tables).list, ∀ category,
      (Categories.rebuilt tables).wrapper? id = some category → category.row.name ≠ name
  /-- The categories of a proxy are always those after some reloads. -/
  rebuilt : ∀ c : Ledger κ, Path Ledger.empty c → ∃ tables, c.categories = Categories.rebuilt tables
  /-- When the observers of a document are told that its category was set, the emission starts with the
  wrapper of the previous category, which is not stale, or with none. -/
  emission : ∀ (call : Caller κ μ) (s : State κ μ) tables, s.categories = Categories.rebuilt tables →
    ∀ doc previous, ∃ wrapper t,
      addDocument doc (s.begun (.categorySet doc previous)) = (.ok wrapper, t) ∧
      dispatch call (.categorySet doc previous) s =
        (emitTopic call (.document wrapper .categoryChanged)
          (.category (previous.bind t.categories.lookup)) >>= settleCategory s.dispatches) t ∧
      ∀ id, previous.bind t.categories.lookup = some id → ∃ category, t.categories.wrapper? id = some category ∧
        category.stale = false ∧ previous = some category.row.handle ∧
        t.categories.lookup category.row.handle = some id

theorem stalenessExact (κ μ : Type) : StalenessExact κ μ where
  stale_iff tables _ _ found := (Categories.exact_rebuilt tables).stale_iff found
  replaces tables rows := by
    rw [Categories.rebuilt_concat]
    exact (Categories.exact_rebuilt tables).replaces rows
  named tables _ _ := (Categories.exact_rebuilt tables).isFirst_of_findByName
  unnamed _ _ nothing _ mem _ := Categories.findByName_eq_none nothing mem
  rebuilt _ path := path.categories_rebuilt
  emission := by
    intro call s tables before doc previous
    obtain ⟨wrapper, t, added, same, run⟩ := dispatch_categorySet_apply call doc previous s
    have isExact : t.categories.Exact := by
      rw [same, before]
      exact Categories.exact_rebuilt tables
    refine ⟨wrapper, t, added, run, fun id given => ?_⟩
    obtain ⟨handle, named, there⟩ := Option.bind_eq_some_iff.mp given
    obtain ⟨category, found, rfl, fresh⟩ := isExact.registered handle id there
    exact ⟨category, found, fresh, named, there⟩

end ExtensionProxy
