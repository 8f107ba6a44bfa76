import ExtensionProxy.IdentityCache
import Mathlib.Data.List.Perm.Lattice

/-!
# Two collections in step

The wrappers of a cache and the order of registration are two collections, and every operation has to
keep them in step.  If they are in step, everything that a cache tells about itself agrees: a
registration comes last among the entries, and what is taken out leaves the others in their order.
-/

set_option autoImplicit false

namespace ExtensionProxy

namespace IdentityCache

variable {kind : HandleKind} {ω : Type} {cache : IdentityCache kind ω} {handle : Handle kind}

/-- The order of registration holds the keys of the map, each of them once. -/
structure InStep (cache : IdentityCache kind ω) : Prop where
  distinct : cache.order.Nodup
  single : cache.wrappers.keys.Nodup
  same : ∀ handle, handle ∈ cache.order ↔ handle ∈ cache.wrappers.keys

/-- Everything that a cache tells about itself agrees. -/
structure Agrees (cache : IdentityCache kind ω) : Prop extends InStep cache where
  size : cache.size = cache.keys.length
  isEmpty : cache.isEmpty = true ↔ cache.keys = []
  contains : ∀ handle, cache.contains handle = true ↔ handle ∈ cache.keys
  get? : ∀ handle wrapper, cache.get? handle = some wrapper ↔ (handle, wrapper) ∈ cache.entries
  keys : cache.entries.map Prod.fst = cache.keys
  values : cache.entries.map Prod.snd = cache.values

namespace InStep

theorem contains_iff (inStep : cache.InStep) (handle : Handle kind) :
    cache.contains handle = true ↔ handle ∈ cache.order := by
  rw [inStep.same, ← OrderedMap.contains_iff_mem_keys]
  rfl

theorem get?_eq_none (inStep : cache.InStep) : cache.get? handle = none ↔ handle ∉ cache.order := by
  rw [← inStep.contains_iff, contains, OrderedMap.contains, ← Option.not_isSome_iff_eq_none]
  rfl

theorem mem_entries (inStep : cache.InStep) (handle : Handle kind) (wrapper : ω) :
    (handle, wrapper) ∈ cache.entries ↔ cache.get? handle = some wrapper := by
  simp only [entries, List.mem_filterMap, Option.map_eq_some_iff, Prod.mk.injEq]
  constructor
  · rintro ⟨other, -, found, here, rfl, rfl⟩
    exact here
  · intro here
    refine ⟨handle, ?_, wrapper, here, rfl, rfl⟩
    rw [← inStep.contains_iff]
    exact Option.isSome_iff_exists.mpr ⟨wrapper, here⟩

/-- Every registered handle is listed with its wrapper. -/
theorem keys_entries (inStep : cache.InStep) : cache.entries.map Prod.fst = cache.order := by
  have all : ∀ handle ∈ cache.order, ∃ wrapper, cache.get? handle = some wrapper := by
    intro handle there
    exact Option.isSome_iff_exists.mp ((inStep.contains_iff handle).mpr there)
  rw [entries]
  generalize cache.order = order at all
  induction order with
  | nil => rfl
  | cons first rest ih =>
    obtain ⟨wrapper, here⟩ := all first List.mem_cons_self
    simp [here, ih fun other there => all other (List.mem_cons_of_mem _ there)]

theorem agrees (inStep : cache.InStep) : cache.Agrees := by
  have size : cache.size = cache.keys.length := by
    have perm := (List.perm_ext_iff_of_nodup inStep.distinct inStep.single).mpr inStep.same
    rw [IdentityCache.keys, perm.length_eq, OrderedMap.keys, List.length_map]
    rfl
  refine ⟨inStep, size, ?_, inStep.contains_iff, fun handle wrapper =>
    (inStep.mem_entries handle wrapper).symm, inStep.keys_entries, ?_⟩
  · rw [isEmpty, size, beq_iff_eq, List.length_eq_zero_iff]
  · simp [entries, values, List.map_filterMap, Function.comp_def]

/-! ## What changes do -/

theorem empty : (empty : IdentityCache kind ω).InStep := ⟨.nil, .nil, fun _ => .rfl⟩

theorem insert (inStep : cache.InStep) (new : cache.get? handle = none) (wrapper : ω) :
    (cache.insert handle wrapper).InStep := by
  have new := inStep.get?_eq_none.mp new
  have keys := OrderedMap.keys_insert_of_notMem cache.wrappers wrapper
    fun there => new ((inStep.same handle).mpr there)
  refine ⟨?_, ?_, fun other => ?_⟩
  · exact List.nodup_append.mpr ⟨inStep.distinct, List.nodup_singleton _, by grind⟩
  · change (cache.wrappers.insert handle wrapper).keys.Nodup
    rw [keys]
    exact List.nodup_append.mpr ⟨inStep.single, List.nodup_singleton _, by grind [inStep.same handle]⟩
  · change other ∈ cache.order ++ [handle] ↔ other ∈ (cache.wrappers.insert handle wrapper).keys
    rw [keys, List.mem_append, List.mem_append, inStep.same]

theorem erase (inStep : cache.InStep) (handle : Handle kind) : (cache.erase handle).InStep := by
  rw [IdentityCache.erase]
  split
  · refine ⟨inStep.distinct.filter _, ?_, fun other => ?_⟩
    · change (cache.wrappers.erase handle).keys.Nodup
      rw [OrderedMap.keys_erase]
      exact inStep.single.filter _
    · change _ ↔ other ∈ (cache.wrappers.erase handle).keys
      rw [OrderedMap.keys_erase, List.mem_filter, List.mem_filter, inStep.same]
  · exact inStep

end InStep

theorem get?_insert (cache : IdentityCache kind ω) (handle other : Handle kind) (wrapper : ω) :
    (cache.insert handle wrapper).get? other
      = if other = handle then some wrapper else cache.get? other :=
  OrderedMap.get?_insert cache.wrappers handle other wrapper

theorem get?_erase (cache : IdentityCache kind ω) (handle other : Handle kind) :
    (cache.erase handle).get? other = if other = handle then none else cache.get? other := by
  rw [erase]
  split
  · exact OrderedMap.get?_erase cache.wrappers handle other
  · next absent =>
    split
    · next same =>
      rw [same]
      exact Option.not_isSome_iff_eq_none.mp absent
    · rfl

/-- A registration comes last. -/
theorem entries_insert (inStep : cache.InStep) (new : cache.get? handle = none) (wrapper : ω) :
    (cache.insert handle wrapper).entries = cache.entries ++ [(handle, wrapper)] := by
  have old : ∀ other ∈ cache.order,
      (cache.insert handle wrapper).get? other = cache.get? other := by
    intro other there
    rw [get?_insert, if_neg]
    rintro rfl
    exact inStep.get?_eq_none.mp new there
  have here : (cache.insert handle wrapper).get? handle = some wrapper := by
    rw [get?_insert, if_pos rfl]
  change (cache.order ++ [handle]).filterMap _ = _
  rw [List.filterMap_append]
  congr 1
  · exact List.filterMap_congr fun other there => by rw [old other there]
  · simp [here]

/-- What is taken out is listed no more; the others stay in their order. -/
theorem entries_erase (inStep : cache.InStep) (handle : Handle kind) :
    (cache.erase handle).entries = cache.entries.filter fun entry => entry.1 ≠ handle := by
  have order : (cache.erase handle).order = cache.order.filter fun other => other ≠ handle := by
    rw [erase]
    split
    · rfl
    · next absent =>
      refine (List.filter_eq_self.mpr fun other there => ?_).symm
      rw [inStep.contains_iff] at absent
      exact decide_eq_true fun same => absent (same ▸ there)
  rw [entries, order, entries, List.filter_filterMap, List.filterMap_filter]
  refine List.filterMap_congr fun other there => ?_
  rw [get?_erase]
  by_cases same : other = handle
  · cases cache.get? other <;> simp [same, Option.filter]
  · cases cache.get? other <;> simp [same, Option.filter]

end IdentityCache

end ExtensionProxy
