/-!
# Maps that keep the order of arrival

A map held as the list of its entries in the order in which their keys first came.  Writing a key
that is there changes its value in place; writing a new key appends.  Every listing of the map is
in that order.
-/

set_option autoImplicit false

namespace ExtensionProxy

/-- Entries in the order in which their keys arrived. -/
structure OrderedMap (α β : Type) where
  /-- The keys with their values, oldest first. -/
  entries : List (α × β)
  deriving DecidableEq, Repr

namespace OrderedMap

variable {α β : Type} [DecidableEq α]

/-- The map without entries. -/
def empty : OrderedMap α β := ⟨[]⟩

instance : Inhabited (OrderedMap α β) := ⟨empty⟩

/-- The keys, oldest first. -/
def keys (m : OrderedMap α β) : List α := m.entries.map Prod.fst

/-- The values, in the order of their keys. -/
def values (m : OrderedMap α β) : List β := m.entries.map Prod.snd

/-- The value of a key in a list of entries. -/
def find (key : α) : List (α × β) → Option β
  | [] => none
  | (k, v) :: rest => if k = key then some v else find key rest

/-- The value of a key. -/
def get? (m : OrderedMap α β) (key : α) : Option β := find key m.entries

/-- Whether the key is there. -/
def contains (m : OrderedMap α β) (key : α) : Bool := (m.get? key).isSome

/-- How many entries there are. -/
def size (m : OrderedMap α β) : Nat := m.entries.length

/-- Changes the value of a key in a list of entries, or appends the key. -/
def alterEntries (key : α) (change : Option β → β) : List (α × β) → List (α × β)
  | [] => [(key, change none)]
  | (k, v) :: rest =>
    if k = key then (k, change (some v)) :: rest else (k, v) :: alterEntries key change rest

/-- Changes the value of a key in place; a key that is not there is appended. -/
def alter (m : OrderedMap α β) (key : α) (change : Option β → β) : OrderedMap α β :=
  ⟨alterEntries key change m.entries⟩

/-- Writes the value of a key, in place or at the end. -/
def insert (m : OrderedMap α β) (key : α) (value : β) : OrderedMap α β :=
  m.alter key fun _ => value

/-- Removes a key; the others keep their order. -/
def erase (m : OrderedMap α β) (key : α) : OrderedMap α β :=
  ⟨m.entries.filter fun entry => entry.1 ≠ key⟩

/-! ## What the operations do to look-up -/

theorem find_alterEntries (key other : α) (change : Option β → β) (entries : List (α × β)) :
    find other (alterEntries key change entries)
      = if other = key then some (change (find key entries)) else find other entries := by
  induction entries with
  | nil =>
    by_cases h : other = key
    · simp [alterEntries, find, h]
    · simp [alterEntries, find, h, Ne.symm h]
  | cons entry rest ih =>
    obtain ⟨k, v⟩ := entry
    by_cases hk : k = key
    · subst hk
      by_cases h : other = k
      · simp [alterEntries, find, h]
      · simp [alterEntries, find, h, Ne.symm h]
    · by_cases h : other = key
      · subst h
        simpa [alterEntries, find, hk] using ih
      · simp [alterEntries, find, hk, ih, h]

/-- After a change, the key has the changed value and every other key has its own. -/
theorem get?_alter (m : OrderedMap α β) (key other : α) (change : Option β → β) :
    (m.alter key change).get? other
      = if other = key then some (change (m.get? key)) else m.get? other :=
  find_alterEntries key other change m.entries

/-- A key reads back what was written last; every other key is as before. -/
theorem get?_insert (m : OrderedMap α β) (key other : α) (value : β) :
    (m.insert key value).get? other = if other = key then some value else m.get? other :=
  get?_alter m key other fun _ => value

theorem alterEntries_alterEntries (key : α) (first second : Option β → β)
    (entries : List (α × β)) :
    alterEntries key second (alterEntries key first entries)
      = alterEntries key (fun old => second (some (first old))) entries := by
  induction entries with
  | nil => simp [alterEntries]
  | cons entry rest ih =>
    obtain ⟨k, v⟩ := entry
    by_cases hk : k = key <;> simp [alterEntries, hk, ih]

/-- Of two changes of one key the second takes up what the first has left. -/
theorem alter_alter (m : OrderedMap α β) (key : α) (first second : Option β → β) :
    (m.alter key first).alter key second = m.alter key fun old => second (some (first old)) :=
  congrArg mk (alterEntries_alterEntries key first second m.entries)

/-- Nothing is found in the map without entries. -/
@[simp] theorem get?_empty (key : α) : (empty : OrderedMap α β).get? key = none := rfl

/-- A key that was removed is not there; every other key is as before. -/
theorem get?_erase (m : OrderedMap α β) (key other : α) :
    (m.erase key).get? other = if other = key then none else m.get? other := by
  simp only [get?, erase]
  induction m.entries with
  | nil => simp [find]
  | cons entry rest ih =>
    obtain ⟨k, v⟩ := entry
    by_cases hk : k = key
    · subst hk
      by_cases h : other = k
      · simpa [find, h] using ih
      · simpa [find, h, Ne.symm h] using ih
    · by_cases h : k = other
      · subst h
        simp [find, hk]
      · simpa [find, hk, h] using ih

/-- Of two writes of one key the second alone counts. -/
theorem insert_insert (m : OrderedMap α β) (key : α) (first second : β) :
    (m.insert key first).insert key second = m.insert key second := by
  simp only [insert, alter_alter]

/-! ## What the operations do to the keys -/

/-- A key is in a list of entries if it has a value there. -/
theorem find_isSome (key : α) (entries : List (α × β)) :
    (find key entries).isSome = true ↔ key ∈ entries.map Prod.fst := by
  induction entries with
  | nil => simp [find]
  | cons entry rest ih =>
    obtain ⟨k, v⟩ := entry
    by_cases hk : k = key
    · simp [find, hk]
    · simp [find, hk, ih, Ne.symm hk]

theorem mem_of_find {key : α} {value : β} {entries : List (α × β)}
    (found : find key entries = some value) : (key, value) ∈ entries := by
  induction entries with
  | nil => cases found
  | cons entry rest ih =>
    obtain ⟨k, v⟩ := entry
    rw [find] at found
    split at found
    · rename_i same
      cases found
      exact same ▸ List.mem_cons_self
    · exact List.mem_cons_of_mem _ (ih found)

theorem contains_iff_mem_keys (m : OrderedMap α β) (key : α) :
    m.contains key = true ↔ key ∈ m.keys :=
  find_isSome key m.entries

theorem map_fst_alterEntries (key : α) (change : Option β → β) (entries : List (α × β)) :
    (alterEntries key change entries).map Prod.fst
      = if key ∈ entries.map Prod.fst then entries.map Prod.fst
        else entries.map Prod.fst ++ [key] := by
  induction entries with
  | nil => rfl
  | cons entry rest ih =>
    obtain ⟨k, v⟩ := entry
    by_cases hk : k = key
    · simp [alterEntries, hk]
    · rw [alterEntries, if_neg hk, List.map_cons, ih, List.map_cons]
      by_cases there : key ∈ rest.map Prod.fst
      · rw [if_pos there, if_pos (List.mem_cons_of_mem _ there)]
      · rw [if_neg there, if_neg (by simp [Ne.symm hk, there])]
        rfl

/-- The keys after a change: those that were there, and the key that is changed at the end if it was
not there. -/
theorem keys_alter (m : OrderedMap α β) (key : α) (change : Option β → β) :
    (m.alter key change).keys = if key ∈ m.keys then m.keys else m.keys ++ [key] :=
  map_fst_alterEntries key change m.entries

/-- A key that is not there is appended. -/
theorem keys_insert_of_notMem (m : OrderedMap α β) {key : α} (value : β) (new : key ∉ m.keys) :
    (m.insert key value).keys = m.keys ++ [key] := by
  rw [insert, keys_alter, if_neg new]

theorem mem_keys_alter (m : OrderedMap α β) (key other : α) (change : Option β → β) :
    other ∈ (m.alter key change).keys ↔ other = key ∨ other ∈ m.keys := by
  rw [keys_alter]
  by_cases there : key ∈ m.keys
  · rw [if_pos there, iff_or_self]
    rintro rfl
    exact there
  · rw [if_neg there, List.mem_append, List.mem_singleton, Or.comm]

/-- A change keeps each key once. -/
theorem nodup_keys_alter {m : OrderedMap α β} (key : α) (change : Option β → β)
    (nodup : m.keys.Nodup) : (m.alter key change).keys.Nodup := by
  rw [keys_alter]
  split
  · exact nodup
  · rename_i absent
    refine List.nodup_append.mpr ⟨nodup, List.pairwise_singleton _ key, ?_⟩
    rintro other mem last last_mem rfl
    exact absent (List.mem_singleton.mp last_mem ▸ mem)

theorem keys_erase (m : OrderedMap α β) (key : α) :
    (m.erase key).keys = m.keys.filter fun other => other ≠ key := by
  simp [keys, erase, List.filter_map, Function.comp_def]

/-! ## What the operations do to the entries -/

/-- An entry after a change was there before, or it is the one that was written. -/
theorem mem_alterEntries {key : α} {change : Option β → β} {entries : List (α × β)}
    {entry : α × β} (mem : entry ∈ alterEntries key change entries) :
    entry ∈ entries ∨ entry = (key, change none) ∨
      ∃ old, (key, old) ∈ entries ∧ entry = (key, change (some old)) := by
  induction entries with
  | nil => exact .inr (.inl (List.mem_singleton.mp mem))
  | cons first rest ih =>
    obtain ⟨k, v⟩ := first
    rw [alterEntries] at mem
    split at mem
    · rename_i same
      subst same
      rcases List.mem_cons.mp mem with rfl | mem
      · exact .inr (.inr ⟨v, List.mem_cons_self, rfl⟩)
      · exact .inl (List.mem_cons_of_mem _ mem)
    · rcases List.mem_cons.mp mem with rfl | mem
      · exact .inl List.mem_cons_self
      · rcases ih mem with there | new | ⟨old, there, eq⟩
        · exact .inl (List.mem_cons_of_mem _ there)
        · exact .inr (.inl new)
        · exact .inr (.inr ⟨old, List.mem_cons_of_mem _ there, eq⟩)

/-- A change passes over the entries of other keys. -/
theorem alterEntries_append {key : α} {front : List (α × β)} (absent : key ∉ front.map Prod.fst)
    (change : Option β → β) (rest : List (α × β)) :
    alterEntries key change (front ++ rest) = front ++ alterEntries key change rest := by
  induction front with
  | nil => rfl
  | cons entry front ih =>
    rw [List.map_cons, List.mem_cons, not_or] at absent
    rw [List.cons_append, alterEntries, if_neg (Ne.symm absent.1), ih absent.2, List.cons_append]

theorem alterEntries_comm {key other : α} (different : other ≠ key) (first second : Option β → β)
    {entries : List (α × β)} (there : key ∈ entries.map Prod.fst) :
    alterEntries other second (alterEntries key first entries)
      = alterEntries key first (alterEntries other second entries) := by
  induction entries with
  | nil => simp at there
  | cons entry rest ih =>
    obtain ⟨k, v⟩ := entry
    by_cases hk : k = key
    · subst hk
      simp [alterEntries, Ne.symm different]
    · rw [List.map_cons, List.mem_cons] at there
      have there := there.resolve_left (Ne.symm hk)
      by_cases ho : k = other
      · simp [alterEntries, ho, different]
      · simp [alterEntries, hk, ho, ih there]

/-- The change of a key that is there can be made before or after the change of another key. -/
theorem alter_comm {m : OrderedMap α β} {key other : α} (there : key ∈ m.keys)
    (different : other ≠ key) (first second : Option β → β) :
    (m.alter key first).alter other second = (m.alter other second).alter key first :=
  congrArg mk (alterEntries_comm different first second there)

/-! ## Amending a map -/

variable {γ : Type}

/-- Changes keys one after the other, each by what is given with it. -/
def amend (change : Option β → γ → β) (m : OrderedMap α β) (others : List (α × γ)) :
    OrderedMap α β :=
  others.foldl (fun m other => m.alter other.1 fun old => change old other.2) m

theorem amend_alter_of_notMem (change : Option β → γ → β) {m : OrderedMap α β}
    {others : List (α × γ)} {key : α} (there : key ∈ m.keys)
    (absent : key ∉ others.map Prod.fst) (effect : Option β → β) :
    (m.alter key effect).amend change others = (m.amend change others).alter key effect := by
  induction others generalizing m with
  | nil => rfl
  | cons other others ih =>
    rw [List.map_cons, List.mem_cons, not_or] at absent
    have kept : key ∈ (m.alter other.1 fun old => change old other.2).keys :=
      (mem_keys_alter m other.1 key _).mpr (.inr there)
    rw [amend, List.foldl_cons, alter_comm there (Ne.symm absent.1), ← amend, ih kept absent.2]
    rfl

/-- To amend by entries in which one key was changed is to amend by the entries and to change that key
at the end, if `effect` is what the change comes to. -/
theorem amend_alterEntries {change : Option β → γ → β} {others : List (α × γ)} {key : α}
    {given : Option γ → γ} {effect : Option β → β} (m : OrderedMap α β)
    (once : (others.map Prod.fst).Nodup)
    (again : ∀ old v, (key, v) ∈ others → change old (given (some v)) = effect (some (change old v)))
    (new : ∀ old, change old (given none) = effect old) :
    m.amend change (alterEntries key given others) = (m.amend change others).alter key effect := by
  induction others generalizing m with
  | nil => exact congrArg (m.alter key) (funext new)
  | cons other others ih =>
    obtain ⟨k, v⟩ := other
    rw [List.map_cons, List.nodup_cons] at once
    by_cases hk : k = key
    · subst hk
      have changed : (m.alter k fun old => change old (given (some v))) =
          (m.alter k fun old => change old v).alter k effect := by
        rw [alter_alter]
        exact congrArg (m.alter k) (funext fun old => again old v List.mem_cons_self)
      have there : k ∈ (m.alter k fun old => change old v).keys :=
        (mem_keys_alter m k k _).mpr (.inl rfl)
      rw [alterEntries, if_pos rfl, amend, List.foldl_cons, changed, ← amend,
        amend_alter_of_notMem change there once.1]
      rfl
    · rw [alterEntries, if_neg hk, amend, List.foldl_cons, ← amend,
        ih _ once.2 fun old v mem => again old v (List.mem_cons_of_mem _ mem)]
      rfl

end OrderedMap

end ExtensionProxy
