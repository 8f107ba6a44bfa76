import ExtensionProxy.Candidate
import ExtensionProxy.Proofs.Path

/-!
# The halves of a pair

A descriptor and its module are judged by two functions that ask the same two questions in opposite
order: is the descriptor valid, and does the module bind.  Neither answer depends on what was bound or
logged before.  So the host is told the same of both halves whenever each half leads to the other.

That they do is a fact about paths.  With extensions that are told apart and hold neither a dot nor a
slash, the counterpart of a path has the other extension after the same stem, and the counterpart of the
counterpart is the path again.  The one stem for which this fails is a single dot: the counterpart of
`..plugin` is the folder above, which is no candidate.
-/

set_option autoImplicit false

namespace ExtensionProxy

/-! ## What a run gives in every state -/

namespace Run

variable {σ α β : Type}

/-- The run comes to the value from every state. -/
def Gives (run : Run σ α) (value : α) : Prop := ∀ s, (run s).1 = .ok value

theorem gives_pure (value : α) : (pure value : Run σ α).Gives value := fun _ => rfl

theorem gives_modify (change : σ → σ) : (modify change).Gives () := fun _ => rfl

theorem Gives.bind {run : Run σ α} {next : α → Run σ β} {first : α} {value : β}
    (gives : run.Gives first) (goesOn : (next first).Gives value) : (run >>= next).Gives value := by
  intro s
  rw [bind_apply_of_ok next (Prod.ext (gives s) rfl : run s = (.ok first, (run s).2))]
  exact goesOn _

end Run

/-! ## What probing asks -/

namespace Site

variable {κ : Type} {site : Site κ} {path other : String}

/-- Whether the path is a valid descriptor. -/
def isDescriptor (site : Site κ) (path : String) : Bool := (site.descriptor path).isOk

/-- Whether the module at the path binds. -/
def binds (site : Site κ) (path : String) : Bool :=
  (site.binder.bind site.files path site.settings.loader.factorySymbol).isOk

theorem acceptsDescriptor_gives (site : Site κ) (path : String) :
    (site.acceptsDescriptor path).Gives (site.isDescriptor path) := by
  unfold acceptsDescriptor isDescriptor
  cases site.descriptor path with
  | ok found => exact Run.gives_pure true
  | error cause => exact (Run.gives_modify _).bind (Run.gives_pure false)

theorem acceptsModule_gives (site : Site κ) (path : String) :
    (site.acceptsModule path).Gives (site.binds path) := by
  unfold acceptsModule binds Bench.bindBy
  intro bench
  cases site.binder.bind site.files path site.settings.loader.factorySymbol <;> rfl

theorem probeDescriptor_gives
    (counterpart : site.settings.loader.counterpart path = (pure (some other) : Run Bench _)) :
    (site.probeDescriptor path).Gives (site.isDescriptor path && site.binds other) := by
  refine (site.acceptsDescriptor_gives path).bind ?_
  cases site.isDescriptor path with
  | false => exact Run.gives_pure false
  | true =>
    rw [if_pos rfl, counterpart, Bool.true_and]
    exact (Run.gives_pure (some other)).bind (site.acceptsModule_gives other)

theorem probeModule_gives
    (counterpart : site.settings.loader.counterpart path = (pure (some other) : Run Bench _)) :
    (site.probeModule path).Gives (site.binds path && site.isDescriptor other) := by
  refine (site.acceptsModule_gives path).bind ?_
  cases site.binds path with
  | false => exact Run.gives_pure false
  | true =>
    rw [if_pos rfl, counterpart, Bool.true_and]
    exact (Run.gives_pure (some other)).bind (site.acceptsDescriptor_gives other)

theorem probe_gives {outcome : ProbeOutcome} (judged : (site.judge path).Gives outcome) :
    (site.probe path).Gives outcome :=
  judged.bind ((Run.gives_modify _).bind (Run.gives_pure outcome))

/-- A descriptor is matched if it is valid and its counterpart binds. -/
theorem probe_descriptor_gives (kind : site.settings.loader.classify path = .descriptor)
    (counterpart : site.settings.loader.counterpart path = (pure (some other) : Run Bench _)) :
    (site.probe path).Gives
      (if site.isDescriptor path && site.binds other then .matched else .ignored) := by
  apply probe_gives
  rw [judge, kind]
  refine (probeDescriptor_gives counterpart).bind ?_
  split <;> exact Run.gives_pure _

/-- A module is related if it binds and its counterpart is a valid descriptor. -/
theorem probe_module_gives (kind : site.settings.loader.classify path = .module)
    (counterpart : site.settings.loader.counterpart path = (pure (some other) : Run Bench _)) :
    (site.probe path).Gives
      (if site.binds path && site.isDescriptor other then .related else .ignored) := by
  apply probe_gives
  rw [judge, kind]
  refine (probeModule_gives counterpart).bind ?_
  split <;> exact Run.gives_pure _

/-- What is neither is ignored. -/
theorem probe_other_gives (kind : site.settings.loader.classify path = .other) :
    (site.probe path).Gives .ignored := by
  apply probe_gives
  rw [judge, kind]
  exact Run.gives_pure _

end Site

/-! ## The other half of a pair -/

namespace LoaderSettings

/-- The extensions of descriptors and modules are told apart and hold neither a dot nor a slash. -/
structure HasPlainExtensions (settings : LoaderSettings) : Prop where
  distinct : settings.descriptorExtension ≠ settings.moduleExtension
  descriptor : Path.IsPlainExtension settings.descriptorExtension.toList
  module : Path.IsPlainExtension settings.moduleExtension.toList

variable {settings : LoaderSettings} {σ : Type} {front stem : List Char}

theorem extension?_of_classify {path : String} (kind : settings.classify path ≠ .other) :
    settings.classify path = .descriptor ∧ Path.extension? path = some settings.descriptorExtension ∨
      settings.classify path = .module ∧ Path.extension? path = some settings.moduleExtension := by
  revert kind
  unfold classify
  cases Path.extension? path with
  | none => simp
  | some extension =>
    by_cases isDescriptor : extension = settings.descriptorExtension
    · simp [isDescriptor]
    · by_cases isModule : extension = settings.moduleExtension
      · subst isModule
        simp [isDescriptor]
      · simp [isDescriptor, isModule]

/-- The two extensions name the two kinds. -/
theorem classify_named (plain : settings.HasPlainExtensions) (isFront : Path.IsFront front)
    (isStem : Path.IsStem stem) :
    settings.classify (Path.named front stem settings.descriptorExtension.toList) = .descriptor ∧
      settings.classify (Path.named front stem settings.moduleExtension.toList) = .module := by
  simp [classify, Path.extension?_named isFront isStem plain.descriptor,
    Path.extension?_named isFront isStem plain.module, Ne.symm plain.distinct]

theorem counterpartExtension_named (plain : settings.HasPlainExtensions) (isFront : Path.IsFront front)
    (isStem : Path.IsStem stem) :
    settings.counterpartExtension
        (settings.classify (Path.named front stem settings.descriptorExtension.toList)) =
      some settings.moduleExtension ∧
    settings.counterpartExtension
        (settings.classify (Path.named front stem settings.moduleExtension.toList)) =
      some settings.descriptorExtension := by
  obtain ⟨isDescriptor, isModule⟩ := classify_named plain isFront isStem
  exact ⟨by rw [isDescriptor]; rfl, by rw [isModule]; rfl⟩

/-- The counterpart has the other extension after the same stem, unless the stem is a single dot. -/
theorem counterpart_named {extension : List Char} {other : String} (isFront : Path.IsFront front)
    (isStem : Path.IsStem stem) (plain : Path.IsPlainExtension extension)
    (plainOther : Path.IsPlainExtension other.toList)
    (kind : settings.counterpartExtension
      (settings.classify (Path.named front stem extension)) = some other) :
    settings.counterpart (Path.named front stem extension) =
      (pure (some (if stem = ['.'] then String.ofList (front ++ ['.', '.'])
        else Path.named front stem other.toList)) : Run σ _) := by
  have isExtension : Path.isExtension other = true := by
    simp [Path.isExtension, plainOther.noSlash]
  have nonempty : other.isEmpty = false := by
    simpa [String.isEmpty_iff] using fun same => plainOther.nonempty (by simp [same])
  simp only [counterpart, kind, Path.withExtension?, isExtension, if_true,
    Path.withExtension_named isFront isStem plain nonempty]

/-- The folder above is no candidate. -/
theorem counterpart_dots (isFront : Path.IsFront front) :
    settings.counterpart (String.ofList (front ++ ['.', '.'])) = (pure none : Run σ _) := by
  have split := Path.splitName?_append isFront (by simp : '/' ∉ ['.', '.']) (by simp) (by simp)
  simp only [counterpart, classify, Path.extension?, split, if_true]
  rfl

end LoaderSettings

/-! ## Both halves are judged alike -/

namespace Site

variable {κ : Type} {site : Site κ} {path other : String}

/-- Two paths are the halves of a pair: each leads to the other, and the host is told that the module
belongs to a descriptor that can be loaded exactly when it is told that the descriptor can be loaded. -/
structure Paired (site : Site κ) (path other : String) : Prop where
  forth : site.settings.loader.counterpart path = (pure (some other) : Run Bench _)
  back : site.settings.loader.counterpart other = (pure (some path) : Run Bench _)
  /-- Probing a half comes to an outcome, the same one whatever was bound or logged before. -/
  told : ∃ outcome, (site.probe path).Gives outcome
  matched : site.settings.loader.classify path = .descriptor → ∀ bench later,
    (site.probe path bench).1 = .ok .matched ↔ (site.probe other later).1 = .ok .related
  related : site.settings.loader.classify path = .module → ∀ bench later,
    (site.probe path bench).1 = .ok .related ↔ (site.probe other later).1 = .ok .matched

theorem matched_iff_related (isDescriptor : site.settings.loader.classify path = .descriptor)
    (isModule : site.settings.loader.classify other = .module)
    (forth : site.settings.loader.counterpart path = (pure (some other) : Run Bench _))
    (back : site.settings.loader.counterpart other = (pure (some path) : Run Bench _))
    (bench later : Bench) :
    (site.probe path bench).1 = .ok .matched ↔ (site.probe other later).1 = .ok .related := by
  rw [probe_descriptor_gives isDescriptor forth bench, probe_module_gives isModule back later]
  cases site.isDescriptor path <;> cases site.binds other <;> simp

/-- With a stem that is not a single dot, the two paths are the halves of a pair. -/
theorem paired_named (plain : site.settings.loader.HasPlainExtensions) {front stem : List Char}
    (isFront : Path.IsFront front) (isStem : Path.IsStem stem) (notDot : stem ≠ ['.']) :
    site.Paired (Path.named front stem site.settings.loader.descriptorExtension.toList)
        (Path.named front stem site.settings.loader.moduleExtension.toList) ∧
      site.Paired (Path.named front stem site.settings.loader.moduleExtension.toList)
        (Path.named front stem site.settings.loader.descriptorExtension.toList) := by
  obtain ⟨isDescriptor, isModule⟩ := LoaderSettings.classify_named plain isFront isStem
  obtain ⟨toModule, toDescriptor⟩ := LoaderSettings.counterpartExtension_named plain isFront isStem
  have forth := LoaderSettings.counterpart_named (σ := Bench) isFront isStem plain.descriptor
    plain.module toModule
  have back := LoaderSettings.counterpart_named (σ := Bench) isFront isStem plain.module
    plain.descriptor toDescriptor
  rw [if_neg notDot] at forth back
  have alike := matched_iff_related isDescriptor isModule forth back
  constructor
  · exact {
      forth := forth
      back := back
      told := ⟨_, probe_descriptor_gives isDescriptor forth⟩
      matched := fun _ => alike
      related := fun kind => by rw [isDescriptor] at kind; cases kind }
  · exact {
      forth := back
      back := forth
      told := ⟨_, probe_module_gives isModule back⟩
      matched := fun kind => by rw [isModule] at kind; cases kind
      related := fun _ bench later => (alike later bench).symm }

/-- With a single dot for a stem, no path is the other half. -/
theorem not_paired_dot {front extension : List Char} {otherExtension : String}
    (isFront : Path.IsFront front) (plain : Path.IsPlainExtension extension)
    (plainOther : Path.IsPlainExtension otherExtension.toList)
    (kind : site.settings.loader.counterpartExtension
      (site.settings.loader.classify (Path.named front ['.'] extension)) = some otherExtension) :
    ¬ site.Paired (Path.named front ['.'] extension) other := by
  intro paired
  have forth := paired.forth
  rw [LoaderSettings.counterpart_named isFront ⟨by simp, by simp⟩ plain plainOther kind,
    if_pos rfl] at forth
  have isDots := congrFun forth default
  simp only [Run.pure_apply, Prod.mk.injEq, Except.ok.injEq, Option.some.injEq, and_true] at isDots
  have back := paired.back
  rw [← isDots, LoaderSettings.counterpart_dots isFront] at back
  have nothing := congrFun back default
  simp at nothing

/-- A candidate has another half, and both are judged alike, exactly if its stem is not a single dot;
and what is no candidate is ignored. -/
theorem paired_iff (plain : site.settings.loader.HasPlainExtensions) (ends : Path.EndsInName path) :
    (site.settings.loader.classify path ≠ .other →
      ((∃ other, site.Paired path other) ↔ Path.stem? path ≠ some ".")) ∧
    (site.settings.loader.classify path = .other → (site.probe path).Gives .ignored) := by
  refine ⟨fun kind => ?_, probe_other_gives⟩
  have dot_iff : ∀ stem : List Char, some (String.ofList stem) ≠ some "." ↔ stem ≠ ['.'] := by
    intro stem
    rw [Ne, Option.some.injEq, ← String.toList_inj, String.toList_ofList]
    rfl
  rcases LoaderSettings.extension?_of_classify kind with ⟨-, extended⟩ | ⟨-, extended⟩
  · obtain ⟨front, stem, isFront, isStem, rfl⟩ := ends.eq_named extended
    have toModule := (LoaderSettings.counterpartExtension_named plain isFront isStem).1
    rw [Path.stem?_named isFront isStem plain.descriptor, dot_iff]
    constructor
    · rintro ⟨other, paired⟩ rfl
      exact not_paired_dot isFront plain.descriptor plain.module toModule paired
    · exact fun notDot => ⟨_, (paired_named plain isFront isStem notDot).1⟩
  · obtain ⟨front, stem, isFront, isStem, rfl⟩ := ends.eq_named extended
    have toDescriptor := (LoaderSettings.counterpartExtension_named plain isFront isStem).2
    rw [Path.stem?_named isFront isStem plain.module, dot_iff]
    constructor
    · rintro ⟨other, paired⟩ rfl
      exact not_paired_dot isFront plain.module plain.descriptor toDescriptor paired
    · exact fun notDot => ⟨_, (paired_named plain isFront isStem notDot).2⟩

/-- A folder with a dot in its name holds a pair with several dots in its stem. -/
def pairSite : Site Unit where
  files := (FileTree.empty.add "e.d/.a.b.plugin" (.text "[modproxy]\nname=A\n")).add "e.d/.a.b.so"
    (.text "")
  binder := .table (OrderedMap.empty.insert ".a.b" ⟨.tableNative, ()⟩)

theorem pairSite_plain : pairSite.settings.loader.HasPlainExtensions :=
  ⟨by decide, ⟨by decide, by decide, by decide⟩, ⟨by decide, by decide, by decide⟩⟩

theorem pairSite_paired :
    Path.EndsInName "e.d/.a.b.plugin" ∧ (pairSite.probe "e.d/.a.b.plugin" {}).1 = .ok .matched ∧
      ∃ other, pairSite.Paired "e.d/.a.b.plugin" other := by
  have ends : Path.EndsInName "e.d/.a.b.plugin" := ⟨"e.d/".toList, ".a.b.plugin".toList, rfl, rfl⟩
  have kind : pairSite.settings.loader.classify "e.d/.a.b.plugin" ≠ .other := by decide
  exact ⟨ends, rfl, ((paired_iff pairSite_plain ends).1 kind).mpr (by decide)⟩

/-- A descriptor whose stem is a single dot: its counterpart is the folder above, which has none. -/
theorem dot_not_paired :
    Path.EndsInName "..plugin" ∧ pairSite.settings.loader.classify "..plugin" = .descriptor ∧
      pairSite.settings.loader.counterpart "..plugin" = (pure (some "..") : Run Bench _) ∧
      pairSite.settings.loader.counterpart ".." = (pure none : Run Bench _) ∧
      ¬ ∃ other, pairSite.Paired "..plugin" other := by
  have isFront : Path.IsFront [] := by simp [Path.IsFront]
  refine ⟨⟨[], "..plugin".toList, rfl, rfl⟩, rfl, rfl, rfl, ?_⟩
  rintro ⟨other, paired⟩
  exact not_paired_dot isFront pairSite_plain.descriptor pairSite_plain.module rfl paired

end Site

end ExtensionProxy
