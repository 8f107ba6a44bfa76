import ExtensionProxy.Path
import ExtensionProxy.Proofs.Text

/-!
# Names and extensions of paths

A path that ends in its name is what stands before the name, and the name; a name with an extension is
a stem that is not empty, a dot, and the extension, which holds no dot.  `named` puts these parts
together, and every path with an extension that ends in its name is put together like this.

Another extension takes the place of the old one.  There is one exception: the old extension goes first,
and where the stem is a single dot the name that is left is `..`, which is no name.
-/

set_option autoImplicit false

namespace ExtensionProxy.Path

/-- What may stand before a name: nothing, or something that ends in a slash. -/
def IsFront (front : List Char) : Prop := ∀ c ∈ front.getLast?, c = '/'

/-- What a name can be: it is not empty, holds no slash, and is neither `.` nor `..`. -/
structure IsName (name : List Char) : Prop where
  nonempty : name ≠ []
  noSlash : '/' ∉ name
  notDot : name ≠ ['.']
  notDots : name ≠ ['.', '.']

/-! ## Splitting off the name -/

theorem dropTail_eq_self {reversed : List Char} (noSlash : '/' ∉ reversed) (nonempty : reversed ≠ [])
    (notDot : reversed ≠ ['.']) (front : List Char) :
    dropTail (reversed ++ front) = reversed ++ front := by
  unfold dropTail
  split
  · rename_i rest whole
    cases reversed with
    | nil => exact absurd rfl nonempty
    | cons c reversed =>
      rw [List.cons_append, List.cons.injEq] at whole
      exact absurd (whole.1 ▸ List.mem_cons_self) noSlash
  · rename_i rest whole
    rcases reversed with _ | ⟨c, _ | ⟨d, reversed⟩⟩
    · exact absurd rfl nonempty
    · rw [List.cons_append, List.cons.injEq] at whole
      exact absurd (congrArg (fun d => [d]) whole.1) notDot
    · rw [List.cons_append, List.cons_append, List.cons.injEq, List.cons.injEq] at whole
      exact absurd (whole.2.1 ▸ List.mem_cons_of_mem c List.mem_cons_self) noSlash
  · rfl

theorem IsFront.reverse_eq {front : List Char} (isFront : IsFront front) :
    front.reverse = [] ∨ ∃ rest, front.reverse = '/' :: rest := by
  rcases front.eq_nil_or_concat' with rfl | ⟨rest, c, rfl⟩
  · exact .inl rfl
  · have isSlash : c = '/' := isFront c (by simp)
    exact .inr ⟨rest.reverse, by simp [isSlash]⟩

theorem notSlash_of_notMem {name : List Char} (noSlash : '/' ∉ name) :
    ∀ c ∈ name.reverse, (decide (c ≠ '/')) = true := by
  intro c mem
  rw [decide_eq_true_eq]
  rintro rfl
  exact noSlash (List.mem_reverse.mp mem)

theorem takeWhile_notSlash {front name : List Char} (isFront : IsFront front) (noSlash : '/' ∉ name) :
    (name.reverse ++ front.reverse).takeWhile (· ≠ '/') = name.reverse := by
  rw [List.takeWhile_append_of_pos (notSlash_of_notMem noSlash)]
  rcases isFront.reverse_eq with nothing | ⟨rest, more⟩
  · simp [nothing]
  · simp [more]

theorem dropWhile_notSlash {front name : List Char} (isFront : IsFront front) (noSlash : '/' ∉ name) :
    (name.reverse ++ front.reverse).dropWhile (· ≠ '/') = front.reverse := by
  rw [List.dropWhile_append_of_pos (notSlash_of_notMem noSlash)]
  rcases isFront.reverse_eq with nothing | ⟨rest, more⟩
  · simp [nothing]
  · simp [more]

/-- The last part of a path is split off; if it is `..` it is no name. -/
theorem splitName?_append {front name : List Char} (isFront : IsFront front) (noSlash : '/' ∉ name)
    (nonempty : name ≠ []) (notDot : name ≠ ['.']) :
    splitName? (String.ofList (front ++ name)) =
      if name = ['.', '.'] then none else some (front, name) := by
  have kept : dropTail (name.reverse ++ front.reverse) = name.reverse ++ front.reverse :=
    dropTail_eq_self (by rwa [List.mem_reverse]) (by rwa [Ne, List.reverse_eq_nil_iff])
      (fun same => notDot (by simpa using congrArg List.reverse same)) _
  simp only [splitName?, String.toList_ofList, List.reverse_append, kept,
    takeWhile_notSlash isFront noSlash, dropWhile_notSlash isFront noSlash, List.reverse_reverse]
  simp [nonempty, notDot]

/-- What is split off is a name, and what is before it may stand before a name. -/
theorem splitName?_eq_some {path : String} {front name : List Char}
    (split : splitName? path = some (front, name)) : IsFront front ∧ IsName name := by
  unfold splitName? at split
  simp only at split
  split at split
  · cases split
  · rename_i isName
    cases split
    simp only [Bool.or_eq_true, List.isEmpty_iff, beq_iff_eq, not_or] at isName
    refine ⟨?_, isName.1.1, ?_, isName.1.2, isName.2⟩
    · intro c last
      rw [List.getLast?_reverse] at last
      have notPassed := List.head?_dropWhile_not (· ≠ '/') (dropTail path.toList.reverse)
      rw [Option.mem_def.mp last] at notPassed
      simpa using notPassed
    · intro mem
      have passed := List.mem_takeWhile_imp (List.mem_reverse.mp mem)
      simp at passed

/-! ## Cutting off the extension -/

theorem cutExtension_append {stem extension : List Char} (nonempty : stem ≠ [])
    (noDot : '.' ∉ extension) : cutExtension (stem ++ '.' :: extension) = (stem, some extension) := by
  have reversed : (stem ++ '.' :: extension).reverse = extension.reverse ++ '.' :: stem.reverse := by
    simp
  rw [cutExtension, reversed, splitFirst_append (by rwa [List.mem_reverse])]
  simp [nonempty]

theorem cutExtension_eq_some {name stem extension : List Char}
    (cut : cutExtension name = (stem, some extension)) :
    name = stem ++ '.' :: extension ∧ stem ≠ [] ∧ '.' ∉ extension := by
  unfold cutExtension at cut
  split at cut
  · rename_i after before found
    split at cut
    · cases cut
    · rename_i nonempty
      cases cut
      obtain ⟨reversed, absent⟩ := eq_append_of_splitFirst found
      refine ⟨?_, by simpa using nonempty, by simpa using absent⟩
      simpa using congrArg List.reverse reversed
  · cases cut

/-- What is cut off from a name does not divide parts. -/
theorem isExtension_of_extension? {path extension : String} (found : extension? path = some extension) :
    isExtension extension = true := by
  rw [extension?] at found
  obtain ⟨⟨front, name⟩, split, named⟩ := Option.bind_eq_some_iff.mp found
  obtain ⟨chars, cut, rfl⟩ := Option.map_eq_some_iff.mp named
  obtain ⟨whole, -⟩ := cutExtension_eq_some (Prod.ext rfl cut : cutExtension name = (_, some chars))
  have noSlash : '/' ∉ chars := fun mem => (splitName?_eq_some split).2.noSlash (by
    rw [whole]
    exact List.mem_append_right _ (List.mem_cons_of_mem _ mem))
  simp [isExtension, noSlash]

/-! ## Paths with an extension -/

/-- What may stand before the dot of an extension. -/
structure IsStem (stem : List Char) : Prop where
  nonempty : stem ≠ []
  noSlash : '/' ∉ stem

/-- What may stand after the dot, with nothing else taken for the extension. -/
structure IsPlainExtension (extension : List Char) : Prop where
  nonempty : extension ≠ []
  noDot : '.' ∉ extension
  noSlash : '/' ∉ extension

/-- The path of a name with an extension. -/
def named (front stem extension : List Char) : String :=
  String.ofList (front ++ (stem ++ '.' :: extension))

/-- The path ends in its name: no slash and no part `.` follows the name. -/
def EndsInName (path : String) : Prop :=
  ∃ front name, splitName? path = some (front, name) ∧ path.toList = front ++ name

variable {front stem extension : List Char}

theorem isName_named (isStem : IsStem stem) (plain : IsPlainExtension extension) :
    IsName (stem ++ '.' :: extension) where
  nonempty := by simp
  noSlash := by simp [isStem.noSlash, plain.noSlash]
  notDot := by
    rcases stem with _ | ⟨c, rest⟩
    · exact absurd rfl isStem.nonempty
    · simp
  notDots := by
    rcases stem with _ | ⟨c, _ | ⟨d, rest⟩⟩
    · exact absurd rfl isStem.nonempty
    · simp [plain.nonempty]
    · simp

theorem splitName?_named (isFront : IsFront front) (isStem : IsStem stem)
    (plain : IsPlainExtension extension) :
    splitName? (named front stem extension) = some (front, stem ++ '.' :: extension) := by
  have isName := isName_named isStem plain
  rw [named, splitName?_append isFront isName.noSlash isName.nonempty isName.notDot,
    if_neg isName.notDots]

theorem extension?_named (isFront : IsFront front) (isStem : IsStem stem)
    (plain : IsPlainExtension extension) :
    extension? (named front stem extension) = some (String.ofList extension) := by
  simp [extension?, splitName?_named isFront isStem plain,
    cutExtension_append isStem.nonempty plain.noDot]

theorem stem?_named (isFront : IsFront front) (isStem : IsStem stem)
    (plain : IsPlainExtension extension) :
    stem? (named front stem extension) = some (String.ofList stem) := by
  simp [stem?, splitName?_named isFront isStem plain,
    cutExtension_append isStem.nonempty plain.noDot]

/-- A path that ends in its name, with an extension, is put together from its parts. -/
theorem EndsInName.eq_named {path extension : String} (ends : EndsInName path)
    (extended : extension? path = some extension) :
    ∃ front stem, IsFront front ∧ IsStem stem ∧ path = named front stem extension.toList := by
  obtain ⟨front, name, split, whole⟩ := ends
  obtain ⟨isFront, isName⟩ := splitName?_eq_some split
  simp only [extension?, split, Option.bind_some, Option.map_eq_some_iff] at extended
  obtain ⟨cut, cut_eq, rfl⟩ := extended
  obtain ⟨name_eq, nonempty, -⟩ := cutExtension_eq_some (Prod.ext rfl cut_eq)
  refine ⟨front, _, isFront, ⟨nonempty, ?_⟩, ?_⟩
  · exact fun mem => isName.noSlash (name_eq ▸ List.mem_append_left _ mem)
  · rw [named, String.toList_ofList, ← name_eq, ← whole, String.ofList_toList]

/-! ## Another extension -/

theorem dropExtension_named (isFront : IsFront front) (isStem : IsStem stem)
    (plain : IsPlainExtension extension) :
    dropExtension (named front stem extension) = String.ofList (front ++ (stem ++ ['.'])) := by
  have whole : front ++ (stem ++ '.' :: extension) = (front ++ (stem ++ ['.'])) ++ extension := by simp
  have kept : (named front stem extension).length - (String.ofList extension).length =
      (front ++ (stem ++ ['.'])).length := by
    rw [named, whole, String.length_ofList, String.length_ofList, List.length_append,
      Nat.add_sub_cancel]
  simp only [dropExtension, extension?_named isFront isStem plain, kept]
  rw [named, whole, String.toList_ofList, List.take_left]

/-- The new extension takes the place of the old one, unless the stem is a single dot: the path that is
left then ends in `..`, and stays like that. -/
theorem withExtension_named (isFront : IsFront front) (isStem : IsStem stem)
    (plain : IsPlainExtension extension) {other : String} (nonempty : other.isEmpty = false) :
    withExtension (named front stem extension) other =
      if stem = ['.'] then String.ofList (front ++ ['.', '.'])
      else named front stem other.toList := by
  have left : stem ++ ['.'] ≠ ['.'] := by simp [isStem.nonempty]
  have noSlash : '/' ∉ stem ++ ['.'] := by simp [isStem.noSlash]
  have split := splitName?_append isFront noSlash (by simp) left
  have dots : stem ++ ['.'] = ['.', '.'] ↔ stem = ['.'] := by
    rw [show ['.', '.'] = ['.'] ++ ['.'] from rfl, List.append_left_inj]
  simp only [withExtension, dropExtension_named isFront isStem plain, setExtension, split, dots]
  by_cases dot : stem = ['.']
  · simp [dot]
  · have cut := cutExtension_append isStem.nonempty (List.not_mem_nil : '.' ∉ [])
    simp [dot, cut, nonempty, named]

end ExtensionProxy.Path
