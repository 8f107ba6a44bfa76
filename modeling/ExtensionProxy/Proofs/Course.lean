import ExtensionProxy.Program

/-!
# Courses

A course lists what has happened, the first moment first.  It is lawful if every moment follows from
what was before it; what follows from what is said once for every kind of world.
-/

set_option autoImplicit false

namespace ExtensionProxy.Course

variable {ν : Type} {Follows : List ν → ν → Prop} {course past : List ν} {moment : ν}

/-- Every moment follows from what was before it. -/
inductive Lawful (Follows : List ν → ν → Prop) : List ν → Prop
  /-- Nothing has happened. -/
  | nil : Lawful Follows []
  /-- One more moment. -/
  | concat {past : List ν} {moment : ν} (lawful : Lawful Follows past)
      (follows : Follows past moment) : Lawful Follows (past ++ [moment])

namespace Lawful

/-- What is lawful was so all along. -/
theorem of_prefix (lawful : Lawful Follows course) (earlier : past <+: course) :
    Lawful Follows past := by
  induction lawful with
  | nil => exact List.prefix_nil.mp earlier ▸ .nil
  | concat lawful follows ih =>
    rcases List.prefix_concat_iff.mp earlier with rfl | earlier
    · exact .concat lawful follows
    · exact ih earlier

/-- Every moment of a lawful course follows from what was before it. -/
theorem follows (lawful : Lawful Follows course) (earlier : past ++ [moment] <+: course) :
    Follows past moment := by
  generalize same : past ++ [moment] = whole at earlier
  cases lawful.of_prefix earlier with
  | nil => simp at same
  | concat lawful follows =>
    obtain ⟨rfl, equal⟩ := List.append_inj' same rfl
    cases equal
    exact follows

end Lawful

end ExtensionProxy.Course
