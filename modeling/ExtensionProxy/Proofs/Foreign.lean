import ExtensionProxy.Program

/-!
# Laws of all foreign code

A relation between the states before and after is kept by all foreign code if it is reflexive and
transitive and every request keeps it, given that the calls which the request makes do.  This is
proved here once, by induction on the levels of the stack and on the program; a law of an interface
is then proved request by request.  If foreign code makes requests of one kind only, requests of other
kinds need not keep the relation.
-/

set_option autoImplicit false

namespace ExtensionProxy

variable {I : Interface} {α : Type} {R : I.State → I.State → Prop}

/-- Every request that a program may make is of a kind. -/
def Program.Makes (kind : I.Request → Prop) : Program I α → Prop
  | .done _ => True
  | .panic _ => True
  | .look next => ∀ s, (next s).Makes kind
  | .ask request next => kind request ∧ ∀ answer, (next answer).Makes kind

theorem Program.makes_all (program : Program I α) : program.Makes fun _ => True := by
  induction program with
  | done value => trivial
  | panic message => trivial
  | look next ih => exact ih
  | ask request next ih => exact ⟨trivial, ih⟩

/-- A program keeps what the requests keep of the kind that it makes. -/
theorem Program.run_keeps_of (refl : ∀ s, R s s) (trans : ∀ {s t u}, R s t → R t u → R s u)
    {kind : I.Request → Prop} {perform : (request : I.Request) → Run I.State (I.Answer request)}
    (keeps : ∀ request, kind request → ∀ s, R s (perform request s).2) {program : Program I α}
    (makes : program.Makes kind) (s : I.State) : R s (program.run perform s).2 := by
  induction program generalizing s with
  | done value => exact refl s
  | panic message => exact refl s
  | look next ih => exact ih s (makes s) s
  | ask request next ih =>
    have first := keeps request makes.1 s
    exact Run.bind_snd (R s) first fun answer reached _ now =>
      trans now (ih answer (makes.2 answer) reached)

/-- A program keeps what its requests keep. -/
theorem Program.run_keeps (refl : ∀ s, R s s) (trans : ∀ {s t u}, R s t → R t u → R s u)
    {perform : (request : I.Request) → Run I.State (I.Answer request)}
    (keeps : ∀ request s, R s (perform request s).2) (program : Program I α) (s : I.State) :
    R s (program.run perform s).2 :=
  run_keeps_of refl trans (fun request _ => keeps request) program.makes_all s

namespace Interface

variable {service : I.Service}

/-- Foreign code keeps what every request of the kind that it makes keeps whose calls keep it. -/
theorem call_keeps_of (refl : ∀ s, R s s) (trans : ∀ {s t u}, R s t → R t u → R s u)
    {kind : I.Request → Prop}
    (keeps : ∀ caller : I.Caller, (∀ call s, R s (caller call s).2) →
      ∀ request, kind request → ∀ s, R s (service caller request s).2)
    {foreign : I.Foreign} (makes : ∀ call, (foreign call).Makes kind) (levels : Nat) (call : I.Call)
    (s : I.State) : R s (I.call service foreign levels call s).2 := by
  induction levels generalizing call s with
  | zero => exact refl s
  | succ levels ih => exact Program.run_keeps_of refl trans (keeps _ ih) (makes call) s

/-- Foreign code keeps what every request keeps whose calls keep it. -/
theorem call_keeps (refl : ∀ s, R s s) (trans : ∀ {s t u}, R s t → R t u → R s u)
    (keeps : ∀ caller : I.Caller, (∀ call s, R s (caller call s).2) →
      ∀ request s, R s (service caller request s).2)
    (foreign : I.Foreign) (levels : Nat) (call : I.Call) (s : I.State) :
    R s (I.call service foreign levels call s).2 :=
  call_keeps_of refl trans (fun caller calls request _ => keeps caller calls request)
    (fun call => (foreign call).makes_all) levels call s

/-- So does whatever a host lets run. -/
theorem live_keeps (I : Interface) {service : I.Service} {R : I.State → I.State → Prop}
    (refl : ∀ s, R s s) (trans : ∀ {s t u}, R s t → R t u → R s u)
    (keeps : ∀ caller : I.Caller, (∀ call s, R s (caller call s).2) →
      ∀ request s, R s (service caller request s).2)
    (foreign : I.Foreign) (levels : Nat) (programs : List (Program I Unit)) (s : I.State) :
    R s (I.live service foreign levels programs s) := by
  induction programs generalizing s with
  | nil => exact refl s
  | cons program rest ih =>
    have calls := call_keeps refl trans keeps foreign levels
    exact trans (Program.run_keeps refl trans (keeps _ calls) program s) (ih _)

end Interface

end ExtensionProxy
