import ExtensionProxy.Proofs.Conduct.Service
import ExtensionProxy.Proofs.Marks

/-!
# What a proxy reaches

A host makes a proxy and lets one program after the other run at the top of the stack.  Whatever the
programs are and whatever foreign code they call, the ledger of the proxy takes a path of steps from
the empty ledger, and between two programs nothing is going on.  If no program was stopped, every
dispatch and every drain came to its end.
-/

set_option autoImplicit false

namespace ExtensionProxy

variable {κ μ : Type}

/-- The states that a proxy reaches between the programs of its host; in a calm life no program is
stopped. -/
inductive Reached (site : Site κ) (foreign : (proxyInterface κ μ).Foreign) (levels : Nat)
    (calm : Bool) : State κ μ → Prop
  /-- A proxy is made. -/
  | create (host : HostView) (memory : μ) :
      Reached site foreign levels calm (State.create site host memory)
  /-- A program runs at the top of the stack. -/
  | run {α : Type} {s : State κ μ} (before : Reached site foreign levels calm s)
      (program : Program (proxyInterface κ μ) α)
      (fine : calm = true → ((proxyInterface κ μ).runTop (serve site) foreign levels program
        s).1.isOk = true) :
      Reached site foreign levels calm
        ((proxyInterface κ μ).runTop (serve site) foreign levels program s).2

/-- The ledger before anything happens. -/
def Ledger.empty : Ledger κ := ⟨{}, [], 0, [], [], 0, {}⟩

theorem Ledger.empty_sound : (Ledger.empty : Ledger κ).Sound := by
  refine ⟨⟨fun _ _ => rfl, nofun, nofun⟩, ⟨nofun, nofun, nofun, fun target binding owned => ?_,
    nofun, .nil⟩, fun _ _ => rfl, ⟨.nil, nofun⟩⟩
  simp [Ledger.empty, Ledger.owned?, Context.instance?] at owned

theorem Ledger.empty_marked : (Ledger.empty : Ledger κ).Marked :=
  ⟨.nil, fun target => by
    simp [callbacks, stack, empty, History.stack, Context.isRunning, Context.instance?]⟩

/-- Since the beginning everything was added by some step. -/
theorem Path.added {c : Ledger κ} (path : Path Ledger.empty c) {moment : Moment κ} {past : History κ}
    (there : moment :: past <:+ c.history) :
    ∃ before after, Path Ledger.empty before ∧ Step before after ∧ Path after c ∧
      History.Adds before.history after.history moment past := by
  rcases path.adds there with none | added
  · cases List.suffix_nil.mp none
  · exact added

/-- A new proxy has wrapped the open workspace, if there was one. -/
theorem State.create_ledger (site : Site κ) (host : HostView) (memory : μ) :
    (State.create site host memory).ledger = Ledger.empty ∨
      (State.create site host memory).ledger = Ledger.empty.openWorkspace := by
  simp only [State.create, begin, Run.tell_bind_apply, Run.get_bind_apply]
  cases opened : (State.tell _ { host := host, memory := memory } : State κ μ).host.workspace with
  | none => exact .inl rfl
  | some pair => exact .inr rfl

/-- What is true of every reached ledger. -/
structure Ledger.IsReached (calm : Bool) (c : Ledger κ) : Prop where
  /-- It is at the end of a path. -/
  path : Path Ledger.empty c
  /-- Nothing is going on. -/
  quiet : c.stack = []
  /-- In a calm life every dispatch came to its end. -/
  settled : calm = true → ∀ number < c.context.dispatches, c.history.outcome? number ≠ none
  /-- In a calm life no drain was stopped. -/
  unbroken : calm = true → c.history.about .breaks = []

theorem Ledger.IsReached.sound {calm : Bool} {c : Ledger κ} (h : c.IsReached calm) : c.Sound :=
  h.path.sound Ledger.empty_sound

theorem Reached.ledger {site : Site κ} {foreign : (proxyInterface κ μ).Foreign} {levels : Nat}
    {calm : Bool} {s : State κ μ} (reached : Reached site foreign levels calm s) :
    s.ledger.IsReached calm := by
  induction reached with
  | create host memory =>
    rcases State.create_ledger site host memory with ledger | ledger
    all_goals rw [ledger]
    · exact ⟨.refl, rfl, fun _ number below => absurd below (Nat.not_lt_zero number), fun _ => rfl⟩
    · exact ⟨.single (.openWorkspace _), rfl,
        fun _ number below => absurd below (Nat.not_lt_zero number), fun _ => rfl⟩
  | @run α s before program fine ih =>
    obtain ⟨exec, stack⟩ := runTop_lawful site foreign levels program ih.sound
    refine ⟨ih.path.trans exec.path, stack.trans ih.quiet, fun calm number below => ?_,
      fun calm => ?_⟩
    · by_cases old : number < s.ledger.context.dispatches
      · rw [History.outcome?, exec.tells.apart number old (by simp)]
        exact ih.settled calm number old
      · exact exec.tells.settled (fine calm) number (Nat.le_of_not_lt old) below
    · exact (exec.tells.unbroken (fine calm)).trans (ih.unbroken calm)

/-! ## A small life

Foreign code in which every piece of code stands for a program, for lives that are carried out. -/

namespace Sample

/-- A request. -/
def ask (request : Request κ Unit) : Program (proxyInterface κ Unit) request.Answer :=
  .request (I := proxyInterface κ Unit) request

/-- A folder with one sub-extension: its descriptor, and a library that exports its factory. -/
def site (factory : κ) : Site κ where
  files := { nodes := ⟨[(["e"], .folder), (["e", "a.plugin"], .text "[modproxy]\nname=A\n"),
    (["e", "a.so"], .library [(factorySymbolName, factory)])]⟩ }

/-- A factory makes an instance of its own code; notices, tasks, handlers and help run the program of
their code. -/
def foreign (program : κ → Program (proxyInterface κ Unit) Unit) :
    (proxyInterface κ Unit).Foreign := fun call =>
  match call with
  | .create _ code _ => .done (some code)
  | .notify _ code _ _ => program code
  | .configure _ _ _ => .done none
  | .help _ code => do
    program code
    pure true
  | .dropped _ _ => .done ()
  | .observe _ slot _ => do
    program slot.code
    pure false
  | .task code => program code
  | .openUri _ => .done ()

/-- What a new proxy reaches by one program at the top of a small stack. -/
def after (factory : κ) (program : κ → Program (proxyInterface κ Unit) Unit)
    (main : Program (proxyInterface κ Unit) Unit) : State κ Unit :=
  ((proxyInterface κ Unit).runTop (serve (site factory)) (foreign program) 8 main
    (State.create (site factory) { configDir := "cfg" } ())).2

theorem reached (factory : κ) (program : κ → Program (proxyInterface κ Unit) Unit)
    (main : Program (proxyInterface κ Unit) Unit) :
    Reached (site factory) (foreign program) 8 false (after factory program main) :=
  .run (.create _ _) main nofun

end Sample

end ExtensionProxy
