import ExtensionProxy.Run

/-!
# Foreign code

Sub-extensions, observers, deferred tasks and the host's own callbacks are foreign code: they are
called, they make requests, and a request may call foreign code again.  A `Program` is one run of
such code, a tree of requests in which every answer decides how it goes on; code is free to look at
the whole state in between.  An `Interface` says what may be requested and which calls there are.

`Interface.call` closes the circle.  Requests are carried out by a service that is given the means
to call foreign code, and every nested call uses up one level of the stack; where none is left the
run stops as `tooDeep`.  Laws about all foreign code are proved once, by induction on the levels
and on the program.
-/

set_option autoImplicit false

namespace ExtensionProxy

/-- What foreign code works on, may request, and is called for. -/
structure Interface where
  /-- The state that everything works on. -/
  State : Type
  /-- What foreign code may request. -/
  Request : Type
  Answer : Request → Type
  /-- The calls of foreign code. -/
  Call : Type
  /-- What a call returns. -/
  Reply : Call → Type

/-- One run of foreign code. -/
inductive Program (I : Interface) (α : Type) : Type where
  /-- It returns. -/
  | done (value : α)
  /-- It makes a request and goes on with the answer. -/
  | ask (request : I.Request) (next : I.Answer request → Program I α)
  /-- It looks at the state and goes on. -/
  | look (next : I.State → Program I α)
  | panic (message : Option String)

namespace Program

variable {I : Interface} {α β : Type}

/-- Goes on with the value of a program. -/
def bind (program : Program I α) (next : α → Program I β) : Program I β :=
  match program with
  | .done value => next value
  | .ask request rest => .ask request fun answer => (rest answer).bind next
  | .look rest => .look fun s => (rest s).bind next
  | .panic message => .panic message

instance : Monad (Program I) where
  pure := .done
  bind := Program.bind

/-- A single request. -/
def request (request : I.Request) : Program I (I.Answer request) := .ask request .done

/-- A view of the state. -/
def view (f : I.State → α) : Program I α := .look fun s => .done (f s)

/-- Carries a program out, each of its requests by the given means. -/
def run (perform : (request : I.Request) → Run I.State (I.Answer request)) :
    Program I α → Run I.State α
  | .done value => pure value
  | .ask request next => do
    let answer ← perform request
    (next answer).run perform
  | .look next => do
    let s ← Run.get
    (next s).run perform
  | .panic message => Run.panic message

end Program

/-- The levels of a free stack.  Code that nests deeper than this has run away. -/
def stackLevels : Nat := 4096

namespace Interface

/-- The means to call foreign code. -/
abbrev Caller (I : Interface) := (call : I.Call) → Run I.State (I.Reply call)

/-- Carries out requests, given the means to call foreign code. -/
abbrev Service (I : Interface) :=
  I.Caller → (request : I.Request) → Run I.State (I.Answer request)

/-- Foreign code: the program of every call. -/
abbrev Foreign (I : Interface) := (call : I.Call) → Program I (I.Reply call)

/-- Calls foreign code on a stack with the given number of free levels. -/
def call (I : Interface) (service : I.Service) (foreign : I.Foreign) : Nat → I.Caller
  | 0, _ => Run.stop .tooDeep
  | levels + 1, call => (foreign call).run (service (I.call service foreign levels))

/-- Carries out a program at the top of the stack. -/
def runTop (I : Interface) {α : Type} (service : I.Service) (foreign : I.Foreign) (levels : Nat)
    (program : Program I α) : Run I.State α :=
  program.run (service (I.call service foreign levels))

/-- Lets one program after the other run at the top of the stack, whatever becomes of each. -/
def live (I : Interface) (service : I.Service) (foreign : I.Foreign) (levels : Nat) :
    List (Program I Unit) → I.State → I.State
  | [], s => s
  | program :: rest, s =>
    live I service foreign levels rest (I.runTop service foreign levels program s).2

end Interface

end ExtensionProxy
