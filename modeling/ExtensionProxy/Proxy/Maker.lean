import ExtensionProxy.Proxy.Service

/-!
# Wrappers from makers

The host can reach the cache of documents itself and hand it a maker, which runs if there is no
wrapper of the document yet.  A maker is foreign code like any other: it may request whatever the host
may, use the same cache, and be stopped.  What it builds is registered afterwards unless the document
was registered meanwhile; then it was built in vain.
-/

set_option autoImplicit false

namespace ExtensionProxy

variable {κ μ : Type}

/-- What foreign code may request that also brings makers. -/
inductive MakerRequest (κ μ : Type) where
  /-- What all foreign code may request. -/
  | plain (request : Request κ μ)
  /-- The wrapper of a document, built after the maker has run if there is none. -/
  | addWith (handle : DocumentHandle) (maker : κ)

/-- What a request is answered with. -/
@[reducible] def MakerRequest.Answer {κ μ : Type} : MakerRequest κ μ → Type
  | .plain request => request.Answer
  | .addWith _ _ => DocumentId

/-- The calls of foreign code if there are makers. -/
inductive MakerCall (κ : Type) where
  /-- A call of all foreign code. -/
  | plain (call : Call κ)
  /-- A maker is to prepare the wrapper of a document. -/
  | make (handle : DocumentHandle) (maker : κ)

/-- What a call returns. -/
@[reducible] def MakerCall.Reply {κ : Type} : MakerCall κ → Type
  | .plain call => call.Reply
  | .make _ _ => Unit

/-- A proxy and the foreign code around it, makers included. -/
abbrev makerInterface (κ μ : Type) : Interface where
  State := State κ μ
  Request := MakerRequest κ μ
  Answer := MakerRequest.Answer
  Call := MakerCall κ
  Reply := MakerCall.Reply

/-- The means to call foreign code other than makers. -/
def Caller.ofMakers (call : (makerInterface κ μ).Caller) : Caller κ μ := fun plain =>
  call (.plain plain)

/-- Runs a maker and builds the wrapper of a document. -/
def buildDocument (make : Run (State κ μ) Unit) (handle : DocumentHandle) :
    Run (State κ μ) DocumentId := do
  make
  let s ← Run.get
  Run.modify fun s => { s with documentWrappers := s.documentWrappers ++ [handle] }
  pure ⟨s.documentWrappers.length⟩

/-- Carries out a request, makers included. -/
def serveMakers (site : Site κ) : (makerInterface κ μ).Service := fun call request =>
  match request with
  | .plain request => serve site (Caller.ofMakers call) request
  | .addWith handle maker =>
    IdentityCache.addWith State.documentsLens handle
      (buildDocument (call (.make handle maker)) handle)

end ExtensionProxy
