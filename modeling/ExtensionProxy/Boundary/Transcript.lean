import ExtensionProxy.Boundary.Steps
import ExtensionProxy.Session.Transcript

/-!
# Transcripts of a host's runs

What is told of the steps of a host.  How many bindings are held is not known to a host.
-/

set_option autoImplicit false

namespace ExtensionProxy.Boundary

/-- A text of the proxy's as it is told. -/
def Bytes.json (bytes : Bytes) : Json := Bytes.readOr (some bytes)

instance : ToJson Returned where
  toJson
    | .nothing => .null
    | .truth value => value
    | .number value => value
    | .info value => .object (("name", value.name.json) ::
        ("description", value.description.json) :: ("version", value.version.json) ::
        ("author", value.author.json) :: value.offer.members)

instance : ToJson HostReply where
  toJson
    | .returned value => value
    | .links uris => uris
    | .current doc => doc

/-- What is told when the process ends: what was logged last, if anything was and the log is shown,
and that it ended. -/
def lastWords (logShown : Bool) (last : Option LogEvent) : List Json :=
  let ended : Json := .object [("abort", true)]
  match logShown, last with
  | true, some event => [.object [("fatal", event.render)], ended]
  | _, _ => [ended]

/-- What is told of a step. -/
def HostStep.json (level : Option Level) : HostStep → List Json
  | .went reply log state =>
    let seen : List (String × Json) :=
      match state with
      | some view => [("s", view.json false)]
      | none => []
    [.object (("r", reply) :: (seen ++ logMember level log))]
  | .ended last => lastWords level.isSome last

end ExtensionProxy.Boundary
