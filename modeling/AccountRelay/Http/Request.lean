import AccountRelay.Dialogue
import AccountRelay.Failure
import AccountRelay.Json.Reader

/-! # Requests over HTTP

A JSON value is posted to an endpoint, and the endpoint replies or is not reached.
-/

namespace AccountRelay

/-- A value posted to an endpoint. -/
structure HttpRequest where
  url : String
  body : Json.Value

/-- What an endpoint replies. -/
structure HttpReply where
  status : Nat
  body : Bytes
deriving DecidableEq

/-- The requests over HTTP. -/
abbrev Http : Interface := ⟨HttpRequest, fun _ => Except String HttpReply⟩

/-- A computation that asks endpoints. -/
abbrev HttpWork := Dialogue Http Failure

namespace Http

/-- Posts a value and goes on with the reply, unless the endpoint is not reached. -/
def post (url : String) (body : Json.Value) : HttpWork HttpReply :=
  .ask (I := Http) ⟨url, body⟩ fun answer =>
    .ofExcept (answer.mapError fun text => .within (.post url) (.external .http text))

end Http

/-- The document in a reply. -/
def HttpReply.document (reply : HttpReply) : Except Failure Json.Value :=
  match ((Bytes.text? reply.body).bind (Json.read ·.toList)).bind Json.Value.ofNode? with
  | some document => .ok document
  | none => .error (.within .decodeReply (.external .http "document not accepted"))

end AccountRelay
